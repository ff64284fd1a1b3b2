import Mathlib.Tactic

/-! Chunked files: identifiers, thirty-two bit sizes, and payloads padded to even lengths. -/

namespace C64Stream

section Words

/-- A number as four bytes, the lowest one first. -/
def le32 (n : UInt32) : List UInt8 :=
  [n.toUInt8, (n >>> 8).toUInt8, (n >>> 16).toUInt8, (n >>> 24).toUInt8]

/-- A number as two bytes, the lower one first. -/
def le16 (n : UInt16) : List UInt8 :=
  [n.toUInt8, (n >>> 8).toUInt8]

/-- The number that the first four bytes stand for. -/
def read32 (bytes : List UInt8) : Nat :=
  match bytes with
  | a :: b :: c :: d :: _ => a.toNat + 256 * b.toNat + 65536 * c.toNat + 16777216 * d.toNat
  | _ => 0

@[simp] theorem le32_length (n : UInt32) : (le32 n).length = 4 := rfl

@[simp] theorem le16_length (n : UInt16) : (le16 n).length = 2 := rfl

/-- A written number is read back, whatever follows it. -/
@[simp] theorem read32_le32 (n : UInt32) (rest : List UInt8) :
    read32 (le32 n ++ rest) = n.toNat := by
  -- The four bytes are the digits of the number in base 256.
  have bound := n.toNat_lt
  simp only [read32, le32, List.cons_append, List.nil_append, UInt32.toNat_toUInt8,
    UInt32.toNat_shiftRight, UInt32.reduceToNat, Nat.shiftRight_eq_div_pow, Nat.reduceMod,
    Nat.reducePow]
  omega

end Words

section Chunks

/-- A chunk: four bytes of identifier, and a payload. -/
structure Chunk where
  id : List UInt8
  payload : List UInt8
  deriving DecidableEq

/-- A payload of odd length is followed by one byte more. -/
def padding (payload : List UInt8) : List UInt8 :=
  if payload.length % 2 = 1 then [0] else []

/-- The first chunk of some bytes, and what follows it. -/
def parseChunk (bytes : List UInt8) : Option (Chunk × List UInt8) :=
  let size := read32 (bytes.drop 4)
  let body := bytes.drop 8
  if bytes.length < 8 ∨ body.length < size + size % 2 then none
  else some (⟨bytes.take 4, body.take size⟩, body.drop (size + size % 2))

/-- Some bytes are a sequence of chunks, and nothing else. -/
inductive ParsesChunks : List UInt8 → List Chunk → Prop where
  | nil : ParsesChunks [] []
  | cons {bytes rest : List UInt8} {chunk : Chunk} {chunks : List Chunk}
      (first : parseChunk bytes = some (chunk, rest)) (others : ParsesChunks rest chunks) :
      ParsesChunks bytes (chunk :: chunks)

/-- A chunk in front of other bytes is parsed by its declared size. -/
theorem parseChunk_declared {id body : List UInt8} {size : UInt32} (four : id.length = 4) :
    parseChunk (id ++ (le32 size ++ body)) =
      if body.length < size.toNat + size.toNat % 2 then none
      else some (⟨id, body.take size.toNat⟩, body.drop (size.toNat + size.toNat % 2)) := by
  have behindId : (id ++ (le32 size ++ body)).drop 4 = le32 size ++ body := by
    rw [← four, List.drop_left]
  have behindSize : (id ++ (le32 size ++ body)).drop 8 = body := by
    rw [show 8 = id.length + 4 by rw [four], ← List.drop_drop, four, behindId,
      ← le32_length size, List.drop_left]
  have front : (id ++ (le32 size ++ body)).take 4 = id := by
    rw [← four, List.take_left]
  have enough : ¬ (id ++ (le32 size ++ body)).length < 8 := by
    simp only [List.length_append, four, le32_length]
    omega
  simp only [parseChunk, behindId, behindSize, front, read32_le32, enough, false_or]

theorem ParsesChunks.first {bytes : List UInt8} {chunk : Chunk} {chunks : List Chunk}
    (parsed : ParsesChunks bytes (chunk :: chunks)) :
    ∃ rest, parseChunk bytes = some (chunk, rest) ∧ ParsesChunks rest chunks := by
  cases parsed with
  | cons first others => exact ⟨_, first, others⟩

/-- Nonempty bytes that are chunks have a first chunk. -/
theorem ParsesChunks.exists_first {bytes : List UInt8} {chunks : List Chunk}
    (parsed : ParsesChunks bytes chunks) (some : bytes ≠ []) :
    ∃ chunk rest others, chunks = chunk :: others ∧ parseChunk bytes = .some (chunk, rest) ∧
      ParsesChunks rest others := by
  cases parsed with
  | nil => exact absurd rfl some
  | cons first others => exact ⟨_, _, _, rfl, first, others⟩

end Chunks

end C64Stream
