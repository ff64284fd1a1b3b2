import C64Stream.Lib.Hex
import C64Stream.Lib.Md5
import C64Stream.Script.Value

/-! The digest of a song file, taken piece by piece as the file is read. -/

namespace C64Stream

section Transform

/-- The macros for the four rounds. -/
inductive Md5Macro where
  | ff | gg | hh | ii
  deriving DecidableEq

/-- The function of a macro. -/
def Md5Macro.mix (name : Md5Macro) (x y z : UInt32) : UInt32 :=
  match name with
  | .ff => (x &&& y) ||| (~~~x &&& z)
  | .gg => (x &&& z) ||| (y &&& ~~~z)
  | .hh => x ^^^ y ^^^ z
  | .ii => y ^^^ (x ||| ~~~z)

/-- What a macro leaves in its first word. -/
def Md5Macro.apply (name : Md5Macro) (a b c d x s ac : UInt32) : UInt32 :=
  let a := a + (name.mix b c d + x + ac)
  let a := (a <<< s) ||| (a >>> (32 - s))
  a + b

/-- The order in which a line names the words; it changes the first one. -/
inductive Md5Order where
  | abcd | dabc | cdab | bcda
  deriving DecidableEq

/-- A line of the transformation. -/
structure Md5Line where
  name : Md5Macro
  order : Md5Order
  x : Nat
  s : UInt32
  ac : UInt32
  deriving DecidableEq

/-- The words after a line. -/
def Md5Line.run (x : Nat → UInt32) (words : Md5Words) (line : Md5Line) : Md5Words :=
  let ⟨a, b, c, d⟩ := words
  let apply := fun a b c d => line.name.apply a b c d (x line.x) line.s line.ac
  match line.order with
  | .abcd => { words with a := apply a b c d }
  | .dabc => { words with d := apply d a b c }
  | .cdab => { words with c := apply c d a b }
  | .bcda => { words with b := apply b c d a }

/-- The lines of the transformation. -/
def md5Lines : List Md5Line :=
  [⟨.ff, .abcd, 0, 7, 0xd76aa478⟩,
   ⟨.ff, .dabc, 1, 12, 0xe8c7b756⟩,
   ⟨.ff, .cdab, 2, 17, 0x242070db⟩,
   ⟨.ff, .bcda, 3, 22, 0xc1bdceee⟩,
   ⟨.ff, .abcd, 4, 7, 0xf57c0faf⟩,
   ⟨.ff, .dabc, 5, 12, 0x4787c62a⟩,
   ⟨.ff, .cdab, 6, 17, 0xa8304613⟩,
   ⟨.ff, .bcda, 7, 22, 0xfd469501⟩,
   ⟨.ff, .abcd, 8, 7, 0x698098d8⟩,
   ⟨.ff, .dabc, 9, 12, 0x8b44f7af⟩,
   ⟨.ff, .cdab, 10, 17, 0xffff5bb1⟩,
   ⟨.ff, .bcda, 11, 22, 0x895cd7be⟩,
   ⟨.ff, .abcd, 12, 7, 0x6b901122⟩,
   ⟨.ff, .dabc, 13, 12, 0xfd987193⟩,
   ⟨.ff, .cdab, 14, 17, 0xa679438e⟩,
   ⟨.ff, .bcda, 15, 22, 0x49b40821⟩,
   ⟨.gg, .abcd, 1, 5, 0xf61e2562⟩,
   ⟨.gg, .dabc, 6, 9, 0xc040b340⟩,
   ⟨.gg, .cdab, 11, 14, 0x265e5a51⟩,
   ⟨.gg, .bcda, 0, 20, 0xe9b6c7aa⟩,
   ⟨.gg, .abcd, 5, 5, 0xd62f105d⟩,
   ⟨.gg, .dabc, 10, 9, 0x02441453⟩,
   ⟨.gg, .cdab, 15, 14, 0xd8a1e681⟩,
   ⟨.gg, .bcda, 4, 20, 0xe7d3fbc8⟩,
   ⟨.gg, .abcd, 9, 5, 0x21e1cde6⟩,
   ⟨.gg, .dabc, 14, 9, 0xc33707d6⟩,
   ⟨.gg, .cdab, 3, 14, 0xf4d50d87⟩,
   ⟨.gg, .bcda, 8, 20, 0x455a14ed⟩,
   ⟨.gg, .abcd, 13, 5, 0xa9e3e905⟩,
   ⟨.gg, .dabc, 2, 9, 0xfcefa3f8⟩,
   ⟨.gg, .cdab, 7, 14, 0x676f02d9⟩,
   ⟨.gg, .bcda, 12, 20, 0x8d2a4c8a⟩,
   ⟨.hh, .abcd, 5, 4, 0xfffa3942⟩,
   ⟨.hh, .dabc, 8, 11, 0x8771f681⟩,
   ⟨.hh, .cdab, 11, 16, 0x6d9d6122⟩,
   ⟨.hh, .bcda, 14, 23, 0xfde5380c⟩,
   ⟨.hh, .abcd, 1, 4, 0xa4beea44⟩,
   ⟨.hh, .dabc, 4, 11, 0x4bdecfa9⟩,
   ⟨.hh, .cdab, 7, 16, 0xf6bb4b60⟩,
   ⟨.hh, .bcda, 10, 23, 0xbebfbc70⟩,
   ⟨.hh, .abcd, 13, 4, 0x289b7ec6⟩,
   ⟨.hh, .dabc, 0, 11, 0xeaa127fa⟩,
   ⟨.hh, .cdab, 3, 16, 0xd4ef3085⟩,
   ⟨.hh, .bcda, 6, 23, 0x04881d05⟩,
   ⟨.hh, .abcd, 9, 4, 0xd9d4d039⟩,
   ⟨.hh, .dabc, 12, 11, 0xe6db99e5⟩,
   ⟨.hh, .cdab, 15, 16, 0x1fa27cf8⟩,
   ⟨.hh, .bcda, 2, 23, 0xc4ac5665⟩,
   ⟨.ii, .abcd, 0, 6, 0xf4292244⟩,
   ⟨.ii, .dabc, 7, 10, 0x432aff97⟩,
   ⟨.ii, .cdab, 14, 15, 0xab9423a7⟩,
   ⟨.ii, .bcda, 5, 21, 0xfc93a039⟩,
   ⟨.ii, .abcd, 12, 6, 0x655b59c3⟩,
   ⟨.ii, .dabc, 3, 10, 0x8f0ccc92⟩,
   ⟨.ii, .cdab, 10, 15, 0xffeff47d⟩,
   ⟨.ii, .bcda, 1, 21, 0x85845dd1⟩,
   ⟨.ii, .abcd, 8, 6, 0x6fa87e4f⟩,
   ⟨.ii, .dabc, 15, 10, 0xfe2ce6e0⟩,
   ⟨.ii, .cdab, 6, 15, 0xa3014314⟩,
   ⟨.ii, .bcda, 13, 21, 0x4e0811a1⟩,
   ⟨.ii, .abcd, 4, 6, 0xf7537e82⟩,
   ⟨.ii, .dabc, 11, 10, 0xbd3af235⟩,
   ⟨.ii, .cdab, 2, 15, 0x2ad7d2bb⟩,
   ⟨.ii, .bcda, 9, 21, 0xeb86d391⟩]

/-- A word of the block. -/
def blockWord (block : List UInt8) (i : Nat) : UInt32 :=
  (block.getD (4 * i) 0).toUInt32 ||| ((block.getD (4 * i + 1) 0).toUInt32 <<< 8) |||
    ((block.getD (4 * i + 2) 0).toUInt32 <<< 16) ||| ((block.getD (4 * i + 3) 0).toUInt32 <<< 24)

/-- The state after a block. -/
def c64Md5Transform (state : Md5Words) (block : List UInt8) : Md5Words :=
  let ⟨a, b, c, d⟩ := md5Lines.foldl (Md5Line.run (blockWord block)) state
  ⟨state.a + a, state.b + b, state.c + c, state.d + d⟩

end Transform

section Context

abbrev Md5Buffer := { bytes : List UInt8 // bytes.length = 64 }

/-- Bytes copied into the buffer, where they fit. -/
def Md5Buffer.copy (buffer : Md5Buffer) (index : Nat) (bytes : List UInt8)
    (fits : index + bytes.length ≤ 64) : Md5Buffer :=
  ⟨buffer.1.take index ++ bytes ++ buffer.1.drop (index + bytes.length), by
    have size := buffer.2
    simp only [List.length_append, List.length_take, List.length_drop]
    omega⟩

/-- A digest that is being taken. -/
structure Md5Ctx where
  state : Md5Words
  /-- The bits so far. -/
  count : UInt64
  buffer : Md5Buffer

/-- The start of a digest; the buffer is left as it is. -/
def c64Md5Init (buffer : Md5Buffer) : Md5Ctx where
  state := ⟨0x67452301, 0xefcdab89, 0x98badcfe, 0x10325476⟩
  count := 0
  buffer := buffer

/-- Where the next byte goes in the buffer. -/
def Md5Ctx.index (ctx : Md5Ctx) : Nat :=
  ((ctx.count >>> 3) &&& 0x3F).toNat

theorem Md5Ctx.index_lt (ctx : Md5Ctx) : ctx.index < 64 := by
  rw [Md5Ctx.index, UInt64.toNat_and]
  exact Nat.lt_of_le_of_lt Nat.and_le_right (by decide)

/-- The loop over whole blocks of the input: the state behind them, and the rest. -/
def transformBlocks (state : Md5Words) (input : List UInt8) :
    Md5Words × { rest : List UInt8 // rest.length < 64 } :=
  if more : 63 < input.length then
    transformBlocks (c64Md5Transform state (input.take 64)) (input.drop 64)
  else (state, ⟨input, by omega⟩)
termination_by input.length
decreasing_by
  rw [List.length_drop]
  omega

/-- Takes more bytes. -/
def c64Md5Update (ctx : Md5Ctx) (input : List UInt8) : Md5Ctx :=
  let index := ctx.index
  let count := ctx.count + (UInt64.ofNat input.length <<< 3)
  let partLen := 64 - index
  if filled : input.length ≥ partLen then
    let buffer := ctx.buffer.copy index (input.take partLen) (by
      have inside := ctx.index_lt
      rw [List.length_take]
      omega)
    let (state, rest) := transformBlocks (c64Md5Transform ctx.state buffer.1) (input.drop partLen)
    { state, count
      buffer := buffer.copy 0 rest.1 (by
        have short := rest.2
        omega) }
  else
    { state := ctx.state, count
      buffer := ctx.buffer.copy index input (by
        have inside := ctx.index_lt
        omega) }

def md5Padding : List UInt8 := 0x80 :: List.replicate 63 0

/-- The digest of all that was taken. -/
def c64Md5Final (ctx : Md5Ctx) : List UInt8 :=
  let bits := (List.range 8).map fun i => ((ctx.count >>> UInt64.ofNat (i * 8)) &&& 0xFF).toUInt8
  let index := ctx.index
  let padLen := if index < 56 then 56 - index else 120 - index
  let ctx := c64Md5Update ctx (md5Padding.take padLen)
  let ctx := c64Md5Update ctx bits
  le32 ctx.state.a ++ le32 ctx.state.b ++ le32 ctx.state.c ++ le32 ctx.state.d

/-- The loop that reads a file. -/
def md5Reads (ctx : Md5Ctx) (content : List UInt8) : Md5Ctx :=
  if content = [] then ctx
  else md5Reads (c64Md5Update ctx (content.take 4096)) (content.drop 4096)
termination_by content.length
decreasing_by
  have := List.length_pos_iff.mpr ‹_›
  rw [List.length_drop]
  omega

/-- The digest of a file, in hexadecimal digits; none if it cannot be opened. -/
def c64HvscMd5FileHex (buffer : Md5Buffer) (file : Option (List UInt8)) : Option Text :=
  file.map fun content =>
    (c64Md5Final (md5Reads (c64Md5Init buffer) content)).flatMap (hexByte false)

end Context

end C64Stream
