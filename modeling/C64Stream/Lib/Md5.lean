import C64Stream.Lib.BlockHash
import C64Stream.Lib.Riff
import C64Stream.Lib.Sines

/-! The MD5 message digest, as RFC 1321 describes it. -/

namespace C64Stream

section Functions

/-- The four words of the buffer. -/
structure Md5Words where
  a : UInt32
  b : UInt32
  c : UInt32
  d : UInt32
  deriving DecidableEq

/-- The table made from sines. -/
def md5Table : Vector UInt32 64 :=
  #v[0xd76aa478, 0xe8c7b756, 0x242070db, 0xc1bdceee, 0xf57c0faf, 0x4787c62a, 0xa8304613, 0xfd469501,
    0x698098d8, 0x8b44f7af, 0xffff5bb1, 0x895cd7be, 0x6b901122, 0xfd987193, 0xa679438e, 0x49b40821,
    0xf61e2562, 0xc040b340, 0x265e5a51, 0xe9b6c7aa, 0xd62f105d, 0x02441453, 0xd8a1e681, 0xe7d3fbc8,
    0x21e1cde6, 0xc33707d6, 0xf4d50d87, 0x455a14ed, 0xa9e3e905, 0xfcefa3f8, 0x676f02d9, 0x8d2a4c8a,
    0xfffa3942, 0x8771f681, 0x6d9d6122, 0xfde5380c, 0xa4beea44, 0x4bdecfa9, 0xf6bb4b60, 0xbebfbc70,
    0x289b7ec6, 0xeaa127fa, 0xd4ef3085, 0x04881d05, 0xd9d4d039, 0xe6db99e5, 0x1fa27cf8, 0xc4ac5665,
    0xf4292244, 0x432aff97, 0xab9423a7, 0xfc93a039, 0x655b59c3, 0x8f0ccc92, 0xffeff47d, 0x85845dd1,
    0x6fa87e4f, 0xfe2ce6e0, 0xa3014314, 0x4e0811a1, 0xf7537e82, 0xbd3af235, 0x2ad7d2bb, 0xeb86d391]

/-- Every entry is the whole part of 2 to the 32 times the sine of its number. -/
theorem md5Table_eq_sine (i : Fin 64) :
    md5Table[i].toNat = ⌊(4294967296 : Nat) * |Real.sin ((i.val + 1 : Nat) : ℝ)|⌋₊ := by
  symm
  have enclosed : ∀ i : Fin 64,
      md5Table[i].toNat * sineScale + (4294967296 : Nat) * (5 * 2 ^ (i.val + 1)) ≤
        (4294967296 : Nat) * |(sineOf (i.val + 1)).2| ∧
      (4294967296 : Nat) * |(sineOf (i.val + 1)).2| + (4294967296 : Nat) * (5 * 2 ^ (i.val + 1)) <
        (md5Table[i].toNat + 1) * sineScale := by
    decide +kernel
  exact floor_abs_sin (enclosed i).1 (enclosed i).2

/-- The four auxiliary functions. -/
def md5F (x y z : UInt32) : UInt32 := (x &&& y) ||| (~~~x &&& z)

def md5G (x y z : UInt32) : UInt32 := (x &&& z) ||| (y &&& ~~~z)

def md5H (x y z : UInt32) : UInt32 := x ^^^ y ^^^ z

def md5I (x y z : UInt32) : UInt32 := y ^^^ (x ||| ~~~z)

/-- The bits of a word turned to the left. -/
def rotateLeft (x n : UInt32) : UInt32 :=
  (x <<< n) ||| (x >>> (32 - n))

end Functions

section Rounds

/-- What an operation is made of: function, word of the block, and distance of rotation. -/
structure Md5Operation where
  function : UInt32 → UInt32 → UInt32 → UInt32
  k : Nat
  s : UInt32

/-- The operations of the four rounds. -/
def md5Operation (i : Nat) : Md5Operation :=
  match i / 16 with
  | 0 => ⟨md5F, i % 16, #v[7, 12, 17, 22][i % 4]⟩
  | 1 => ⟨md5G, (5 * i + 1) % 16, #v[5, 9, 14, 20][i % 4]⟩
  | 2 => ⟨md5H, (3 * i + 5) % 16, #v[4, 11, 16, 23][i % 4]⟩
  | _ => ⟨md5I, 7 * i % 16, #v[6, 10, 15, 21][i % 4]⟩

/-- One operation; the words change places for the next one. -/
def md5Operate (x : Nat → UInt32) (words : Md5Words) (i : Fin 64) : Md5Words :=
  let operation := md5Operation i
  { a := words.d
    b := words.b + rotateLeft (words.a + operation.function words.b words.c words.d +
      x operation.k + md5Table[i]) operation.s
    c := words.b
    d := words.c }

/-- A word of a block, its lowest byte first. -/
def md5Word (block : List UInt8) (k : Nat) : UInt32 :=
  UInt32.ofNat (read32 (block.drop (4 * k)))

/-- The words after a block. -/
def md5Compress (words : Md5Words) (block : List UInt8) : Md5Words :=
  let result := (List.finRange 64).foldl (md5Operate (md5Word block)) words
  ⟨words.a + result.a, words.b + result.b, words.c + result.c, words.d + result.d⟩

end Rounds

section Digest

/-- The words before the first block. -/
def md5Start : Md5Words :=
  ⟨0x67452301, 0xefcdab89, 0x98badcfe, 0x10325476⟩

/-- The number of zeros that leave room for the length in the last block. -/
def md5Zeros (length : Nat) : Nat :=
  (119 - length % 64) % 64

/-- The length in bits, of which the low 64 bits are kept, the lowest byte first. -/
def md5Length (length : Nat) : List UInt8 :=
  (List.range 8).map fun i => UInt8.ofNat (8 * length / 256 ^ i)

/-- The message with its padding and its length. -/
def md5Pad (message : List UInt8) : List UInt8 :=
  message ++ 0x80 :: List.replicate (md5Zeros message.length) 0 ++ md5Length message.length

/-- The digest of a message. -/
def md5 (message : List UInt8) : List UInt8 :=
  let padded := md5Pad message
  let words := (List.range (padded.length / 64)).foldl
    (fun words n => md5Compress words ((padded.drop (64 * n)).take 64)) md5Start
  le32 words.a ++ le32 words.b ++ le32 words.c ++ le32 words.d

example : md5 [] = [0xd4, 0x1d, 0x8c, 0xd9, 0x8f, 0x00, 0xb2, 0x04, 0xe9, 0x80, 0x09, 0x98, 0xec,
    0xf8, 0x42, 0x7e] := by decide +kernel

example : md5 [97, 98, 99] = [0x90, 0x01, 0x50, 0x98, 0x3c, 0xd2, 0x4f, 0xb0, 0xd6, 0x96, 0x3f,
    0x7d, 0x28, 0xe1, 0x7f, 0x72] := by decide +kernel

end Digest

section Padding

@[simp] theorem md5Length_length (length : Nat) : (md5Length length).length = 8 := by
  simp only [md5Length, List.length_map, List.length_range]

theorem md5Zeros_fit (length : Nat) : (length + 1 + md5Zeros length) % 64 = 56 := by
  unfold md5Zeros
  omega

theorem md5Zeros_minimal (length zeros : Nat) (fits : (length + 1 + zeros) % 64 = 56) :
    md5Zeros length ≤ zeros := by
  unfold md5Zeros
  omega

theorem md5Pad_whole (message : List UInt8) : (md5Pad message).length % 64 = 0 := by
  have fits := md5Zeros_fit message.length
  simp only [md5Pad, List.length_append, List.length_cons, List.length_replicate, md5Length_length]
  omega

/-- The digest is that of the words which are left when the padded message was taken. -/
theorem md5_eq_absorb (message : List UInt8) :
    md5 message =
      let words := (absorb 64 md5Compress (md5Start, []) (md5Pad message)).1
      le32 words.a ++ le32 words.b ++ le32 words.c ++ le32 words.d := by
  have whole := md5Pad_whole message
  rw [absorb_blocks (by decide) md5Start ((md5Pad message).length / 64) _ (by omega)]
  rfl

end Padding

end C64Stream
