import C64Stream.Automation.Md5

/-! The digest does not depend on how the bytes were split, and is that of RFC 1321. -/

namespace C64Stream

section Transform

theorem Md5Macro.mix_eq (name : Md5Macro) :
    name.mix =
      match name with
      | .ff => md5F
      | .gg => md5G
      | .hh => md5H
      | .ii => md5I := by
  cases name <;> rfl

/-- The words in the order that a line names them. -/
def Md5Order.arrange (order : Md5Order) (words : Md5Words) : Md5Words :=
  match order with
  | .abcd => words
  | .dabc => ⟨words.d, words.a, words.b, words.c⟩
  | .cdab => ⟨words.c, words.d, words.a, words.b⟩
  | .bcda => ⟨words.b, words.c, words.d, words.a⟩

/-- The order of a line, by its number. -/
def md5OrderAt (i : Nat) : Md5Order :=
  match i % 4 with
  | 0 => .abcd
  | 1 => .dabc
  | 2 => .cdab
  | _ => .bcda

/-- The macro of a line, by its number. -/
def md5MacroAt (i : Nat) : Md5Macro :=
  match i / 16 with
  | 0 => .ff
  | 1 => .gg
  | 2 => .hh
  | _ => .ii

theorem md5Lines_eq :
    md5Lines = (List.finRange 64).map fun i =>
      ⟨md5MacroAt i, md5OrderAt i, (md5Operation i).k, (md5Operation i).s, md5Table.get i⟩ := by
  decide +kernel

theorem md5Operation_function (i : Nat) : (md5Operation i).function = (md5MacroAt i).mix := by
  rw [Md5Macro.mix_eq]
  unfold md5Operation md5MacroAt
  match i / 16 with
  | 0 => rfl
  | 1 => rfl
  | 2 => rfl
  | _ + 3 => rfl

theorem arrange_run (x : Nat → UInt32) (words : Md5Words) (line : Md5Line) (i : Nat)
    (order : line.order = md5OrderAt i) :
    (md5OrderAt (i + 1)).arrange (line.run x words) =
      let arranged := (md5OrderAt i).arrange words
      { a := arranged.d
        b := line.name.apply arranged.a arranged.b arranged.c arranged.d (x line.x) line.s line.ac
        c := arranged.b
        d := arranged.c } := by
  have four : i % 4 = 0 ∨ i % 4 = 1 ∨ i % 4 = 2 ∨ i % 4 = 3 := by omega
  unfold Md5Line.run
  rw [order]
  unfold md5OrderAt
  -- Each of the four orders is followed by the next one.
  rcases four with here | here | here | here
  · rw [here, show (i + 1) % 4 = 1 by omega]
    rfl
  · rw [here, show (i + 1) % 4 = 2 by omega]
    rfl
  · rw [here, show (i + 1) % 4 = 3 by omega]
    rfl
  · rw [here, show (i + 1) % 4 = 0 by omega]
    rfl

theorem Md5Macro.apply_eq (name : Md5Macro) (a b c d x s ac : UInt32) :
    name.apply a b c d x s ac = b + rotateLeft (a + name.mix b c d + x + ac) s := by
  unfold Md5Macro.apply rotateLeft
  rw [UInt32.add_comm b, ← UInt32.add_assoc, ← UInt32.add_assoc]

theorem run_take (x : Nat → UInt32) (words : Md5Words) (n : Nat) (within : n ≤ 64) :
    (md5OrderAt n).arrange ((md5Lines.take n).foldl (Md5Line.run x) words) =
      ((List.finRange 64).take n).foldl (md5Operate x) words := by
  induction n with
  | zero => rfl
  | succ n ih =>
    have below : n < (List.finRange 64).length := by rw [List.length_finRange]; omega
    have line : n < md5Lines.length := by rw [show md5Lines.length = 64 from rfl]; omega
    have here : md5Lines[n] = ⟨md5MacroAt n, md5OrderAt n, (md5Operation n).k, (md5Operation n).s,
        md5Table[n]⟩ := by
      simp only [md5Lines_eq, List.getElem_map, List.getElem_finRange]
      rfl
    rw [List.take_succ_eq_append_getElem line, List.take_succ_eq_append_getElem below,
      List.foldl_append, List.foldl_append, ← ih (by omega), List.foldl_cons, List.foldl_nil,
      List.foldl_cons, List.foldl_nil, arrange_run _ _ _ n (by rw [here]), here,
      List.getElem_finRange]
    simp only [Md5Macro.apply_eq, md5Operate, ← md5Operation_function]
    rfl

theorem blockWord_eq {block : List UInt8} (full : block.length = 64) {i : Nat} (within : i < 16) :
    blockWord block i = md5Word block i := by
  unfold blockWord md5Word
  rw [word_of_bytes]
  have four : 4 * i + 3 < block.length := by omega
  rw [List.drop_eq_getElem_cons (by omega), List.drop_eq_getElem_cons (by omega),
    List.drop_eq_getElem_cons (by omega), List.drop_eq_getElem_cons (by omega)]
  simp only [read32, List.getD_eq_getElem?_getD,
    List.getElem?_eq_getElem (show 4 * i < block.length by omega),
    List.getElem?_eq_getElem (show 4 * i + 1 < block.length by omega),
    List.getElem?_eq_getElem (show 4 * i + 2 < block.length by omega),
    List.getElem?_eq_getElem four, Option.getD_some]

theorem c64Md5Transform_eq (state : Md5Words) {block : List UInt8} (full : block.length = 64) :
    c64Md5Transform state block = md5Compress state block := by
  have lines := run_take (blockWord block) state 64 (Nat.le_refl 64)
  rw [List.take_of_length_le (by rfl), List.take_of_length_le (by rfl)] at lines
  have arranged : ∀ words, (md5OrderAt 64).arrange words = words := fun _ => rfl
  rw [arranged] at lines
  -- Every operation reads one of the sixteen words of the block.
  have operations : md5Operate (blockWord block) = md5Operate (md5Word block) := by
    funext words i
    have inside : (md5Operation i).k < 16 := by
      have all : ∀ i : Fin 64, (md5Operation i).k < 16 := by decide
      exact all i
    simp only [md5Operate, blockWord_eq full inside]
  unfold c64Md5Transform md5Compress
  rw [lines, operations]

end Transform

section Context

variable {data : List UInt8} {ctx : Md5Ctx}

/-- What a context has taken: the blocks are in the state, and the rest is in the buffer. -/
structure Md5Holds (data : List UInt8) (ctx : Md5Ctx) : Prop where
  count : ctx.count = UInt64.ofNat (8 * data.length)
  state : ctx.state = (absorb 64 md5Compress (md5Start, []) data).1
  kept : ctx.buffer.1.take (data.length % 64) = (absorb 64 md5Compress (md5Start, []) data).2

theorem c64Md5Init_holds (buffer : Md5Buffer) : Md5Holds [] (c64Md5Init buffer) :=
  ⟨rfl, rfl, rfl⟩

theorem Md5Holds.index (holds : Md5Holds data ctx) : ctx.index = data.length % 64 := by
  rw [Md5Ctx.index, holds.count, UInt64.toNat_and, UInt64.toNat_shiftRight,
    UInt64.toNat_ofNat', show (0x3F : UInt64).toNat = 2 ^ 6 - 1 from rfl,
    Nat.and_two_pow_sub_one_eq_mod, show (3 : UInt64).toNat % 64 = 3 from rfl, Nat.shiftRight_eq_div_pow]
  omega

theorem transformBlocks_eq (state : Md5Words) (input : List UInt8) :
    absorb 64 md5Compress (state, []) input =
      ((transformBlocks state input).1, (transformBlocks state input).2.1) := by
  induction state, input using transformBlocks.induct with
  | case1 state input more ih =>
    have full : (input.take 64).length = 64 := by
      rw [List.length_take]
      omega
    rw [transformBlocks, dif_pos more, ← ih]
    conv_lhs => rw [← List.take_append_drop 64 input]
    rw [absorb_fill_append _ _ _ _ (by decide) (by rw [full]; rfl), List.nil_append,
      c64Md5Transform_eq _ full]
  | case2 state input done =>
    rw [transformBlocks, dif_neg done, absorb_short _ _ _ (by rw [List.length_nil]; omega)]
    rfl

theorem Md5Buffer.copy_take (buffer : Md5Buffer) (index : Nat) (bytes : List UInt8)
    (fits : index + bytes.length ≤ 64) :
    (buffer.copy index bytes fits).1.take (index + bytes.length) =
      buffer.1.take index ++ bytes := by
  have size := buffer.2
  rw [Md5Buffer.copy, List.take_append_of_le_length (by
    rw [List.length_append, List.length_take]
    omega), List.take_of_length_le (by
    rw [List.length_append, List.length_take]
    omega)]

theorem Md5Buffer.copy_full (buffer : Md5Buffer) (index : Nat) (bytes : List UInt8)
    (fits : index + bytes.length ≤ 64) (full : index + bytes.length = 64) :
    (buffer.copy index bytes fits).1 = buffer.1.take index ++ bytes := by
  rw [← buffer.copy_take index bytes fits, full, List.take_of_length_le (by
    rw [(buffer.copy index bytes fits).2])]

theorem Md5Buffer.copy_zero (buffer : Md5Buffer) (bytes : List UInt8)
    (fits : 0 + bytes.length ≤ 64) :
    (buffer.copy 0 bytes fits).1.take bytes.length = bytes := by
  have copied := buffer.copy_take 0 bytes fits
  rwa [Nat.zero_add] at copied

theorem c64Md5Update_eq (ctx : Md5Ctx) (input : List UInt8) :
    absorb 64 md5Compress (ctx.state, ctx.buffer.1.take ctx.index) input =
      ((c64Md5Update ctx input).state,
        (c64Md5Update ctx input).buffer.1.take ((ctx.index + input.length) % 64)) := by
  have inside := ctx.index_lt
  have held : (ctx.buffer.1.take ctx.index).length = ctx.index := by
    have size := ctx.buffer.2
    rw [List.length_take]
    omega
  unfold c64Md5Update
  dsimp only
  split
  · -- The input fills the buffer, and perhaps more blocks.
    rename_i filled
    have part : (input.take (64 - ctx.index)).length = 64 - ctx.index := by
      rw [List.length_take]
      omega
    have fits : ctx.index + (input.take (64 - ctx.index)).length ≤ 64 := by omega
    have block := ctx.buffer.copy_full ctx.index (input.take (64 - ctx.index)) fits (by omega)
    have full : (ctx.buffer.copy ctx.index (input.take (64 - ctx.index)) fits).1.length = 64 :=
      (ctx.buffer.copy ctx.index (input.take (64 - ctx.index)) fits).2
    conv_lhs => rw [← List.take_append_drop (64 - ctx.index) input]
    rw [absorb_fill_append _ _ _ _ (by omega) (by omega), ← block, ← c64Md5Transform_eq _ full,
      transformBlocks_eq]
    -- The rest of the input is what is left of whole blocks.
    have left : (transformBlocks (c64Md5Transform ctx.state
        (ctx.buffer.copy ctx.index (input.take (64 - ctx.index)) fits).1)
        (input.drop (64 - ctx.index))).2.1.length = (ctx.index + input.length) % 64 := by
      have size := @absorb_rest_length _ _ 64 md5Compress (by decide)
        (c64Md5Transform ctx.state
          (ctx.buffer.copy ctx.index (input.take (64 - ctx.index)) fits).1)
        [] (input.drop (64 - ctx.index)) (by decide)
      rw [transformBlocks_eq, List.length_nil, List.length_drop] at size
      dsimp only at size
      omega
    congr 1
    rw [← left, Md5Buffer.copy_zero]
  · -- The input fits the open block.
    rename_i short
    rw [absorb_short _ _ _ (by omega), Nat.mod_eq_of_lt (by omega), Md5Buffer.copy_take]

theorem c64Md5Update_count (ctx : Md5Ctx) (input : List UInt8) :
    (c64Md5Update ctx input).count = ctx.count + (UInt64.ofNat input.length <<< 3) := by
  unfold c64Md5Update
  dsimp only
  split <;> rfl

theorem c64Md5Update_holds (holds : Md5Holds data ctx) (input : List UInt8) :
    Md5Holds (data ++ input) (c64Md5Update ctx input) := by
  have update := c64Md5Update_eq ctx input
  have taken : absorb 64 md5Compress (md5Start, []) (data ++ input) =
      absorb 64 md5Compress (ctx.state, ctx.buffer.1.take ctx.index) input := by
    rw [absorb_append, holds.index, holds.state, holds.kept]
  rw [holds.index] at update
  refine ⟨?_, ?_, ?_⟩
  · rw [c64Md5Update_count, holds.count, List.length_append]
    apply UInt64.toNat.inj
    simp only [UInt64.toNat_add, UInt64.toNat_shiftLeft, UInt64.toNat_ofNat', UInt64.reduceToNat,
      Nat.reduceMod, Nat.shiftLeft_eq]
    omega
  · rw [taken, holds.index, update]
  · rw [taken, holds.index, update, List.length_append, Nat.mod_add_mod]

theorem c64Md5Update_foldl (chunks : List (List UInt8)) (holds : Md5Holds data ctx) :
    Md5Holds (data ++ chunks.flatten) (chunks.foldl c64Md5Update ctx) := by
  induction chunks generalizing data ctx with
  | nil =>
    rw [List.flatten_nil, List.append_nil]
    exact holds
  | cons chunk chunks ih =>
    have next := ih (c64Md5Update_holds holds chunk)
    rwa [List.append_assoc] at next

theorem Md5Holds.bits (holds : Md5Holds data ctx) :
    ((List.range 8).map fun i => ((ctx.count >>> UInt64.ofNat (i * 8)) &&& 0xFF).toUInt8) =
      md5Length data.length := by
  refine List.map_congr_left fun i within => ?_
  have small : i < 8 := List.mem_range.mp within
  apply UInt8.toNat.inj
  rw [holds.count, UInt64.toNat_toUInt8, UInt64.toNat_and, UInt64.toNat_shiftRight,
    UInt64.toNat_ofNat', UInt64.toNat_ofNat', UInt8.toNat_ofNat',
    show (0xFF : UInt64).toNat = 2 ^ 8 - 1 from rfl, Nat.and_two_pow_sub_one_eq_mod,
    Nat.shiftRight_eq_div_pow, show i * 8 % 2 ^ 64 % 64 = 8 * i by omega,
    show 256 ^ i = 2 ^ (8 * i) from (Nat.pow_mul 2 8 i).symm]
  -- The bits that the count has lost lie above the eight bytes.
  obtain ⟨high, split⟩ : ∃ high, 8 * data.length = 8 * data.length % 2 ^ 64 + 2 ^ 64 * high :=
    ⟨_, (Nat.mod_add_div _ _).symm⟩
  have above : 2 ^ 64 * high = 2 ^ (8 * i) * (2 ^ (64 - 8 * i) * high) := by
    rw [← Nat.mul_assoc, ← Nat.pow_add, show 8 * i + (64 - 8 * i) = 64 by omega]
  have byte : 2 ^ (64 - 8 * i) = 256 * 2 ^ (56 - 8 * i) := by
    rw [show (256 : Nat) = 2 ^ 8 from rfl, ← Nat.pow_add,
      show 8 + (56 - 8 * i) = 64 - 8 * i by omega]
  conv_rhs => rw [split, above, Nat.add_mul_div_left _ _ (Nat.two_pow_pos _), byte, Nat.mul_assoc]
  rw [show (2 : Nat) ^ 8 = 256 from rfl, Nat.add_mul_mod_self_left, Nat.mod_mod]

theorem Md5Holds.padding (holds : Md5Holds data ctx) :
    md5Padding.take (if ctx.index < 56 then 56 - ctx.index else 120 - ctx.index) =
      0x80 :: List.replicate (md5Zeros data.length) 0 := by
  have zeros : (if ctx.index < 56 then 56 - ctx.index else 120 - ctx.index) =
      md5Zeros data.length + 1 := by
    rw [holds.index, md5Zeros]
    split <;> omega
  rw [zeros, md5Padding, List.take_succ_cons, List.take_replicate, Nat.min_eq_left]
  unfold md5Zeros
  omega

theorem c64Md5Final_eq (holds : Md5Holds data ctx) : c64Md5Final ctx = md5 data := by
  have padded := c64Md5Update_holds (c64Md5Update_holds holds
    (0x80 :: List.replicate (md5Zeros data.length) 0)) (md5Length data.length)
  unfold c64Md5Final
  simp only [holds.bits, holds.padding]
  rw [padded.state, md5_eq_absorb]
  rfl

theorem md5Reads_holds (holds : Md5Holds data ctx) (content : List UInt8) :
    Md5Holds (data ++ content) (md5Reads ctx content) := by
  induction ctx, content using md5Reads.induct generalizing data with
  | case1 ctx =>
    rw [md5Reads, if_pos rfl, List.append_nil]
    exact holds
  | case2 ctx content more ih =>
    rw [md5Reads, if_neg more]
    have next := ih (c64Md5Update_holds holds (content.take 4096))
    rwa [List.append_assoc, List.take_append_drop] at next

end Context

section Results

/-- However a message is split, its digest is that of RFC 1321; a file is listed under it. -/
theorem c64Md5_eq_md5 (buffer : Md5Buffer) :
    (∀ chunks : List (List UInt8),
      c64Md5Final (chunks.foldl c64Md5Update (c64Md5Init buffer)) = md5 chunks.flatten) ∧
    ∀ content : List UInt8,
      c64HvscMd5FileHex buffer (some content) = some ((md5 content).flatMap (hexByte false)) := by
  constructor
  · intro chunks
    exact c64Md5Final_eq (c64Md5Update_foldl chunks (c64Md5Init_holds buffer))
  · intro content
    rw [c64HvscMd5FileHex, Option.map_some,
      c64Md5Final_eq (md5Reads_holds (c64Md5Init_holds buffer) content), List.nil_append]

end Results

end C64Stream
