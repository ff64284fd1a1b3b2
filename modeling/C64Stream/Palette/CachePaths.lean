import C64Stream.Device.ProfileFiles
import C64Stream.Lib.Hex
import C64Stream.Palette.Follow

/-! Paths of cached palette files: which devices and files may share one. -/

namespace C64Stream

section Paths

def c64DevicePaletteNameMax : Nat := 64

def forbiddenInNames : Text := text "/\\:*?\"<>|"

/-- Whether a name can be part of a path. -/
def c64DevicePaletteNameIsSafe (name : Text) : Bool :=
  if name = [] ∨ name.length ≥ c64DevicePaletteNameMax then false
  else if name = text "." ∨ name = text ".." ∨ text ".." <:+: name then false
  else name.all fun byte => !(byte < 0x20 || byte == 0x7F || forbiddenInNames.contains byte)

/-- The path of a cached palette, if the name is safe and the path fits its buffer. -/
def c64DevicePaletteCachePath (outSize : Nat) (dir deviceKey name : Text) (size : UInt64) :
    Option Text :=
  if outSize = 0 ∨ deviceKey = [] ∨ c64DevicePaletteNameIsSafe name = false then none
  else
    let path := dir ++ text "/" ++ (cacheKey deviceKey ++ text "-" ++ decimal size.toNat ++
      text "-" ++ name)
    -- The length is returned as an int.
    if path.length < outSize ∧ path.length < 2 ^ 31 then some path else none

/-- Two devices share a path only for one file, and only as one device. -/
def PathsApart (first second : Text) : Prop :=
  ∀ outSize otherSize dir name otherName size otherFileSize path,
    c64DevicePaletteCachePath outSize dir first name size = some path →
      c64DevicePaletteCachePath otherSize dir second otherName otherFileSize = some path →
        name = otherName ∧ size = otherFileSize ∧ equalsIgnoreCase first second = true

/-- The part of a key in a path goes on behind that of another one as if with a size. -/
def ContinuesWithSize (short long : Text) : Prop :=
  ∃ (size : UInt64) (rest : Text),
    cacheKey long = cacheKey short ++ text "-" ++ decimal size.toNat ++ rest ∧
      (rest = [] ∨ rest.head? = some 45)

/-- The parts of two keys in a path tell them apart, and neither is the other one with a size. -/
structure KeysApart (first second : Text) : Prop where
  same : cacheKey first = cacheKey second → equalsIgnoreCase first second = true
  left : ¬ ContinuesWithSize first second
  right : ¬ ContinuesWithSize second first

end Paths

section Bytes

/-- A byte that the part of a key is made of. -/
def KeyByte (byte : UInt8) : Prop :=
  (48 ≤ byte ∧ byte ≤ 57) ∨ (97 ≤ byte ∧ byte ≤ 122) ∨ byte = 45

instance (byte : UInt8) : Decidable (KeyByte byte) :=
  inferInstanceAs (Decidable (_ ∨ _))

theorem cacheKey_bytes {key : Text} : ∀ byte ∈ cacheKey key, KeyByte byte := by
  intro byte among
  obtain ⟨source, _, rfl⟩ := List.mem_map.mp among
  have all : ∀ source : UInt8, KeyByte
      (if (48 ≤ source ∧ source ≤ 57) ∨ (97 ≤ source ∧ source ≤ 122) then source
        else if 65 ≤ source ∧ source ≤ 90 then source + 32 else 45) :=
    forall_byte (by decide +kernel)
  exact all source

theorem cacheKey_length (key : Text) : (cacheKey key).length ≤ 63 := by
  rw [cacheKey, List.length_map, List.length_take]
  omega

theorem cacheKey_ne_nil {key : Text} (some : key ≠ []) : cacheKey key ≠ [] := by
  intro none
  rw [cacheKey, List.map_eq_nil_iff, List.take_eq_nil_iff] at none
  exact none.elim (by decide) some

theorem nameIsSafe_of_keyBytes {name : Text} (some : name ≠ []) (short : name.length < 64)
    (bytes : ∀ byte ∈ name, KeyByte byte) : c64DevicePaletteNameIsSafe name = true := by
  -- There is no dot in it, so it is not a directory.
  have noDot : (46 : UInt8) ∉ name := fun among => absurd (bytes 46 among) (by decide)
  have plain : ∀ byte : UInt8, KeyByte byte →
      (!(byte < 0x20 || byte == 0x7F || forbiddenInNames.contains byte)) = true :=
    forall_byte (by decide +kernel)
  rw [c64DevicePaletteNameIsSafe, if_neg, if_neg, List.all_eq_true]
  · exact fun byte among => plain byte (bytes byte among)
  · rintro (rfl | rfl | inside)
    · exact noDot (by decide)
    · exact noDot (by decide)
    · exact noDot (inside.subset (by decide))
  · rintro (none | long)
    · exact some none
    · exact absurd short (by rw [c64DevicePaletteNameMax] at long; omega)

theorem decimal_dash_inj {n m : Nat} {x y : Text}
    (same : decimal n ++ 45 :: x = decimal m ++ 45 :: y) : n = m ∧ x = y := by
  have digits : ∀ (n : Nat) (x : Text),
      (decimal n ++ 45 :: x).takeWhile (· ≠ 45) = decimal n := by
    intro n x
    have none : ∀ byte ∈ decimal n, decide (byte ≠ 45) = true := by
      intro byte among
      obtain ⟨low, _⟩ := decimal_digit among
      exact decide_eq_true (by rintro rfl; exact absurd low (by decide))
    rw [List.takeWhile_append_of_pos none]
    simp
  have number : decimal n = decimal m := by rw [← digits n x, same, digits]
  rw [number] at same
  refine ⟨?_, (List.cons.inj (List.append_cancel_left same)).2⟩
  have back := congrArg (leadingNumber 0) number
  rwa [leadingNumber_decimal, leadingNumber_decimal] at back

end Bytes

section Paths

theorem c64DevicePaletteCachePath_eq {outSize : Nat} {dir key name path : Text} {size : UInt64}
    (made : c64DevicePaletteCachePath outSize dir key name size = some path) :
    c64DevicePaletteNameIsSafe name = true ∧
      path = dir ++ text "/" ++ (cacheKey key ++ text "-" ++ decimal size.toNat ++ text "-" ++
        name) := by
  unfold c64DevicePaletteCachePath at made
  split at made
  · cases made
  · rename_i asked
    dsimp only at made
    split at made
    · refine ⟨?_, (Option.some.inj made).symm⟩
      simpa using fun refused => asked (.inr (.inr refused))
    · cases made

theorem exists_cachePath {key name : Text} {size : UInt64} (some : key ≠ [])
    (safe : c64DevicePaletteNameIsSafe name = true) (short : name.length < 64) :
    c64DevicePaletteCachePath 1000 [] key name size = Option.some (text "/" ++
      (cacheKey key ++ text "-" ++ decimal size.toNat ++ text "-" ++ name)) := by
  have digits : (decimal size.toNat).length ≤ 20 := by
    rw [decimal, List.length_map, Nat.length_toDigits_le_iff (by decide) (by decide)]
    exact Nat.lt_trans size.toNat_lt (by decide)
  have part := cacheKey_length key
  have room : (text "/" ++ (cacheKey key ++ text "-" ++ decimal size.toNat ++ text "-" ++
      name)).length < 1000 := by
    simp only [List.length_append, show (text "/").length = 1 from rfl,
      show (text "-").length = 1 from rfl]
    omega
  unfold c64DevicePaletteCachePath
  rw [if_neg (by simp [some, safe])]
  dsimp only
  rw [List.nil_append, if_pos ⟨room, by omega⟩]

theorem not_apart_of_continues {short long : Text} (someShort : short ≠ []) (someLong : long ≠ [])
    (continues : ContinuesWithSize short long) :
    ∃ name size path, name ≠ text "x" ∧
      c64DevicePaletteCachePath 1000 [] short name size = some path ∧
      c64DevicePaletteCachePath 1000 [] long (text "x") 0 = some path := by
  obtain ⟨size, rest, shape, next⟩ := continues
  -- What follows the size in the longer key becomes a part of the name.
  have bytes : ∀ byte ∈ rest, KeyByte byte := fun byte among =>
    cacheKey_bytes byte (by rw [shape]; exact List.mem_append_right _ among)
  have room : rest.length ≤ 60 := by
    have all := cacheKey_length long
    have part : 0 < (cacheKey short).length := List.length_pos_iff.mpr (cacheKey_ne_nil someShort)
    have digits : 0 < (decimal size.toNat).length := by
      rw [decimal, List.length_map]
      exact List.length_pos_iff.mpr Nat.toDigits_ne_nil
    rw [shape] at all
    simp only [List.length_append, show (text "-").length = 1 from rfl] at all
    omega
  obtain ⟨name, joined⟩ : ∃ name, rest ++ text "-0-x" = 45 :: name := by
    rcases next with rfl | dash
    · exact ⟨_, rfl⟩
    · cases rest with
      | nil => cases dash
      | cons byte rest =>
        obtain rfl := Option.some.inj dash
        exact ⟨_, rfl⟩
  have length : name.length + 1 = rest.length + 4 := by
    have both := congrArg List.length joined
    rw [List.length_append, List.length_cons] at both
    exact both.symm
  have nameBytes : ∀ byte ∈ name, KeyByte byte := by
    intro byte among
    have inside : byte ∈ rest ++ text "-0-x" := by rw [joined]; exact List.mem_cons_of_mem _ among
    rcases List.mem_append.mp inside with before | behind
    · exact bytes byte before
    · have all : ∀ byte ∈ text "-0-x", KeyByte byte := by decide +kernel
      exact all byte behind
  have long' : 3 ≤ name.length := by omega
  refine ⟨name, size, _, ?_, exists_cachePath someShort (nameIsSafe_of_keyBytes (by
    rintro rfl
    cases long') (by omega) nameBytes) (by omega), ?_⟩
  · rintro rfl
    exact absurd long' (by decide)
  · rw [exists_cachePath someLong (by decide) (by decide), shape]
    congr 1
    simp only [List.append_assoc]
    rw [show text "-" ++ (decimal (0 : UInt64).toNat ++ (text "-" ++ text "x")) = text "-0-x"
      from by decide, joined]
    rfl

theorem keys_of_same_path {first second name otherName : Text} {size otherFileSize : UInt64}
    {long : Text} (starts : cacheKey second = cacheKey first ++ long)
    (same : cacheKey first ++ text "-" ++ decimal size.toNat ++ text "-" ++ name =
      cacheKey second ++ text "-" ++ decimal otherFileSize.toNat ++ text "-" ++ otherName) :
    (cacheKey first = cacheKey second ∧ size = otherFileSize ∧ name = otherName) ∨
      ContinuesWithSize first second := by
  have dash : text "-" = [45] := rfl
  rw [starts] at same
  simp only [dash, List.append_assoc, List.singleton_append] at same
  have tail := List.append_cancel_left same
  cases long with
  | nil =>
    obtain ⟨sizes, names⟩ := decimal_dash_inj (List.cons.inj tail).2
    refine .inl ⟨?_, UInt64.toNat.inj sizes, names⟩
    rw [starts, List.append_nil]
  | cons byte long =>
    obtain ⟨rfl, rest⟩ := List.cons.inj tail
    -- The rest of the second key covers the digits of the size: these hold no dash.
    refine .inr ⟨size, ?_⟩
    rcases List.append_eq_append_iff.mp rest with ⟨more, shape, behind⟩ | ⟨digits, shape, behind⟩
    · refine ⟨more, ?_, ?_⟩
      · rw [starts, shape, dash, List.append_assoc, List.append_assoc]
        rfl
      · cases more with
        | nil => exact .inl rfl
        | cons next more => exact .inr (by rw [(List.cons.inj behind).1]; rfl)
    · cases digits with
      | nil =>
        refine ⟨[], ?_, .inl rfl⟩
        rw [starts, shape, dash]
        simp
      | cons digit digits =>
        obtain ⟨rfl, _⟩ := List.cons.inj behind
        have among : (45 : UInt8) ∈ decimal size.toNat := by
          rw [shape]
          exact List.mem_append_right _ List.mem_cons_self
        exact absurd (decimal_digit among).1 (by decide)

theorem pathsApart_iff {first second : Text} (someFirst : first ≠ []) (someSecond : second ≠ []) :
    PathsApart first second ↔ KeysApart first second := by
  constructor
  · intro apart
    refine ⟨fun same => ?_, fun continues => ?_, fun continues => ?_⟩
    · -- One file of both devices, where their parts of the path agree.
      have safe : c64DevicePaletteNameIsSafe (text "x") = true := by decide
      have made := @exists_cachePath first (text "x") 0 someFirst safe (by decide)
      have other := @exists_cachePath second (text "x") 0 someSecond safe (by decide)
      rw [← same] at other
      exact (apart _ _ _ _ _ _ _ _ made other).2.2
    · obtain ⟨name, size, path, differs, one, two⟩ :=
        not_apart_of_continues someFirst someSecond continues
      exact differs (apart _ _ _ _ _ _ _ _ one two).1
    · obtain ⟨name, size, path, differs, one, two⟩ :=
        not_apart_of_continues someSecond someFirst continues
      exact differs (apart _ _ _ _ _ _ _ _ two one).1.symm
  · intro keys outSize otherSize dir name otherName size otherFileSize path made other
    obtain ⟨_, rfl⟩ := c64DevicePaletteCachePath_eq made
    obtain ⟨_, same⟩ := c64DevicePaletteCachePath_eq other
    have parts := List.append_cancel_left same
    -- The shorter one of the two parts starts the other one.
    have starts : (∃ long, cacheKey second = cacheKey first ++ long) ∨
        ∃ long, cacheKey first = cacheKey second ++ long := by
      rw [List.append_assoc, List.append_assoc, List.append_assoc, List.append_assoc,
        List.append_assoc, List.append_assoc] at parts
      rcases List.append_eq_append_iff.mp parts with ⟨long, shape, _⟩ | ⟨long, shape, _⟩
      · exact .inl ⟨long, shape⟩
      · exact .inr ⟨long, shape⟩
    rcases starts with ⟨long, starts⟩ | ⟨long, starts⟩
    · rcases keys_of_same_path starts parts with ⟨agree, sizes, names⟩ | continues
      · exact ⟨names, sizes, keys.same agree⟩
      · exact absurd continues keys.left
    · rcases keys_of_same_path starts parts.symm with ⟨agree, sizes, names⟩ | continues
      · exact ⟨names.symm, sizes.symm, keys.same agree.symm⟩
      · exact absurd continues keys.right

theorem cachePath_component {outSize : Nat} {dir key name path : Text} {size : UInt64}
    (made : c64DevicePaletteCachePath outSize dir key name size = some path) :
    ∃ component, path = dir ++ text "/" ++ component ∧ 47 ∉ component ∧ component ≠ text "." ∧
      component ≠ text ".." := by
  obtain ⟨safe, rfl⟩ := c64DevicePaletteCachePath_eq made
  have dash : (45 : UInt8) ∈
      cacheKey key ++ text "-" ++ decimal size.toNat ++ text "-" ++ name := by
    simp [show text "-" = [45] from rfl]
  refine ⟨_, rfl, ?_, ?_, ?_⟩
  · simp only [List.mem_append, not_or]
    refine ⟨⟨⟨⟨?_, by decide⟩, ?_⟩, by decide⟩, ?_⟩
    · exact fun among => absurd (cacheKey_bytes 47 among) (by decide)
    · exact fun among => absurd (decimal_digit among).1 (by decide)
    · -- A safe name has no slash.
      intro among
      unfold c64DevicePaletteNameIsSafe at safe
      split at safe
      · cases safe
      · split at safe
        · cases safe
        · exact absurd (List.all_eq_true.mp safe 47 among) (by decide)
  · intro single
    rw [single] at dash
    exact absurd dash (by decide)
  · intro double
    rw [double] at dash
    exact absurd dash (by decide)

end Paths

section Results

/-- Two devices share no path exactly where their keys are told apart by what a path has of them,
and every path is a file of the folder. -/
theorem cachePaths_private {first second : Text} (someFirst : first ≠ [])
    (someSecond : second ≠ []) :
    (PathsApart first second ↔ KeysApart first second) ∧
      ∀ outSize dir key name size path,
        c64DevicePaletteCachePath outSize dir key name size = some path →
          ∃ component, path = dir ++ text "/" ++ component ∧ 47 ∉ component ∧
            component ≠ text "." ∧ component ≠ text ".." :=
  ⟨pathsApart_iff someFirst someSecond, fun _ _ _ _ _ _ => cachePath_component⟩

/-- The paths of two devices by their serial numbers. -/
theorem serialNumbers_private :
    text "5D0464" ≠ [] ∧ text "5D0465" ≠ [] ∧
      (PathsApart (text "5D0464") (text "5D0465") ↔
        KeysApart (text "5D0464") (text "5D0465")) :=
  have some : text "5D0464" ≠ [] ∧ text "5D0465" ≠ [] := by decide
  ⟨some.1, some.2, (cachePaths_private some.1 some.2).1⟩

/-- The device `dev-5` shares a path with the device `dev`, for another file of another size. -/
theorem dev5_sharesPath :
    c64DevicePaletteCachePath 800 (text "/cache") (text "dev") (text "10-x") 5 =
        some (text "/cache/dev-5-10-x") ∧
      c64DevicePaletteCachePath 800 (text "/cache") (text "dev-5") (text "x") 10 =
        some (text "/cache/dev-5-10-x") ∧
      ¬ PathsApart (text "dev") (text "dev-5") := by
  have first : c64DevicePaletteCachePath 800 (text "/cache") (text "dev") (text "10-x") 5 =
      some (text "/cache/dev-5-10-x") := by decide +kernel
  have second : c64DevicePaletteCachePath 800 (text "/cache") (text "dev-5") (text "x") 10 =
      some (text "/cache/dev-5-10-x") := by decide +kernel
  refine ⟨first, second, fun apart => ?_⟩
  exact absurd (apart _ _ _ _ _ _ _ _ first second).1 (by decide)

end Results

end C64Stream
