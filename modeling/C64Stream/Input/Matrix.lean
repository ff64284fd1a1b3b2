import Mathlib.Tactic

/-! The keyboard matrix of the C64, and the requests that press its keys. -/

namespace C64Stream

section Matrix

variable {value : UInt8}

/-- The dedicated keys with their shifted variants: code, key and shift. -/
def dedicatedKeys : List (UInt8 × String × Bool) :=
  [(0x03, "run_stop", false), (0x0D, "return", false), (0x8D, "return", true),
    (0x11, "cursor_up_down", false), (0x91, "cursor_up_down", true),
    (0x1D, "cursor_left_right", false), (0x9D, "cursor_left_right", true),
    (0x13, "clr_home", false), (0x93, "clr_home", true), (0x14, "inst_del", false),
    (0x94, "inst_del", true), (0x85, "f1", false), (0x89, "f1", true), (0x86, "f3", false),
    (0x8A, "f3", true), (0x87, "f5", false), (0x8B, "f5", true), (0x88, "f7", false),
    (0x8C, "f7", true), (0xA0, "space", true)]

/-- The other characters with a single chord. -/
def punctuationKeys : List (UInt8 × String × Bool) :=
  [(0x20, "space", false), (0x2A, "star", false), (0x2B, "plus", false), (0x2C, "comma", false),
    (0x2D, "minus", false), (0x2E, "period", false), (0x2F, "slash", false),
    (0x3A, "colon", false), (0x3B, "semicolon", false), (0x3C, "comma", true),
    (0x3D, "equals", false), (0x3E, "period", true), (0x3F, "slash", true), (0x40, "at", false),
    (0x5B, "colon", true), (0x5C, "pound", false), (0x5D, "semicolon", true),
    (0x5E, "arrow_up", false), (0x5F, "arrow_left", false)]

def letters : List String :=
  ["a", "b", "c", "d", "e", "f", "g", "h", "i", "j", "k", "l", "m", "n", "o", "p", "q", "r", "s",
    "t", "u", "v", "w", "x", "y", "z"]

def digits : List String := ["0", "1", "2", "3", "4", "5", "6", "7", "8", "9"]

/-- The key of a code and whether it is shifted, if a single chord types it. -/
def petsciiToMatrix (value : UInt8) : Option (String × Bool) :=
  match dedicatedKeys.lookup value with
  | some chord => some chord
  | none =>
    if 0x41 ≤ value ∧ value ≤ 0x5A then
      letters[(value - 0x41).toNat]?.map fun key => (key, false)
    else if 0xC1 ≤ value ∧ value ≤ 0xDA then
      letters[(value - 0xC1).toNat]?.map fun key => (key, true)
    else if 0x61 ≤ value ∧ value ≤ 0x7A then
      letters[(value - 0x61).toNat]?.map fun key => (key, false)
    else if 0x30 ≤ value ∧ value ≤ 0x39 then
      digits[(value - 0x30).toNat]?.map fun key => (key, false)
    else if 0x21 ≤ value ∧ value ≤ 0x29 then
      digits[(value - 0x20).toNat]?.map fun key => (key, true)
    else punctuationKeys.lookup value

/-- All keys of the chords. -/
def chordKeys : List String :=
  (dedicatedKeys ++ punctuationKeys).map (fun chord => chord.2.1) ++ (letters ++ digits)

theorem mem_of_lookup {table : List (UInt8 × String × Bool)} {chord : String × Bool}
    (found : table.lookup value = some chord) : (value, chord) ∈ table := by
  induction table with
  | nil => cases found
  | cons entry table ih =>
    rw [List.lookup_cons] at found
    split at found
    · rename_i same
      obtain rfl := Option.some.inj found
      rw [beq_iff_eq.mp same]
      exact List.mem_cons_self
    · exact List.mem_cons_of_mem _ (ih found)

theorem petsciiToMatrix_key {key : String} {shift : Bool}
    (mapped : petsciiToMatrix value = some (key, shift)) : key ∈ chordKeys := by
  have ofTable : ∀ {table : List (UInt8 × String × Bool)}, table ⊆ dedicatedKeys ++ punctuationKeys →
      table.lookup value = some (key, shift) → key ∈ chordKeys := fun within found =>
    List.mem_append_left _ (List.mem_map_of_mem (within (mem_of_lookup found)))
  have ofRow : ∀ {row : List String}, row ⊆ letters ++ digits → ∀ {index : Nat} {shifted : Bool},
      (row[index]?.map fun key => (key, shifted)) = some (key, shift) → key ∈ chordKeys := by
    intro row within index shifted found
    obtain ⟨_, there, same⟩ := Option.map_eq_some_iff.mp found
    obtain ⟨rfl, -⟩ := Prod.mk.inj same
    exact List.mem_append_right _ (within (List.mem_of_getElem? there))
  unfold petsciiToMatrix at mapped
  split at mapped
  · rename_i found
    exact ofTable (List.subset_append_left _ _) (found.trans mapped)
  -- One case for each range of codes.
  split_ifs at mapped
  · exact ofRow (List.subset_append_left _ _) mapped
  · exact ofRow (List.subset_append_left _ _) mapped
  · exact ofRow (List.subset_append_left _ _) mapped
  · exact ofRow (List.subset_append_right _ _) mapped
  · exact ofRow (List.subset_append_right _ _) mapped
  · exact ofTable (List.subset_append_right _ _) mapped

theorem petsciiToMatrix_length {key : String} {shift : Bool}
    (mapped : petsciiToMatrix value = some (key, shift)) : key.length ≤ 17 := by
  have short : ∀ key ∈ chordKeys, key.length ≤ 17 := by decide +kernel
  exact short key (petsciiToMatrix_key mapped)

end Matrix

section Batch

/-- How a key is moved: tapped, held down or let go. -/
inductive KeyTransition where
  | tap
  | press
  | release
  deriving DecidableEq

def transitionName : KeyTransition → String
  | .press => "press"
  | .release => "release"
  | .tap => "tap"

/-- A byte in the queue, with its place in the sequence of all bytes that were accepted. -/
structure KeyEntry where
  serial : Nat
  byte : UInt8
  transition : KeyTransition
  deriving DecidableEq

def c64RestInputBatchSize : Nat := 64

def jsonSize : Nat := 8192

def snprintf (size : Nat) (text : String) : String := String.ofList (text.toList.take (size - 1))

/-- The text of one event of a request. -/
def restInputEvent (first : Bool) (key : String) (shift : Bool) (transition : KeyTransition) :
    String :=
  (if first then "" else ",") ++ "\x7b\"kind\":\"keyboard\",\"inputs\":[" ++
    (if shift then "\"left_shift\"," else "") ++ "\"" ++ key ++ "\"],\"transition\":\"" ++
    transitionName transition ++ "\"\x7d"

/-- The events of a batch behind the text so far, if every byte has a key and all fits. -/
def appendRestInput : List KeyEntry → Bool → String → Option String
  | [], _, json => some (json ++ snprintf (jsonSize - json.length) "]\x7d")
  | entry :: rest, first, json =>
    match petsciiToMatrix entry.byte with
    | none => none
    | some (key, shift) =>
      let event := restInputEvent first key shift entry.transition
      if event.length ≥ jsonSize - json.length then none
      else appendRestInput rest false (json ++ event)

/-- The request for a batch; none if some byte has no key. -/
def buildRestInputBatch (batch : List KeyEntry) : Option String :=
  if batch.length = 0 ∨ batch.length > c64RestInputBatchSize then none
  else appendRestInput batch true "\x7b\"events\":["

theorem restInputEvent_length {key : String} (short : key.length ≤ 17) (first shift : Bool)
    (transition : KeyTransition) :
    (restInputEvent first key shift transition).length ≤ 100 := by
  unfold restInputEvent
  simp only [String.length_append]
  have pieces : ∀ first shift : Bool, ∀ transition : KeyTransition,
      (if first then "" else ",").length + "\x7b\"kind\":\"keyboard\",\"inputs\":[".length +
        (if shift then "\"left_shift\"," else "").length + "\"".length +
        "\"],\"transition\":\"".length + (transitionName transition).length +
        "\"\x7d".length ≤ 83 := by
    rintro (_ | _) (_ | _) (_ | _ | _) <;> decide +kernel
  have := pieces first shift transition
  omega

theorem appendRestInput_isSome {batch : List KeyEntry} {first : Bool} {json : String}
    (fits : json.length + 100 * batch.length < jsonSize) :
    (appendRestInput batch first json).isSome ↔
      ∀ entry ∈ batch, (petsciiToMatrix entry.byte).isSome := by
  -- The induction is on the batch; every event leaves room for those behind it.
  induction batch generalizing first json with
  | nil => exact ⟨fun _ => nofun, fun _ => rfl⟩
  | cons entry rest ih =>
    rw [List.length_cons] at fits
    unfold appendRestInput
    cases mapped : petsciiToMatrix entry.byte with
    | none =>
      constructor
      · exact nofun
      · intro all
        have := all entry List.mem_cons_self
        rw [mapped] at this
        cases this
    | some chord =>
      obtain ⟨key, shift⟩ := chord
      have event := restInputEvent_length (petsciiToMatrix_length mapped) first shift
        entry.transition
      dsimp only
      rw [if_neg (by omega), ih (by rw [String.length_append]; omega), List.forall_mem_cons, mapped]
      exact ⟨fun others => ⟨rfl, others⟩, fun all => all.2⟩

theorem buildRestInputBatch_isSome {batch : List KeyEntry} (nonempty : batch ≠ [])
    (fits : batch.length ≤ c64RestInputBatchSize) :
    (buildRestInputBatch batch).isSome ↔
      ∀ entry ∈ batch, (petsciiToMatrix entry.byte).isSome := by
  have positive := List.length_pos_iff.mpr nonempty
  unfold buildRestInputBatch
  rw [if_neg (by omega)]
  refine appendRestInput_isSome ?_
  have start : "\x7b\"events\":[".length = 11 := by decide +kernel
  unfold c64RestInputBatchSize at fits
  unfold jsonSize
  omega

end Batch

end C64Stream
