import C64Stream.Script.Value

/-! Paths in scripts: which of them belong to the device, and how the others are resolved. -/

namespace C64Stream

section Resolution

/-- The systems whose paths differ. -/
inductive Platform where
  | posix
  | windows
  deriving DecidableEq

def slash : UInt8 := 47

def backslash : UInt8 := 92

def colon : UInt8 := 58

/-- Whether a byte separates the parts of a path. -/
def isSeparator (c : UInt8) : Bool :=
  c == slash || c == backslash

/-- Whether a byte is a letter. -/
def isLetter (c : UInt8) : Bool :=
  decide (65 ≤ toUpper c ∧ toUpper c ≤ 90)

def c64uPrefix : Text := text "c64u:"

/-- What follows the prefix of a device path, if the caller gave a place for the answer. -/
def isC64uPath (path : Text) (outGiven : Bool) : Option Text :=
  -- Without a place for the rest of the path the answer is no, whatever the path is.
  if outGiven = false then none
  else if path.length < c64uPrefix.length then none
  else if equalsIgnoreCase (path.take c64uPrefix.length) c64uPrefix then
    some (path.drop c64uPrefix.length)
  else none

/-- Whether a path does not depend on a directory. -/
def pathIsAbsolute (platform : Platform) (path : Text) : Bool :=
  match platform, path with
  | .posix, first :: _ => first == slash
  | .windows, first :: second :: third :: _ =>
    (isLetter first && second == colon && isSeparator third) ||
      (first == backslash && second == backslash)
  | .windows, [first, second] => first == backslash && second == backslash
  | _, _ => false

/-- A string that is printed into a buffer, and whether all of it fits. -/
def printed (outSize : Nat) (string : Text) : Bool × Text :=
  (decide (string.length < outSize), string.take (outSize - 1))

/-- Resolve a path of a script against its directory; there is none without a runtime. -/
def c64scriptResolveScriptPath (platform : Platform) (scriptDir : Option Text) (path : Text)
    (outSize : Nat) : Bool × Text :=
  if outSize = 0 then (false, [])
  else if pathIsAbsolute platform path || (isC64uPath path false).isSome ||
      scriptDir.getD [] == [] then
    printed outSize path
  else
    let dir := scriptDir.getD []
    let dirHasSep := dir.getLast?.any isSeparator
    let pathHasSep := path.head?.any isSeparator
    let pathStart := if dirHasSep && pathHasSep then path.tail else path
    if !dirHasSep && !pathHasSep then printed outSize (dir ++ slash :: pathStart)
    else printed outSize (dir ++ pathStart)

end Resolution

section Meaning

/-- A path on the device, whatever the case of its prefix. -/
def IsDevicePath (path : Text) : Prop :=
  (path.take 5).map toUpper = text "C64U:"

instance (path : Text) : Decidable (IsDevicePath path) :=
  inferInstanceAs (Decidable (_ = _))

/-- A directory without the separator at its end. -/
def withoutEnd (dir : Text) : Text :=
  if dir.getLast?.any isSeparator then dir.dropLast else dir

/-- A path without the separator at its start. -/
def withoutStart (path : Text) : Text :=
  if path.head?.any isSeparator then path.tail else path

/-- The separator between a directory and a path: one that is there, or else a slash. -/
def separatorBetween (dir path : Text) : UInt8 :=
  ((dir.getLast?.filter isSeparator).or (path.head?.filter isSeparator)).getD slash

/-- A directory and a path joined by one separator. -/
def joinPath (dir path : Text) : Text :=
  withoutEnd dir ++ separatorBetween dir path :: withoutStart path

/-- What a path of a script stands for. -/
def meantPath (platform : Platform) (dir path : Text) : Text :=
  -- A path that does not depend on the directory of the script is left as it is.
  if pathIsAbsolute platform path ∨ IsDevicePath path ∨ dir = [] then path
  else joinPath dir path

theorem joinPath_eq (dir path : Text) :
    joinPath dir path =
      if dir.getLast?.any isSeparator then
        dir ++ (if path.head?.any isSeparator then path.tail else path)
      else if path.head?.any isSeparator then dir ++ path
      else dir ++ slash :: path := by
  -- The separator that is kept is the one of the directory, then the one of the path.
  unfold joinPath withoutEnd withoutStart separatorBetween
  by_cases atEnd : dir.getLast?.any isSeparator = true
  · obtain ⟨last, found, separates⟩ := Option.any_eq_true _ _ |>.mp atEnd
    rw [if_pos atEnd, if_pos atEnd, found, Option.filter_some, if_pos separates]
    conv_rhs => rw [← List.dropLast_append_getLast? last found]
    rw [List.append_assoc]
    rfl
  · have noEnd : dir.getLast?.filter isSeparator = none := by
      cases found : dir.getLast? with
      | none => rfl
      | some last => simpa [found, Option.filter_some] using atEnd
    rw [if_neg atEnd, if_neg atEnd, noEnd]
    by_cases atStart : path.head?.any isSeparator = true
    · obtain ⟨first, found, separates⟩ := Option.any_eq_true _ _ |>.mp atStart
      rw [if_pos atStart, if_pos atStart, found, Option.filter_some, if_pos separates]
      obtain ⟨rest, rfl⟩ := List.head?_eq_some_iff.mp found
      rfl
    · have noStart : path.head?.filter isSeparator = none := by
        cases found : path.head? with
        | none => rfl
        | some first => simpa [found, Option.filter_some] using atStart
      rw [if_neg atStart, if_neg atStart, noStart]
      rfl

theorem IsDevicePath.shape {path : Text} (device : IsDevicePath path) :
    ∃ first rest, path = first :: 54 :: rest ∧ toUpper first = 67 := by
  -- The prefix gives the bytes up to their case, and a digit has only one.
  unfold IsDevicePath at device
  match path with
  | [] | [_] =>
    have short := congrArg List.length device
    revert short
    nofun
  | first :: second :: rest =>
    rw [List.take_succ_cons, List.take_succ_cons, List.map_cons, List.map_cons] at device
    have upper : toUpper first = 67 := (List.cons.inj device).1
    have digit : toUpper second = 54 := (List.cons.inj (List.cons.inj device).2).1
    refine ⟨first, rest, ?_, upper⟩
    have same : second = 54 := by
      unfold toUpper at digit
      split at digit <;> grind
    rw [same]

theorem IsDevicePath.relative {path : Text} (device : IsDevicePath path) (platform : Platform) :
    pathIsAbsolute platform path = false ∧ path.head?.any isSeparator = false := by
  obtain ⟨first, rest, rfl, upper⟩ := device.shape
  have noSlash : first ≠ slash := by rintro rfl; exact absurd upper (by decide)
  have noBackslash : first ≠ backslash := by rintro rfl; exact absurd upper (by decide)
  have plain : isSeparator first = false := by simp [isSeparator, noSlash, noBackslash]
  refine ⟨?_, by simpa using plain⟩
  cases platform with
  | posix => simpa [pathIsAbsolute] using noSlash
  | windows => cases rest <;> simp [pathIsAbsolute, colon, backslash]

end Meaning

section Results

variable (platform : Platform) (scriptDir : Option Text) (path : Text) (outSize : Nat)

theorem printed_fits {outSize : Nat} {string : Text} (fits : string.length < outSize) :
    printed outSize string = (true, string) := by
  rw [printed, List.take_of_length_le (by omega), decide_eq_true fits]

theorem isC64uPath_unanswered : isC64uPath path false = none :=
  rfl

theorem resolve_joined (relative : pathIsAbsolute platform path = false)
    (dir : scriptDir.getD [] ≠ []) (room : outSize ≠ 0) :
    c64scriptResolveScriptPath platform scriptDir path outSize =
      printed outSize (joinPath (scriptDir.getD []) path) := by
  -- The branches of the code are the cases of the join.
  have depends : (pathIsAbsolute platform path || (isC64uPath path false).isSome ||
      scriptDir.getD [] == []) = false := by
    rw [relative, isC64uPath_unanswered]
    simpa using dir
  unfold c64scriptResolveScriptPath
  rw [if_neg room, depends, joinPath_eq]
  dsimp only
  cases (scriptDir.getD []).getLast?.any isSeparator <;>
    cases path.head?.any isSeparator <;> rfl

theorem resolve_kept (kept : pathIsAbsolute platform path = true ∨ scriptDir.getD [] = [])
    (room : outSize ≠ 0) :
    c64scriptResolveScriptPath platform scriptDir path outSize = printed outSize path := by
  unfold c64scriptResolveScriptPath
  rw [if_neg room, if_pos]
  rcases kept with absolute | none
  · simp [absolute]
  · simp [none]

/-- A script path that fits its buffer is resolved as it is meant, exactly unless it is a device
path and the script has a directory. -/
theorem scriptPath_resolved_iff
    (fits : (meantPath platform (scriptDir.getD []) path).length < outSize) :
    c64scriptResolveScriptPath platform scriptDir path outSize =
        (true, meantPath platform (scriptDir.getD []) path) ↔
      ¬ (IsDevicePath path ∧ scriptDir.getD [] ≠ []) := by
  have room : outSize ≠ 0 := by omega
  by_cases dir : scriptDir.getD [] = []
  · -- Without a directory every path is kept.
    have meant : meantPath platform (scriptDir.getD []) path = path := if_pos (.inr (.inr dir))
    rw [meant] at fits ⊢
    rw [resolve_kept platform scriptDir path outSize (.inr dir) room, printed_fits fits]
    simp [dir]
  by_cases device : IsDevicePath path
  · -- The test for device paths never says yes, so that the directory comes before the path.
    have relative := (device.relative platform).1
    have meant : meantPath platform (scriptDir.getD []) path = path :=
      if_pos (.inr (.inl device))
    rw [meant, resolve_joined platform scriptDir path outSize relative dir room]
    refine iff_of_false (fun same => ?_) fun kept => kept ⟨device, dir⟩
    have fitting : (joinPath (scriptDir.getD []) path).length < outSize := by
      simpa [printed] using congrArg Prod.fst same
    rw [printed_fits fitting] at same
    have nonempty := List.length_pos_iff.mpr dir
    have longer : path.length < (joinPath (scriptDir.getD []) path).length := by
      rw [joinPath_eq, (device.relative platform).2]
      split <;>
        simp only [Bool.false_eq_true, if_false, List.length_append, List.length_cons] <;> omega
    rw [(Prod.mk.inj same).2] at longer
    exact Nat.lt_irrefl _ longer
  · refine iff_of_true ?_ fun rejected => device rejected.1
    by_cases absolute : pathIsAbsolute platform path = true
    · have meant : meantPath platform (scriptDir.getD []) path = path := if_pos (.inl absolute)
      rw [meant] at fits ⊢
      rw [resolve_kept platform scriptDir path outSize (.inl absolute) room, printed_fits fits]
    · have meant : meantPath platform (scriptDir.getD []) path =
          joinPath (scriptDir.getD []) path :=
        if_neg fun cases => cases.elim absolute fun cases => cases.elim device dir
      rw [meant] at fits ⊢
      rw [resolve_joined platform scriptDir path outSize (by simpa using absolute) dir room,
        printed_fits fits]

/-- A path of the host is joined to the directory of the script. -/
theorem hostPath_resolved :
    c64scriptResolveScriptPath .posix (some (text "/scripts/")) (text "out.png") 1024 =
      (true, text "/scripts/out.png") :=
  (scriptPath_resolved_iff .posix (some (text "/scripts/")) (text "out.png") 1024
    (by decide)).mpr (by decide)

/-- A path of the device is rewritten into one of the host. -/
theorem devicePath_rewritten :
    c64scriptResolveScriptPath .posix (some (text "/scripts")) (text "c64u:/Usb0/a.prg") 1024 =
        (true, text "/scripts/c64u:/Usb0/a.prg") ∧
      meantPath .posix (text "/scripts") (text "c64u:/Usb0/a.prg") = text "c64u:/Usb0/a.prg" ∧
      c64scriptResolveScriptPath .posix (some (text "/scripts")) (text "c64u:/Usb0/a.prg") 1024 ≠
        (true, meantPath .posix (text "/scripts") (text "c64u:/Usb0/a.prg")) := by
  decide

end Results

end C64Stream
