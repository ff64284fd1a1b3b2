import C64Stream.Device.ProfileFiles
import C64Stream.Lib.Hex
import C64Stream.Script.StatementArguments

/-! Which statements act on all of their text, and from which lengths on they act on a part. -/

namespace C64Stream

variable {R : Type} [ScriptNumber R]

section Statements

/-- A statement that hands on a text, with what it was given. -/
inductive ArgumentStatement (R : Type) where
  | runlocal (path args statusVar outputVar : Text)
  | load (filename : Text) (device : Option (Value R))
  | run (filename : Text) (device : Option (Value R))
  | type (string : Text)
  | key (name : Text)
  | switchDevice (reference : Text)
  | effect (preset : Text)
  | effectparam (param : Text) (value : R)
  | palette (name : Text)

/-- Execute a statement. -/
def ArgumentStatement.perform (statement : ArgumentStatement R) (world : StatementWorld R) :
    StatementResult R :=
  match statement with
  | .runlocal path args statusVar outputVar =>
    opRunlocal world (.string path) (.string args) (.string statusVar) (.string outputVar)
  | .load filename device => opLoad world (.string filename) device
  | .run filename device => opRun world (some (.string filename, device))
  | .type string => opType world (.string string)
  | .key name => opKey world (.string name)
  | .switchDevice reference => opSwitchDevice world (.string reference)
  | .effect preset => opEffect world (.string preset)
  | .effectparam param value => opEffectparam world (.string param) (.number value)
  | .palette name => opPalette world (.string name)

/-- A text that is typed has no zero in it. -/
def ArgumentStatement.NoZero (statement : ArgumentStatement R) : Prop :=
  match statement with
  | .load filename _ => 0 ∉ filename
  | .run filename _ => 0 ∉ filename
  | .type string => 0 ∉ string
  | _ => True

/-- The program that a path stands for, however long it is. -/
def wholePath (world : StatementWorld R) (path : Text) : Text :=
  let dir := world.scriptDir.getD []
  if (path.head? = some 46 ∨ 47 ∈ path ∨ 92 ∈ path) ∧
      pathIsAbsolute world.platform path = false ∧ dir ≠ [] then joinPath dir path
  else path

/-- What a statement does with all of its text. -/
def ArgumentStatement.Whole (statement : ArgumentStatement R) (world : StatementWorld R)
    (effects : List (StatementEffect R)) : Prop :=
  match statement with
  | .runlocal path args _ _ => effects = [.command (commandLine (wholePath world path) args)]
  | .load filename device => ∃ number, deviceNumber device (text "LOAD") = .ok number ∧
      effects = (loadLine filename number).map .typed
  | .run filename device => ∃ number, deviceNumber device (text "RUN") = .ok number ∧
      effects = (loadLine filename number ++ runLine).map .typed
  | .type string => effects = string.map .typed
  | .key name => ∃ symbol ∈ symbolicKeys,
      text symbol.1 = name.map toUpper ∧ effects = [.typed symbol.2]
  | .switchDevice reference => ∃ device ∈ world.devices,
      (device.id = reference ∨ device.host = reference) ∧
        effects = [.update (text "c64_device") (.string device.id)]
  | .effect preset => effects = [.update (text "crt_preset") (.string preset)]
  | .effectparam param value => effects = [.update param
      (if param = text "preserve_size" then .bool !(isZero value) else .double value)]
  | .palette name => effects = [.update (text "palette") (.string (namedPalette name))]

/-- A statement acts on all of its text, or ends the script before anything has happened. -/
def ArgumentStatement.NeverCut (statement : ArgumentStatement R) (world : StatementWorld R) :
    Prop :=
  let (after, result) := statement.perform world
  (∃ effects, statement.Whole world effects ∧ after.effects = world.effects ++ effects) ∨
    (∃ message, result = .error message) ∧ after.effects = world.effects ∧
      after.assigned = world.assigned

/-- The text fits, or nothing comes of the part that fits. -/
def ArgumentStatement.Fits (statement : ArgumentStatement R) (world : StatementWorld R) : Prop :=
  -- A line that is cut has 255 bytes, and is typed if the queue has room for them.
  let lineFits (device : Option (Value R)) (what : Text) (line : Int → Text) : Prop :=
    ∀ number, deviceNumber device what = .ok number → world.keyboard = true →
      255 ≤ world.room world.submissions → (line number).length ≤ 255
  match statement with
  | .runlocal path args _ _ => ∀ program, execPath world path = some program →
      world.shell ((commandLine program args).take 2047) ≠ .notOpened →
        (commandLine program args).length ≤ 2047
  | .load filename device => lineFits device (text "LOAD") (loadLine filename)
  | .run filename device =>
    lineFits device (text "RUN") fun number => loadLine filename number ++ runLine
  | .type string => world.keyboard = true →
      min 255 string.length ≤ world.room world.submissions → ∀ i, 255 * i < string.length →
        min 255 (string.length - 255 * i) ≤ world.room (world.submissions + i)
  | .key _ => True
  | .switchDevice _ => world.obsSource = true
  | .effect preset => world.obsSource = true ∧ (world.updatable = true → preset.length ≤ 255)
  | .effectparam param _ =>
    world.obsSource = true ∧ (world.updatable = true → param.length ≤ 127)
  | .palette name => world.obsSource = true ∧ (world.updatable = true → name.length ≤ 255)

end Statements

section Updates

variable {world : StatementWorld R}

omit [ScriptNumber R] in
theorem updateSetting_iff {key : Text} {value : UpdateValue R} {failure : Text}
    (source : world.obsSource = true) :
    ((updateSetting world key value failure).1.effects = world.effects ++ [.update key value] ∨
      (∃ message, (updateSetting world key value failure).2 = .error message) ∧
        (updateSetting world key value failure).1.effects = world.effects ∧
        (updateSetting world key value failure).1.assigned = world.assigned) ↔
      (world.updatable = true → key = [] ∨ key.length ≤ 127 ∧ value.held = value) := by
  rw [updateSetting, c64ScriptQueueSourceUpdate]
  by_cases refused : key = [] ∨ world.updatable = false
  · -- Nothing is queued.
    rw [if_pos (.inr refused)]
    refine ⟨fun _ updatable => .inl ?_, fun _ => .inr ⟨⟨failure, rfl⟩, rfl, rfl⟩⟩
    rcases refused with empty | gone
    · exact empty
    · rw [gone] at updatable
      cases updatable
  · rw [not_or] at refused
    rw [if_neg (by simp [source, refused])]
    constructor
    · rintro (same | ⟨⟨message, failed⟩, -, -⟩) updatable
      · have same := List.append_cancel_left same
        simp only [List.cons.injEq, StatementEffect.update.injEq, and_true] at same
        exact .inr ⟨(List.take_eq_self_iff _).mp same.1, same.2⟩
      · cases failed
    · intro fits
      rcases fits (by simpa using refused.2) with empty | ⟨short, same⟩
      · exact absurd empty refused.1
      · left
        simp only [same, List.take_of_length_le short]

omit [ScriptNumber R] in
theorem held_string_iff {string : Text} :
    (UpdateValue.string string : UpdateValue R).held = .string string ↔ string.length ≤ 255 := by
  rw [UpdateValue.held, UpdateValue.string.injEq, List.take_eq_self_iff]

end Updates

section Typing

variable {world : StatementWorld R}

omit [ScriptNumber R] in
theorem queue_text (keyboard : world.keyboard = true) {bytes : Text} (short : bytes.length ≤ 255)
    (noZero : 0 ∉ bytes) :
    c64scriptQueueKeyboardOutput world (.text bytes) =
      let tried := { world with submissions := world.submissions + 1 }
      if world.room world.submissions < bytes.length then
        (tried, .error (text "Keyboard input queue rejected output"))
      else ({ tried with effects := tried.effects ++ bytes.map .typed }, .ok ()) := by
  have all : ∀ byte ∈ bytes, decide (byte ≠ 0) = true :=
    fun byte among => decide_eq_true fun zero => noZero (zero ▸ among)
  have whole : outputBytes (.text bytes) = some bytes := by
    rw [outputBytes, List.take_of_length_le (by rw [outputTextSize]; omega),
      List.takeWhile_eq_self_iff.mpr all]
  rw [c64scriptQueueKeyboardOutput, if_neg (by simp [keyboard]), whole]

theorem zero_not_mem_signedDecimal (n : Int) : 0 ∉ signedDecimal n := by
  have digits : ∀ n, (0 : UInt8) ∉ decimal n := by
    intro n among
    exact absurd (decimal_digit among).1 (by decide)
  rw [signedDecimal]
  split_ifs
  · rw [List.mem_append, not_or]
    exact ⟨by decide, digits _⟩
  · exact digits _

theorem zero_not_mem_loadLine {filename : Text} (noZero : 0 ∉ filename) (number : Int) :
    0 ∉ loadLine filename number := by
  simp only [loadLine, List.mem_append, not_or]
  exact ⟨⟨⟨⟨⟨by decide, noZero⟩, by decide⟩, zero_not_mem_signedDecimal number⟩, by decide⟩,
    by decide⟩

theorem typeFileLine_iff {filename : Text} {device : Option (Value R)} {what : Text}
    {line : Text → Int → Text} (noZero : ∀ number, 0 ∉ line filename number) :
    let (after, result) := typeFileLine world (.string filename) device what line
    ((∃ number, deviceNumber device what = .ok number ∧
        after.effects = world.effects ++ (line filename number).map .typed) ∨
      (∃ message, result = .error message) ∧ after.effects = world.effects ∧
        after.assigned = world.assigned) ↔
      ∀ number, deviceNumber device what = .ok number → world.keyboard = true →
        255 ≤ world.room world.submissions → (line filename number).length ≤ 255 := by
  rw [typeFileLine, requireString]
  dsimp only
  -- Whatever is wrong with the device, nothing is typed.
  cases required : device.elim (.ok ()) fun value => (requireNumber value what).map fun _ => ()
    with
  | error message =>
    have refused : ∀ number, deviceNumber device what ≠ .ok number := by
      intro number accepted
      cases device with
      | none => cases required
      | some value => cases value <;> cases required <;> cases accepted
    exact ⟨fun _ number accepted => absurd accepted (refused number),
      fun _ => .inr ⟨⟨message, rfl⟩, rfl, rfl⟩⟩
  | ok _ =>
    dsimp only
    by_cases keyboard : world.keyboard = true
    · rw [if_neg (by simp [keyboard])]
      cases converted : deviceNumber device what with
      | error message =>
        exact ⟨fun _ number accepted => (by cases accepted),
          fun _ => .inr ⟨⟨message, rfl⟩, rfl, rfl⟩⟩
      | ok number =>
        have noZero' : (0 : UInt8) ∉ (line filename number).take 255 :=
          fun among => noZero number (List.mem_of_mem_take among)
        dsimp only
        rw [outputTextSize, queue_text keyboard (by rw [List.length_take]; omega) noZero']
        dsimp only
        split_ifs with full
        · -- The queue has no room for the part that fits.
          refine ⟨fun _ other same _ room => ?_, fun _ => .inr ⟨⟨_, rfl⟩, rfl, rfl⟩⟩
          cases same
          rw [List.length_take] at full
          omega
        · constructor
          · rintro (⟨other, same, whole⟩ | ⟨⟨message, failed⟩, -, -⟩) number' same' _ _
            · cases same
              cases same'
              have lengths := congrArg List.length (List.append_cancel_left whole)
              simp only [List.length_map, List.length_take] at lengths
              omega
            · cases failed
          · intro fits
            refine .inl ⟨number, rfl, ?_⟩
            by_cases short : (line filename number).length ≤ 255
            · rw [List.take_of_length_le short]
            · rw [List.length_take] at full
              exact absurd (fits number rfl keyboard (by omega)) short
    · rw [if_pos (by simpa using keyboard)]
      exact ⟨fun _ _ _ there => absurd there keyboard,
        fun _ => .inr ⟨⟨_, rfl⟩, rfl, rfl⟩⟩

omit [ScriptNumber R] in
theorem typePieces_cases (string : Text) : ∀ world : StatementWorld R, world.keyboard = true →
    0 ∉ string →
    (∀ i, 255 * i < string.length →
        min 255 (string.length - 255 * i) ≤ world.room (world.submissions + i)) ∧
      (typePieces world string).1.effects = world.effects ++ string.map .typed ∨
    ∃ k, 255 * k < string.length ∧
      world.room (world.submissions + k) < min 255 (string.length - 255 * k) ∧
      (∀ i < k, min 255 (string.length - 255 * i) ≤ world.room (world.submissions + i)) ∧
      (∃ message, (typePieces world string).2 = .error message) ∧
      (typePieces world string).1.effects = world.effects ++ (string.take (255 * k)).map .typed ∧
      (typePieces world string).1.assigned = world.assigned := by
  -- The induction is on the length of the text, of which each piece takes a part.
  induction length : string.length using Nat.strong_induction_on generalizing string with
  | _ n ih =>
    intro world keyboard noZero
    subst length
    rw [typePieces]
    by_cases empty : string = []
    · rw [if_pos empty, empty]
      refine .inl ⟨fun i inside => ?_, ?_⟩
      · rw [List.length_nil] at inside
        omega
      · rw [List.map_nil, List.append_nil]
    · have some := List.length_pos_iff.mpr empty
      have noZero' : (0 : UInt8) ∉ string.take 255 := fun among => noZero (List.mem_of_mem_take among)
      have short : (string.take 255).length ≤ 255 := by rw [List.length_take]; omega
      have length : (string.take 255).length = min 255 string.length := List.length_take
      rw [if_neg empty, outputTextSize, queue_text keyboard short noZero']
      dsimp only
      by_cases full : world.room world.submissions < (string.take 255).length
      · rw [if_pos full]
        exact .inr ⟨0, by omega, by rw [Nat.add_zero]; omega, by simp, ⟨_, rfl⟩, by simp, rfl⟩
      · rw [if_neg full]
        dsimp only
        have rest := ih (string.drop 255).length (by rw [List.length_drop]; omega)
          (string.drop 255) rfl
          { world with
            submissions := world.submissions + 1
            effects := world.effects ++ (string.take 255).map .typed }
          keyboard fun among => noZero (List.mem_of_mem_drop among)
        rcases rest with ⟨fits, typed⟩ | ⟨k, inside, stopped, earlier, failed, typed, assigned⟩
        · refine .inl ⟨fun i inside => ?_, ?_⟩
          · -- The first piece is the one that was queued here.
            cases i with
            | zero => rw [Nat.add_zero]; omega
            | succ i =>
              have here := fits i (by rw [List.length_drop]; omega)
              dsimp only at here
              rw [List.length_drop, Nat.add_assoc, Nat.add_comm 1 i] at here
              omega
          · rw [typed, List.append_assoc, ← List.map_append, List.take_append_drop]
        · refine .inr ⟨k + 1, ?_, ?_, fun i below => ?_, failed, ?_, assigned⟩
          · rw [List.length_drop] at inside
            omega
          · dsimp only at stopped
            rw [List.length_drop, Nat.add_assoc, Nat.add_comm 1 k] at stopped
            omega
          · cases i with
            | zero => rw [Nat.add_zero]; omega
            | succ i =>
              have here := earlier i (by omega)
              dsimp only at here
              rw [List.length_drop, Nat.add_assoc, Nat.add_comm 1 i] at here
              omega
          · have pieces : string.take (255 * (k + 1)) =
                string.take 255 ++ (string.drop 255).take (255 * k) := by
              rw [Nat.mul_succ, Nat.add_comm, List.take_add]
            rw [typed, List.append_assoc, ← List.map_append, pieces]

end Typing

section Shell

variable {world : StatementWorld R} {path args statusVar outputVar : Text}

omit [ScriptNumber R] in
theorem execPath_whole {program : Text} (resolved : execPath world path = some program) :
    program = wholePath world path := by
  rw [execPath] at resolved
  rw [wholePath]
  by_cases isPath : path.head? = some 46 ∨ 47 ∈ path ∨ 92 ∈ path
  · rw [if_pos isPath] at resolved
    have printedWhole : ∀ {string}, printed 1024 string = (true, program) → program = string := by
      intro string made
      rw [printed, Prod.mk.injEq, decide_eq_true_iff] at made
      rw [← made.2, List.take_of_length_le (by omega)]
    cases answer : c64scriptResolveScriptPath world.platform world.scriptDir path 1024 with
    | mk fits found =>
      rw [answer] at resolved
      cases fits with
      | false => cases resolved
      | true =>
        obtain rfl := Option.some.inj resolved
        by_cases depends : pathIsAbsolute world.platform path = false ∧
            world.scriptDir.getD [] ≠ []
        · rw [resolve_joined _ _ _ _ depends.1 depends.2 (by decide)] at answer
          rw [if_pos ⟨isPath, depends⟩]
          exact printedWhole answer
        · have kept : pathIsAbsolute world.platform path = true ∨
              world.scriptDir.getD [] = [] := by
            rw [not_and_or, Bool.not_eq_false, not_not] at depends
            exact depends
          rw [resolve_kept _ _ _ _ kept (by decide)] at answer
          rw [if_neg fun both => depends both.2]
          exact printedWhole answer
  · rw [if_neg isPath] at resolved
    rw [if_neg fun both => isPath both.1]
    exact (Option.some.inj resolved).symm

theorem runlocal_iff :
    (ArgumentStatement.runlocal path args statusVar outputVar : ArgumentStatement R).NeverCut world ↔
      (ArgumentStatement.runlocal path args statusVar outputVar : ArgumentStatement R).Fits
        world := by
  simp only [ArgumentStatement.NeverCut, ArgumentStatement.perform, ArgumentStatement.Whole,
    ArgumentStatement.Fits, opRunlocal, commandSize]
  cases resolved : execPath world path with
  | none => exact ⟨fun _ program found => (by cases found), fun _ => .inr ⟨⟨_, rfl⟩, rfl, rfl⟩⟩
  | some program =>
    have whole := execPath_whole resolved
    have cut : ∀ {line : Text}, world.effects ++ [StatementEffect.command (line.take 2047)] =
        world.effects ++ [.command line] ↔ line.length ≤ 2047 := by
      intro line
      rw [List.append_cancel_left_eq, List.singleton_inj, StatementEffect.command.injEq,
        List.take_eq_self_iff]
    have changed : ∀ {line : Text},
        world.effects ++ [StatementEffect.command line] ≠ world.effects := by
      intro line same
      have := congrArg List.length same
      rw [List.length_append, List.length_singleton] at this
      omega
    simp only [exists_eq_left, Option.some.injEq, forall_eq', ← whole]
    cases reply : world.shell ((commandLine program args).take 2047) with
    | notOpened =>
      exact ⟨fun _ opened => absurd rfl opened, fun _ => .inr ⟨⟨_, rfl⟩, rfl, rfl⟩⟩
    | noMemory =>
      refine ⟨fun runs _ => ?_, fun fits => .inl (cut.mpr (fits (by simp)))⟩
      rcases runs with runs | ⟨-, same, -⟩
      · exact cut.mp runs
      · exact absurd same changed
    | finished output exitCode =>
      refine ⟨fun runs _ => ?_, fun fits => .inl (cut.mpr (fits (by simp)))⟩
      rcases runs with runs | ⟨-, same, -⟩
      · exact cut.mp runs
      · exact absurd same changed

end Shell

section Names

variable {world : StatementWorld R}

theorem lookupSymbolicKey_upper (name : Text) :
    lookupSymbolicKey (String.ofList ((name.map toUpper).map fun byte => Char.ofNat byte.toNat)) =
      0 := by
  have first : ∀ entry ∈ symbolicKeys, entry.1.toList.head? = some 'c' :=
    forall_mem_of_all rfl
  have capital : ∀ byte : UInt8, Char.ofNat (toUpper byte).toNat ≠ 'c' :=
    forall_byte (by decide +kernel)
  have none : symbolicKeys.lookup
      (String.ofList ((name.map toUpper).map fun byte => Char.ofNat byte.toNat)) = none := by
    rw [List.lookup_eq_none_iff]
    intro entry among
    rw [bne_iff_ne]
    intro same
    have start := first entry among
    rw [← same, String.toList_ofList] at start
    cases name with
    | nil => cases start
    | cons byte name => exact capital byte (Option.some.inj start)
  rw [lookupSymbolicKey, none]
  rfl

theorem key_neverCut (name : Text) :
    (ArgumentStatement.key name : ArgumentStatement R).NeverCut world := by
  simp only [ArgumentStatement.NeverCut, ArgumentStatement.perform, opKey]
  right
  by_cases keyboard : world.keyboard = false
  · rw [if_pos keyboard]
    exact ⟨⟨_, rfl⟩, rfl, rfl⟩
  · rw [if_neg keyboard, c64scriptQueueKeyboardOutput, if_neg keyboard]
    simp only [outputBytes, lookupSymbolicKey_upper, if_true]
    exact ⟨⟨_, rfl⟩, trivial, trivial⟩

end Names

section Results

variable {world : StatementWorld R}

theorem fileLine_iff {filename : Text} {device : Option (Value R)} {what : Text}
    {line : Text → Int → Text} (noZero : ∀ number, 0 ∉ line filename number) :
    let (after, result) := typeFileLine world (.string filename) device what line
    ((∃ effects, (∃ number, deviceNumber device what = .ok number ∧
        effects = (line filename number).map .typed) ∧ after.effects = world.effects ++ effects) ∨
      (∃ message, result = .error message) ∧ after.effects = world.effects ∧
        after.assigned = world.assigned) ↔
      ∀ number, deviceNumber device what = .ok number → world.keyboard = true →
        255 ≤ world.room world.submissions → (line filename number).length ≤ 255 := by
  have same : ∀ after : StatementWorld R,
      (∃ effects, (∃ number, deviceNumber device what = .ok number ∧
        effects = (line filename number).map .typed) ∧ after.effects = world.effects ++ effects) ↔
      ∃ number, deviceNumber device what = .ok number ∧
        after.effects = world.effects ++ (line filename number).map .typed := by
    intro after
    constructor
    · rintro ⟨effects, ⟨number, converted, rfl⟩, typed⟩
      exact ⟨number, converted, typed⟩
    · rintro ⟨number, converted, typed⟩
      exact ⟨_, ⟨number, converted, rfl⟩, typed⟩
  have exactly := @typeFileLine_iff R _ world filename device what line noZero
  dsimp only at exactly ⊢
  rw [same]
  exact exactly

theorem type_iff {string : Text} (noZero : 0 ∉ string) :
    (ArgumentStatement.type string : ArgumentStatement R).NeverCut world ↔
      (ArgumentStatement.type string : ArgumentStatement R).Fits world := by
  simp only [ArgumentStatement.NeverCut, ArgumentStatement.perform, ArgumentStatement.Whole,
    ArgumentStatement.Fits, exists_eq_left, opType]
  by_cases keyboard : world.keyboard = true
  · rw [if_neg (by simp [keyboard])]
    rcases typePieces_cases string world keyboard noZero with
      ⟨fits, typed⟩ | ⟨k, inside, stopped, earlier, failed, typed, assigned⟩
    · exact ⟨fun _ _ _ => fits, fun _ => .inl typed⟩
    · constructor
      · rintro (whole | ⟨-, same, -⟩) _ first
        · -- Only a part of the text was typed.
          rw [typed] at whole
          have lengths := congrArg List.length (List.append_cancel_left whole)
          simp only [List.length_map, List.length_take] at lengths
          omega
        · -- Nothing was typed, so the first piece found no room.
          rw [typed] at same
          have lengths := congrArg List.length same
          simp only [List.length_append, List.length_map, List.length_take] at lengths
          have none : k = 0 := by omega
          rw [none, Nat.add_zero] at stopped
          omega
      · intro fits
        by_cases first : min 255 string.length ≤ world.room world.submissions
        · exact absurd (fits keyboard first k inside) (by omega)
        · -- The first piece found no room, so it is the one that stopped.
          cases k with
          | zero =>
            refine .inr ⟨failed, ?_, assigned⟩
            rw [typed]
            simp
          | succ k =>
            have here := earlier 0 (by omega)
            rw [Nat.add_zero] at here
            omega
  · rw [if_pos (by simpa using keyboard)]
    exact ⟨fun _ there => absurd there keyboard, fun _ => .inr ⟨⟨_, rfl⟩, rfl, rfl⟩⟩

omit [ScriptNumber R] in
theorem setting_iff {key : Text} {value : UpdateValue R} {failure : Text}
    (source : world.obsSource = true) :
    ((∃ effects, effects = [StatementEffect.update key value] ∧
        (updateSetting world key value failure).1.effects = world.effects ++ effects) ∨
      (∃ message, (updateSetting world key value failure).2 = .error message) ∧
        (updateSetting world key value failure).1.effects = world.effects ∧
        (updateSetting world key value failure).1.assigned = world.assigned) ↔
      (world.updatable = true → key = [] ∨ key.length ≤ 127 ∧ value.held = value) := by
  simp only [exists_eq_left]
  exact updateSetting_iff source

omit [ScriptNumber R] in
theorem skipped_not {whole : List (StatementEffect R) → Prop}
    (some : ∀ effects, whole effects → effects ≠ []) :
    ¬((∃ effects, whole effects ∧ world.effects = world.effects ++ effects) ∨
      (∃ message, (Except.ok () : Except Text Unit) = .error message) ∧
        world.effects = world.effects ∧ world.assigned = world.assigned) := by
  rintro (⟨effects, acts, same⟩ | ⟨⟨message, failed⟩, -⟩)
  · exact some effects acts (List.self_eq_append_right.mp same)
  · cases failed

theorem effect_iff {preset : Text} :
    (ArgumentStatement.effect preset : ArgumentStatement R).NeverCut world ↔
      (ArgumentStatement.effect preset : ArgumentStatement R).Fits world := by
  simp only [ArgumentStatement.NeverCut, ArgumentStatement.perform, ArgumentStatement.Whole,
    ArgumentStatement.Fits, opEffect]
  by_cases source : world.obsSource = true
  · have there : ¬world.obsSource = false := by simp [source]
    have updated := @setting_iff R world (text "crt_preset") (.string preset)
      (text "Failed to queue OBS update") source
    rw [if_neg there, updated, held_string_iff]
    have key : (text "crt_preset").length ≤ 127 := by decide
    have some : text "crt_preset" ≠ [] := by decide
    simp only [source, some, key, true_and, false_or]
  · have gone : world.obsSource = false := by simpa using source
    rw [if_pos gone]
    refine iff_of_false (skipped_not fun effects acts => ?_) fun fits => source fits.1
    rw [acts]
    exact List.cons_ne_nil _ _

theorem namedPalette_length (name : Text) : (namedPalette name).length ≤ 255 ↔ name.length ≤ 255 := by
  rw [namedPalette]
  split_ifs with device
  · rw [device]
    exact iff_of_true (by decide) (by decide)
  · rfl

theorem palette_iff {name : Text} :
    (ArgumentStatement.palette name : ArgumentStatement R).NeverCut world ↔
      (ArgumentStatement.palette name : ArgumentStatement R).Fits world := by
  simp only [ArgumentStatement.NeverCut, ArgumentStatement.perform, ArgumentStatement.Whole,
    ArgumentStatement.Fits, opPalette]
  by_cases source : world.obsSource = true
  · have there : ¬world.obsSource = false := by simp [source]
    have updated := @setting_iff R world (text "palette") (.string (namedPalette name))
      (text "Failed to queue OBS update") source
    rw [if_neg there, updated, held_string_iff, namedPalette_length]
    have key : (text "palette").length ≤ 127 := by decide
    have some : text "palette" ≠ [] := by decide
    simp only [source, some, key, true_and, false_or]
  · have gone : world.obsSource = false := by simpa using source
    rw [if_pos gone]
    refine iff_of_false (skipped_not fun effects acts => ?_) fun fits => source fits.1
    rw [acts]
    exact List.cons_ne_nil _ _

theorem effectparam_iff {param : Text} {value : R} :
    (ArgumentStatement.effectparam param value).NeverCut world ↔
      (ArgumentStatement.effectparam param value).Fits world := by
  simp only [ArgumentStatement.NeverCut, ArgumentStatement.perform, ArgumentStatement.Whole,
    ArgumentStatement.Fits, opEffectparam]
  by_cases source : world.obsSource = true
  · have there : ¬world.obsSource = false := by simp [source]
    have held : ∀ {flag : Bool}, (if param = text "preserve_size" then .bool flag
        else .double value : UpdateValue R).held =
          if param = text "preserve_size" then .bool flag else .double value := by
      intro flag
      split_ifs <;> rfl
    rw [if_neg there, setting_iff source, held]
    simp only [source, true_and, and_true]
    refine imp_congr_right fun _ => ⟨?_, .inr⟩
    rintro (empty | fits)
    · rw [empty]
      decide
    · exact fits
  · have gone : world.obsSource = false := by simpa using source
    rw [if_pos gone]
    refine iff_of_false (skipped_not fun effects acts => ?_) fun fits => source fits.1
    rw [acts]
    exact List.cons_ne_nil _ _

theorem findDevice_mem {devices : List SwitchTarget} {reference : Text} {device : SwitchTarget}
    (found : findDevice devices reference = some device) :
    device ∈ devices ∧ (device.id = reference ∨ device.host = reference) := by
  rw [findDevice] at found
  cases byId : devices.find? (·.id = reference) with
  | some other =>
    rw [byId, Option.some_or] at found
    obtain rfl := Option.some.inj found
    have named := List.find?_some byId
    exact ⟨List.mem_of_find?_eq_some byId, .inl (of_decide_eq_true named)⟩
  | none =>
    rw [byId, Option.none_or] at found
    split_ifs at found
    have named := List.find?_some found
    exact ⟨List.mem_of_find?_eq_some found, .inr (of_decide_eq_true named)⟩

theorem switchDevice_iff {reference : Text} :
    (ArgumentStatement.switchDevice reference : ArgumentStatement R).NeverCut world ↔
      (ArgumentStatement.switchDevice reference : ArgumentStatement R).Fits world := by
  simp only [ArgumentStatement.NeverCut, ArgumentStatement.perform, ArgumentStatement.Whole,
    ArgumentStatement.Fits, opSwitchDevice]
  by_cases source : world.obsSource = true
  · rw [if_neg (by simp [source])]
    refine iff_of_true ?_ source
    cases found : findDevice world.devices reference with
    | none => exact .inr ⟨⟨_, rfl⟩, rfl, rfl⟩
    | some device =>
      obtain ⟨among, named⟩ := findDevice_mem found
      have fits := device.fits
      have held : (UpdateValue.string device.id : UpdateValue R).held = .string device.id :=
        held_string_iff.mpr (by omega)
      have updated := (@updateSetting_iff R world (text "c64_device") (.string device.id)
        (text "Failed to queue device switch") source).mpr fun _ => .inr ⟨by decide, held⟩
      exact updated.imp_left fun whole => ⟨_, ⟨device, among, named, rfl⟩, whole⟩
  · have gone : world.obsSource = false := by simpa using source
    rw [if_pos gone]
    refine iff_of_false (skipped_not fun effects acts => ?_) source
    obtain ⟨device, -, -, rfl⟩ := acts
    exact List.cons_ne_nil _ _

/-- A statement acts on all of its text or fails first, exactly if the text fits its buffers. -/
theorem statement_neverCut_iff {statement : ArgumentStatement R} (noZero : statement.NoZero) :
    statement.NeverCut world ↔ statement.Fits world := by
  cases statement with
  | runlocal path args statusVar outputVar => exact runlocal_iff
  | load filename device =>
    exact fileLine_iff fun number => zero_not_mem_loadLine noZero number
  | run filename device =>
    refine @fileLine_iff R _ world filename device (text "RUN")
      (fun name number => loadLine name number ++ runLine) fun number => ?_
    rw [List.mem_append, not_or]
    exact ⟨zero_not_mem_loadLine noZero number, by decide⟩
  | type string => exact type_iff noZero
  | key name => exact iff_of_true (key_neverCut name) trivial
  | switchDevice reference => exact switchDevice_iff
  | effect preset => exact effect_iff
  | effectparam param value => exact effectparam_iff
  | palette name => exact palette_iff

/-- A world with a keyboard and a source, where nothing has happened yet. -/
def freshWorld : StatementWorld Int where
  platform := .posix
  scriptDir := none
  shell _ := .finished [] 0
  keyboard := true
  room _ := 1024
  submissions := 0
  obsSource := true
  updatable := true
  devices := []
  effects := []
  assigned := []

/-- A short file name is typed as a whole. -/
theorem loadGame_neverCut :
    (ArgumentStatement.load (text "GAME") none : ArgumentStatement Int).NeverCut freshWorld := by
  have noZero : (ArgumentStatement.load (text "GAME") none : ArgumentStatement Int).NoZero :=
    show (0 : UInt8) ∉ text "GAME" by decide
  refine (statement_neverCut_iff noZero).mpr ?_
  intro number converted _ _
  cases converted
  decide

/-- The name of a parameter of 128 bytes is cut by one of them. -/
theorem longParam_cut :
    ¬(ArgumentStatement.effectparam (List.replicate 128 65) 1 : ArgumentStatement Int).NeverCut
      freshWorld := by
  rw [effectparam_iff]
  rintro ⟨-, short⟩
  exact absurd (short rfl) (by rw [List.length_replicate]; omega)

end Results

end C64Stream
