import C64Stream.Script.Bytecode
import C64Stream.Script.VmLaws

/-! Name suffixes: the types of the values that variables hold. -/

namespace C64Stream

variable {R World : Type} [ScriptNumber R]

/-- A value has the type that the suffix of a name asks for; containers may have any name. -/
def WellTyped (key : Text) (value : Value R) : Prop :=
  match value with
  | .number n =>
    nameHasSuffix key dollar = false ∧
      -- An integer name holds a signed number of thirty-two bits.
      (nameHasSuffix key percent = true →
        ∃ whole : Int, -2147483648 ≤ whole ∧ whole ≤ 2147483647 ∧ n = ScriptNumber.ofInt whole)
  | .string _ => nameHasSuffix key percent = false
  | _ => True

/-- Every variable of a table has the type that its name asks for. -/
def TypedVars (table : Variables R) : Prop :=
  ∀ entry ∈ table, WellTyped entry.1 entry.2

/-- The variables of a machine have the types that their names ask for, in every scope. -/
def TypedMachine (machine : Machine R) : Prop :=
  TypedVars machine.globalVars ∧ ∀ scope ∈ machine.scopeStack, TypedVars scope.localVars

/-- Every argument of a function call has the type that the name of its parameter asks for. -/
def ArgumentsFit (code : Code R) (machine : Machine R) : Prop :=
  ∀ instruction function, code.bytecode[machine.ip]? = some instruction →
    instruction.opcode = .callFunction →
      code.functions[instruction.operand / 65536]? = some function →
        TypedVars ((function.paramNames.reverse.map nameField).zip machine.stack)

/-- The instruction at hand pushes the value of a string name. -/
def PushesStringName (code : Code R) (machine : Machine R) (name : Text) : Prop :=
  ∃ instruction constant, code.bytecode[machine.ip]? = some instruction ∧
    instruction.opcode = .pushVar ∧ code.constants[instruction.operand]? = some constant ∧
      name = constant.asString ∧ nameHasSuffix name dollar = true

/-- A string name is assigned before it is read, and one that does not fit the field for names
does not hold a number under its first bytes. -/
def StringNamesBound (code : Code R) (machine : Machine R) : Prop :=
  ∀ name, PushesStringName code machine name → varExists machine name = true ∧
    (63 < name.length → ∀ n, getVar machine name ≠ .number n)

/-- Neither the arguments of a call nor a name that is read escape the types of the suffixes. -/
def SuffixesRespected (code : Code R) (state : Runtime R World) : Prop :=
  ArgumentsFit code state.toMachine ∧ StringNamesBound code state.toMachine

/-- Reading a string name pushes a string, unless the name holds a container. -/
def ReadsStrings (code : Code R) (state next : Runtime R World) : Prop :=
  ∀ name, PushesStringName code state.toMachine name →
    (∃ bytes, next.stack.head? = some (.string bytes)) ∨
      match heldValue state.toMachine (normalizeIdentifier name) with
      | some (.array _ _) | some (.map _ _) => True
      | _ => False

section Writers

variable {value : Value R}

theorem coerceForName_wellTyped {key : Text} {stored : Value R}
    (coerced : coerceForName key value = .ok stored) : WellTyped key stored := by
  have last : nameHasSuffix key dollar = true → nameHasSuffix key percent = false := by
    intro string
    have ends : key.getLast? = some dollar := eq_of_beq string
    simp [nameHasSuffix, ends, dollar, percent]
  unfold coerceForName at coerced
  split at coerced
  · rw [← Except.ok.inj coerced]
    trivial
  · rw [← Except.ok.inj coerced]
    trivial
  · rename_i noArray noMap
    split at coerced <;> rename_i string
    · -- A string name holds strings only.
      cases value with
      | number n =>
        rw [← Except.ok.inj coerced]
        exact last string
      | string bytes =>
        rw [← Except.ok.inj coerced]
        exact last string
      | array elementType elements => exact absurd rfl (noArray elementType elements)
      | map valueType entries => exact absurd rfl (noMap valueType entries)
    · have string : nameHasSuffix key dollar = false := by simpa using string
      split at coerced <;> rename_i whole
      · -- An integer name holds what is left of a number in thirty-two bits.
        cases value with
        | number n =>
          simp only [coerceIntegerValue] at coerced
          split at coerced
          · cases coerced
          · rw [← Except.ok.inj coerced]
            refine ⟨string, fun _ => ⟨_, ?_, ?_, rfl⟩⟩
            · exact Int.le_bmod (by decide)
            · exact Int.le_of_lt_add_one (Int.bmod_lt (by decide))
        | string bytes => cases coerced
        | array elementType elements => exact absurd rfl (noArray elementType elements)
        | map valueType entries => exact absurd rfl (noMap valueType entries)
      · have plain : nameHasSuffix key percent = false := by simpa using whole
        rw [← Except.ok.inj coerced]
        cases value with
        | number n => exact ⟨string, fun percent => by rw [plain] at percent; cases percent⟩
        | string bytes => exact plain
        | _ => trivial

theorem store_typed {table : Variables R} {key : Text} (typed : TypedVars table)
    (fits : WellTyped key value) : TypedVars (store table key value) := by
  induction table with
  | nil =>
    intro entry member
    rw [store, List.mem_singleton] at member
    rw [member]
    exact fits
  | cons head rest ih =>
    have others : TypedVars rest := fun entry member => typed entry (List.mem_cons_of_mem _ member)
    intro entry member
    rw [store] at member
    split at member
    · rcases List.mem_cons.mp member with rfl | member
      · exact fits
      · exact others entry member
    · rcases List.mem_cons.mp member with rfl | member
      · exact typed _ (List.mem_cons_self ..)
      · exact ih others entry member

theorem lookup_typed {table : Variables R} {key : Text} (typed : TypedVars table)
    (found : lookup table key = some value) : WellTyped key value := by
  obtain ⟨entry, located, rfl⟩ := Option.map_eq_some_iff.mp found
  have named := List.find?_some located
  simp only [beq_iff_eq] at named
  have fits := typed entry (List.mem_of_find?_eq_some located)
  rwa [named] at fits

theorem setVar_typed {before after : Machine R} {name : Text} (typed : TypedMachine before)
    (stored : setVar before name value = .ok after) :
    TypedMachine after := by
  obtain ⟨globals, scopes⟩ := typed
  simp only [setVar, Bind.bind, Except.bind] at stored
  split at stored
  · cases stored
  · rename_i fitting coerced
    have fits := coerceForName_wellTyped coerced
    split at stored
    · -- The innermost scope takes the value.
      rename_i scope rest opened
      rw [← Except.ok.inj stored]
      refine ⟨globals, fun other member => ?_⟩
      rcases List.mem_cons.mp member with rfl | member
      · exact store_typed (scopes scope (by rw [opened]; exact List.mem_cons_self ..)) fits
      · exact scopes other (by rw [opened]; exact List.mem_cons_of_mem _ member)
    · split at stored
      · cases stored
      · rw [← Except.ok.inj stored]
        exact ⟨store_typed globals fits, scopes⟩

theorem handleOp_typed (op : VmOp R World) (runtime : Runtime R World)
    (typed : TypedMachine runtime.toMachine) :
    TypedMachine (handleOp op runtime).2.toMachine := by
  cases op with
  | pop =>
    simp only [handleOp]
    split <;> exact typed
  | push value =>
    simp only [handleOp]
    split <;> exact typed
  | setVar name value =>
    simp only [handleOp]
    split
    · exact typed
    · exact setVar_typed typed ‹_›
  | _ => exact typed

theorem run_typed {α : Type} {program : Program R World α} {runtime after : Runtime R World}
    {result : Option α} (typed : TypedMachine runtime.toMachine)
    (ran : program.run handleOp runtime = (result, after)) : TypedMachine after.toMachine := by
  have kept := Effectful.run_preserves
    (fun runtime : Runtime R World => TypedMachine runtime.toMachine)
    handleOp_typed program typed
  rwa [ran] at kept

end Writers

section Rounds

variable {host : Host R World} {code : Code R} {runtime after state next : Runtime R World}
  {skip : Bool}

theorem TypedMachine.leave {machine : Machine R} (typed : TypedMachine machine) (ip : Nat)
    (gosubs : List GosubState) :
    TypedMachine { machine with ip := ip, gosubStack := gosubs } ∧
      TypedMachine { machine with ip := ip, scopeStack := machine.scopeStack.tail } :=
  ⟨typed, typed.1, fun scope member => typed.2 scope (List.mem_of_mem_tail member)⟩

theorem executeReturn_typed {hasReturnValue : Bool} (typed : TypedMachine runtime.toMachine)
    (executed : executeReturn hasReturnValue runtime = (some skip, after)) :
    TypedMachine after.toMachine := by
  unfold executeReturn at executed
  split at executed
  · -- The scope is gone, and its variables with it.
    obtain ⟨value, middle, _, ran, pushed⟩ := andThen_control executed
    obtain ⟨_, last, _, ran', ends⟩ := andThen_control pushed
    obtain ⟨-, rfl⟩ := Prod.mk.inj ends
    have inner := run_typed typed ran
    have closed := run_typed (inner.leave middle.ip []).2 ran'
    exact closed
  · split at executed
    · rename_i gosub rest gosubs
      obtain ⟨_, middle, _, ran, ends⟩ := andThen_control executed
      obtain ⟨-, rfl⟩ := Prod.mk.inj ends
      have inner := run_typed typed ran
      exact (inner.leave gosub.returnIp middle.gosubStack.tail).1
    · cases executed

theorem executeCallFunction_typed {operand : Nat} (typed : TypedMachine runtime.toMachine)
    (executed : executeCallFunction code operand runtime = (some skip, after)) :
    TypedMachine after.toMachine ↔ ∀ function, code.functions[operand / 65536]? = some function →
      TypedVars ((function.paramNames.reverse.map nameField).zip runtime.stack) := by
  unfold executeCallFunction at executed
  simp only at executed
  split at executed
  · cases executed
  · rename_i function known
    split_ifs at executed
    · cases executed
    · cases executed
    · cases executed
    · obtain ⟨-, rfl⟩ := Prod.mk.inj executed
      constructor
      · intro after other same
        obtain rfl := Option.some.inj (known.symm.trans same)
        exact after.2 _ (List.mem_cons_self ..)
      · intro fit
        refine ⟨typed.1, fun scope member => ?_⟩
        rcases List.mem_cons.mp member with rfl | member
        · exact fit function known
        · exact typed.2 scope member

theorem executeInstruction_typed {instruction : Instruction}
    (typed : TypedMachine runtime.toMachine) (other : instruction.opcode ≠ .callFunction)
    (executed : executeInstruction host code instruction runtime = (some skip, after)) :
    TypedMachine after.toMachine := by
  unfold executeInstruction at executed
  split at executed
  case h_1 opcode =>
    obtain ⟨-, rfl⟩ := Prod.mk.inj executed
    exact typed
  case h_2 opcode =>
    obtain ⟨_, middle, _, ran, rest⟩ := andThen_control executed
    obtain ⟨-, rfl⟩ := Prod.mk.inj rest
    have inner := run_typed typed ran
    split <;> exact inner
  case h_3 opcode =>
    obtain ⟨_, middle, _, ran, rest⟩ := andThen_control executed
    obtain ⟨-, rfl⟩ := Prod.mk.inj rest
    have inner := run_typed typed ran
    split <;> exact inner
  case h_4 opcode =>
    obtain ⟨_, middle, _, ran, rest⟩ := andThen_control executed
    split at rest
    · cases rest
    · obtain ⟨-, rfl⟩ := Prod.mk.inj rest
      have inner := run_typed typed ran
      exact inner
  case h_5 opcode => exact executeReturn_typed typed executed
  case h_6 opcode => exact executeReturn_typed typed executed
  case h_7 opcode => exact absurd opcode other
  case h_8 opcode =>
    obtain ⟨-, rfl⟩ := Prod.mk.inj executed
    exact typed
  case h_9 opcode =>
    obtain ⟨-, rfl⟩ := Prod.mk.inj executed
    exact typed
  case h_10 opcode =>
    obtain ⟨_, middle, _, ran, rest⟩ := andThen_control executed
    split at rest
    · cases rest
    · split at rest
      · cases rest
      · obtain ⟨-, rfl⟩ := Prod.mk.inj rest
        have inner := run_typed typed ran
        exact inner
  case h_11 opcode =>
    unfold executeForCheck at executed
    split at executed
    · cases executed
    · split at executed
      · cases executed
      · split at executed
        · obtain ⟨-, rfl⟩ := Prod.mk.inj executed
          exact typed
        · obtain ⟨-, rfl⟩ := Prod.mk.inj executed
          exact typed
  case h_12 opcode =>
    unfold executeForIncr at executed
    split at executed
    · cases executed
    · split at executed
      · cases executed
      · obtain ⟨_, middle, _, ran, rest⟩ := andThen_control executed
        obtain ⟨-, rfl⟩ := Prod.mk.inj rest
        have inner := run_typed typed ran
        exact inner
  case h_13 =>
    obtain ⟨_, middle, _, ran, rest⟩ := andThen_control executed
    obtain ⟨-, rfl⟩ := Prod.mk.inj rest
    have inner := run_typed typed ran
    exact inner

theorem vmNext_typed_iff (typed : TypedMachine state.toMachine)
    (stepped : vmNext host code state = some next) :
    TypedMachine next.toMachine ↔ ArgumentsFit code state.toMachine := by
  obtain ⟨instruction, entered, skip, executed, found, begins, outcome, ends⟩ :=
    vmStep_running (vmNext_eq_some.mp stepped)
  have start : TypedMachine entered.toMachine := by
    rw [begins]
    exact typed
  rw [ends]
  by_cases calls : instruction.opcode = .callFunction
  · have stack : entered.stack = state.stack := by
      show entered.toMachine.stack = _
      rw [begins]
    simp only [executeInstruction, calls] at outcome
    rw [executeCallFunction_typed start outcome, stack]
    constructor
    · intro fit other function here _ known
      obtain rfl := Option.some.inj (found.symm.trans here)
      exact fit function known
    · intro fit function known
      exact fit instruction function found calls known
  · refine ⟨fun _ other function here also => ?_, fun _ => ?_⟩
    · obtain rfl := Option.some.inj (found.symm.trans here)
      exact absurd also calls
    · exact executeInstruction_typed start calls outcome

theorem vmNext_pushVar {instruction : Instruction} {constant : Constant R}
    (found : code.bytecode[state.ip]? = some instruction) (reads : instruction.opcode = .pushVar)
    (known : code.constants[instruction.operand]? = some constant)
    (stepped : vmNext host code state = some next) :
    next.stack = getVar state.toMachine constant.asString :: state.stack := by
  obtain ⟨same, entered, skip, executed, here, begins, outcome, ends⟩ :=
    vmStep_running (vmNext_eq_some.mp stepped)
  obtain rfl := Option.some.inj (found.symm.trans here)
  simp only [executeInstruction, reads] at outcome
  obtain ⟨_, middle, _, ran, rest⟩ := andThen_control outcome
  simp only [dataProgram, reads, pushVar, constantName, known, orFail, readVar,
    Effectful.bind_eq, Effectful.bind, Effectful.run, handleOp] at ran
  obtain ⟨_, rfl⟩ := push_ok ran
  obtain ⟨-, rfl⟩ := Prod.mk.inj rest
  have value : getVar entered.toMachine constant.asString =
      getVar state.toMachine constant.asString := by
    rw [begins]
    rfl
  have stack : entered.stack = state.stack := by
    show entered.toMachine.stack = _
    rw [begins]
  have last : next.stack = getVar entered.toMachine constant.asString :: entered.stack :=
    congrArg Machine.stack ends
  rw [last, value, stack]

theorem heldValue_typed {machine : Machine R} {key : Text} {value : Value R}
    (typed : TypedMachine machine) (held : heldValue machine key = some value) :
    WellTyped key value := by
  unfold heldValue at held
  split at held
  · -- The innermost scope is searched first.
    rename_i scope rest opened
    cases inside : lookup scope.localVars key with
    | some found =>
      rw [inside] at held
      obtain rfl := Option.some.inj held
      exact lookup_typed (typed.2 scope (by rw [opened]; exact List.mem_cons_self ..)) inside
    | none =>
      rw [inside] at held
      exact lookup_typed typed.1 held
  · exact lookup_typed typed.1 held

theorem normalizeIdentifier_dollar {name : Text} (short : name.length ≤ 63)
    (string : nameHasSuffix name dollar = true) :
    nameHasSuffix (normalizeIdentifier name) dollar = true := by
  have ends : name.getLast? = some dollar := eq_of_beq string
  have upper : toUpper dollar = dollar := by decide
  simp [nameHasSuffix, normalizeIdentifier, List.take_of_length_le short, List.getLast?_map,
    ends, upper]

theorem vmNext_readsStrings_iff (typed : TypedMachine state.toMachine)
    (stepped : vmNext host code state = some next) :
    ReadsStrings code state next ↔ StringNamesBound code state.toMachine := by
  have pushed : ∀ {name}, PushesStringName code state.toMachine name →
      next.stack.head? = some ((heldValue state.toMachine (normalizeIdentifier name)).getD
        (.number numberZero)) ∧ nameHasSuffix name dollar = true := by
    rintro name ⟨instruction, constant, found, opcode, known, rfl, string⟩
    rw [vmNext_pushVar found opcode known stepped]
    exact ⟨rfl, string⟩
  constructor
  · intro reads name pushes
    have outcome := reads name pushes
    rw [(pushed pushes).1] at outcome
    unfold varExists getVar
    -- Whatever is pushed is held, and is no number.
    cases held : heldValue state.toMachine (normalizeIdentifier name) with
    | none => simp [held] at outcome
    | some value =>
      refine ⟨rfl, fun _ n => ?_⟩
      rw [held] at outcome
      rintro rfl
      simp at outcome
  · intro bound name pushes
    obtain ⟨top, string⟩ := pushed pushes
    obtain ⟨assigned, short⟩ := bound name pushes
    unfold varExists getVar at *
    rw [top]
    cases held : heldValue state.toMachine (normalizeIdentifier name) with
    | none => rw [held] at assigned; cases assigned
    | some value =>
      rw [held] at short
      cases value with
      | number n =>
        -- A number is held under a string name only if the name lost its suffix.
        rcases Nat.lt_or_ge 63 name.length with long | fits
        · exact absurd rfl (short long n)
        · have suffix := normalizeIdentifier_dollar fits string
          have plain : nameHasSuffix (normalizeIdentifier name) dollar = false :=
            (heldValue_typed typed held).1
          rw [suffix] at plain
          cases plain
      | string bytes => exact .inl ⟨bytes, rfl⟩
      | array elementType elements => exact .inr trivial
      | map valueType entries => exact .inr trivial

end Rounds

/-- As long as suffixes are respected, the next round keeps every variable at the type of its name
and reads string names as strings exactly when it respects them too. -/
theorem suffixTypes_kept_iff (host : Host R World) (code : Code R) {runtime : Runtime R World}
    (fresh : TypedMachine runtime.toMachine) {state next : Runtime R World}
    (reached : Reaches (vmNext host code) (SuffixesRespected code) (vmStart code runtime) state)
    (stepped : vmNext host code state = some next) :
    TypedMachine state.toMachine ∧
      (TypedMachine next.toMachine ∧ ReadsStrings code state next ↔
        SuffixesRespected code state) := by
  have typed : TypedMachine state.toMachine :=
    reached.invariant (fun state => TypedMachine state.toMachine)
      (fun _ _ typed respected stepped => (vmNext_typed_iff typed stepped).mpr respected.1) fresh
  refine ⟨typed, ?_⟩
  rw [vmNext_typed_iff typed stepped, vmNext_readsStrings_iff typed stepped]
  rfl

section Examples

/-- A string name is read before it is assigned, and a number is passed for a string parameter. -/
def escapedSuffixes : List (AstStmt Int) :=
  [.functionDef 1 (text "F") [text "A$"] [.return 1 none],
    .command 2 (.assignment (text "X") (.identifier 2 (text "C$"))),
    .command 3 (.assignment (text "X") (.call 3 (text "F") [.number 3 (literal 5)]))]

/-- The name reads as zero, and the parameter holds the number. -/
theorem escapedSuffixes_untyped :
    ∃ code, c64scriptCompile escapedSuffixes [] = .ok code ∧
      (∃ state next,
        Reaches (vmNext quietHost code) (fun _ => True) (vmStart code (runtimeCreate ())) state ∧
          vmNext quietHost code state = some next ∧ next.stack = [.number 0] ∧
            ¬ ReadsStrings code state next) ∧
      ∃ state next,
        Reaches (vmNext quietHost code) (fun _ => True) (vmStart code (runtimeCreate ())) state ∧
          vmNext quietHost code state = some next ∧
            next.scopeStack.map Scope.localVars = [[(text "A$", .number 5)]] ∧
              ¬ TypedMachine next.toMachine := by
  refine ⟨_, rfl, ⟨_, _, reaches_of_stepTimes (n := 1) rfl, rfl, rfl, ?_⟩,
    ⟨_, _, reaches_of_stepTimes (n := 4) rfl, rfl, rfl, ?_⟩⟩
  · intro reads
    rcases reads (text "C$") ⟨_, _, rfl, rfl, rfl, rfl, by decide⟩ with ⟨bytes, top⟩ | held
    · cases top
    · exact held
  · rintro ⟨_, scopes⟩
    have untyped := scopes _ (List.mem_cons_self ..) _ (List.mem_cons_self ..)
    exact absurd untyped.1 (by decide)

/-- The first instruction of a script that stores a text in a string name. -/
theorem suffixTypes_kept_assignment :
    let code : Code Int := ⟨[⟨.pushConst, 0, 1⟩, ⟨.popVar, 1, 1⟩, ⟨.halt, 0, -1⟩],
      [.string (text "HI"), .string (text "A$")], []⟩
    ∃ state next, vmNext quietHost code state = some next ∧ state.ip = 1 ∧
      TypedMachine state.toMachine ∧
        (TypedMachine next.toMachine ∧ ReadsStrings code state next ↔
          SuffixesRespected code state) := by
  intro code
  have fresh : TypedMachine (runtimeCreate () : Runtime Int Unit).toMachine :=
    ⟨fun _ member => (by cases member), fun _ member => (by cases member)⟩
  refine ⟨_, _, rfl, rfl, suffixTypes_kept_iff quietHost code fresh
    (.step .start ⟨?_, ?_⟩ rfl) rfl⟩
  · rintro instruction function found calls
    obtain rfl := Option.some.inj found
    cases calls
  · rintro name ⟨instruction, constant, found, reads, _⟩
    obtain rfl := Option.some.inj found
    cases reads

end Examples

end C64Stream
