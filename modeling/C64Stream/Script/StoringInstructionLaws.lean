import C64Stream.Script.Maps
import C64Stream.Script.StoringInstructions

/-! Which instructions report each store that fails, and when the others have none that does. -/

namespace C64Stream.Stores

variable {R World : Type} [ScriptNumber R]

section Specification

variable (outside : Outside R World) (refuses : Refusals)

/-- No store that fails is swallowed, and what was stored is read back. -/
structure NothingSwallowed (code : Code R) (instruction : Instruction) (runtime : Runtime R World) :
    Prop where
  reported : ∀ attempt ∈ instructionAttempts outside refuses code instruction runtime,
    ∀ message, attempt.failure = some message →
      ∃ after, dispatchStoring outside refuses code instruction runtime = .failed after ∧
        after.errorMsg = message ∧ after.errorLine = instruction.sourceLine
  readBack : ∀ after, dispatchStoring outside refuses code instruction runtime = .running after →
    ∀ front attempt rest,
      instructionAttempts outside refuses code instruction runtime = front ++ attempt :: rest →
        (∀ later ∈ rest, later.key ≠ attempt.key) →
          ∃ stored, coerceForName attempt.name attempt.value = .ok stored ∧
            getVar after.toMachine attempt.name = stored

/-- The parameters of a call, the last one first. -/
def paramStores : Nat → List (Value R) → List (Text × Value R)
  | 0, _ => []
  | _ + 1, [] => []
  | index + 1, value :: stack => (paramName (index + 1), value) :: paramStores index stack

/-- The parameters that are set to zero when a subroutine is left. -/
def clearStores (count : Nat) : List (Text × Value R) :=
  (List.range count).map fun index => (paramName (index + 1), .number numberZero)

/-- What a return stores, if it leaves a subroutine. -/
def returnStores (hasReturnValue : Bool) (runtime : Runtime R World) : List (Text × Value R) :=
  match runtime.scopeStack, runtime.gosubStack with
  | [], gosub :: _ =>
    if hasReturnValue then
      match runtime.stack with
      | [] => []
      | value :: _ => (text "RESULT", value) :: clearStores gosub.paramCount
    else clearStores gosub.paramCount
  | _, _ => []

/-- What an instruction is to store that goes on when a store fails. -/
def uncheckedStores (instruction : Instruction) (runtime : Runtime R World) :
    List (Text × Value R) :=
  match instruction.opcode with
  | .call =>
    match runtime.stack with
    | .number n :: stack => paramStores (sizeOfNumber n) stack
    | _ => []
  | .return => returnStores (decide (instruction.operand ≠ 0)) runtime
  | .returnValue => returnStores true runtime
  | .runlocal =>
    match runtime.stack with
    | outputVar :: statusVar :: args :: path :: _ =>
      let met := { outside.statement runtime.world with assigned := [] }
      match opRunlocal met path args statusVar outputVar with
      | (after, .ok ()) => after.assigned
      | (_, .error _) => []
    | _ => []
  | .readfile =>
    match runtime.stack with
    | target :: path :: _ =>
      match fileContent outside runtime.world path target with
      | .ok (name, content) => [(name, .string content)]
      | .error _ => []
    | _ => []
  | .http =>
    match runtime.stack with
    | url :: headers :: body :: statusVar :: responseVar :: _ =>
      match (httpOutcome outside runtime.world instruction.operand url headers body statusVar
        responseVar).1 with
      | .ok stores => stores
      | .error _ => []
    | _ => []
  | _ => []

/-- Some values can be stored one after another. -/
def AllStored : List (Text × Value R) → Counted R World → Prop
  | [], _ => True
  | (name, value) :: others, state =>
    storeFailure refuses state name value = none ∧
      AllStored others (handleStore refuses (.setVar name value) state).2

/-- What the unchecked instructions store can be stored, and the suffix of a long name counts, of
    which only the first 63 bytes do. -/
structure Unswallowed (code : Code R) (instruction : Instruction) (runtime : Runtime R World) :
    Prop where
  stored : AllStored refuses (uncheckedStores outside instruction runtime) (0, runtime)
  suffixes : ∀ after, dispatchStoring outside refuses code instruction runtime = .running after →
    ∀ front attempt rest,
      instructionAttempts outside refuses code instruction runtime = front ++ attempt :: rest →
        (∀ later ∈ rest, later.key ≠ attempt.key) → 63 < attempt.name.length →
          coerceForName attempt.name attempt.value = coerceForName attempt.key attempt.value

end Specification

section Handler

variable {refuses : Refusals}

theorem handleStore_setVar (name : Text) (value : Value R) (state : Counted R World) :
    (∃ message, storeFailure refuses state name value = some message ∧
      handleStore refuses (.setVar name value) state =
        (some false, (state.1 + 1, state.2.withError message))) ∨
    ∃ machine, storeFailure refuses state name value = none ∧
      setVar state.2.toMachine name value = .ok machine ∧
      handleStore refuses (.setVar name value) state =
        (some true, (state.1 + 1, { state.2 with toMachine := machine })) := by
  by_cases refused : refuses state.1 = true
  · exact .inl ⟨text "Out of memory", by simp [storeFailure, refused],
      by simp [handleStore, refused]⟩
  · cases set : setVar state.2.toMachine name value with
    | error message =>
      exact .inl ⟨message, by simp [storeFailure, refused, set],
        by simp [handleStore, refused, handleOp, set]⟩
    | ok machine =>
      exact .inr ⟨machine, by simp [storeFailure, refused, set], rfl,
        by simp [handleStore, refused, handleOp, set]⟩

/-- The messages of stores that fail. -/
def storeMessages : List Text :=
  [text "Out of memory", text "TYPE MISMATCH", text "ILLEGAL QUANTITY", text "Too many variables"]

theorem coerceForName_message {key : Text} {value : Value R} {message : Text}
    (failed : coerceForName key value = .error message) : message ∈ storeMessages := by
  have whole : coerceIntegerValue value = .error message → message ∈ storeMessages := by
    intro failed
    cases value with
    | number n =>
      simp only [coerceIntegerValue] at failed
      split at failed
      · cases failed
        simp [storeMessages]
      · cases failed
    | _ =>
      cases failed
      simp [storeMessages]
  have string : coerceStringValue value = .error message → message ∈ storeMessages := by
    intro failed
    cases value with
    | number n => cases failed
    | string bytes => cases failed
    | _ =>
      cases failed
      simp [storeMessages]
  unfold coerceForName at failed
  split at failed
  · cases failed
  · cases failed
  · split_ifs at failed
    · exact string failed
    · exact whole failed

theorem storeFailure_message {state : Counted R World} {name : Text} {value : Value R}
    {message : Text} (failed : storeFailure refuses state name value = some message) :
    message ∈ storeMessages := by
  unfold storeFailure at failed
  split_ifs at failed with refused
  · cases failed
    simp [storeMessages]
  · split at failed
    · rename_i other set
      cases failed
      simp only [setVar, Bind.bind, Except.bind] at set
      split at set
      · cases set
        exact coerceForName_message ‹_›
      · split at set
        · cases set
        · split_ifs at set
          cases set
          simp [storeMessages]
    · cases failed

theorem take_storeMessage {message : Text} (known : message ∈ storeMessages) :
    message.take 1023 = message := by
  refine List.take_of_length_le ?_
  simp only [storeMessages, List.mem_cons, List.not_mem_nil, or_false] at known
  rcases known with rfl | rfl | rfl | rfl <;> decide

end Handler

section Runs

variable {refuses : Refusals} {α : Type}

theorem handleStore_errorLine (refuses : Refusals) (op : VmOp R World) (state : Counted R World) :
    (handleStore refuses op state).2.2.errorLine = state.2.errorLine := by
  cases op with
  | setVar name value =>
    rcases @handleStore_setVar _ _ _ refuses name value state with
      ⟨message, -, same⟩ | ⟨machine, -, -, same⟩
    · rw [same]
      rfl
    · rw [same]
  | pop =>
    simp only [handleStore, handleOp]
    split <;> rfl
  | push value =>
    simp only [handleStore, handleOp]
    split <;> rfl
  | _ => rfl

theorem handleStore_held {op : VmOp R World} {state : Counted R World} {key : Text}
    (other : ∀ attempt ∈ attemptOf refuses (op, state), attempt.key ≠ key) :
    heldValue (handleStore refuses op state).2.2.toMachine key =
      heldValue state.2.toMachine key := by
  cases op with
  | setVar name value =>
    rcases @handleStore_setVar _ _ _ refuses name value state with
      ⟨message, -, same⟩ | ⟨machine, -, set, same⟩
    · rw [same]
      rfl
    · rw [same]
      obtain ⟨stored, coerced, -⟩ := setVar_tableAt set
      have elsewhere : key ≠ normalizeIdentifier name := fun here => other _ rfl here.symm
      rw [heldValue_setVar set coerced, if_neg elsewhere]
  | pop =>
    simp only [handleStore, handleOp]
    split <;> rfl
  | push value =>
    simp only [handleStore, handleOp]
    split <;> rfl
  | _ => rfl

theorem attempts_perform (op : VmOp R World) (next : op.Reply → Program R World α)
    (state : Counted R World) :
    attempts refuses (.perform op next) state =
      (attemptOf refuses (op, state)).toList ++
        match handleStore refuses op state with
        | (some reply, after) => attempts refuses (next reply) after
        | (none, _) => [] := by
  rw [attempts, Effectful.performed, List.filterMap_cons]
  cases attemptOf refuses (op, state) with
  | none =>
    rw [Option.toList_none, List.nil_append]
    cases handleStore refuses op state with
    | mk reply after => cases reply <;> rfl
  | some attempt =>
    rw [Option.toList_some, List.singleton_append]
    cases handleStore refuses op state with
    | mk reply after => cases reply <;> rfl

theorem attempts_frame {program : Program R World α} {state after : Counted R World} {result : α}
    (ran : program.run (handleStore refuses) state = (some result, after)) {key : Text}
    (others : ∀ attempt ∈ attempts refuses program state, attempt.key ≠ key) :
    heldValue after.2.toMachine key = heldValue state.2.toMachine key := by
  induction program generalizing state with
  | done value =>
    simp only [Effectful.run, Prod.mk.injEq] at ran
    rw [ran.2]
  | perform op next ih =>
    rw [attempts_perform] at others
    simp only [Effectful.run] at ran
    cases replied : handleStore refuses op state with
    | mk reply middle =>
      rw [replied] at ran others
      cases reply with
      | none => cases ran
      | some reply =>
        have here := @handleStore_held _ _ _ refuses op state key fun attempt among =>
          others attempt (List.mem_append_left _ (by simpa using among))
        rw [replied] at here
        rw [ih reply ran fun attempt among => others attempt (List.mem_append_right _ among), here]

theorem attempts_readBack {program : Program R World α} {state after : Counted R World} {result : α}
    (ran : program.run (handleStore refuses) state = (some result, after))
    {front rest : List (Attempt R)} {attempt : Attempt R}
    (tried : attempts refuses program state = front ++ attempt :: rest)
    (succeeded : attempt.failure = none) (last : ∀ later ∈ rest, later.key ≠ attempt.key) :
    ∃ stored, coerceForName attempt.key attempt.value = .ok stored ∧
      heldValue after.2.toMachine attempt.key = some stored := by
  induction program generalizing state front with
  | done value => simp [attempts, Effectful.performed] at tried
  | perform op next ih =>
    rw [attempts_perform] at tried
    simp only [Effectful.run] at ran
    cases replied : handleStore refuses op state with
    | mk reply middle =>
      rw [replied] at ran tried
      cases reply with
      | none => cases ran
      | some reply =>
        cases first : attemptOf refuses (op, state) with
        | none =>
          rw [first, Option.toList_none, List.nil_append] at tried
          exact ih reply ran tried
        | some early =>
          rw [first, Option.toList_some, List.singleton_append] at tried
          cases front with
          | cons before front =>
            rw [List.cons_append, List.cons.injEq] at tried
            exact ih reply ran tried.2
          | nil =>
            -- This is the store itself: what follows leaves its variable alone.
            rw [List.nil_append, List.cons.injEq] at tried
            obtain ⟨rfl, others⟩ := tried
            have others : attempts refuses (next reply) middle = rest := others
            have kept : heldValue after.2.toMachine early.key =
                heldValue middle.2.toMachine early.key :=
              attempts_frame ran (by rw [others]; exact last)
            rw [kept]
            cases op with
            | setVar name value =>
              cases first
              rcases @handleStore_setVar _ _ _ refuses name value state with
                ⟨message, failed, -⟩ | ⟨machine, -, set, same⟩
              · cases failed.symm.trans succeeded
              · obtain ⟨stored, coerced, -⟩ := setVar_tableAt set
                refine ⟨stored, coerced, ?_⟩
                rw [replied] at same
                cases same
                rw [heldValue_setVar set coerced]
                exact if_pos rfl
            | _ => cases first

/-- The operation that fails. -/
def isFail (op : VmOp R World) : Prop :=
  op = .fail

/-- A store is answered badly if it fails. -/
def storeFailed (op : VmOp R World) (reply : op.Reply) : Prop :=
  match op, reply with
  | .setVar _ _, reply => reply = false
  | _, _ => False

/-- A program that fails as soon as one of its stores does. -/
abbrev Checked (program : Program R World α) : Prop :=
  program.Heeds storeFailed isFail

theorem Checked.reported {program : Program R World α} (checked : Checked program)
    {state : Counted R World} {attempt : Attempt R}
    (among : attempt ∈ attempts refuses program state) {message : Text}
    (failed : attempt.failure = some message) :
    ∃ after, program.run (handleStore refuses) state = (none, after) ∧
      after.2.errorMsg = message := by
  obtain ⟨⟨op, before⟩, performed, tried⟩ := List.mem_filterMap.mp among
  cases op with
  | setVar name value =>
    cases tried
    rcases @handleStore_setVar _ _ _ refuses name value before with
      ⟨told, failed', same⟩ | ⟨machine, succeeded, -, -⟩
    · obtain rfl : told = message := by
        rw [failed'] at failed
        exact Option.some.inj failed
      have still : ∀ (op : VmOp R World) state, isFail op →
          handleStore refuses op state = (none, state) := by
        rintro _ state rfl
        rfl
      exact ⟨_, checked.run still performed same rfl,
        take_storeMessage (storeFailure_message failed')⟩
    · cases succeeded.symm.trans failed
  | _ => cases tried

end Runs

section CheckedPrograms

variable {outside : Outside R World} {code : Code R} {instruction : Instruction}

omit [ScriptNumber R] in
theorem checked_single {op : VmOp R World} (quiet : isStore op = false) :
    Checked (.perform op .done : Program R World op.Reply) := by
  refine Effectful.Heeds.single fun reply => ?_
  cases op with
  | setVar name value => cases quiet
  | _ => exact id

omit [ScriptNumber R] in
theorem checked_failWith {α : Type} (message : Text) :
    Checked (failWith message : Program R World α) :=
  fun _ => ⟨False.elim, fun _ impossible => impossible.elim⟩

omit [ScriptNumber R] in
theorem checked_orFail {α : Type} (result : Except Text α) :
    Checked (orFail result : Program R World α) := by
  cases result with
  | error message => exact checked_failWith message
  | ok value => trivial

omit [ScriptNumber R] in
theorem checked_assign (name : Text) (value : Value R) :
    Checked (assign name value : Program R World Unit) := by
  intro reply
  constructor
  · intro wrong
    obtain rfl : reply = false := wrong
    exact ⟨.fail, _, rfl, rfl⟩
  · intro good
    obtain rfl : reply = true := by simpa [storeFailed] using good
    trivial

omit [ScriptNumber R] in
theorem Storeless.checked {α : Type} {program : Program R World α} (storeless : Storeless program) :
    Checked program := by
  induction program with
  | done result => trivial
  | perform op next ih =>
    intro reply
    constructor
    · intro wrong
      cases op with
      | setVar name value => cases storeless.1
      | _ => exact wrong.elim
    · exact fun _ => ih reply (storeless.2 reply)

omit [ScriptNumber R] in
theorem checked_operators :
    (∀ operator, Checked (binaryInstruction operator : Program R World Unit)) ∧
      ∀ operator, Checked (unaryInstruction operator : Program R World Unit) := by
  constructor
  · intro operator
    refine (checked_single rfl).bind fun b => (checked_single rfl).bind fun a => ?_
    exact (checked_orFail _).bind fun result => checked_single rfl
  · intro operator
    refine (checked_single rfl).bind fun a => ?_
    exact (checked_orFail _).bind fun result => checked_single rfl

theorem checked_dimArray (name : Text) : Checked (dimArray name : Program R World Unit) := by
  refine (checked_single rfl).bind fun size => ?_
  cases size with
  | number n =>
    simp only
    split
    · exact checked_failWith _
    · split_ifs
      · exact checked_failWith _
      · exact checked_failWith _
      · exact checked_assign _ _
  | _ => exact checked_failWith _

theorem checked_arrays (name : Text) :
    Checked (arrayGet name : Program R World Unit) ∧
      Checked (arraySet name : Program R World Unit) := by
  constructor
  · refine (checked_single rfl).bind fun index => (checked_orFail _).bind fun position => ?_
    refine (checked_single rfl).bind fun held => ?_
    cases held with
    | array elementType elements =>
      simp only
      split
      · exact checked_single rfl
      · exact checked_failWith _
    | _ => exact checked_failWith _
  · refine (checked_single rfl).bind fun index => (checked_single rfl).bind fun value => ?_
    refine (checked_orFail _).bind fun position => (checked_single rfl).bind fun held => ?_
    cases held with
    | array elementType elements =>
      refine (checked_orFail _).bind fun element => ?_
      split_ifs
      · exact checked_assign _ _
      · exact checked_failWith _
    | _ => exact checked_failWith _

theorem checked_maps (name : Text) :
    Checked (mapGet name : Program R World Unit) ∧
      Checked (mapSet name : Program R World Unit) := by
  constructor
  · refine (checked_single rfl).bind fun keyValue => (checked_orFail _).bind fun key => ?_
    refine (checked_single rfl).bind fun held => ?_
    cases held with
    | map valueType entries => exact checked_single rfl
    | _ => exact checked_failWith _
  · refine (checked_single rfl).bind fun keyValue => (checked_single rfl).bind fun value => ?_
    refine (checked_orFail _).bind fun key => (checked_single rfl).bind fun known => ?_
    simp only
    split_ifs
    · refine (checked_single rfl).bind fun held => ?_
      cases held with
      | map valueType entries =>
        exact (checked_orFail _).bind fun element => checked_assign _ _
      | _ => exact checked_failWith _
    · -- A name that was never set becomes a map.
      exact (checked_orFail _).bind fun element => checked_assign _ _

theorem checked_configuration (outside : Outside R World) :
    Checked (cfgItem outside) ∧ Checked (cfgOptions outside) := by
  have client : Checked (requireRestClient outside) := by
    refine (checked_single rfl).bind fun world => ?_
    split_ifs
    · trivial
    · exact checked_failWith _
  have list : ∀ what name names, Checked (storeConfigList outside what name names) := by
    intro what name names
    refine (checked_single rfl).bind fun held => ?_
    cases held with
    | array elementType elements =>
      refine (checked_single rfl).bind fun world => (checked_single rfl).bind fun _ => ?_
      split
      · exact checked_failWith _
      · split_ifs
        · exact checked_failWith _
        · exact (checked_assign _ _).bind fun _ => checked_single rfl
    | _ => exact checked_failWith _
  constructor
  · refine (checked_single rfl).bind fun array => (checked_single rfl).bind fun path => ?_
    refine client.bind fun _ => (checked_orFail _).bind fun name => ?_
    exact (checked_orFail _).bind fun path => list _ _ _
  · refine (checked_single rfl).bind fun array => (checked_single rfl).bind fun item => ?_
    refine (checked_single rfl).bind fun category => client.bind fun _ => ?_
    refine (checked_orFail _).bind fun category => (checked_orFail _).bind fun item => ?_
    exact (checked_orFail _).bind fun name => list _ _ _

/-- Whether an instruction goes on when one of its stores fails. -/
def goesOn (opcode : Opcode) : Bool :=
  match opcode with
  | .call | .return | .returnValue | .runlocal | .readfile | .http => true
  | _ => false

theorem checked_dataProgram (heeding : goesOn instruction.opcode = false) :
    Checked (dataProgram (storingHost outside) code instruction) := by
  have named : ∀ kind act, (∀ name, Checked (act name : Program R World Unit)) →
      Checked (containerInstruction code instruction.operand kind act) :=
    fun kind act each => (checked_orFail _).bind each
  unfold dataProgram
  split
  · trivial
  · trivial
  · trivial
  · unfold pushConst
    split
    · exact checked_failWith _
    · exact checked_single rfl
  · exact checked_single rfl
  · exact (checked_orFail _).bind fun name => (checked_single rfl).bind fun value =>
      checked_single rfl
  · exact (checked_orFail _).bind fun name => (checked_single rfl).bind fun value =>
      checked_assign _ _
  · exact (checked_single rfl).bind fun _ => trivial
  · exact named _ _ checked_dimArray
  · exact named _ _ fun name => (checked_arrays name).1
  · exact named _ _ fun name => (checked_arrays name).2
  · exact named _ _ fun name => (checked_maps name).1
  · exact named _ _ fun name => (checked_maps name).2
  · split
    · exact checked_operators.1 _
    · split
      · exact checked_operators.2 _
      · -- An instruction on a device.
        simp only [storingHost]
        split
        · rename_i same
          rw [same] at heeding
          cases heeding
        · rename_i same
          rw [same] at heeding
          cases heeding
        · rename_i same
          rw [same] at heeding
          cases heeding
        · exact (checked_configuration outside).1
        · exact (checked_configuration outside).2
        · exact (outside.storeless code instruction).checked

theorem checked_staged (outside : Outside R World) (code : Code R)
    (heeding : goesOn instruction.opcode = false) (runtime : Runtime R World) :
    Checked (staged outside code instruction runtime).program := by
  unfold staged
  split
  · rename_i same
    rw [same] at heeding
    cases heeding
  · rename_i same
    rw [same] at heeding
    cases heeding
  · rename_i same
    rw [same] at heeding
    cases heeding
  · unfold stagedForIncr
    split
    · trivial
    · split
      · trivial
      · exact (checked_assign _ _).bind fun _ => trivial
  all_goals first
    | trivial
    | exact (checked_dataProgram heeding).bind fun _ => trivial

end CheckedPrograms

section Storing

variable {refuses : Refusals} {α : Type}

/-- Two states hold the same variables, behind the same number of stores. -/
structure SameVariables (state other : Counted R World) : Prop where
  count : state.1 = other.1
  globalVars : state.2.globalVars = other.2.globalVars
  scopeStack : state.2.scopeStack = other.2.scopeStack

theorem SameVariables.store (refuses : Refusals) {state other : Counted R World}
    (same : SameVariables state other) (name : Text) (value : Value R) :
    storeFailure refuses state name value = storeFailure refuses other name value ∧
      SameVariables (handleStore refuses (.setVar name value) state).2
        (handleStore refuses (.setVar name value) other).2 := by
  obtain ⟨count, globals, scopes⟩ := same
  by_cases refused : refuses state.1 = true
  · have refused' : refuses other.1 = true := count ▸ refused
    simp only [storeFailure, handleStore, refused, refused', if_true]
    exact ⟨trivial, by rw [count], globals, scopes⟩
  · have refused' : ¬refuses other.1 = true := count ▸ refused
    simp only [storeFailure, handleStore, handleOp, refused, refused', if_false, setVar, Bind.bind,
      Except.bind, globals, scopes, Bool.false_eq_true]
    cases coerceForName (normalizeIdentifier name) value with
    | error message => exact ⟨rfl, by rw [count], globals, scopes⟩
    | ok stored =>
      cases here : other.2.scopeStack with
      | cons scope rest => exact ⟨rfl, by rw [count], rfl, rfl⟩
      | nil =>
        dsimp only
        split_ifs with full
        · exact ⟨rfl, by rw [count], globals, scopes⟩
        · exact ⟨rfl, by rw [count], rfl, rfl⟩

theorem SameVariables.allStored {stores : List (Text × Value R)} {state other : Counted R World}
    (same : SameVariables state other) :
    AllStored refuses stores state ↔ AllStored refuses stores other := by
  induction stores generalizing state other with
  | nil => exact Iff.rfl
  | cons store others ih =>
    obtain ⟨name, value⟩ := store
    obtain ⟨failure, kept⟩ := same.store refuses name value
    rw [AllStored, AllStored, failure, ih kept]

theorem attempts_store (name : Text) (value : Value R) (rest : Program R World α)
    (state : Counted R World) :
    attempts refuses (.perform (.setVar name value) fun _ => rest) state =
      ⟨name, value, storeFailure refuses state name value⟩ ::
        attempts refuses rest (handleStore refuses (.setVar name value) state).2 := by
  rw [attempts_perform]
  rcases @handleStore_setVar _ _ _ refuses name value state with
    ⟨message, -, same⟩ | ⟨machine, -, -, same⟩
  · rw [same]
    rfl
  · rw [same]
    rfl

theorem run_store (name : Text) (value : Value R) (rest : Program R World α)
    (state : Counted R World) :
    (Effectful.perform (VmOp.setVar name value) fun _ => rest).run (handleStore refuses) state =
      rest.run (handleStore refuses) (handleStore refuses (.setVar name value) state).2 := by
  rcases @handleStore_setVar _ _ _ refuses name value state with
    ⟨message, -, same⟩ | ⟨machine, -, -, same⟩
  · rw [Effectful.run, same]
  · rw [Effectful.run, same]

theorem tryStoreAll_run (refuses : Refusals) (stores : List (Text × Value R))
    (state : Counted R World) :
    ∃ final, (tryStoreAll stores).run (handleStore refuses) state = (some (), final) := by
  induction stores generalizing state with
  | nil => exact ⟨state, rfl⟩
  | cons store others ih =>
    obtain ⟨name, value⟩ := store
    obtain ⟨final, ran⟩ := ih (handleStore refuses (.setVar name value) state).2
    exact ⟨final, (run_store name value _ state).trans ran⟩

theorem tryStoreAll_attempts (stores : List (Text × Value R)) (state : Counted R World) :
    (∀ attempt ∈ attempts refuses (tryStoreAll stores) state, attempt.failure = none) ↔
      AllStored refuses stores state := by
  induction stores generalizing state with
  | nil =>
    have nothing : attempts refuses (tryStoreAll [] : Program R World Unit) state = [] := rfl
    simp [nothing, AllStored]
  | cons store others ih =>
    obtain ⟨name, value⟩ := store
    have first : attempts refuses (tryStoreAll ((name, value) :: others)) state = _ :=
      attempts_store name value (tryStoreAll others) state
    rw [first, List.forall_mem_cons, ih, AllStored]

theorem clearParams_eq (count : Nat) :
    (clearParams count : Program R World Unit) = tryStoreAll (clearStores count) := by
  have joined : ∀ stores others : List (Text × Value R),
      (tryStoreAll (stores ++ others) : Program R World Unit) =
        (tryStoreAll stores).bind fun _ => tryStoreAll others := by
    intro stores others
    induction stores with
    | nil => rfl
    | cons store stores ih =>
      obtain ⟨name, value⟩ := store
      exact congrArg (Effectful.perform (VmOp.setVar name value)) (funext fun _ => ih)
  induction count with
  | zero => rfl
  | succ count ih =>
    have more : (clearStores (count + 1) : List (Text × Value R)) =
        clearStores count ++ [(paramName (count + 1), .number numberZero)] := by
      simp [clearStores, List.range_succ]
    rw [more, joined, ← ih]
    rfl

end Storing

section Unchecked

variable {refuses : Refusals} {outside : Outside R World} {code : Code R}
  {instruction : Instruction} {α : Type}

/-- A program either stores nothing, or it stores some values whatever happens and has a result. -/
def Performs (refuses : Refusals) (program : Program R World α) (state : Counted R World)
    (stores : List (Text × Value R)) : Prop :=
  (stores = [] ∧ attempts refuses program state = []) ∨
    ∃ before result final, SameVariables before state ∧
      attempts refuses program state = attempts refuses (tryStoreAll stores) before ∧
        program.run (handleStore refuses) state = (some result, final)

theorem performs_tryStoreAll (stores : List (Text × Value R)) (state : Counted R World) :
    Performs refuses (tryStoreAll stores) state stores := by
  obtain ⟨final, ran⟩ := tryStoreAll_run refuses stores state
  exact .inr ⟨state, (), final, ⟨rfl, rfl, rfl⟩, rfl, ran⟩

theorem performs_failWith (message : Text) (state : Counted R World) :
    Performs refuses (failWith message : Program R World α) state [] :=
  .inl ⟨rfl, rfl⟩

theorem performs_step {op : VmOp R World} {reply : op.Reply} {next : op.Reply → Program R World α}
    {state middle : Counted R World} {stores : List (Text × Value R)} (quiet : isStore op = false)
    (replied : handleStore refuses op state = (some reply, middle))
    (same : SameVariables middle state) (rest : Performs refuses (next reply) middle stores) :
    Performs refuses (.perform op next) state stores := by
  have nothing : attemptOf refuses (op, state) = none := by
    cases op with
    | setVar name value => cases quiet
    | _ => rfl
  have later : attempts refuses (.perform op next) state =
      attempts refuses (next reply) middle := by
    rw [attempts_perform, nothing, replied]
    rfl
  rcases rest with ⟨empty, none⟩ | ⟨before, result, final, alike, tried, ran⟩
  · exact .inl ⟨empty, later.trans none⟩
  · refine .inr ⟨before, result, final, ?_, later.trans tried, ?_⟩
    · exact ⟨alike.count.trans same.count, alike.globalVars.trans same.globalVars,
        alike.scopeStack.trans same.scopeStack⟩
    · simp only [Effectful.run, replied, ran]

theorem performs_look {next : World → Program R World α} {state : Counted R World}
    {stores : List (Text × Value R)} (world : World) (seen : state.2.world = world)
    (performs : Performs refuses (next world) state stores) :
    Performs refuses (.perform .world next) state stores := by
  subst seen
  exact performs_step rfl rfl ⟨rfl, rfl, rfl⟩ performs

theorem performs_become {next : Unit → Program R World α} {state : Counted R World}
    {stores : List (Text × Value R)} {world : World}
    (performs : ∀ state, Performs refuses (next ()) state stores) :
    Performs refuses (.perform (.setWorld world) next) state stores :=
  performs_step rfl rfl ⟨rfl, rfl, rfl⟩ (performs _)

/-- A state with another stack. -/
def stacked (state : Counted R World) (stack : List (Value R)) : Counted R World :=
  (state.1, { state.2 with stack := stack })

theorem performs_pop_nil {next : Value R → Program R World α} {state : Counted R World} :
    Performs refuses (.perform .pop next) (stacked state []) [] := by
  refine .inl ⟨rfl, ?_⟩
  simp [stacked, attempts_perform, attemptOf, handleStore, handleOp]

theorem performs_pop {next : Value R → Program R World α} {state : Counted R World}
    {value : Value R} {rest : List (Value R)} {stores : List (Text × Value R)}
    (performs : Performs refuses (next value) (stacked state rest) stores) :
    Performs refuses (.perform .pop next) (stacked state (value :: rest)) stores :=
  performs_step rfl rfl ⟨rfl, rfl, rfl⟩ performs

theorem performs_orFail {β : Type} {result : Except Text β} {next : β → Program R World α}
    {state : Counted R World} {stores : List (Text × Value R)}
    (failed : ∀ message, result = .error message → stores = [])
    (found : ∀ value, result = .ok value → Performs refuses (next value) state stores) :
    Performs refuses ((orFail result).bind next) state stores := by
  cases outcome : result with
  | error message =>
    rw [failed message outcome]
    exact .inl ⟨rfl, rfl⟩
  | ok value => exact found value outcome

theorem attempts_andThen (refuses : Refusals) (program : Program R World Unit)
    (state : Counted R World) (n : Nat) :
    attempts refuses (program.bind fun _ => (.done n : Program R World Nat)) state =
      attempts refuses program state := by
  rw [attempts, Effectful.performed_bind, List.filterMap_append, attempts]
  split <;> simp [Effectful.performed]

theorem Performs.andThen {program : Program R World Unit} {state : Counted R World}
    {stores : List (Text × Value R)} (performs : Performs refuses program state stores) (n : Nat) :
    Performs refuses (program.bind fun _ => .done n) state stores := by
  have same := attempts_andThen refuses program state n
  rcases performs with ⟨empty, nothing⟩ | ⟨before, result, final, alike, tried, ran⟩
  · exact .inl ⟨empty, same.trans nothing⟩
  · refine .inr ⟨before, n, final, alike, same.trans tried, ?_⟩
    rw [Effectful.run_bind, ran]
    rfl

theorem Performs.allStored {program : Program R World α} {state : Counted R World}
    {stores : List (Text × Value R)} (performs : Performs refuses program state stores) :
    (∀ attempt ∈ attempts refuses program state, attempt.failure = none) ↔
      AllStored refuses stores state := by
  rcases performs with ⟨rfl, nothing⟩ | ⟨before, result, final, alike, tried, ran⟩
  · simp [nothing, AllStored]
  · rw [tried, tryStoreAll_attempts, alike.allStored]

theorem performs_runlocal (same : instruction.opcode = .runlocal) (runtime : Runtime R World) :
    Performs refuses (runlocal outside) (0, runtime)
      (uncheckedStores outside instruction runtime) := by
  rw [uncheckedStores, same]
  change Performs refuses _ (stacked (0, runtime) runtime.stack) _
  generalize runtime.stack = stack
  match stack with
  | [] => exact performs_pop_nil
  | [_] => exact performs_pop performs_pop_nil
  | [_, _] => exact performs_pop (performs_pop performs_pop_nil)
  | [_, _, _] => exact performs_pop (performs_pop (performs_pop performs_pop_nil))
  | outputVar :: statusVar :: args :: path :: rest =>
    refine performs_pop (performs_pop (performs_pop (performs_pop ?_)))
    refine performs_look runtime.world rfl ?_
    simp only [Effectful.bind]
    generalize opRunlocal _ path args statusVar outputVar = outcome
    obtain ⟨after, message | done⟩ := outcome
    · refine performs_become fun _ => ?_
      exact performs_failWith _ _
    · refine performs_become fun _ => ?_
      exact performs_tryStoreAll _ _

theorem performs_readfile (same : instruction.opcode = .readfile) (runtime : Runtime R World) :
    Performs refuses (readfile outside) (0, runtime)
      (uncheckedStores outside instruction runtime) := by
  rw [uncheckedStores, same]
  change Performs refuses _ (stacked (0, runtime) runtime.stack) _
  generalize runtime.stack = stack
  match stack with
  | [] => exact performs_pop_nil
  | [_] => exact performs_pop performs_pop_nil
  | target :: path :: rest =>
    refine performs_pop (performs_pop (performs_look runtime.world rfl ?_))
    refine performs_orFail ?_ ?_
    · intro message failed
      dsimp only
      rw [failed]
    · rintro ⟨name, content⟩ found
      dsimp only
      rw [found]
      exact performs_tryStoreAll _ _

theorem performs_http (same : instruction.opcode = .http) (runtime : Runtime R World) :
    Performs refuses (http outside instruction.operand) (0, runtime)
      (uncheckedStores outside instruction runtime) := by
  rw [uncheckedStores, same]
  change Performs refuses _ (stacked (0, runtime) runtime.stack) _
  generalize runtime.stack = stack
  match stack with
  | [] => exact performs_pop_nil
  | [_] => exact performs_pop performs_pop_nil
  | [_, _] => exact performs_pop (performs_pop performs_pop_nil)
  | [_, _, _] => exact performs_pop (performs_pop (performs_pop performs_pop_nil))
  | [_, _, _, _] =>
    exact performs_pop (performs_pop (performs_pop (performs_pop performs_pop_nil)))
  | url :: headers :: body :: statusVar :: responseVar :: rest =>
    refine performs_pop (performs_pop (performs_pop (performs_pop (performs_pop ?_))))
    refine performs_look runtime.world rfl (performs_become fun state => performs_orFail ?_ ?_)
    · intro message failed
      have failed : (httpOutcome outside runtime.world instruction.operand url headers body
        statusVar responseVar).1 = .error message := failed
      dsimp only
      rw [failed]
    · intro stores found
      have found : (httpOutcome outside runtime.world instruction.operand url headers body statusVar
        responseVar).1 = .ok stores := found
      dsimp only
      rw [found]
      exact performs_tryStoreAll _ _

theorem performs_return (hasReturnValue : Bool) (runtime : Runtime R World) :
    Performs refuses (stagedReturn hasReturnValue runtime).program (0, runtime)
      (returnStores hasReturnValue runtime) := by
  cases scopes : runtime.scopeStack with
  | cons scope rest =>
    simp only [stagedReturn, returnStores, scopes]
    exact .inl ⟨rfl, rfl⟩
  | nil =>
    cases gosubs : runtime.gosubStack with
    | nil =>
      simp only [stagedReturn, returnStores, scopes, gosubs]
      exact .inl ⟨rfl, rfl⟩
    | cons gosub rest =>
      simp only [stagedReturn, returnStores, scopes, gosubs]
      refine Performs.andThen ?_ 0
      unfold leaveGosub
      cases hasReturnValue with
      | false =>
        simp only [Bool.false_eq_true, if_false, clearParams_eq]
        exact performs_tryStoreAll _ _
      | true =>
        simp only [if_true, clearParams_eq]
        change Performs refuses _ (stacked (0, runtime) runtime.stack) _
        generalize runtime.stack = stack
        match stack with
        | [] => exact performs_pop_nil
        | value :: rest =>
          refine performs_pop ?_
          exact performs_tryStoreAll ((text "RESULT", value) :: clearStores gosub.paramCount) _

end Unchecked

section Calls

variable {refuses : Refusals}

theorem bindParams_attempts (count : Nat) (state : Counted R World) :
    (∀ attempt ∈ attempts refuses (bindParams count : Program R World Unit) state,
        attempt.failure = none) ↔
      AllStored refuses (paramStores count state.2.stack) state := by
  induction count generalizing state with
  | zero =>
    have nothing : attempts refuses (bindParams 0 : Program R World Unit) state = [] := rfl
    simp [nothing, paramStores, AllStored]
  | succ count ih =>
    cases stack : state.2.stack with
    | nil =>
      have nothing : attempts refuses (bindParams (count + 1) : Program R World Unit) state =
          [] := by
        refine (attempts_perform _ _ _).trans ?_
        simp [attemptOf, handleStore, handleOp, stack]
      simp [nothing, paramStores, AllStored]
    | cons value rest =>
      let popped := stacked state rest
      let after := (handleStore refuses (.setVar (paramName (count + 1)) value) popped).2
      have first : attempts refuses (bindParams (count + 1) : Program R World Unit) state =
          ⟨paramName (count + 1), value,
            storeFailure refuses popped (paramName (count + 1)) value⟩ ::
              attempts refuses (bindParams count : Program R World Unit) after := by
        refine (attempts_perform _ _ _).trans ?_
        have replied : handleStore refuses .pop state = (some value, popped) := by
          simp [popped, stacked, handleStore, handleOp, stack]
        rw [replied]
        exact attempts_store _ _ _ _
      have alike : SameVariables popped state := ⟨rfl, rfl, rfl⟩
      obtain ⟨failure, kept⟩ := alike.store refuses (paramName (count + 1)) value
      -- The store leaves the rest of the stack to the other parameters.
      have left : after.2.stack = rest := by
        rcases @handleStore_setVar _ _ _ refuses (paramName (count + 1)) value popped with
          ⟨message, -, same⟩ | ⟨machine, -, set, same⟩
        · simp only [after, same]
          rfl
        · simp only [after, same]
          exact setVar_stack set
      rw [first, List.forall_mem_cons, ih, left, paramStores, AllStored, failure, kept.allStored]

theorem bindParams_fails {count : Nat} {state after : Counted R World}
    (ran : (bindParams count : Program R World Unit).run (handleStore refuses) state =
      (none, after)) : after.2.errorMsg = text "Stack underflow" := by
  induction count generalizing state with
  | zero => cases ran
  | succ count ih =>
    cases stack : state.2.stack with
    | nil =>
      have replied : handleStore refuses .pop state =
          (none, (state.1, state.2.withError (text "Stack underflow"))) := by
        simp [handleStore, handleOp, stack]
      have same : (bindParams (count + 1) : Program R World Unit).run (handleStore refuses) state =
          (none, (state.1, state.2.withError (text "Stack underflow"))) := by
        refine (Effectful.run.eq_2 _ _ _ _).trans ?_
        rw [replied]
      rw [same] at ran
      cases ran
      rfl
    | cons value rest =>
      have replied : handleStore refuses .pop state = (some value, stacked state rest) := by
        simp [stacked, handleStore, handleOp, stack]
      have same : (bindParams (count + 1) : Program R World Unit).run (handleStore refuses) state =
          (bindParams count : Program R World Unit).run (handleStore refuses)
            (handleStore refuses (.setVar (paramName (count + 1)) value)
              (stacked state rest)).2 := by
        refine (Effectful.run.eq_2 _ _ _ _).trans ?_
        rw [replied]
        exact run_store _ _ _ _
      rw [same] at ran
      exact ih ran

end Calls

section Machines

variable {refuses : Refusals} {outside : Outside R World} {code : Code R}
  {instruction : Instruction} {runtime : Runtime R World}

end Machines

section Main

variable {refuses : Refusals} {outside : Outside R World} {code : Code R}
  {instruction : Instruction} {runtime : Runtime R World}

theorem callParams_attempts (refuses : Refusals) (outside : Outside R World)
    (runtime : Runtime R World) (calls : instruction.opcode = .call) :
    ((∀ attempt ∈ attempts refuses (callParams : Program R World Nat) (0, runtime),
        attempt.failure = none) ↔
      AllStored refuses (uncheckedStores outside instruction runtime) (0, runtime)) ∧
    ∀ after, (callParams : Program R World Nat).run (handleStore refuses) (0, runtime) =
      (none, after) → after.2.errorMsg ∉ storeMessages := by
  rw [uncheckedStores, calls]
  have underflow : text "Stack underflow" ∉ storeMessages := by decide
  have mismatch : typeMismatch (text "GOSUB param count") ∉ storeMessages := by decide
  change (_ ↔ AllStored refuses _ (stacked (0, runtime) runtime.stack)) ∧
    ∀ after, (callParams : Program R World Nat).run (handleStore refuses)
      (stacked (0, runtime) runtime.stack) = (none, after) → _
  change ((∀ attempt ∈ attempts refuses (callParams : Program R World Nat)
    (stacked (0, runtime) runtime.stack), attempt.failure = none) ↔ _) ∧ _
  generalize runtime.stack = stack
  cases stack with
  | nil =>
    constructor
    · simp [callParams, attempts_perform, attemptOf, handleStore, handleOp, stacked, AllStored,
        pop, Effectful.bind]
    · intro after ran
      cases ran
      exact underflow
  | cons count rest =>
    cases count with
    | number n =>
      let k := sizeOfNumber n
      have tried : attempts refuses (callParams : Program R World Nat)
          (stacked (0, runtime) (.number n :: rest)) =
            attempts refuses (bindParams k : Program R World Unit) (stacked (0, runtime) rest) :=
        attempts_andThen refuses (bindParams k) (stacked (0, runtime) rest) k
      have alike : SameVariables (stacked (0, runtime) rest)
          (stacked (0, runtime) (.number n :: rest)) := ⟨rfl, rfl, rfl⟩
      constructor
      · rw [tried, bindParams_attempts]
        exact alike.allStored
      · intro after ran
        have ran : ((bindParams k : Program R World Unit).bind fun _ =>
          (.done k : Program R World Nat)).run (handleStore refuses) (stacked (0, runtime) rest) =
            (none, after) := ran
        rw [Effectful.run_bind] at ran
        split at ran
        · cases ran
        · rename_i failed
          cases ran
          rw [bindParams_fails failed]
          exact underflow
    | _ =>
      constructor
      · exact iff_of_true (fun attempt among => (List.not_mem_nil among).elim) trivial
      · intro after ran
        cases ran
        exact mismatch

theorem stagedReturn_next (hasReturnValue : Bool) (runtime : Runtime R World) :
    (stagedReturn hasReturnValue runtime).program = .done 0 ∨
      ∀ result middle skip final,
        (stagedReturn hasReturnValue runtime).next result middle = (some skip, final) →
          final.globalVars = middle.globalVars ∧ final.scopeStack = middle.scopeStack := by
  cases scopes : runtime.scopeStack with
  | cons scope rest =>
    simp only [stagedReturn, scopes]
    exact .inl rfl
  | nil =>
    cases gosubs : runtime.gosubStack with
    | nil =>
      simp only [stagedReturn, scopes, gosubs]
      exact .inl rfl
    | cons gosub rest =>
      right
      intro result middle skip final done
      simp only [stagedReturn, scopes, gosubs] at done
      cases done
      exact ⟨rfl, rfl⟩

theorem staged_next (outside : Outside R World) (code : Code R) (instruction : Instruction)
    (runtime : Runtime R World) :
    (staged outside code instruction runtime).program = .done 0 ∨
      ∀ result middle skip final,
        (staged outside code instruction runtime).next result middle = (some skip, final) →
          final.globalVars = middle.globalVars ∧ final.scopeStack = middle.scopeStack := by
  unfold staged
  split
  · right
    intro result middle skip final done
    simp only [stagedCall] at done
    split_ifs at done
    · cases done
    · cases done
      exact ⟨rfl, rfl⟩
  · exact stagedReturn_next _ _
  · exact stagedReturn_next _ _
  · unfold stagedForIncr
    split
    · exact .inl rfl
    · split
      · exact .inl rfl
      · right
        intro result middle skip final done
        cases done
        exact ⟨rfl, rfl⟩
  all_goals first
    | exact .inl rfl
    | exact .inr fun result middle skip final done => by
        cases done
        exact ⟨rfl, rfl⟩

end Main

section Theorem

variable {refuses : Refusals} {outside : Outside R World} {code : Code R}
  {instruction : Instruction}

/-- An instruction that goes on when a store fails does not fail with the message of a store. -/
structure GoesOn (refuses : Refusals) (outside : Outside R World) (code : Code R)
    (instruction : Instruction) (runtime : Runtime R World) : Prop where
  stores : (∀ attempt ∈ attempts refuses (staged outside code instruction runtime).program
      (0, runtime), attempt.failure = none) ↔
    AllStored refuses (uncheckedStores outside instruction runtime) (0, runtime)
  message : ∀ attempt ∈ attempts refuses (staged outside code instruction runtime).program
      (0, runtime), ∀ after, executeStoring outside refuses code instruction runtime =
        (none, after) → after.errorMsg ∉ storeMessages

theorem GoesOn.of_performs {runtime : Runtime R World}
    (performs : Performs refuses (staged outside code instruction runtime).program (0, runtime)
      (uncheckedStores outside instruction runtime))
    (goes : ∀ result middle, attempts refuses (staged outside code instruction runtime).program
      (0, runtime) ≠ [] →
        ((staged outside code instruction runtime).next result middle).1.isSome) :
    GoesOn refuses outside code instruction runtime := by
  refine ⟨performs.allStored, ?_⟩
  intro attempt among after executed
  rcases performs with ⟨-, nothing⟩ | ⟨before, result, final, -, -, ran⟩
  · rw [nothing] at among
    cases among
  · -- The run has a result, and what is done behind it has one too.
    have some := goes result final.2 (List.ne_nil_of_mem among)
    simp only [executeStoring, ran] at executed
    rw [executed] at some
    cases some

theorem stagedReturn_isSome (hasReturnValue : Bool) (runtime : Runtime R World) (result : Nat)
    (middle : Runtime R World)
    (tried : attempts refuses (stagedReturn hasReturnValue runtime).program (0, runtime) ≠ []) :
    ((stagedReturn hasReturnValue runtime).next result middle).1.isSome := by
  cases scopes : runtime.scopeStack with
  | cons scope rest =>
    simp only [stagedReturn, scopes] at tried
    exact absurd rfl tried
  | nil =>
    cases gosubs : runtime.gosubStack with
    | nil =>
      simp only [stagedReturn, scopes, gosubs] at tried
      exact absurd rfl tried
    | cons gosub rest =>
      simp only [stagedReturn, scopes, gosubs]
      rfl

theorem goesOn_of_opcode (refuses : Refusals) (outside : Outside R World) (code : Code R)
    (goes : goesOn instruction.opcode = true) (runtime : Runtime R World) :
    GoesOn refuses outside code instruction runtime := by
  unfold goesOn at goes
  split at goes
  · rename_i same
    have program : (staged outside code instruction runtime) = stagedCall instruction.operand := by
      rw [staged, same]
    obtain ⟨stores, fails⟩ := callParams_attempts refuses outside runtime same
    constructor
    · rw [program]
      exact stores
    · intro attempt among after executed
      simp only [executeStoring, program] at executed
      split at executed
      · simp only [stagedCall] at executed
        split_ifs at executed
        · cases executed
          show (text "GOSUB stack overflow").take 1023 ∉ storeMessages
          decide
        · cases executed
      · rename_i failed
        cases executed
        exact fails _ failed
  · rename_i same
    have program : (staged outside code instruction runtime) =
        stagedReturn (decide (instruction.operand ≠ 0)) runtime := by
      rw [staged, same]
    refine .of_performs ?_ ?_
    · rw [program, uncheckedStores, same]
      exact performs_return _ _
    · rw [program]
      exact fun result middle tried => stagedReturn_isSome _ _ result middle tried
  · rename_i same
    have program : (staged outside code instruction runtime) = stagedReturn true runtime := by
      rw [staged, same]
    refine .of_performs ?_ ?_
    · rw [program, uncheckedStores, same]
      exact performs_return _ _
    · rw [program]
      exact fun result middle tried => stagedReturn_isSome _ _ result middle tried
  · rename_i same
    refine .of_performs ?_ ?_
    · rw [staged, same]
      simp only [dataProgram, same, binaryOperator, unaryOperator, storingHost]
      exact (performs_runlocal same runtime).andThen 0
    · rw [staged, same]
      exact fun _ _ _ => rfl
  · rename_i same
    refine .of_performs ?_ ?_
    · rw [staged, same]
      simp only [dataProgram, same, binaryOperator, unaryOperator, storingHost]
      exact (performs_readfile same runtime).andThen 0
    · rw [staged, same]
      exact fun _ _ _ => rfl
  · rename_i same
    refine .of_performs ?_ ?_
    · rw [staged, same]
      simp only [dataProgram, same, binaryOperator, unaryOperator, storingHost]
      exact (performs_http same runtime).andThen 0
    · rw [staged, same]
      exact fun _ _ _ => rfl
  · cases goes

theorem uncheckedStores_checked (heeding : goesOn instruction.opcode = false)
    (runtime : Runtime R World) : uncheckedStores outside instruction runtime = [] := by
  unfold uncheckedStores
  split
  all_goals first
    | rfl
    | (rename_i same; rw [same] at heeding; cases heeding)

theorem coerceForName_short {name : Text} (short : name.length ≤ 63) (value : Value R) :
    coerceForName (normalizeIdentifier name) value = coerceForName name value := by
  have whole : normalizeIdentifier name = name.map toUpper := by
    rw [normalizeIdentifier, List.take_of_length_le short]
  have dollars := nameHasSuffix_upper name (show dollar.toNat < 65 by decide)
  have percents := nameHasSuffix_upper name (show percent.toNat < 65 by decide)
  unfold coerceForName
  rw [whole, dollars, percents]

theorem dispatchStoring_held {runtime after : Runtime R World}
    (running : dispatchStoring outside refuses code instruction runtime = .running after)
    {front rest : List (Attempt R)} {attempt : Attempt R}
    (tried : instructionAttempts outside refuses code instruction runtime =
      front ++ attempt :: rest)
    (succeeded : attempt.failure = none) (last : ∀ later ∈ rest, later.key ≠ attempt.key) :
    ∃ stored, coerceForName attempt.key attempt.value = .ok stored ∧
      getVar after.toMachine attempt.name = stored := by
  simp only [dispatchStoring, executeStoring] at running
  cases ran : (staged outside code instruction (beginInstruction instruction runtime)).program.run
      (handleStore refuses) (0, beginInstruction instruction runtime) with
  | mk result state =>
    obtain ⟨count, middle⟩ := state
    cases result with
    | none => simp [ran] at running
    | some result =>
      obtain ⟨stored, coerced, held⟩ := attempts_readBack ran tried succeeded last
      refine ⟨stored, coerced, ?_⟩
      simp only [ran] at running
      rcases staged_next outside code instruction
        (beginInstruction instruction runtime) with nothing | keeps
      · rw [instructionAttempts, nothing] at tried
        simp [attempts, Effectful.performed] at tried
      · split at running
        · cases running
        · rename_i skip final done
          obtain ⟨globals, scopes⟩ := keeps _ _ _ _ done
          cases running
          have same : heldValue final.toMachine attempt.key =
              heldValue middle.toMachine attempt.key := by
            rw [heldValue, heldValue, globals, scopes]
          show (heldValue final.toMachine attempt.key).getD _ = _
          rw [same, held]
          rfl

/-- A script that finds some text in every file. -/
def readingScript : Outside Int Unit where
  statement _ := ⟨.posix, none, fun _ => .notOpened, false, fun _ => 0, 0, false, false, [], [], []⟩
  keep world _ := world
  loadTextFile _ _ := .ok (text "hello")
  httpReady _ := false
  request world _ := (.failed [] none, world)
  restClient _ := false
  configList world _ := (.error [], world)
  others _ _ := .done ()
  storeless _ _ := rfl

end Theorem


end C64Stream.Stores
