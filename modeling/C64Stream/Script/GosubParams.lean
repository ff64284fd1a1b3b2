import C64Stream.Script.Bytecode
import C64Stream.Script.Tables

/-! Parameters of subroutines, and what disturbs them. -/

namespace C64Stream

variable {R World : Type} [ScriptNumber R]

/-- The stored name of the parameter of an index, counted from zero. -/
def paramKey (index : Nat) : Text :=
  normalizeIdentifier (paramName (index + 1))

section Keys

theorem paramKey_number : ∀ index < 64, ((paramKey index).drop 5).foldl
    (fun number digit => 10 * number + (digit.toNat - 48)) 0 = index + 1 := by
  decide +kernel

theorem paramKey_inj {first second : Nat} (one : first < 64) (two : second < 64)
    (same : paramKey first = paramKey second) : first = second := by
  have number := paramKey_number first one
  rw [same, paramKey_number second two] at number
  omega

theorem paramKey_plain : ∀ index < 64, nameHasSuffix (paramKey index) dollar = false ∧
    nameHasSuffix (paramKey index) percent = false := by
  decide +kernel

theorem paramKey_result : ∀ index < 64, paramKey index ≠ normalizeIdentifier (text "RESULT") := by
  decide +kernel

end Keys

section Binding

/-- There is room for the parameters of a call: in a function, or among the global variables. -/
def ParamsFit (machine : Machine R) (count : Nat) : Prop :=
  machine.depth ≠ 0 ∨
    ((List.range count).filter fun index =>
        (lookup machine.globalVars (paramKey index)).isNone).length +
      machine.globalVars.length ≤ c64scriptMaxVariables

omit [ScriptNumber R] in
theorem store_length (table : Variables R) (key : Text) (value : Value R) :
    (store table key value).length =
      table.length + if (lookup table key).isNone then 1 else 0 := by
  induction table with
  | nil => rfl
  | cons entry rest ih =>
    rw [store]
    cases here : entry.1 == key with
    | true => simp [lookup, here]
    | false =>
      have same : lookup (entry :: rest) key = lookup rest key := by simp [lookup, here]
      rw [same]
      simp only [Bool.false_eq_true, if_false, List.length_cons, ih]
      omega

theorem setVar_globalVars {before after : Machine R} {name : Text} {value : Value R}
    (set : setVar before name value = .ok after) (global : before.depth = 0) :
    ∃ stored,
      after.globalVars = store before.globalVars (normalizeIdentifier name) stored := by
  have none : before.scopeStack = [] := List.eq_nil_of_length_eq_zero global
  simp only [setVar, Bind.bind, Except.bind, none] at set
  split at set
  · cases set
  · rename_i stored coerced
    split at set
    · cases set
    · rw [← Except.ok.inj set]
      exact ⟨stored, rfl⟩

theorem ParamsFit.last {machine : Machine R} {count : Nat} (fits : ParamsFit machine (count + 1))
    (small : count < 64) (value : Value R) :
    ∃ after, setVar machine (paramName (count + 1)) value = .ok after ∧
      ParamsFit after count ∧ after.depth = machine.depth ∧
        ∀ depth key, lookup (after.tableAt depth) key =
          if depth = machine.depth ∧ key = paramKey count then some value
          else lookup (machine.tableAt depth) key := by
  have plain := paramKey_plain count small
  have coerced : coerceForName (normalizeIdentifier (paramName (count + 1))) value = .ok value := by
    show coerceForName (paramKey count) value = _
    cases value <;> simp [coerceForName, plain]
  have room : machine.depth ≠ 0 ∨
      lookup machine.globalVars (normalizeIdentifier (paramName (count + 1))) ≠ none ∨
        machine.globalVars.length < c64scriptMaxVariables := by
    rcases fits with inner | total
    · exact .inl inner
    · refine .inr ?_
      show lookup machine.globalVars (paramKey count) ≠ none ∨ _
      cases known : lookup machine.globalVars (paramKey count) with
      | some old => exact .inl (by simp)
      | none =>
        -- The missing parameter is one of those that there is room for.
        rw [List.range_succ, List.filter_append, List.length_append] at total
        simp only [known, List.filter_cons, Option.isNone_none, if_true, List.filter_nil,
          List.length_singleton] at total
        exact .inr (by omega)
  obtain ⟨after, set⟩ := setVar_succeeds coerced room
  obtain ⟨stored, same, depth, tables⟩ := setVar_tableAt set
  obtain rfl := Except.ok.inj (coerced.symm.trans same)
  refine ⟨after, set, ?_, depth, tables⟩
  by_cases global : machine.depth = 0
  · obtain ⟨other, globals⟩ := setVar_globalVars set global
    have total := fits.resolve_left (fun inner => inner global)
    -- The parameters before the last one are missing exactly if they were before.
    have others : ((List.range count).filter fun index =>
          (lookup after.globalVars (paramKey index)).isNone) =
        (List.range count).filter fun index =>
          (lookup machine.globalVars (paramKey index)).isNone := by
      refine List.filter_congr fun index member => ?_
      have before := List.mem_range.mp member
      have differs : paramKey index ≠ normalizeIdentifier (paramName (count + 1)) := by
        intro equal
        have equal := paramKey_inj (by omega) small equal
        omega
      rw [globals, lookup_store, if_neg differs]
    have length := store_length machine.globalVars (paramKey count) other
    refine .inr ?_
    rw [others, globals]
    show _ + (store machine.globalVars (paramKey count) other).length ≤ _
    rw [length]
    rw [List.range_succ, List.filter_append, List.length_append, List.filter_cons] at total
    split at total <;> rename_i missing
    · simp only [missing, if_true, List.filter_nil, List.length_singleton] at total ⊢
      omega
    · simp only [missing, Bool.false_eq_true, if_false, List.filter_nil, List.length_nil] at total ⊢
      omega
  · exact .inl (by rw [depth]; exact global)

theorem bindParams_names (count : Nat) (runtime : Runtime R World) :
    ∀ name ∈ assignedIn (bindParams count) runtime, ∃ index < count, name = paramName (index + 1) := by
  induction count generalizing runtime with
  | zero => intro name member; cases member
  | succ count ih =>
    intro name member
    rw [bindParams, Effectful.bind_eq, assignedIn_bind, List.mem_append] at member
    rcases member with popped | bound
    · rw [assignedIn_pop] at popped
      cases popped
    · split at bound
      · rename_i value popped ran
        rw [Effectful.bind_eq, assignedIn_bind, List.mem_append] at bound
        rcases bound with set | others
        · rw [assignedIn_trySetVar, List.mem_singleton] at set
          exact ⟨count, Nat.lt_succ_self _, set⟩
        · split at others
          · obtain ⟨index, inside, same⟩ := ih _ name others
            exact ⟨index, Nat.lt_succ_of_lt inside, same⟩
          · cases others
      · cases bound

theorem bindParams_values {count : Nat} {runtime after : Runtime R World} {reply : Unit}
    (ran : (bindParams count).run handleOp runtime = (some reply, after)) (small : count ≤ 64)
    (fits : ParamsFit runtime.toMachine count) :
    count ≤ runtime.stack.length ∧ ∀ index < count,
      lookup (after.toMachine.tableAt runtime.toMachine.depth) (paramKey index) =
        runtime.stack[count - 1 - index]? := by
  -- The induction is on the parameters that are left; the last one lies on top of the stack.
  induction count generalizing runtime with
  | zero => exact ⟨Nat.zero_le _, fun index impossible => by omega⟩
  | succ count ih =>
    rw [bindParams, Effectful.bind_eq, Effectful.run_bind] at ran
    split at ran
    · rename_i value popped first
      obtain ⟨rest, stack, rfl⟩ := pop_ok first
      have fits : ParamsFit ({ runtime with stack := rest } : Runtime R World).toMachine
          (count + 1) := fits
      obtain ⟨machine, set, room, depth, tables⟩ := fits.last (by omega) value
      have kept := setVar_stack set
      simp only [trySetVar, Effectful.bind_eq, Effectful.bind, Effectful.run, handleOp, set] at ran
      obtain ⟨enough, others⟩ := @ih { runtime with toMachine := machine } ran (by omega) room
      have enough : count ≤ rest.length := by
        have same : machine.stack = rest := kept
        rwa [← same]
      rw [stack]
      refine ⟨Nat.succ_le_succ enough, fun index inside => ?_⟩
      rcases Nat.lt_or_eq_of_le (Nat.le_of_lt_succ inside) with before | rfl
      · have found : lookup (after.toMachine.tableAt machine.depth) (paramKey index) =
            machine.stack[count - 1 - index]? := others index before
        have position : count + 1 - 1 - index = count - 1 - index + 1 := by omega
        have same : machine.stack = rest := kept
        rw [position, List.getElem?_cons_succ, ← same, ← found, depth]
        rfl
      · -- The parameters that are bound later have other keys.
        have frame := (run_tableAt ran).2 machine.depth (paramKey index) fun _ member => by
          obtain ⟨name, named, same⟩ := List.mem_map.mp member
          obtain ⟨other, earlier, rfl⟩ := bindParams_names _ _ name named
          have equal := paramKey_inj (by omega) (by omega) same
          omega
        have held := tables machine.depth (paramKey index)
        rw [if_pos ⟨depth, rfl⟩] at held
        have top : (value :: rest)[index + 1 - 1 - index]? = some value := by
          rw [show index + 1 - 1 - index = 0 by omega]
          rfl
        rw [top, ← held, ← frame, depth]
        rfl
    · cases ran

end Binding

section Activations

/-- An open call of a subroutine: the depth of its scope, its parameters, and the names that its
body has assigned since. -/
structure Activation (R : Type) where
  depth : Nat
  values : List (Value R)
  assigned : List Text
  deriving DecidableEq

/-- The variable of a parameter still belongs to an activation. -/
def Activation.Owns (activation : Activation R) (key : Text) (value : Value R) : Prop :=
  ∃ index : Nat, activation.values[index]? = some value ∧ key = paramKey index ∧
    key ∉ activation.assigned

/-- The parameters that a call takes off the stack, the first one first. -/
def callValues (stack : List (Value R)) : List (Value R) :=
  match stack with
  | .number count :: rest => (rest.take (sizeOfNumber count)).reverse
  | _ => []

/-- The names that an instruction assigns without calling or returning. -/
def assignedBy (host : Host R World) (code : Code R) (instruction : Instruction)
    (runtime : Runtime R World) : List Text :=
  match instruction.opcode with
  | .jump | .jumpIfFalse | .whileCheck | .call | .return | .returnValue | .callFunction | .stop
  | .halt | .forInit | .forCheck => []
  | .forIncr => (runtime.forStack.take 1).map ForState.variableName
  | _ => assignedIn (dataProgram host code instruction) runtime

/-- The stored names that the instruction of a round assigns. -/
def keysAssigned (host : Host R World) (code : Code R) (instruction : Instruction)
    (runtime : Runtime R World) : List Text :=
  (assignedBy host code instruction (vmEnter host instruction runtime)).map normalizeIdentifier

/-- The activations whose body is not the one that executes at a depth. -/
def suspended (depth : Nat) (calls : List (Activation R)) : List (Activation R) :=
  match calls with
  | current :: older => if current.depth = depth then older else calls
  | [] => []

/-- The activations after the body at a depth has assigned some names. -/
def afterAssigning (depth : Nat) (keys : List Text) (calls : List (Activation R)) :
    List (Activation R) :=
  match calls with
  | current :: older =>
    if current.depth = depth then { current with assigned := keys ++ current.assigned } :: older
    else calls
  | [] => []

/-- The open activations after an instruction, the latest first. -/
def activationsAfter (host : Host R World) (code : Code R) (instruction : Instruction)
    (runtime : Runtime R World) (calls : List (Activation R)) : List (Activation R) :=
  match instruction.opcode with
  | .call => ⟨runtime.toMachine.depth, callValues runtime.stack, []⟩ :: calls
  | .return | .returnValue => if runtime.scopeStack.isEmpty then calls.tail else calls
  | _ => afterAssigning runtime.toMachine.depth (keysAssigned host code instruction runtime) calls

/-- A round that goes on, with a record of the open activations. -/
def paramStep (host : Host R World) (code : Code R) :
    Runtime R World × List (Activation R) → Option (Runtime R World × List (Activation R)) :=
  recordedStep (activationsAfter host code) host code

/-- In the body of a subroutine every parameter that the body has not assigned reads as the value
that the call gave it. -/
def ParamsPrivate (state : Runtime R World × List (Activation R)) : Prop :=
  ∀ current older, state.2 = current :: older → current.depth = state.1.toMachine.depth →
    ∀ (index : Nat) (value : Value R), current.values[index]? = some value →
      paramKey index ∉ current.assigned →
        getVar state.1.toMachine (paramName (index + 1)) = value

/-- A key is owned by no activation that shares the scope at hand. -/
def Unowned (depth : Nat) (calls : List (Activation R)) (key : Text) : Prop :=
  ∀ activation ∈ calls, activation.depth = depth → ∀ value, ¬ activation.Owns key value

/-- A round disturbs no parameters: a call has room for its own and takes none that a suspended
activation of the scope still owns, the body assigns none of those either, and a return leaves a
function only when no subroutine that was entered in it is open. -/
def ParamsUndisturbed (host : Host R World) (code : Code R)
    (state : Runtime R World × List (Activation R)) : Prop :=
  ∀ instruction, code.bytecode[state.1.ip]? = some instruction →
    match instruction.opcode with
    | .call =>
      ParamsFit state.1.toMachine (callValues state.1.stack).length ∧
        ∀ index < (callValues state.1.stack).length,
          Unowned state.1.toMachine.depth state.2 (paramKey index)
    | .return | .returnValue =>
      state.1.scopeStack.isEmpty = false →
        ∀ activation ∈ state.2, activation.depth ≠ state.1.toMachine.depth
    | _ =>
      ∀ key ∈ keysAssigned host code instruction state.1,
        Unowned state.1.toMachine.depth (suspended state.1.toMachine.depth state.2) key

/-- The open activations still hold the parameters that they own. -/
structure ParamsHeld (machine : Machine R) (calls : List (Activation R)) : Prop where
  bounded : machine.stack.length ≤ c64scriptMaxStackDepth
  counts : (calls.map fun activation => activation.values.length) =
    machine.gosubStack.map GosubState.paramCount
  inside : ∀ activation ∈ calls, activation.depth ≤ machine.depth
  small : ∀ activation ∈ calls, activation.values.length < 64
  held : ∀ activation ∈ calls, ∀ key value, activation.Owns key value →
    lookup (machine.tableAt activation.depth) key = some value
  apart : calls.Pairwise fun younger older => younger.depth = older.depth →
    ∀ index < younger.values.length, ∀ value, ¬ older.Owns (paramKey index) value

end Activations

section Rounds

variable {host : Host R World} {code : Code R} {state : Runtime R World × List (Activation R)}
  {instruction : Instruction} {runtime after : Runtime R World} {skip hasReturnValue : Bool}
  {calls : List (Activation R)}

theorem getVar_of_top {machine : Machine R} {name : Text} {value : Value R}
    (found : lookup (machine.tableAt machine.depth) (normalizeIdentifier name) = some value) :
    getVar machine name = value := by
  unfold getVar heldValue
  unfold Machine.tableAt Machine.depth at found
  cases scopes : machine.scopeStack with
  | nil =>
    rw [scopes] at found
    have found : lookup machine.globalVars (normalizeIdentifier name) = some value := found
    simp [found]
  | cons scope rest =>
    rw [scopes, List.length_cons, tableAt_top] at found
    simp [found]

theorem ParamsHeld.private (held : ParamsHeld state.1.toMachine state.2) : ParamsPrivate state := by
  intro current older calls top index value given free
  have own := held.held current (by rw [calls]; exact List.mem_cons_self ..) (paramKey index) value
    ⟨index, given, rfl, free⟩
  rw [top] at own
  exact getVar_of_top own

theorem executeInstruction_tableAt (plain : instruction.opcode.isCall = false)
    (executed : executeInstruction host code instruction runtime = (some skip, after)) :
    after.toMachine.depth = runtime.toMachine.depth ∧
      ∀ depth key, (depth = runtime.toMachine.depth →
          key ∉ (assignedBy host code instruction runtime).map normalizeIdentifier) →
        lookup (after.toMachine.tableAt depth) key =
          lookup (runtime.toMachine.tableAt depth) key := by
  unfold executeInstruction at executed
  split at executed
  case h_1 opcode =>
    obtain ⟨-, rfl⟩ := Prod.mk.inj executed
    exact ⟨rfl, fun _ _ _ => rfl⟩
  case h_2 opcode =>
    obtain ⟨_, middle, _, ran, rest⟩ := andThen_control executed
    obtain ⟨others, _, rfl⟩ := popNumber_ok ran
    obtain ⟨-, rfl⟩ := Prod.mk.inj rest
    split <;> exact ⟨rfl, fun _ _ _ => rfl⟩
  case h_3 opcode =>
    obtain ⟨_, middle, _, ran, rest⟩ := andThen_control executed
    obtain ⟨others, _, rfl⟩ := popNumber_ok ran
    obtain ⟨-, rfl⟩ := Prod.mk.inj rest
    split <;> exact ⟨rfl, fun _ _ _ => rfl⟩
  case h_4 opcode => rw [opcode] at plain; cases plain
  case h_5 opcode => rw [opcode] at plain; cases plain
  case h_6 opcode => rw [opcode] at plain; cases plain
  case h_7 opcode => rw [opcode] at plain; cases plain
  case h_8 opcode =>
    obtain ⟨-, rfl⟩ := Prod.mk.inj executed
    exact ⟨rfl, fun _ _ _ => rfl⟩
  case h_9 opcode =>
    obtain ⟨-, rfl⟩ := Prod.mk.inj executed
    exact ⟨rfl, fun _ _ _ => rfl⟩
  case h_10 opcode =>
    -- The bounds of a loop are taken off the stack, and no variable is set.
    obtain ⟨bounds, middle, _, ran, rest⟩ := andThen_control executed
    have frame := run_tableAt ran
    have names := forBounds_names runtime
    split at rest
    · cases rest
    · split at rest
      · cases rest
      · obtain ⟨-, rfl⟩ := Prod.mk.inj rest
        refine ⟨frame.1, fun depth key _ => frame.2 depth key fun _ => ?_⟩
        rw [names]
        exact List.not_mem_nil
  case h_11 opcode =>
    unfold executeForCheck at executed
    split at executed
    · cases executed
    · split at executed
      · cases executed
      · split at executed
        · obtain ⟨-, rfl⟩ := Prod.mk.inj executed
          exact ⟨rfl, fun _ _ _ => rfl⟩
        · obtain ⟨-, rfl⟩ := Prod.mk.inj executed
          exact ⟨rfl, fun _ _ _ => rfl⟩
  case h_12 opcode =>
    unfold executeForIncr at executed
    split at executed
    · cases executed
    · rename_i state rest loops
      split at executed
      · cases executed
      · obtain ⟨_, middle, _, ran, ends⟩ := andThen_control executed
        obtain ⟨-, rfl⟩ := Prod.mk.inj ends
        have frame := run_tableAt ran
        have names : assignedBy host code instruction runtime = [state.variableName] := by
          simp [assignedBy, opcode, loops]
        rw [names]
        refine ⟨frame.1, fun depth key other => frame.2 depth key fun top member => ?_⟩
        exact other top (List.map_subset _ (assign_names _ _ _) member)
  case h_13 =>
    obtain ⟨_, middle, _, ran, rest⟩ := andThen_control executed
    obtain ⟨-, rfl⟩ := Prod.mk.inj rest
    have names : assignedBy host code instruction runtime =
        assignedIn (dataProgram host code instruction) runtime := by
      unfold assignedBy
      split <;> first | contradiction | rfl
    rw [names]
    exact run_tableAt ran

theorem gosubStack_of_plain {before after : Control R}
    (effect : ControlEffect code instruction before after)
    (plain : instruction.opcode.isCall = false) : after.gosubStack = before.gosubStack := by
  cases effect with
  | next => rfl
  | jump => rfl
  | call calls => rw [calls] at plain; cases plain
  | callFunction => rfl
  | functionReturn => rfl
  | gosubReturn returns => simp [Opcode.isCall, returns] at plain
  | forInit => rfl
  | forDone => rfl

theorem activationsAfter_plain (plain : instruction.opcode.isCall = false)
    (runtime : Runtime R World) (calls : List (Activation R)) :
    activationsAfter host code instruction runtime calls =
      afterAssigning runtime.toMachine.depth (keysAssigned host code instruction runtime)
        calls := by
  unfold activationsAfter
  split <;> rename_i opcode <;> first | (rw [opcode] at plain; cases plain) | rfl

omit [ScriptNumber R] in
theorem ParamsHeld.body {before after : Machine R} {keys : List Text}
    (held : ParamsHeld before calls) (bounded : after.stack.length ≤ c64scriptMaxStackDepth)
    (gosubs : after.gosubStack = before.gosubStack) (depth : after.depth = before.depth)
    (frame : ∀ depth key, (depth = before.depth → key ∉ keys) →
      lookup (after.tableAt depth) key = lookup (before.tableAt depth) key)
    (free : ∀ key ∈ keys, Unowned before.depth (suspended before.depth calls) key) :
    ParamsHeld after (afterAssigning before.depth keys calls) := by
  -- Suspended activations own none of the keys, and the current one gives them up.
  have others : ∀ activation ∈ calls, activation ∈ suspended before.depth calls →
      ∀ key value, activation.Owns key value →
        lookup (after.tableAt activation.depth) key = some value := by
    intro activation member waits key value owns
    rw [frame _ _ fun top written => free key written activation waits top value owns]
    exact held.held activation member key value owns
  cases calls with
  | nil =>
    refine ⟨bounded, ?_, ?_, ?_, ?_, .nil⟩
    · rw [gosubs]
      exact held.counts
    · intro _ none
      cases none
    · intro _ none
      cases none
    · intro _ none
      cases none
  | cons current older =>
    rw [afterAssigning]
    by_cases here : current.depth = before.depth
    · rw [if_pos here]
      have waits : suspended before.depth (current :: older) = older := by
        rw [suspended, if_pos here]
      rw [waits] at others
      refine ⟨bounded, ?_, ?_, ?_, ?_, ?_⟩
      · rw [gosubs, ← held.counts]
        rfl
      · intro activation member
        rw [depth]
        rcases List.mem_cons.mp member with rfl | member
        · exact here.le
        · exact held.inside activation (List.mem_cons_of_mem _ member)
      · intro activation member
        rcases List.mem_cons.mp member with rfl | member
        · exact held.small current (List.mem_cons_self ..)
        · exact held.small activation (List.mem_cons_of_mem _ member)
      · intro activation member key value owns
        rcases List.mem_cons.mp member with rfl | member
        · obtain ⟨index, given, same, unassigned⟩ := owns
          rw [List.mem_append, not_or] at unassigned
          show lookup (after.tableAt current.depth) key = _
          rw [frame _ _ fun _ => unassigned.1]
          exact held.held current (List.mem_cons_self ..) key value
            ⟨index, given, same, unassigned.2⟩
        · exact others activation (List.mem_cons_of_mem _ member) member key value owns
      · have apart := List.pairwise_cons.mp held.apart
        exact List.pairwise_cons.mpr ⟨apart.1, apart.2⟩
    · rw [if_neg here]
      have waits : suspended before.depth (current :: older) = current :: older := by
        rw [suspended, if_neg here]
      rw [waits] at others
      exact ⟨bounded, by rw [gosubs]; exact held.counts, by rw [depth]; exact held.inside,
        held.small, fun activation member => others activation member member, held.apart⟩

theorem executeReturn_stack (bounded : runtime.stack.length ≤ c64scriptMaxStackDepth)
    (executed : executeReturn hasReturnValue runtime = (some skip, after)) :
    after.stack.length ≤ c64scriptMaxStackDepth := by
  unfold executeReturn at executed
  split at executed
  · obtain ⟨value, middle, _, ran, pushed⟩ := andThen_control executed
    obtain ⟨_, last, _, pushing, ends⟩ := andThen_control pushed
    obtain ⟨-, rfl⟩ := Prod.mk.inj ends
    have popped : middle.stack.length ≤ c64scriptMaxStackDepth := run_stack bounded ran
    obtain ⟨room, rfl⟩ := push_ok pushing
    exact room
  · split at executed
    · obtain ⟨_, middle, _, ran, ends⟩ := andThen_control executed
      obtain ⟨-, rfl⟩ := Prod.mk.inj ends
      have inner := run_stack bounded ran
      exact inner
    · cases executed

theorem executeInstruction_stack (bounded : runtime.stack.length ≤ c64scriptMaxStackDepth)
    (executed : executeInstruction host code instruction runtime = (some skip, after)) :
    after.stack.length ≤ c64scriptMaxStackDepth := by
  unfold executeInstruction at executed
  split at executed
  case h_1 opcode =>
    obtain ⟨-, rfl⟩ := Prod.mk.inj executed
    exact bounded
  case h_2 opcode =>
    obtain ⟨_, middle, _, ran, rest⟩ := andThen_control executed
    obtain ⟨-, rfl⟩ := Prod.mk.inj rest
    have inner := run_stack bounded ran
    split <;> exact inner
  case h_3 opcode =>
    obtain ⟨_, middle, _, ran, rest⟩ := andThen_control executed
    obtain ⟨-, rfl⟩ := Prod.mk.inj rest
    have inner := run_stack bounded ran
    split <;> exact inner
  case h_4 opcode =>
    obtain ⟨_, middle, _, ran, rest⟩ := andThen_control executed
    have inner := run_stack bounded ran
    split at rest
    · cases rest
    · obtain ⟨-, rfl⟩ := Prod.mk.inj rest
      exact inner
  case h_5 opcode => exact executeReturn_stack bounded executed
  case h_6 opcode => exact executeReturn_stack bounded executed
  case h_7 opcode =>
    unfold executeCallFunction at executed
    simp only at executed
    split at executed
    · cases executed
    · split_ifs at executed
      · cases executed
      · cases executed
      · cases executed
      · obtain ⟨-, rfl⟩ := Prod.mk.inj executed
        simp only [List.length_drop]
        omega
  case h_8 opcode =>
    obtain ⟨-, rfl⟩ := Prod.mk.inj executed
    exact bounded
  case h_9 opcode =>
    obtain ⟨-, rfl⟩ := Prod.mk.inj executed
    exact bounded
  case h_10 opcode =>
    obtain ⟨bounds, middle, _, ran, rest⟩ := andThen_control executed
    have inner := run_stack bounded ran
    split at rest
    · cases rest
    · split at rest
      · cases rest
      · obtain ⟨-, rfl⟩ := Prod.mk.inj rest
        exact inner
  case h_11 opcode =>
    unfold executeForCheck at executed
    split at executed
    · cases executed
    · split at executed
      · cases executed
      · split at executed
        · obtain ⟨-, rfl⟩ := Prod.mk.inj executed
          exact bounded
        · obtain ⟨-, rfl⟩ := Prod.mk.inj executed
          exact bounded
  case h_12 opcode =>
    unfold executeForIncr at executed
    split at executed
    · cases executed
    · split at executed
      · cases executed
      · obtain ⟨_, middle, _, ran, ends⟩ := andThen_control executed
        obtain ⟨-, rfl⟩ := Prod.mk.inj ends
        exact run_stack bounded ran
  case h_13 =>
    obtain ⟨_, middle, _, ran, rest⟩ := andThen_control executed
    obtain ⟨-, rfl⟩ := Prod.mk.inj rest
    exact run_stack bounded ran

theorem bindParams_enough {count : Nat} {reply : Unit}
    (ran : (bindParams count).run handleOp runtime = (some reply, after)) :
    count ≤ runtime.stack.length := by
  induction count generalizing runtime with
  | zero => exact Nat.zero_le _
  | succ count ih =>
    rw [bindParams, Effectful.bind_eq, Effectful.run_bind] at ran
    split at ran
    · rename_i value popped first
      obtain ⟨rest, stack, rfl⟩ := pop_ok first
      simp only [trySetVar, Effectful.bind_eq, Effectful.bind, Effectful.run, handleOp] at ran
      rw [stack, List.length_cons]
      refine Nat.succ_le_succ ?_
      cases set : setVar ({ runtime with stack := rest } : Runtime R World).toMachine
          (paramName (count + 1)) value with
      | error message =>
        rw [set] at ran
        exact ih ran
      | ok machine =>
        rw [set] at ran
        have enough := ih ran
        have kept : machine.stack = rest := setVar_stack set
        rwa [← kept]
    · cases ran

theorem callParams_ok {paramCount : Nat}
    (ran : callParams.run handleOp runtime = (some paramCount, after)) :
    ∃ count rest reply, runtime.stack = .number count :: rest ∧ paramCount = sizeOfNumber count ∧
      (bindParams paramCount).run handleOp { runtime with stack := rest } =
        (some reply, after) := by
  rw [callParams, Effectful.bind_eq, Effectful.run_bind] at ran
  split at ran
  · rename_i value popped first
    obtain ⟨rest, stack, rfl⟩ := pop_ok first
    cases value with
    | number count =>
      simp only [Effectful.bind_eq, Effectful.run_bind] at ran
      split at ran
      · rename_i reply bound others
        obtain ⟨same, rfl⟩ := Prod.mk.inj ran
        obtain rfl := Option.some.inj same
        exact ⟨count, rest, reply, stack, rfl, others⟩
      · cases ran
    | _ => cases ran
  · cases ran

theorem callValues_getElem? {count : R} {rest : List (Value R)} {index : Nat}
    (enough : sizeOfNumber count ≤ rest.length) (inside : index < sizeOfNumber count) :
    (callValues (.number count :: rest))[index]? = rest[sizeOfNumber count - 1 - index]? := by
  have length : (rest.take (sizeOfNumber count)).length = sizeOfNumber count := by
    rw [List.length_take, Nat.min_eq_left enough]
  show (rest.take (sizeOfNumber count)).reverse[index]? = _
  rw [List.getElem?_reverse (by omega), length, List.getElem?_take, if_pos (by omega)]

theorem ParamsHeld.call {operand : Nat} (held : ParamsHeld runtime.toMachine calls)
    (fits : ParamsFit runtime.toMachine (callValues runtime.stack).length)
    (free : ∀ index < (callValues runtime.stack).length,
      Unowned runtime.toMachine.depth calls (paramKey index))
    (executed : executeCall operand runtime = (some skip, after)) :
    ParamsHeld after.toMachine
      (⟨runtime.toMachine.depth, callValues runtime.stack, []⟩ :: calls) := by
  obtain ⟨paramCount, middle, same, ran, rest⟩ := andThen_control executed
  split at rest
  · cases rest
  obtain ⟨-, rfl⟩ := Prod.mk.inj rest
  obtain ⟨count, below, reply, stack, rfl, bound⟩ := callParams_ok ran
  have bounded := held.bounded
  have enough : sizeOfNumber count ≤ below.length := bindParams_enough bound
  rw [stack, List.length_cons] at bounded
  have small : sizeOfNumber count < 64 := Nat.lt_of_le_of_lt enough bounded
  have length : (callValues runtime.stack).length = sizeOfNumber count := by
    rw [stack]
    simp [callValues, enough]
  rw [length] at fits free
  have values := (bindParams_values bound small.le fits).2
  have frame := run_tableAt bound
  have final := run_stack (Nat.le_of_succ_le bounded) bound
  have gosubs : middle.gosubStack = runtime.gosubStack := congrArg Control.gosubStack same
  have depth : middle.toMachine.depth = runtime.toMachine.depth := frame.1
  refine ⟨final, ?_, ?_, ?_, ?_, ?_⟩
  · show (callValues runtime.stack).length :: _ = sizeOfNumber count :: middle.gosubStack.map _
    rw [length, gosubs, held.counts]
  · intro activation member
    show activation.depth ≤ middle.toMachine.depth
    rw [depth]
    rcases List.mem_cons.mp member with rfl | member
    · exact le_rfl
    · exact held.inside activation member
  · intro activation member
    rcases List.mem_cons.mp member with rfl | member
    · show (callValues runtime.stack).length < 64
      rw [length]
      exact small
    · exact held.small activation member
  · intro activation member key value owns
    show lookup (middle.toMachine.tableAt activation.depth) key = some value
    rcases List.mem_cons.mp member with rfl | member
    · -- The new activation owns what was just bound.
      obtain ⟨index, given, rfl, _⟩ := owns
      have inside : index < sizeOfNumber count := by
        rw [← length]
        exact (List.getElem?_eq_some_iff.mp given).1
      have bound := values index inside
      have given : (callValues runtime.stack)[index]? = some value := given
      rw [stack, callValues_getElem? enough inside] at given
      exact bound.trans given
    · rw [frame.2 activation.depth key fun top written => ?_]
      · exact held.held activation member key value owns
      · obtain ⟨name, named, rfl⟩ := List.mem_map.mp written
        obtain ⟨index, inside, rfl⟩ := bindParams_names _ _ name named
        exact free index inside activation member top value owns
  · refine List.pairwise_cons.mpr ⟨fun older member same index inside => ?_, held.apart⟩
    have inside : index < (callValues runtime.stack).length := inside
    rw [length] at inside
    exact free index inside older member same.symm

theorem clearParams_names (count : Nat) (runtime : Runtime R World) :
    ∀ name ∈ assignedIn (clearParams count) runtime, ∃ index < count,
      name = paramName (index + 1) := by
  induction count generalizing runtime with
  | zero => intro name member; cases member
  | succ count ih =>
    intro name member
    rw [clearParams, Effectful.bind_eq, assignedIn_bind, List.mem_append] at member
    rcases member with earlier | last
    · obtain ⟨index, inside, same⟩ := ih runtime name earlier
      exact ⟨index, Nat.lt_succ_of_lt inside, same⟩
    · split at last
      · rw [Effectful.bind_eq, assignedIn_bind, List.mem_append] at last
        rcases last with set | none
        · rw [assignedIn_trySetVar, List.mem_singleton] at set
          exact ⟨count, Nat.lt_succ_self _, set⟩
        · split at none <;> cases none
      · cases last

theorem leaveGosub_names (hasReturnValue : Bool) (count : Nat) (runtime : Runtime R World) :
    ∀ name ∈ assignedIn (leaveGosub hasReturnValue count) runtime,
      name = text "RESULT" ∨ ∃ index < count, name = paramName (index + 1) := by
  intro name member
  unfold leaveGosub at member
  split at member
  · rw [Effectful.bind_eq, assignedIn_bind, assignedIn_pop, List.nil_append] at member
    split at member
    · rw [Effectful.bind_eq, assignedIn_bind, List.mem_append] at member
      rcases member with set | cleared
      · rw [assignedIn_trySetVar, List.mem_singleton] at set
        exact .inl set
      · split at cleared
        · exact .inr (clearParams_names count _ name cleared)
        · cases cleared
    · cases member
  · exact .inr (clearParams_names count _ name member)

theorem ParamsHeld.gosubReturn (held : ParamsHeld runtime.toMachine calls)
    (scopes : runtime.scopeStack = [])
    (executed : executeReturn hasReturnValue runtime = (some skip, after)) :
    ParamsHeld after.toMachine calls.tail := by
  have bounded := executeReturn_stack held.bounded executed
  simp only [executeReturn, scopes] at executed
  split at executed
  · rename_i gosub rest gosubs
    obtain ⟨_, middle, same, ran, ends⟩ := andThen_control executed
    obtain ⟨-, rfl⟩ := Prod.mk.inj ends
    have frame := run_tableAt ran
    have kept : middle.gosubStack = gosub :: rest :=
      (congrArg Control.gosubStack same).trans gosubs
    have counts := held.counts
    rw [gosubs] at counts
    cases calls with
    | nil => cases counts
    | cons current older =>
      obtain ⟨count, counts⟩ := List.cons.inj counts
      have apart := List.pairwise_cons.mp held.apart
      have global : ∀ activation ∈ current :: older, activation.depth = 0 := by
        intro activation member
        have inside := held.inside activation member
        rw [Machine.depth, scopes] at inside
        exact Nat.le_zero.mp inside
      refine ⟨bounded, ?_, ?_, ?_, ?_, apart.2⟩
      · show _ = middle.gosubStack.tail.map _
        rw [kept]
        exact counts
      · intro activation member
        rw [global activation (List.mem_cons_of_mem _ member)]
        exact Nat.zero_le _
      · exact fun activation member => held.small activation (List.mem_cons_of_mem _ member)
      · intro activation member key value owns
        have listed := List.mem_cons_of_mem current member
        show lookup (middle.toMachine.tableAt activation.depth) key = some value
        rw [frame.2 activation.depth key fun _ written => ?_]
        · exact held.held activation listed key value owns
        · obtain ⟨name, named, rfl⟩ := List.mem_map.mp written
          rcases leaveGosub_names _ _ _ name named with rfl | ⟨index, inside, rfl⟩
          · -- The name of the result is no parameter.
            obtain ⟨index, given, same, _⟩ := owns
            have short := held.small activation listed
            have inside := (List.getElem?_eq_some_iff.mp given).1
            exact paramKey_result index (by omega) same.symm
          · rw [← count] at inside
            exact apart.1 activation member
              ((global current (List.mem_cons_self ..)).trans (global activation listed).symm)
              index inside value owns
  · cases executed

theorem returnValue_ok {value : Value R}
    (ran : (returnValue hasReturnValue).run handleOp runtime = (some value, after)) :
    ∃ stack, after = { runtime with stack } := by
  unfold returnValue at ran
  split at ran
  · obtain ⟨rest, _, rfl⟩ := pop_ok ran
    exact ⟨rest, rfl⟩
  · obtain ⟨-, rfl⟩ := Prod.mk.inj ran
    exact ⟨runtime.stack, rfl⟩

theorem ParamsHeld.functionReturn (held : ParamsHeld runtime.toMachine calls)
    (opened : runtime.scopeStack.isEmpty = false)
    (left : ∀ activation ∈ calls, activation.depth ≠ runtime.toMachine.depth)
    (executed : executeReturn hasReturnValue runtime = (some skip, after)) :
    ParamsHeld after.toMachine calls := by
  have bounded := executeReturn_stack held.bounded executed
  cases scopes : runtime.scopeStack with
  | nil =>
    rw [scopes] at opened
    cases opened
  | cons scope rest =>
    simp only [executeReturn, scopes] at executed
    obtain ⟨value, middle, _, ran, pushed⟩ := andThen_control executed
    obtain ⟨stack, rfl⟩ := returnValue_ok ran
    obtain ⟨_, last, _, pushing, ends⟩ := andThen_control pushed
    obtain ⟨_, rfl⟩ := push_ok pushing
    obtain ⟨-, rfl⟩ := Prod.mk.inj ends
    -- Every activation lies below the scope that is closed.
    have below : ∀ activation ∈ calls, activation.depth ≤ rest.length := by
      intro activation member
      have inside := held.inside activation member
      have differs := left activation member
      rw [Machine.depth, scopes, List.length_cons] at inside differs
      omega
    refine ⟨bounded, held.counts, ?_, held.small, ?_, held.apart⟩
    · intro activation member
      show activation.depth ≤ runtime.scopeStack.tail.length
      rw [scopes]
      exact below activation member
    · intro activation member key value owns
      have before := held.held activation member key value owns
      rw [Machine.tableAt, scopes, tableAt_below (below activation member)] at before
      show lookup (tableAt runtime.globalVars runtime.scopeStack.tail activation.depth) key = _
      rw [scopes]
      exact before

theorem ParamsHeld.callFunction {operand : Nat} (held : ParamsHeld runtime.toMachine calls)
    (executed : executeCallFunction code operand runtime = (some skip, after)) :
    ParamsHeld after.toMachine calls := by
  unfold executeCallFunction at executed
  simp only at executed
  split at executed
  · cases executed
  · split_ifs at executed
    · cases executed
    · cases executed
    · cases executed
    · obtain ⟨-, rfl⟩ := Prod.mk.inj executed
      refine ⟨?_, held.counts, ?_, held.small, ?_, held.apart⟩
      · have bounded := held.bounded
        simp only [List.length_drop]
        omega
      · intro activation member
        exact Nat.le_succ_of_le (held.inside activation member)
      · intro activation member key value owns
        show lookup (tableAt runtime.globalVars (_ :: runtime.scopeStack) activation.depth) key = _
        rw [tableAt_below (held.inside activation member)]
        exact held.held activation member key value owns

omit [ScriptNumber R] in
theorem ParamsHeld.moved {machine : Machine R} (held : ParamsHeld machine calls) (ip : Nat) :
    ParamsHeld { machine with ip } calls :=
  ⟨held.bounded, held.counts, held.inside, held.small, held.held, held.apart⟩

theorem ParamsHeld.leave (held : ParamsHeld runtime.toMachine calls)
    (left : runtime.scopeStack.isEmpty = false →
      ∀ activation ∈ calls, activation.depth ≠ runtime.toMachine.depth)
    (executed : executeReturn hasReturnValue runtime = (some skip, after)) :
    ParamsHeld after.toMachine
      (if runtime.scopeStack.isEmpty then calls.tail else calls) := by
  split <;> rename_i scopes
  · exact held.gosubReturn (List.isEmpty_iff.mp scopes) executed
  · have opened : runtime.scopeStack.isEmpty = false := by simpa using scopes
    exact held.functionReturn opened (left opened) executed

theorem ParamsUndisturbed.plain (undisturbed : ParamsUndisturbed host code state)
    (found : code.bytecode[state.1.ip]? = some instruction)
    (plain : instruction.opcode.isCall = false) :
    ∀ key ∈ keysAssigned host code instruction state.1,
      Unowned state.1.toMachine.depth (suspended state.1.toMachine.depth state.2) key := by
  have met := undisturbed instruction found
  split at met
  · rename_i opcode
    rw [opcode] at plain
    cases plain
  · rename_i opcode
    rw [opcode] at plain
    cases plain
  · rename_i opcode
    rw [opcode] at plain
    cases plain
  · exact met

theorem activationsAfter_callFunction (opcode : instruction.opcode = .callFunction)
    (runtime : Runtime R World) (calls : List (Activation R)) :
    activationsAfter host code instruction runtime calls = calls := by
  have none : keysAssigned host code instruction runtime = [] := by
    simp [keysAssigned, assignedBy, opcode]
  simp only [activationsAfter, opcode, none]
  cases calls with
  | nil => rfl
  | cons current older => simp only [afterAssigning, List.nil_append, ite_self]

theorem paramStep_held {next : Runtime R World × List (Activation R)}
    (held : ParamsHeld state.1.toMachine state.2) (undisturbed : ParamsUndisturbed host code state)
    (stepped : paramStep host code state = some next) :
    ParamsHeld next.1.toMachine next.2 := by
  obtain ⟨instruction, found, running, record⟩ := recordedStep_running stepped
  obtain ⟨same, skip, executed, here, outcome, ends⟩ := vmStep_entered running
  obtain rfl : instruction = same := Option.some.inj (found.symm.trans here)
  -- The instruction starts from the machine of the state, but for the instruction pointer.
  have begins := @vmEnter_machine _ _ _ host instruction state.1
  generalize entering : vmEnter host instruction state.1 = runtime at begins outcome
  have entered : ParamsHeld runtime.toMachine state.2 := by
    rw [begins]
    exact held.moved _
  have scopes : runtime.scopeStack = state.1.scopeStack := by rw [begins]
  have stack : runtime.stack = state.1.stack := by rw [begins]
  have globals : runtime.globalVars = state.1.globalVars := by rw [begins]
  have depth : runtime.toMachine.depth = state.1.toMachine.depth := congrArg List.length scopes
  have met := undisturbed instruction found
  rw [ends, record]
  by_cases plain : instruction.opcode.isCall = false
  · have frame := executeInstruction_tableAt plain outcome
    have free := undisturbed.plain found plain
    rw [activationsAfter_plain plain]
    rw [← depth] at free ⊢
    refine entered.body (executeInstruction_stack entered.bounded outcome)
      (gosubStack_of_plain (executeInstruction_control outcome) plain) frame.1 ?_ free
    rw [keysAssigned, entering]
    exact frame.2
  · have calls : instruction.opcode = .call ∨ instruction.opcode = .callFunction ∨
        instruction.opcode = .return ∨ instruction.opcode = .returnValue := by
      have opened : instruction.opcode.isCall = true := by simpa using plain
      simpa only [Opcode.isCall, Opcode.isReturn, Bool.or_eq_true, beq_iff_eq, or_assoc] using
        opened
    rcases calls with opcode | opcode | opcode | opcode
    · -- A subroutine is called.
      simp only [opcode] at met
      simp only [executeInstruction, opcode] at outcome
      simp only [activationsAfter, opcode]
      rw [← stack, ← depth] at met ⊢
      have fits : ParamsFit runtime.toMachine (callValues runtime.stack).length := by
        unfold ParamsFit
        rw [globals, depth]
        exact met.1
      exact entered.call fits met.2 outcome
    · -- A function is called.
      simp only [executeInstruction, opcode] at outcome
      rw [activationsAfter_callFunction opcode]
      exact entered.callFunction outcome
    · simp only [opcode] at met
      simp only [executeInstruction, opcode] at outcome
      simp only [activationsAfter, opcode]
      rw [← scopes, ← depth] at met
      rw [← scopes]
      exact entered.leave met outcome
    · simp only [opcode] at met
      simp only [executeInstruction, opcode] at outcome
      simp only [activationsAfter, opcode]
      rw [← scopes, ← depth] at met
      rw [← scopes]
      exact entered.leave met outcome

end Rounds

section Runs

/-- In a run in which nothing disturbs the parameters of the open subroutines, the body of every
subroutine reads the values that its call gave it. -/
theorem gosubParams_private (host : Host R World) (code : Code R) {runtime : Runtime R World}
    (fresh : runtime.gosubStack = []) (bounded : runtime.stack.length ≤ c64scriptMaxStackDepth)
    {state : Runtime R World × List (Activation R)}
    (reached : Reaches (paramStep host code) (ParamsUndisturbed host code)
      (vmStart code runtime, []) state) : ParamsPrivate state := by
  have start : ParamsHeld (vmStart code runtime).toMachine ([] : List (Activation R)) := by
    have none : (vmStart code runtime).gosubStack = [] := fresh
    refine ⟨bounded, ?_, ?_, ?_, ?_, .nil⟩
    · rw [none]
      rfl
    · intro activation impossible
      cases impossible
    · intro activation impossible
      cases impossible
    · intro activation impossible
      cases impossible
  exact (reached.invariant (fun state => ParamsHeld state.1.toMachine state.2)
    (fun _ _ held undisturbed stepped => paramStep_held held undisturbed stepped) start).private

end Runs

section Examples

/-- A subroutine with a parameter calls another one before it reads its own. -/
def nestedGosub : List (AstStmt Int) :=
  [.gosub 1 (text "OUTER") [.number 1 (literal 7)],
    .stop 2,
    .label 3 (text "OUTER"),
    .gosub 4 (text "INNER") [.number 4 (literal 8)],
    .return 5 none,
    .label 6 (text "INNER"),
    .return 7 none]

/-- What the compiler makes of it. -/
def nestedGosubCode : Code Int :=
  match c64scriptCompile nestedGosub [] with
  | .ok code => code
  | .error _ => ⟨[], [], []⟩

/-- After the inner subroutine has returned, the parameter of the outer one is zero. -/
theorem nestedGosub_cleared :
    c64scriptCompile nestedGosub [] = .ok nestedGosubCode ∧ ∃ state current,
      Reaches (paramStep quietHost nestedGosubCode) (fun _ => True)
          (vmStart nestedGosubCode (runtimeCreate ()), []) state ∧
        state.2 = [current] ∧ current.depth = state.1.toMachine.depth ∧
          current.values = [.number 7] ∧ current.assigned = [] ∧
            getVar state.1.toMachine (text "PARAM1") = .number 0 ∧ ¬ ParamsPrivate state := by
  -- Seven rounds lead behind the inner return.
  have seven : (stepTimes (paramStep quietHost nestedGosubCode) 7
      (vmStart nestedGosubCode (runtimeCreate ()), [])).any (fun state =>
        decide (state.2 = [⟨0, [.number 7], []⟩] ∧ state.1.scopeStack = [] ∧
          getVar state.1.toMachine (text "PARAM1") = .number 0)) = true := by
    decide +kernel
  obtain ⟨state, stepped, facts⟩ := Option.any_eq_true _ _ |>.mp seven
  obtain ⟨calls, scopes, cleared⟩ := of_decide_eq_true facts
  have depth : 0 = state.1.toMachine.depth := by
    rw [Machine.depth, scopes]
    rfl
  refine ⟨rfl, state, _, reaches_of_stepTimes stepped, calls, depth, rfl, rfl, cleared, ?_⟩
  intro reads
  have kept := reads _ _ calls depth 0 (.number 7) rfl (by simp)
  rw [show paramName (0 + 1) = text "PARAM1" by decide +kernel, cleared] at kept
  cases kept

/-- A subroutine that reads its parameter. -/
def readingGosub : Code Int :=
  ⟨[⟨.pushNum, 7, 1⟩, ⟨.pushNum, 1, 1⟩, ⟨.call, 4, 1⟩, ⟨.halt, 0, 2⟩, ⟨.pushVar, 0, 3⟩,
    ⟨.return, 0, 3⟩], [.string (text "PARAM1")], []⟩

/-- After its call the subroutine reads the value that it was given. -/
theorem gosubParams_private_call :
    ∃ state : Runtime Int Unit × List (Activation Int),
      state.1.ip = 4 ∧ state.2 = [⟨0, [.number 7], []⟩] ∧ ParamsPrivate state := by
  -- The two values are pushed, and then the subroutine is called.
  have called : (stepTimes (paramStep quietHost readingGosub) 3
      (vmStart readingGosub (runtimeCreate ()), [])).any (fun state =>
        decide (state.1.ip = 4 ∧ state.2 = [⟨0, [.number 7], []⟩])) = true := by
    decide +kernel
  obtain ⟨state, stepped, facts⟩ := Option.any_eq_true _ _ |>.mp called
  obtain ⟨ip, calls⟩ := of_decide_eq_true facts
  have pushes : ∀ state : Runtime Int Unit × List (Activation Int), ∀ operand,
      readingGosub.bytecode[state.1.ip]? = some ⟨.pushNum, operand, 1⟩ →
        ParamsUndisturbed quietHost readingGosub state := by
    intro state operand here instruction found
    rw [here] at found
    obtain rfl := Option.some.inj found
    intro key member
    simp [keysAssigned, assignedBy, dataProgram] at member
  have calling : ∀ state : Runtime Int Unit × List (Activation Int), state.1.ip = 2 →
      state.2 = [] → state.1.globalVars = [] → state.1.stack = [.number 1, .number 7] →
        ParamsUndisturbed quietHost readingGosub state := by
    intro state third none empty stack instruction found
    rw [third] at found
    obtain rfl := Option.some.inj found
    refine ⟨.inr ?_, fun index _ activation member => ?_⟩
    · rw [empty, stack]
      decide
    · rw [none] at member
      cases member
  have fresh : (runtimeCreate () : Runtime Int Unit).gosubStack = [] := rfl
  refine ⟨state, ip, calls, gosubParams_private quietHost readingGosub fresh (by decide)
    (.step (.step (.step .start (pushes _ 7 rfl) rfl) (pushes _ 1 rfl) rfl)
      (calling _ rfl rfl rfl rfl) stepped)⟩

end Examples

end C64Stream
