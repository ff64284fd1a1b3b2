import C64Stream.Script.VmLaws

/-! The variables of every scope, and which of them a program can change. -/

namespace C64Stream

variable {R World : Type}

section Tables

/-- The variables of the scope at a depth; depth zero is the global scope. -/
def tableAt (globals : Variables R) : List (Scope R) → Nat → Variables R
  | [], depth => if depth = 0 then globals else []
  | scope :: rest, depth =>
    if depth = rest.length + 1 then scope.localVars else tableAt globals rest depth

/-- The variables of the scope of a machine at a depth. -/
def Machine.tableAt (machine : Machine R) (depth : Nat) : Variables R :=
  C64Stream.tableAt machine.globalVars machine.scopeStack depth

/-- The number of open scopes. -/
def Machine.depth (machine : Machine R) : Nat :=
  machine.scopeStack.length

theorem lookup_store (table : Variables R) (key other : Text) (value : Value R) :
    lookup (store table key value) other =
      if other = key then some value else lookup table other := by
  induction table with
  | nil =>
    by_cases same : other = key
    · simp [store, lookup, same]
    · have differs : (key == other) = false := beq_eq_false_iff_ne.mpr (Ne.symm same)
      simp [store, lookup, differs, same]
  | cons entry rest ih =>
    rw [store]
    split <;> rename_i here
    · -- The entry of the name is overwritten.
      have here : entry.1 = key := by simpa using here
      by_cases same : other = key
      · simp [lookup, same]
      · have differs : (key == other) = false := beq_eq_false_iff_ne.mpr (Ne.symm same)
        simp [lookup, differs, same, here]
    · have here : entry.1 ≠ key := by simpa using here
      by_cases found : entry.1 = other
      · rw [← found, if_neg here]
        simp [lookup]
      · have passed : (entry.1 == other) = false := by simpa using found
        have tail : lookup (entry :: store rest key value) other =
            lookup (store rest key value) other := by
          simp [lookup, passed]
        rw [tail, ih]
        simp [lookup, passed]

theorem tableAt_below {globals : Variables R} {scope : Scope R} {rest : List (Scope R)}
    {depth : Nat} (below : depth ≤ rest.length) :
    tableAt globals (scope :: rest) depth = tableAt globals rest depth := by
  rw [tableAt, if_neg (by omega)]

theorem tableAt_top (globals : Variables R) (scope : Scope R) (rest : List (Scope R)) :
    tableAt globals (scope :: rest) (rest.length + 1) = scope.localVars := by
  rw [tableAt, if_pos rfl]

end Tables

section Writing

variable [ScriptNumber R] {name : Text} {value : Value R}

theorem setVar_tableAt {before after : Machine R} (set : setVar before name value = .ok after) :
    ∃ stored, coerceForName (normalizeIdentifier name) value = .ok stored ∧
      after.depth = before.depth ∧ ∀ depth key, lookup (after.tableAt depth) key =
        if depth = before.depth ∧ key = normalizeIdentifier name then some stored
        else lookup (before.tableAt depth) key := by
  simp only [setVar, Bind.bind, Except.bind] at set
  split at set
  · cases set
  · rename_i stored coerced
    refine ⟨stored, coerced, ?_⟩
    split at set
    · rename_i scope rest opened
      rw [← Except.ok.inj set]
      refine ⟨by simp [Machine.depth, opened], fun depth key => ?_⟩
      simp only [Machine.tableAt, Machine.depth, opened, tableAt, List.length_cons]
      by_cases top : depth = rest.length + 1
      · simp only [top, if_true, lookup_store, true_and]
      · simp only [top, false_and, if_false]
    · rename_i global
      split at set
      · cases set
      · rw [← Except.ok.inj set]
        refine ⟨rfl, fun depth key => ?_⟩
        simp only [Machine.tableAt, Machine.depth, global, tableAt, List.length_nil]
        by_cases top : depth = 0
        · simp only [top, if_true, lookup_store, true_and]
        · simp only [top, false_and, if_false]

theorem setVar_stack {before after : Machine R} (set : setVar before name value = .ok after) :
    after.stack = before.stack := by
  simp only [setVar, Bind.bind, Except.bind] at set
  split at set
  · cases set
  · split at set
    · rw [← Except.ok.inj set]
    · split at set
      · cases set
      · rw [← Except.ok.inj set]

theorem setVar_succeeds {machine : Machine R} {stored : Value R}
    (coerced : coerceForName (normalizeIdentifier name) value = .ok stored)
    (room : machine.depth ≠ 0 ∨ lookup machine.globalVars (normalizeIdentifier name) ≠ none ∨
      machine.globalVars.length < c64scriptMaxVariables) :
    ∃ after, setVar machine name value = .ok after := by
  simp only [setVar, coerced, Bind.bind, Except.bind]
  split
  · exact ⟨_, rfl⟩
  · rename_i global
    have global : machine.depth = 0 := by simp [Machine.depth, global]
    rw [if_neg]
    · exact ⟨_, rfl⟩
    · rintro ⟨absent, full⟩
      rcases room with inner | known | few
      · exact inner global
      · exact known absent
      · omega

/-- The name that an operation sets, if it sets one. -/
def VmOp.assignedName (op : VmOp R World) : Option Text :=
  match op with
  | .setVar name _ => some name
  | _ => none

/-- The names that a program sets when it is run. -/
def assignedIn {α : Type} (program : Program R World α) (runtime : Runtime R World) :
    List Text :=
  (program.performed handleOp runtime).filterMap fun entry => entry.1.assignedName

theorem assignedIn_bind {α β : Type} (program : Program R World α)
    (next : α → Program R World β) (runtime : Runtime R World) :
    assignedIn (program.bind next) runtime =
      assignedIn program runtime ++
        match program.run handleOp runtime with
        | (some result, after) => assignedIn (next result) after
        | (none, _) => [] := by
  unfold assignedIn
  rw [Effectful.performed_bind, List.filterMap_append]
  rcases program.run handleOp runtime with ⟨_ | result, after⟩ <;> rfl

@[simp] theorem assignedIn_orFail {α : Type} (result : Except Text α)
    (runtime : Runtime R World) : assignedIn (orFail result : Program R World α) runtime = [] := by
  cases result <;> rfl

@[simp] theorem assignedIn_pop (runtime : Runtime R World) :
    assignedIn (pop : Program R World (Value R)) runtime = [] := by
  cases stack : runtime.stack <;>
    simp [assignedIn, pop, Effectful.performed, handleOp, stack, VmOp.assignedName]

@[simp] theorem assignedIn_push (value : Value R) (runtime : Runtime R World) :
    assignedIn (push value : Program R World Unit) runtime = [] := by
  simp only [assignedIn, push, Effectful.performed, handleOp]
  split <;> rfl

theorem forBounds_names (runtime : Runtime R World) :
    assignedIn (forBounds : Program R World (R × R)) runtime = [] := by
  have silent : ∀ {α β : Type} (program : Program R World α) (next : α → Program R World β),
      (∀ runtime, assignedIn program runtime = []) →
        (∀ result runtime, assignedIn (next result) runtime = []) →
          ∀ runtime, assignedIn (program.bind next) runtime = [] := by
    intro α β program next first others runtime
    rw [assignedIn_bind, first]
    split
    · exact others _ _
    · rfl
  unfold forBounds
  simp only [Effectful.bind_eq]
  refine silent _ _ assignedIn_pop (fun _ => silent _ _ assignedIn_pop fun _ =>
    silent _ _ assignedIn_pop fun _ => silent _ _ (assignedIn_orFail _) fun _ =>
      silent _ _ (assignedIn_orFail _) fun _ => silent _ _ (assignedIn_orFail _) fun _ _ => rfl) _

@[simp] theorem assignedIn_trySetVar (name : Text) (value : Value R) (runtime : Runtime R World) :
    assignedIn (trySetVar name value) runtime = [name] := by
  cases reply : setVar runtime.toMachine name value <;>
    simp [assignedIn, trySetVar, Effectful.performed, handleOp, reply, VmOp.assignedName]

theorem assign_names (name : Text) (value : Value R) (runtime : Runtime R World) :
    assignedIn (assign name value) runtime ⊆ [name] := by
  intro other member
  rw [assign, Effectful.bind_eq, assignedIn_bind, List.mem_append] at member
  rcases member with set | rest
  · rwa [assignedIn_trySetVar] at set
  · split at rest
    · split at rest <;> cases rest
    · cases rest

theorem handleOp_tableAt (op : VmOp R World) (runtime : Runtime R World) :
    (handleOp op runtime).2.toMachine.depth = runtime.toMachine.depth ∧
      ∀ depth key, (depth = runtime.toMachine.depth →
          ∀ name, op.assignedName = some name → key ≠ normalizeIdentifier name) →
        lookup ((handleOp op runtime).2.toMachine.tableAt depth) key =
          lookup (runtime.toMachine.tableAt depth) key := by
  cases op with
  | pop =>
    simp only [handleOp]
    split <;> exact ⟨rfl, fun _ _ _ => rfl⟩
  | push value =>
    simp only [handleOp]
    split <;> exact ⟨rfl, fun _ _ _ => rfl⟩
  | setVar name value =>
    simp only [handleOp]
    split
    · exact ⟨rfl, fun _ _ _ => rfl⟩
    · rename_i machine set
      obtain ⟨stored, _, same, tables⟩ := setVar_tableAt set
      refine ⟨same, fun depth key other => ?_⟩
      rw [tables, if_neg]
      rintro ⟨top, rfl⟩
      exact other top name rfl rfl
  | _ => exact ⟨rfl, fun _ _ _ => rfl⟩

theorem run_tableAt {α : Type} {program : Program R World α} {runtime after : Runtime R World}
    {result : Option α} (ran : program.run handleOp runtime = (result, after)) :
    after.toMachine.depth = runtime.toMachine.depth ∧
      ∀ depth key, (depth = runtime.toMachine.depth →
          key ∉ (assignedIn program runtime).map normalizeIdentifier) →
        lookup (after.toMachine.tableAt depth) key =
          lookup (runtime.toMachine.tableAt depth) key := by
  have depths := Effectful.run_relates
    (fun before after : Runtime R World => after.toMachine.depth = before.toMachine.depth)
    (fun _ => rfl) (fun _ _ _ first second => second.trans first) program runtime
    (fun entry _ => (handleOp_tableAt entry.1 entry.2).1)
  rw [ran] at depths
  refine ⟨depths, fun depth key other => ?_⟩
  -- Along the run the depth stays the same, and so does the variable.
  have kept := Effectful.run_relates
    (fun before after : Runtime R World =>
      after.toMachine.depth = before.toMachine.depth ∧
        ((depth = before.toMachine.depth →
            key ∉ (assignedIn program runtime).map normalizeIdentifier) →
          lookup (after.toMachine.tableAt depth) key =
            lookup (before.toMachine.tableAt depth) key))
    (fun _ => ⟨rfl, fun _ => rfl⟩)
    (fun _ _ _ first second => ⟨second.1.trans first.1, fun other =>
      (second.2 (by rw [first.1]; exact other)).trans (first.2 other)⟩) program runtime
    (fun entry member => by
      have one := handleOp_tableAt entry.1 entry.2
      refine ⟨one.1, fun other => one.2 depth key fun top name set same => ?_⟩
      refine other top (List.mem_map.mpr ⟨name, ?_, same.symm⟩)
      exact List.mem_filterMap.mpr ⟨entry, member, set⟩)
  rw [ran] at kept
  exact kept.2 other

theorem handleOp_stack (op : VmOp R World) (runtime : Runtime R World)
    (bounded : runtime.stack.length ≤ c64scriptMaxStackDepth) :
    (handleOp op runtime).2.stack.length ≤ c64scriptMaxStackDepth := by
  cases op with
  | pop =>
    simp only [handleOp]
    split <;> rename_i stack
    · exact bounded
    · rw [stack, List.length_cons] at bounded
      exact Nat.le_of_succ_le bounded
  | push value =>
    simp only [handleOp]
    split
    · exact bounded
    · simp only [List.length_cons]
      omega
  | setVar name value =>
    simp only [handleOp]
    split
    · exact bounded
    · rename_i machine set
      show machine.stack.length ≤ _
      rw [setVar_stack set]
      exact bounded
  | _ => exact bounded

theorem run_stack {α : Type} {program : Program R World α} {runtime after : Runtime R World}
    {result : Option α} (bounded : runtime.stack.length ≤ c64scriptMaxStackDepth)
    (ran : program.run handleOp runtime = (result, after)) :
    after.stack.length ≤ c64scriptMaxStackDepth := by
  have kept := Effectful.run_preserves
    (fun runtime : Runtime R World => runtime.stack.length ≤ c64scriptMaxStackDepth)
    handleOp_stack program bounded
  rwa [ran] at kept

end Writing

end C64Stream
