import C64Stream.Script.CallFrames
import C64Stream.Script.ValueStack

/-! Two machines that differ only in what their callers have, and why they do the same. -/

namespace C64Stream

section Blind

variable {R World : Type} {α β : Type} {program : Program R World α}

/-- Whether the answer to an operation is the same whatever lies deep in the stack. -/
def VmOp.isBlind (op : VmOp R World) : Bool :=
  match op with
  | .stackSize => false
  | _ => true

/-- A program that never asks how deep the stack is. -/
def Blind (program : Program R World α) : Prop :=
  program.Typed (fun op (_ : Unit) => op.isBlind = true) (fun _ level => level) () ()

theorem Blind.bind {next : α → Program R World β} (first : Blind program)
    (second : ∀ result, Blind (next result)) : Blind (program.bind next) :=
  Effectful.Typed.bind first second

theorem blind_done (result : α) : Blind (.done result : Program R World α) :=
  rfl

theorem blind_pop : Blind (pop : Program R World (Value R)) :=
  ⟨rfl, fun _ => rfl⟩

theorem blind_push (value : Value R) : Blind (push value : Program R World Unit) :=
  ⟨rfl, fun _ => rfl⟩

theorem blind_failed : Blind (failed : Program R World α) :=
  ⟨rfl, fun impossible => impossible.elim⟩

theorem blind_failWith (message : Text) : Blind (failWith message : Program R World α) :=
  ⟨rfl, fun _ => blind_failed⟩

theorem blind_orFail (result : Except Text α) : Blind (orFail result : Program R World α) := by
  cases result with
  | error message => exact blind_failWith message
  | ok value => rfl

theorem blind_trySetVar (name : Text) (value : Value R) :
    Blind (trySetVar name value : Program R World Bool) :=
  ⟨rfl, fun _ => rfl⟩

theorem blind_assign (name : Text) (value : Value R) :
    Blind (assign name value : Program R World Unit) := by
  refine .bind (blind_trySetVar name value) fun stored => ?_
  cases stored with
  | false => exact blind_failed
  | true => rfl

theorem blind_readVar (name : Text) : Blind (readVar name : Program R World (Value R)) :=
  ⟨rfl, fun _ => rfl⟩

theorem blind_checkVar (name : Text) : Blind (checkVar name : Program R World Bool) :=
  ⟨rfl, fun _ => rfl⟩

theorem blind_binary (operator : Value R → Value R → Except Text (Value R)) :
    Blind (binaryInstruction operator : Program R World Unit) :=
  .bind blind_pop fun _ => .bind blind_pop fun _ => .bind (blind_orFail _) blind_push

theorem blind_unary (operator : Value R → Except Text (Value R)) :
    Blind (unaryInstruction operator : Program R World Unit) :=
  .bind blind_pop fun _ => .bind (blind_orFail _) blind_push

theorem blind_popNumber (what : Text) : Blind (popNumber what : Program R World R) :=
  .bind blind_pop fun _ => blind_orFail _

theorem blind_forBounds : Blind (forBounds : Program R World (R × R)) :=
  .bind blind_pop fun _ => .bind blind_pop fun _ => .bind blind_pop fun _ =>
    .bind (blind_orFail _) fun _ => .bind (blind_orFail _) fun _ =>
      .bind (blind_orFail _) fun _ => rfl

theorem blind_bindParams (count : Nat) : Blind (bindParams count : Program R World Unit) := by
  -- One parameter is bound in each round.
  induction count with
  | zero => rfl
  | succ count ih => exact .bind blind_pop fun value => .bind (blind_trySetVar _ _) fun _ => ih

theorem blind_popValues (count : Nat) :
    Blind (popValues count : Program R World (List (Value R))) := by
  induction count with
  | zero => rfl
  | succ count ih => exact .bind blind_pop fun value => .bind ih fun _ => rfl

end Blind

variable {R World : Type} [ScriptNumber R]

section BlindInstructions

theorem blind_returnValue (hasReturnValue : Bool) :
    Blind (returnValue hasReturnValue : Program R World (Value R)) := by
  cases hasReturnValue with
  | false => rfl
  | true => exact blind_pop

theorem blind_pushConst (code : Code R) (operand : Nat) :
    Blind (pushConst code operand : Program R World Unit) := by
  unfold pushConst
  split
  · exact blind_failWith _
  · exact blind_push _

theorem blind_pushVar (code : Code R) (operand : Nat) :
    Blind (pushVar code operand : Program R World Unit) :=
  .bind (blind_orFail _) fun name => .bind (blind_readVar name) blind_push

theorem blind_popVar (code : Code R) (operand : Nat) :
    Blind (popVar code operand : Program R World Unit) :=
  .bind (blind_orFail _) fun name => .bind blind_pop (blind_assign name)

theorem blind_container {code : Code R} {operand : Nat} {kind : Text}
    {act : Text → Program R World Unit} (blind : ∀ name, Blind (act name)) :
    Blind (containerInstruction code operand kind act) :=
  .bind (blind_orFail _) blind

theorem blind_dimArray (name : Text) : Blind (dimArray name : Program R World Unit) := by
  refine .bind blind_pop fun size => ?_
  cases size with
  | number n =>
    simp only
    split
    · exact blind_failWith _
    · split_ifs
      · exact blind_failWith _
      · exact blind_failWith _
      · exact blind_assign _ _
  | _ => exact blind_failWith _

theorem blind_arrayGet (name : Text) : Blind (arrayGet name : Program R World Unit) := by
  refine .bind blind_pop fun index => .bind (blind_orFail _) fun position =>
    .bind (blind_readVar name) fun value => ?_
  split
  · split
    · exact blind_push _
    · exact blind_failWith _
  · exact blind_failWith _

theorem blind_arraySet (name : Text) : Blind (arraySet name : Program R World Unit) := by
  refine .bind blind_pop fun index => .bind blind_pop fun value =>
    .bind (blind_orFail _) fun position => .bind (blind_readVar name) fun container => ?_
  split
  · refine .bind (blind_orFail _) fun element => ?_
    split
    · exact blind_assign _ _
    · exact blind_failWith _
  · exact blind_failWith _

theorem blind_mapGet (name : Text) : Blind (mapGet name : Program R World Unit) := by
  refine .bind blind_pop fun index => .bind (blind_orFail _) fun key =>
    .bind (blind_readVar name) fun value => ?_
  split
  · exact blind_push _
  · exact blind_failWith _

theorem blind_mapSet (name : Text) : Blind (mapSet name : Program R World Unit) := by
  refine .bind blind_pop fun keyValue => .bind blind_pop fun value =>
    .bind (blind_orFail _) fun key => .bind (blind_checkVar name) fun known => ?_
  -- The container is read or made, and then both are treated alike.
  cases known
  all_goals
    simp only [Bool.false_eq_true, if_false, if_true]
    refine .bind ?_ fun container => ?_
    rotate_left
    · split
      · exact .bind (blind_orFail _) fun element => blind_assign _ _
      · exact blind_failWith _
  · exact blind_done _
  · exact blind_readVar name

end BlindInstructions

section Mirrored

/-- What a call has below it: values, loops and the scopes of its callers. -/
structure Below (R : Type) where
  values : List (Value R)
  loops : List (ForState R)
  scopes : List (Scope R)

/-- Scopes above those of the callers: the same variables, and the same addresses to return to, but
for the scope of the call itself. -/
inductive ScopesAlike (below below' : List (Scope R)) : List (Scope R) → List (Scope R) → Prop where
  | function {scope scope' : Scope R} (locals : scope.localVars = scope'.localVars) :
      ScopesAlike below below' (scope :: below) (scope' :: below')
  | inner {scope scope' : Scope R} {rest rest' : List (Scope R)}
      (locals : scope.localVars = scope'.localVars)
      (returnIp : scope.returnIp = scope'.returnIp)
      (others : ScopesAlike below below' rest rest') :
      ScopesAlike below below' (scope :: rest) (scope' :: rest')

/-- Machines that are in the same place of the same function, above what their callers have; so many
values at least are their own. -/
structure Mirrored (below below' : Below R) (depth : Nat) (machine machine' : Machine R) :
    Prop where
  ip : machine.ip = machine'.ip
  globals : ∀ key, lookup machine.globalVars key = lookup machine'.globalVars key
  values : ∃ own, depth ≤ own.length ∧ machine.stack = own ++ below.values ∧
    machine'.stack = own ++ below'.values
  loops : ∃ own, machine.forStack = own ++ below.loops ∧ machine'.forStack = own ++ below'.loops
  scopes : ScopesAlike below.scopes below'.scopes machine.scopeStack machine'.scopeStack

/-- What a script sees of the outside world. -/
structure Outside (World : Type) where
  flags : Flags
  traceRecordingEnabled : Bool
  world : World
  deriving DecidableEq

/-- What a running script sees of the outside world. -/
def Runtime.outside (runtime : Runtime R World) : Outside World :=
  ⟨runtime.flags, runtime.traceRecordingEnabled, runtime.world⟩

/-- The scripts are in the same place and see the same. -/
structure SeesAlike (below below' : Below R) (depth : Nat) (runtime runtime' : Runtime R World) :
    Prop where
  machines : Mirrored below below' depth runtime.toMachine runtime'.toMachine
  outside : runtime.outside = runtime'.outside

variable {below below' : Below R} {depth last : Nat} {machine machine' : Machine R}
  {runtime runtime' final final' : Runtime R World}

omit [ScriptNumber R] in
theorem ScopesAlike.innermost {outer outer' scopes scopes' : List (Scope R)}
    (alike : ScopesAlike outer outer' scopes scopes') :
    ∃ scope rest scope' rest', scopes = scope :: rest ∧ scopes' = scope' :: rest' ∧
      scope.localVars = scope'.localVars ∧ ∀ locals, ScopesAlike outer outer'
        ({ scope with localVars := locals } :: rest)
        ({ scope' with localVars := locals } :: rest') := by
  cases alike with
  | function locals => exact ⟨_, _, _, _, rfl, rfl, locals, fun _ => .function rfl⟩
  | inner locals returnIp others =>
    exact ⟨_, _, _, _, rfl, rfl, locals, fun _ => .inner rfl returnIp others⟩

omit [ScriptNumber R] in
theorem Mirrored.deepen (alike : Mirrored below below' depth machine machine') {more : Nat}
    (enough : below.values.length + more ≤ machine.stack.length) :
    Mirrored below below' more machine machine' := by
  obtain ⟨own, _, stack, stack'⟩ := alike.values
  have length := congrArg List.length stack
  rw [List.length_append] at length
  exact ⟨alike.ip, alike.globals, ⟨own, by omega, stack, stack'⟩, alike.loops, alike.scopes⟩

omit [ScriptNumber R] in
theorem Mirrored.heldValue (alike : Mirrored below below' depth machine machine') (key : Text) :
    heldValue machine key = heldValue machine' key := by
  obtain ⟨scope, rest, scope', rest', here, there, locals, _⟩ := alike.scopes.innermost
  simp only [C64Stream.heldValue, here, there, locals, alike.globals key]

theorem Mirrored.getVar (alike : Mirrored below below' depth machine machine') (name : Text) :
    getVar machine name = getVar machine' name := by
  unfold C64Stream.getVar
  rw [alike.heldValue]

theorem Mirrored.setVar (alike : Mirrored below below' depth machine machine') (name : Text)
    (value : Value R) :
    (∃ message, setVar machine name value = .error message ∧
        setVar machine' name value = .error message) ∨
      ∃ after after', setVar machine name value = .ok after ∧
        setVar machine' name value = .ok after' ∧ Mirrored below below' depth after after' := by
  obtain ⟨scope, rest, scope', rest', here, there, locals, on⟩ := alike.scopes.innermost
  simp only [C64Stream.setVar, Bind.bind, Except.bind, here, there, locals]
  cases coerceForName (normalizeIdentifier name) value with
  | error message => exact .inl ⟨message, rfl, rfl⟩
  | ok stored =>
    -- Both store the variable in their innermost scope.
    exact .inr ⟨_, _, rfl, rfl, alike.ip, alike.globals, alike.values, alike.loops, on _⟩

/-- An operation that finds its value among their own answers both alike. -/
theorem handleOp_alike (op : VmOp R World) (reply reply' : op.Reply)
    (found : op.finds depth) (blind : op.isBlind = true)
    (start : SeesAlike below below' depth runtime runtime')
    (handled : handleOp op runtime = (some reply, final))
    (handled' : handleOp op runtime' = (some reply', final')) :
    reply = reply' ∧ SeesAlike below below' (op.depthAfter depth) final final' := by
  obtain ⟨alike, outside⟩ := start
  have flags : runtime.flags = runtime'.flags := congrArg Outside.flags outside
  have tracing : runtime.traceRecordingEnabled = runtime'.traceRecordingEnabled :=
    congrArg Outside.traceRecordingEnabled outside
  have world : runtime.world = runtime'.world := congrArg Outside.world outside
  obtain ⟨own, enough, stack, stack'⟩ := alike.values
  have stack : runtime.stack = own ++ below.values := stack
  have stack' : runtime'.stack = own ++ below'.values := stack'
  cases op with
  | pop =>
    -- The value is taken from what both have above their callers.
    have found : 0 < depth := found
    obtain ⟨value, rest, rfl⟩ := List.exists_cons_of_length_pos (Nat.lt_of_lt_of_le found enough)
    simp only [handleOp, stack, stack', List.cons_append] at handled handled'
    obtain ⟨same, rfl⟩ := Prod.mk.inj handled
    obtain ⟨same', rfl⟩ := Prod.mk.inj handled'
    refine ⟨Option.some.inj (same.symm.trans same'), ⟨alike.ip, alike.globals, ⟨rest, ?_, rfl, rfl⟩,
      alike.loops, alike.scopes⟩, outside⟩
    rw [List.length_cons] at enough
    show depth - 1 ≤ rest.length
    omega
  | push value =>
    simp only [handleOp] at handled handled'
    split at handled
    · cases handled
    · split at handled'
      · cases handled'
      · obtain ⟨-, rfl⟩ := Prod.mk.inj handled
        obtain ⟨-, rfl⟩ := Prod.mk.inj handled'
        refine ⟨rfl, ⟨alike.ip, alike.globals, ⟨value :: own, ?_, ?_, ?_⟩, alike.loops,
          alike.scopes⟩, outside⟩
        · exact Nat.succ_le_succ enough
        · exact congrArg (List.cons value) stack
        · exact congrArg (List.cons value) stack'
  | stackSize => cases blind
  | getVar name =>
    obtain ⟨same, rfl⟩ := Prod.mk.inj handled
    obtain ⟨same', rfl⟩ := Prod.mk.inj handled'
    rw [← Option.some.inj same, ← Option.some.inj same']
    exact ⟨alike.getVar name, alike, outside⟩
  | varExists name =>
    obtain ⟨same, rfl⟩ := Prod.mk.inj handled
    obtain ⟨same', rfl⟩ := Prod.mk.inj handled'
    rw [← Option.some.inj same, ← Option.some.inj same']
    refine ⟨?_, alike, outside⟩
    show (heldValue runtime.toMachine _).isSome = (heldValue runtime'.toMachine _).isSome
    rw [alike.heldValue]
  | setVar name value =>
    simp only [handleOp] at handled handled'
    rcases alike.setVar name value with ⟨message, set, set'⟩ | ⟨after, after', set, set', on⟩
    · -- The value does not fit the name in either.
      rw [set] at handled
      rw [set'] at handled'
      obtain ⟨same, rfl⟩ := Prod.mk.inj handled
      obtain ⟨same', rfl⟩ := Prod.mk.inj handled'
      exact ⟨Option.some.inj (same.symm.trans same'), ⟨alike.ip, alike.globals, alike.values,
        alike.loops, alike.scopes⟩, outside⟩
    · rw [set] at handled
      rw [set'] at handled'
      obtain ⟨same, rfl⟩ := Prod.mk.inj handled
      obtain ⟨same', rfl⟩ := Prod.mk.inj handled'
      exact ⟨Option.some.inj (same.symm.trans same'), on, outside⟩
  | setError message =>
    obtain ⟨-, rfl⟩ := Prod.mk.inj handled
    obtain ⟨-, rfl⟩ := Prod.mk.inj handled'
    exact ⟨rfl, ⟨alike.ip, alike.globals, alike.values, alike.loops, alike.scopes⟩, outside⟩
  | fail => cases handled
  | flags =>
    obtain ⟨same, rfl⟩ := Prod.mk.inj handled
    obtain ⟨same', rfl⟩ := Prod.mk.inj handled'
    rw [← Option.some.inj same, ← Option.some.inj same']
    exact ⟨flags, alike, outside⟩
  | traceRecordingEnabled =>
    obtain ⟨same, rfl⟩ := Prod.mk.inj handled
    obtain ⟨same', rfl⟩ := Prod.mk.inj handled'
    rw [← Option.some.inj same, ← Option.some.inj same']
    exact ⟨tracing, alike, outside⟩
  | world =>
    obtain ⟨same, rfl⟩ := Prod.mk.inj handled
    obtain ⟨same', rfl⟩ := Prod.mk.inj handled'
    rw [← Option.some.inj same, ← Option.some.inj same']
    exact ⟨world, alike, outside⟩
  | setWorld other =>
    obtain ⟨-, rfl⟩ := Prod.mk.inj handled
    obtain ⟨-, rfl⟩ := Prod.mk.inj handled'
    refine ⟨rfl, alike, ?_⟩
    show Outside.mk runtime.flags runtime.traceRecordingEnabled other =
      Outside.mk runtime'.flags runtime'.traceRecordingEnabled other
    rw [flags, tracing]

/-- A program that answers alike machines alike, from one number of own values to another. -/
def RunsAlike {α : Type} (program : Program R World α) (depth last : Nat) : Prop :=
  ∀ (below below' : Below R) (runtime runtime' final final' : Runtime R World) (result result' : α),
    SeesAlike below below' depth runtime runtime' →
      program.run handleOp runtime = (some result, final) →
        program.run handleOp runtime' = (some result', final') →
          result = result' ∧ SeesAlike below below' last final final'

theorem Blind.runsAlike {α : Type} {program : Program R World α} (blind : Blind program)
    (moves : MovesStack program depth last) : RunsAlike program depth last := by
  intro below below' runtime runtime' final final' result result' start ran ran'
  have sound : ∀ (op : VmOp R World) (level : Nat × Unit) (state state' : Runtime R World)
      (reply reply' : op.Reply) (next next' : Runtime R World),
      op.finds level.1 ∧ op.isBlind = true → SeesAlike below below' level.1 state state' →
        handleOp op state = (some reply, next) → handleOp op state' = (some reply', next') →
          reply = reply' ∧ SeesAlike below below' (op.depthAfter level.1) next next' :=
    fun op _ _ _ reply reply' _ _ may alike handled handled' =>
      handleOp_alike op reply reply' may.1 may.2 alike handled handled'
  -- The depth of the stack and the blindness are followed through the program together.
  exact Effectful.Typed.run_alike (fun op level => sound op level) (moves.and blind) start ran ran'

variable {after after' : Runtime R World} {skip skip' : Bool}

theorem andThen_alike {α : Type} {program : Program R World α}
    {next next' : α → Runtime R World → Executed R World}
    (runs : RunsAlike program depth last)
    (start : SeesAlike below below' depth runtime runtime')
    (executed : andThen program runtime next = (some skip, after))
    (executed' : andThen program runtime' next' = (some skip', after')) :
    ∃ result middle middle', SeesAlike below below' last middle middle' ∧
      middle.toMachine.control = runtime.toMachine.control ∧
        middle'.toMachine.control = runtime'.toMachine.control ∧
          next result middle = (some skip, after) ∧ next' result middle' = (some skip', after') := by
  obtain ⟨result, middle, same, ran, rest⟩ := andThen_control executed
  obtain ⟨result', middle', same', ran', rest'⟩ := andThen_control executed'
  obtain ⟨rfl, alike⟩ := runs _ _ _ _ _ _ _ _ start ran ran'
  exact ⟨result, middle, middle', alike, same, same', rest, rest'⟩

/-- Both calls have returned, with the same value. -/
structure ReturnedAlike (below below' : Below R) (runtime runtime' : Runtime R World) : Prop where
  scopes : runtime.scopeStack = below.scopes
  scopes' : runtime'.scopeStack = below'.scopes
  value : ∃ value rest rest', runtime.stack = value :: rest ∧ runtime'.stack = value :: rest'

omit [ScriptNumber R] in
theorem SeesAlike.forget (alike : SeesAlike below below' depth runtime runtime') :
    SeesAlike below below' 0 runtime runtime' := by
  obtain ⟨own, _, stack, stack'⟩ := alike.machines.values
  exact ⟨⟨alike.machines.ip, alike.machines.globals, ⟨own, Nat.zero_le _, stack, stack'⟩,
    alike.machines.loops, alike.machines.scopes⟩, alike.outside⟩

omit [ScriptNumber R] in
theorem SeesAlike.stopped (alike : SeesAlike below below' depth runtime runtime') :
    SeesAlike below below' depth
      { runtime with flags := { runtime.flags with shouldStop := true } }
      { runtime' with flags := { runtime'.flags with shouldStop := true } } := by
  have flags : runtime.flags = runtime'.flags := congrArg Outside.flags alike.outside
  have tracing : runtime.traceRecordingEnabled = runtime'.traceRecordingEnabled :=
    congrArg Outside.traceRecordingEnabled alike.outside
  have world : runtime.world = runtime'.world := congrArg Outside.world alike.outside
  refine ⟨alike.machines, ?_⟩
  simp only [Runtime.outside, flags, tracing, world]

theorem executeReturn_alike {hasReturnValue : Bool}
    (start : SeesAlike below below' (depth + if hasReturnValue then 1 else 0) runtime runtime')
    (executed : executeReturn hasReturnValue runtime = (some skip, after))
    (executed' : executeReturn hasReturnValue runtime' = (some skip', after')) :
    SeesAlike below below' 0 after after' ∨ ReturnedAlike below below' after after' := by
  obtain ⟨scope, rest, scope', rest', here, there, _, _⟩ := start.machines.scopes.innermost
  have here : runtime.scopeStack = scope :: rest := here
  have there : runtime'.scopeStack = scope' :: rest' := there
  unfold executeReturn at executed executed'
  simp only [here] at executed
  simp only [there] at executed'
  obtain ⟨value, middle, middle', alike, same, same', pushed, pushed'⟩ :=
    andThen_alike ((blind_returnValue _).runsAlike (moves_returnValue _)) start executed executed'
  obtain ⟨_, final, _, ran, ends⟩ := andThen_control pushed
  obtain ⟨_, final', _, ran', ends'⟩ := andThen_control pushed'
  obtain ⟨-, rfl⟩ := push_ok ran
  obtain ⟨-, rfl⟩ := push_ok ran'
  obtain ⟨-, rfl⟩ := Prod.mk.inj ends
  obtain ⟨-, rfl⟩ := Prod.mk.inj ends'
  -- Taking the value has left the addresses alone that the scopes return to.
  have addresses : middle.scopeStack.map Scope.returnIp = (scope :: rest).map Scope.returnIp := by
    rw [← here]
    exact congrArg Control.returnIps same
  have addresses' : middle'.scopeStack.map Scope.returnIp =
      (scope' :: rest').map Scope.returnIp := by
    rw [← there]
    exact congrArg Control.returnIps same'
  have scopes := alike.machines.scopes
  obtain ⟨own, _, stack, stack'⟩ := alike.machines.values
  generalize middle.toMachine.scopeStack = inner at scopes addresses
  generalize middle'.toMachine.scopeStack = inner' at scopes addresses'
  cases scopes with
  | function =>
    -- The scope of the call itself is closed.
    exact .inr ⟨rfl, rfl, value, _, _, rfl, rfl⟩
  | inner _ returnIp others =>
    have first := (List.cons.inj addresses).1
    have first' := (List.cons.inj addresses').1
    refine .inl ⟨⟨?_, alike.machines.globals, ⟨value :: own, Nat.zero_le _, ?_, ?_⟩,
      alike.machines.loops, others⟩, alike.outside⟩
    · show scope.returnIp = scope'.returnIp
      rw [← first, ← first', returnIp]
    · exact congrArg (List.cons value) stack
    · exact congrArg (List.cons value) stack'

omit [ScriptNumber R] in
theorem zip_take (names : List Text) (values : List (Value R)) :
    names.zip values = names.zip (values.take names.length) := by
  induction names generalizing values with
  | nil => rfl
  | cons name names ih =>
    cases values with
    | nil => rfl
    | cons value values => rw [List.zip_cons_cons, List.length_cons, List.take_succ_cons,
        List.zip_cons_cons, ← ih]

theorem executeCallFunction_alike {code : Code R} {operand : Nat}
    (start : SeesAlike below below' (depth + operand % 65536) runtime runtime')
    (executed : executeCallFunction code operand runtime = (some skip, after))
    (executed' : executeCallFunction code operand runtime' = (some skip', after')) :
    SeesAlike below below' 0 after after' := by
  obtain ⟨⟨ip, globals, ⟨own, enough, stack, stack'⟩, loops, scopes⟩, outside⟩ := start
  have stack : runtime.stack = own ++ below.values := stack
  have stack' : runtime'.stack = own ++ below'.values := stack'
  have args : operand % 65536 ≤ own.length := by omega
  unfold executeCallFunction at executed executed'
  simp only at executed executed'
  cases known : code.functions[operand / 65536]? with
  | none =>
    rw [known] at executed
    cases executed
  | some function =>
    simp only [known] at executed executed'
    split_ifs at executed with arity deep short
    · cases executed
    · cases executed
    · cases executed
    · split_ifs at executed' with deep' short'
      · cases executed'
      · cases executed'
      · obtain ⟨-, rfl⟩ := Prod.mk.inj executed
        obtain ⟨-, rfl⟩ := Prod.mk.inj executed'
        have arity : operand % 65536 = function.paramNames.length := not_ne_iff.mp arity
        have names : (function.paramNames.reverse.map nameField).length = operand % 65536 := by
          rw [List.length_map, List.length_reverse, arity]
        -- The parameters get the same arguments, since there are enough own values.
        have locals : (function.paramNames.reverse.map nameField).zip runtime.stack =
            (function.paramNames.reverse.map nameField).zip runtime'.stack := by
          rw [zip_take, zip_take _ runtime'.stack, names, stack, stack',
            List.take_append_of_le_length args, List.take_append_of_le_length args]
        refine ⟨⟨rfl, globals, ⟨own.drop (operand % 65536), Nat.zero_le _, ?_, ?_⟩, loops,
          .inner locals ip scopes⟩, outside⟩
        · show runtime.stack.drop _ = _
          rw [stack, List.drop_append_of_le_length args]
        · show runtime'.stack.drop _ = _
          rw [stack', List.drop_append_of_le_length args]

theorem executeCall_alike {operand count : Nat} (small : count ≤ c64scriptMaxStackDepth)
    (start : SeesAlike below below' (count + 1) runtime runtime')
    (top : runtime.stack.head? = some (.number (ScriptNumber.ofInt count)))
    (executed : executeCall operand runtime = (some skip, after))
    (executed' : executeCall operand runtime' = (some skip', after')) :
    SeesAlike below below' 0 after after' := by
  obtain ⟨paramCount, middle, _, ran, rest⟩ := andThen_control executed
  obtain ⟨paramCount', middle', _, ran', rest'⟩ := andThen_control executed'
  obtain ⟨number, values, reply, same, rfl, bound⟩ := callParams_ok ran
  obtain ⟨number', values', reply', same', rfl, bound'⟩ := callParams_ok ran'
  obtain ⟨⟨ip, globals, ⟨own, enough, stack, stack'⟩, loops, scopes⟩, outside⟩ := start
  obtain ⟨value, others, rfl⟩ := List.exists_cons_of_length_pos (Nat.lt_of_lt_of_le
    (Nat.succ_pos count) enough)
  have stack : runtime.stack = value :: (others ++ below.values) := stack
  have stack' : runtime'.stack = value :: (others ++ below'.values) := stack'
  -- Both find the same count on top.
  rw [stack, List.head?_cons] at top
  obtain rfl := Option.some.inj top
  obtain ⟨first, rfl⟩ := List.cons.inj (stack.symm.trans same)
  obtain ⟨first', rfl⟩ := List.cons.inj (stack'.symm.trans same')
  obtain rfl := Value.number.inj first
  obtain rfl := Value.number.inj first'
  rw [sizeOfNumber_ofInt small] at bound bound' rest rest'
  have begins : SeesAlike below below' (0 + count)
      ({ runtime with stack := others ++ below.values } : Runtime R World)
      ({ runtime' with stack := others ++ below'.values } : Runtime R World) := by
    rw [List.length_cons] at enough
    exact ⟨⟨ip, globals, ⟨others, by omega, rfl, rfl⟩, loops, scopes⟩, outside⟩
  obtain ⟨-, alike⟩ := (blind_bindParams count).runsAlike (moves_bindParams count) _ _ _ _ _ _ _ _
    begins bound bound'
  split at rest
  · cases rest
  · split at rest'
    · cases rest'
    · obtain ⟨-, rfl⟩ := Prod.mk.inj rest
      obtain ⟨-, rfl⟩ := Prod.mk.inj rest'
      exact ⟨⟨rfl, alike.machines.globals, alike.machines.values, alike.machines.loops,
        alike.machines.scopes⟩, alike.outside⟩

end Mirrored

section Instructions

variable {below below' : Below R} {depth : Nat} {host : Host R World} {devices : Devices R World}
  {code : Code R} {instruction : Instruction} {runtime runtime' after after' : Runtime R World}
  {skip skip' : Bool} {operand : Nat}

/-- Devices that never ask how deep the stack is. -/
def Devices.Blind (devices : Devices R World) : Prop :=
  ∀ code instruction values, C64Stream.Blind (devices.act code instruction values)

theorem deviceCheck_ok {final : Runtime R World} {reply : Unit}
    (ran : (deviceCheck instruction).run handleOp runtime = (some reply, final)) :
    final = runtime := by
  unfold deviceCheck at ran
  split at ran
  · split_ifs at ran
    · cases ran
    · exact (Prod.mk.inj ran).2.symm
  · split_ifs at ran
    · cases ran
    · -- The stack is looked at, and left as it is.
      simp only [Effectful.bind_eq, Effectful.bind, Effectful.run, handleOp] at ran
      split_ifs at ran
      · cases ran
      · exact (Prod.mk.inj ran).2.symm
  · exact (Prod.mk.inj ran).2.symm

theorem deviceProgram_alike (blind : devices.Blind) (code : Code R) (instruction : Instruction)
    (depth : Nat) :
    RunsAlike (deviceProgram devices code instruction)
      (depth + deviceOperands instruction.opcode instruction.operand)
      (depth + if deviceYields instruction.opcode then 1 else 0) := by
  intro below below' runtime runtime' final final' result result' start ran ran'
  unfold deviceProgram at ran ran'
  rw [Effectful.bind_eq, Effectful.run_bind] at ran ran'
  split at ran
  · rename_i checked
    obtain rfl := deviceCheck_ok checked
    split at ran'
    · rename_i checked'
      obtain rfl := deviceCheck_ok checked'
      -- Behind the check, the program takes its values, acts and pushes its answer.
      refine Blind.runsAlike (.bind (blind_popValues _) fun values =>
          .bind (blind code instruction values) fun answer => ?_)
        (.bind (moves_popValues _) fun values =>
          .bind (.of_leaves (devices.leavesStack code instruction values) depth) fun answer => ?_)
        _ _ _ _ _ _ _ _ start ran ran'
      · split
        · exact blind_push answer
        · rfl
      · split
        · exact moves_push answer
        · rfl
    · cases ran'
  · cases ran

theorem dataProgram_alike (blind : devices.Blind) (code : Code R)
    (plain : instruction.opcode.isControl = false) (depth : Nat) :
    RunsAlike (dataProgram (host.withDevices devices) code instruction)
      (depth + instruction.opcode.pops instruction.operand)
      (depth + instruction.opcode.pushes) := by
  -- Each instruction that the dispatcher of data handles has its own rule, and so have operators.
  obtain ⟨opcode, operand, line⟩ := instruction
  unfold dataProgram
  split
  case h_1 same =>
    obtain rfl : opcode = .nop := same
    exact (blind_done _).runsAlike rfl
  case h_2 same =>
    obtain rfl : opcode = .enterScope := same
    exact (blind_done _).runsAlike rfl
  case h_3 same =>
    obtain rfl : opcode = .exitScope := same
    exact (blind_done _).runsAlike rfl
  case h_4 same =>
    obtain rfl : opcode = .pushConst := same
    exact (blind_pushConst code operand).runsAlike (moves_pushConst code operand)
  case h_5 same =>
    obtain rfl : opcode = .pushNum := same
    exact (blind_push _).runsAlike (moves_push _)
  case h_6 same =>
    obtain rfl : opcode = .pushVar := same
    exact (blind_pushVar code operand).runsAlike (moves_pushVar code operand)
  case h_7 same =>
    obtain rfl : opcode = .popVar := same
    exact (blind_popVar code operand).runsAlike (moves_popVar code operand)
  case h_8 same =>
    obtain rfl : opcode = .pop := same
    exact Blind.runsAlike (.bind blind_pop fun _ => rfl) (.bind moves_pop fun _ => rfl)
  case h_9 same =>
    obtain rfl : opcode = .dimArray := same
    exact (blind_container blind_dimArray).runsAlike (moves_container moves_dimArray)
  case h_10 same =>
    obtain rfl : opcode = .arrayGet := same
    exact (blind_container blind_arrayGet).runsAlike (moves_container moves_arrayGet)
  case h_11 same =>
    obtain rfl : opcode = .arraySet := same
    exact (blind_container blind_arraySet).runsAlike (moves_container moves_arraySet)
  case h_12 same =>
    obtain rfl : opcode = .mapGet := same
    exact (blind_container blind_mapGet).runsAlike (moves_container moves_mapGet)
  case h_13 same =>
    obtain rfl : opcode = .mapSet := same
    exact (blind_container blind_mapSet).runsAlike (moves_container moves_mapSet)
  case h_14 =>
    split
    · rename_i operator known
      obtain ⟨pops, pushes⟩ := binaryOperator_effect known operand
      simp only at pops pushes ⊢
      rw [pops, pushes]
      exact (blind_binary operator).runsAlike (moves_binary operator)
    · split
      · rename_i operator known
        obtain ⟨pops, pushes⟩ := unaryOperator_effect known operand
        simp only at pops pushes ⊢
        rw [pops, pushes]
        exact (blind_unary operator).runsAlike (moves_unary operator)
      · -- What is left the dispatchers of the devices handle.
        rename_i noBinary _ noUnary
        cases opcode <;> first
          | exact deviceProgram_alike blind code ⟨_, operand, line⟩ depth
          | exact absurd plain (by decide)
          | (cases noBinary; done)
          | (cases noUnary; done)
          | contradiction

/-- The instructions that work on the innermost loop. -/
def Opcode.usesLoop (opcode : Opcode) : Bool :=
  opcode == .forCheck || opcode == .forIncr

theorem executeConditionalJump_alike {what : Text}
    (start : SeesAlike below below' (depth + 1) runtime runtime')
    (executed : executeConditionalJump what operand runtime = (some skip, after))
    (executed' : executeConditionalJump what operand runtime' = (some skip', after')) :
    SeesAlike below below' 0 after after' := by
  obtain ⟨condition, middle, middle', alike, _, _, rest, rest'⟩ :=
    andThen_alike ((blind_popNumber what).runsAlike (moves_popNumber what)) start executed executed'
  obtain ⟨-, rfl⟩ := Prod.mk.inj rest
  obtain ⟨-, rfl⟩ := Prod.mk.inj rest'
  obtain ⟨machines, outside⟩ := alike.forget
  split
  · exact ⟨⟨rfl, machines.globals, machines.values, machines.loops, machines.scopes⟩, outside⟩
  · exact ⟨machines, outside⟩

theorem executeForInit_alike (start : SeesAlike below below' (depth + 3) runtime runtime')
    (executed : executeForInit code operand runtime = (some skip, after))
    (executed' : executeForInit code operand runtime' = (some skip', after')) :
    SeesAlike below below' 0 after after' := by
  obtain ⟨bounds, middle, middle', alike, _, _, rest, rest'⟩ :=
    andThen_alike (blind_forBounds.runsAlike moves_forBounds) start executed executed'
  split at rest
  · cases rest
  · split at rest'
    · cases rest'
    · cases named : constantName code operand (invalidConstant []) with
      | error message =>
        rw [named] at rest
        cases rest
      | ok variableName =>
        rw [named] at rest rest'
        obtain ⟨-, rfl⟩ := Prod.mk.inj rest
        obtain ⟨-, rfl⟩ := Prod.mk.inj rest'
        obtain ⟨⟨ip, globals, values, ⟨own, loops, loops'⟩, scopes⟩, outside⟩ := alike.forget
        -- The loop goes on at the same address.
        have ip : middle.ip = middle'.ip := ip
        refine ⟨⟨ip, globals, values,
          ⟨⟨variableName, bounds.1, bounds.2, middle.ip⟩ :: own, ?_, ?_⟩, scopes⟩, outside⟩
        · exact congrArg (List.cons _) loops
        · show _ :: middle'.forStack = _
          rw [ip]
          exact congrArg (List.cons _) loops'

omit [ScriptNumber R] in
theorem SeesAlike.loop (alike : SeesAlike below below' depth runtime runtime')
    (own : below.loops.length < runtime.forStack.length) :
    ∃ loop rest, runtime.forStack = loop :: (rest ++ below.loops) ∧
      runtime'.forStack = loop :: (rest ++ below'.loops) := by
  obtain ⟨loops, here, there⟩ := alike.machines.loops
  have here : runtime.forStack = loops ++ below.loops := here
  rw [here, List.length_append] at own
  obtain ⟨loop, rest, rfl⟩ := List.exists_cons_of_length_pos (show 0 < loops.length by omega)
  exact ⟨loop, rest, here, there⟩

theorem executeForCheck_alike (start : SeesAlike below below' depth runtime runtime')
    (own : below.loops.length < runtime.forStack.length)
    (executed : executeForCheck operand runtime = (some skip, after))
    (executed' : executeForCheck operand runtime' = (some skip', after')) :
    SeesAlike below below' 0 after after' := by
  obtain ⟨loop, rest, here, there⟩ := start.loop own
  have value := start.machines.getVar loop.variableName
  obtain ⟨machines, outside⟩ := start.forget
  unfold executeForCheck at executed executed'
  simp only [here] at executed
  simp only [there, ← value] at executed'
  split at executed
  · cases executed
  · rename_i current number
    simp only [number] at executed'
    by_cases done : loop.isDone current = true
    · rw [if_pos done] at executed executed'
      obtain ⟨-, rfl⟩ := Prod.mk.inj executed
      obtain ⟨-, rfl⟩ := Prod.mk.inj executed'
      exact ⟨⟨rfl, machines.globals, machines.values, ⟨rest, rfl, rfl⟩, machines.scopes⟩, outside⟩
    · rw [if_neg done] at executed executed'
      obtain ⟨-, rfl⟩ := Prod.mk.inj executed
      obtain ⟨-, rfl⟩ := Prod.mk.inj executed'
      exact ⟨machines, outside⟩

theorem executeForIncr_alike (start : SeesAlike below below' depth runtime runtime')
    (own : below.loops.length < runtime.forStack.length)
    (executed : executeForIncr runtime = (some skip, after))
    (executed' : executeForIncr runtime' = (some skip', after')) :
    SeesAlike below below' 0 after after' := by
  obtain ⟨loop, rest, here, there⟩ := start.loop own
  have value := start.machines.getVar loop.variableName
  unfold executeForIncr at executed executed'
  simp only [here] at executed
  simp only [there, ← value] at executed'
  split at executed
  · cases executed
  · rename_i current number
    simp only [number] at executed'
    obtain ⟨_, middle, middle', alike, _, _, ends, ends'⟩ :=
      andThen_alike ((blind_assign _ _).runsAlike (moves_assign _ _)) start.forget executed executed'
    obtain ⟨-, rfl⟩ := Prod.mk.inj ends
    obtain ⟨-, rfl⟩ := Prod.mk.inj ends'
    exact alike

theorem executeInstruction_data (plain : instruction.opcode.isControl = false)
    (runtime : Runtime R World) :
    executeInstruction host code instruction runtime =
      andThen (dataProgram host code instruction) runtime fun _ runtime => (some false, runtime) := by
  unfold executeInstruction
  split
  case h_13 => rfl
  all_goals
    rename_i opcode
    rw [opcode] at plain
    cases plain

/-- An instruction other than the call of a subroutine leads to alike machines, or it ends both calls
with the same value. -/
theorem executeInstruction_alike (blind : devices.Blind) (noCall : instruction.opcode ≠ .call)
    (start : SeesAlike below below' (depth + instruction.opcode.pops instruction.operand) runtime
      runtime')
    (own : instruction.opcode.usesLoop = true → below.loops.length < runtime.forStack.length)
    (executed : executeInstruction (host.withDevices devices) code instruction runtime =
      (some skip, after))
    (executed' : executeInstruction (host.withDevices devices) code instruction runtime' =
      (some skip', after')) :
    SeesAlike below below' 0 after after' ∨ ReturnedAlike below below' after after' := by
  by_cases plain : instruction.opcode.isControl = false
  · -- Its program does the same in both.
    rw [executeInstruction_data plain] at executed executed'
    obtain ⟨_, middle, middle', alike, _, _, rest, rest'⟩ :=
      andThen_alike (dataProgram_alike blind code plain depth) start executed executed'
    obtain ⟨-, rfl⟩ := Prod.mk.inj rest
    obtain ⟨-, rfl⟩ := Prod.mk.inj rest'
    exact .inl alike.forget
  have forgotten := start.forget
  unfold executeInstruction at executed executed'
  split at executed
  case h_1 opcode =>
    simp only [opcode] at executed'
    obtain ⟨-, rfl⟩ := Prod.mk.inj executed
    obtain ⟨-, rfl⟩ := Prod.mk.inj executed'
    obtain ⟨machines, outside⟩ := forgotten
    exact .inl ⟨⟨rfl, machines.globals, machines.values, machines.loops, machines.scopes⟩, outside⟩
  case h_2 opcode =>
    simp only [opcode] at executed'
    rw [opcode] at start
    exact .inl (executeConditionalJump_alike start executed executed')
  case h_3 opcode =>
    simp only [opcode] at executed'
    rw [opcode] at start
    exact .inl (executeConditionalJump_alike start executed executed')
  case h_4 opcode => exact absurd opcode noCall
  case h_5 opcode =>
    simp only [opcode] at executed'
    rw [opcode, pops_return] at start
    exact executeReturn_alike start executed executed'
  case h_6 opcode =>
    simp only [opcode] at executed'
    rw [opcode] at start
    exact @executeReturn_alike _ _ _ _ _ depth _ _ _ _ _ _ true start executed executed'
  case h_7 opcode =>
    simp only [opcode] at executed'
    rw [opcode] at start
    exact .inl (executeCallFunction_alike start executed executed')
  case h_8 opcode =>
    simp only [opcode] at executed'
    obtain ⟨-, rfl⟩ := Prod.mk.inj executed
    obtain ⟨-, rfl⟩ := Prod.mk.inj executed'
    exact .inl (forgotten.stopped)
  case h_9 opcode =>
    simp only [opcode] at executed'
    obtain ⟨-, rfl⟩ := Prod.mk.inj executed
    obtain ⟨-, rfl⟩ := Prod.mk.inj executed'
    exact .inl (forgotten.stopped)
  case h_10 opcode =>
    simp only [opcode] at executed'
    rw [opcode] at start
    exact .inl (executeForInit_alike start executed executed')
  case h_11 opcode =>
    simp only [opcode] at executed'
    exact .inl (executeForCheck_alike start (own (by rw [opcode]; rfl)) executed executed')
  case h_12 opcode =>
    simp only [opcode] at executed'
    exact .inl (executeForIncr_alike start (own (by rw [opcode]; rfl)) executed executed')
  case h_13 =>
    -- The other instructions do not touch the flow of control.
    refine absurd ?_ plain
    unfold Opcode.isControl
    split <;> first | rfl | contradiction

end Instructions

section Rounds

variable {below below' : Below R} {host : Host R World} {devices : Devices R World} {code : Code R}
  {runtime runtime' after after' : Runtime R World}

/-- What a script sees of the outside world in the round that it is about to make. -/
def answers (host : Host R World) (code : Code R) (runtime : Runtime R World) :
    Option (Outside World) :=
  code.bytecode[runtime.ip]?.map fun instruction => (vmEnter host instruction runtime).outside

theorem vmEnter_alike {instruction : Instruction} {depth : Nat}
    (found : code.bytecode[runtime.ip]? = some instruction)
    (alike : Mirrored below below' depth runtime.toMachine runtime'.toMachine)
    (shown : answers host code runtime = answers host code runtime') :
    SeesAlike below below' depth (vmEnter host instruction runtime)
      (vmEnter host instruction runtime') := by
  have found' : code.bytecode[runtime'.ip]? = some instruction := by
    rw [← found]
    exact congrArg (code.bytecode[·]?) alike.ip.symm
  refine ⟨?_, ?_⟩
  · rw [vmEnter_machine, vmEnter_machine]
    exact ⟨congrArg (· + 1) alike.ip, alike.globals, alike.values, alike.loops, alike.scopes⟩
  · unfold answers at shown
    rw [found, found'] at shown
    exact Option.some.inj shown

end Rounds

end C64Stream
