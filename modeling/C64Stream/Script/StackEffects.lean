import C64Stream.Script.Devices
import C64Stream.Script.Tables

/-! How many values each instruction takes off the stack and how many it pushes. -/

namespace C64Stream

section Effects

variable {R World : Type}

/-- How many values an instruction takes off the stack. -/
def Opcode.pops (opcode : Opcode) (operand : Nat) : Nat :=
  match opcode with
  | .popVar | .pop | .dimArray | .arrayGet | .mapGet | .negate | .not | .jumpIfFalse
  | .whileCheck | .returnValue => 1
  | .add | .subtract | .multiply | .divide | .eq | .ne | .lt | .le | .gt | .ge | .and | .xor
  | .or | .arraySet | .mapSet => 2
  | .forInit => 3
  | .return => if operand = 0 then 0 else 1
  | .callFunction => operand % 65536
  | opcode => deviceOperands opcode operand

/-- How many values an instruction pushes; a function pushes its value when it returns. -/
def Opcode.pushes (opcode : Opcode) : Nat :=
  match opcode with
  | .pushConst | .pushNum | .pushVar | .arrayGet | .mapGet | .negate | .not | .add | .subtract
  | .multiply | .divide | .eq | .ne | .lt | .le | .gt | .ge | .and | .xor | .or
  | .callFunction => 1
  | opcode => if deviceYields opcode then 1 else 0

/-- The instructions that the dispatcher of the flow of control handles. -/
def Opcode.isControl (opcode : Opcode) : Bool :=
  match opcode with
  | .jump | .jumpIfFalse | .whileCheck | .call | .return | .returnValue | .callFunction | .stop
  | .halt | .forInit | .forCheck | .forIncr => true
  | _ => false

/-- Whether an operation finds the values it takes, at a depth of the stack. -/
def VmOp.finds (op : VmOp R World) (depth : Nat) : Prop :=
  match op with
  | .pop => 0 < depth
  | _ => True

/-- The depth of the stack after an operation. -/
def VmOp.depthAfter (op : VmOp R World) (depth : Nat) : Nat :=
  match op with
  | .pop => depth - 1
  | .push _ => depth + 1
  | _ => depth

/-- A program leads from one depth of the stack to another and always finds what it takes. -/
def MovesStack {α : Type} (program : Program R World α) (depth last : Nat) : Prop :=
  program.Typed VmOp.finds VmOp.depthAfter depth last

end Effects

section Programs

variable {R World : Type} {α β : Type} {program : Program R World α} {depth middle last : Nat}

theorem MovesStack.bind {next : α → Program R World β} (first : MovesStack program depth middle)
    (second : ∀ result, MovesStack (next result) middle last) :
    MovesStack (program.bind next) depth last :=
  Effectful.Typed.bind first second

theorem MovesStack.of_leaves (leaves : LeavesStack program) (depth : Nat) :
    MovesStack program depth depth := by
  refine Effectful.Typed.image (fun _ => depth) (fun op _ leaves => ?_) leaves
  cases op with
  | pop => cases leaves
  | push value => cases leaves
  | _ => exact ⟨trivial, rfl⟩

@[simp] theorem moves_done (result : α) :
    MovesStack (.done result : Program R World α) depth last ↔ depth = last := Iff.rfl

theorem moves_pop : MovesStack (pop : Program R World (Value R)) (depth + 1) depth :=
  ⟨Nat.succ_pos depth, fun _ => rfl⟩

theorem moves_push (value : Value R) :
    MovesStack (push value : Program R World Unit) depth (depth + 1) :=
  ⟨trivial, fun _ => rfl⟩

theorem moves_failed : MovesStack (failed : Program R World α) depth last :=
  ⟨trivial, fun impossible => impossible.elim⟩

theorem moves_failWith (message : Text) :
    MovesStack (failWith message : Program R World α) depth last :=
  ⟨trivial, fun _ => moves_failed⟩

theorem moves_orFail (result : Except Text α) :
    MovesStack (orFail result : Program R World α) depth depth := by
  cases result with
  | error message => exact moves_failWith message
  | ok value => rfl

theorem moves_trySetVar (name : Text) (value : Value R) :
    MovesStack (trySetVar name value : Program R World Bool) depth depth :=
  ⟨trivial, fun _ => rfl⟩

theorem moves_assign (name : Text) (value : Value R) :
    MovesStack (assign name value : Program R World Unit) depth depth := by
  refine .bind (moves_trySetVar name value) fun stored => ?_
  cases stored with
  | false => exact moves_failed
  | true => rfl

theorem moves_readVar (name : Text) :
    MovesStack (readVar name : Program R World (Value R)) depth depth :=
  ⟨trivial, fun _ => rfl⟩

theorem moves_checkVar (name : Text) :
    MovesStack (checkVar name : Program R World Bool) depth depth :=
  ⟨trivial, fun _ => rfl⟩

theorem moves_stackSize :
    MovesStack (.perform .stackSize .done : Program R World Nat) depth depth :=
  ⟨trivial, fun _ => rfl⟩

theorem moves_binary (operator : Value R → Value R → Except Text (Value R)) :
    MovesStack (binaryInstruction operator : Program R World Unit) (depth + 2) (depth + 1) :=
  .bind moves_pop fun _ => .bind moves_pop fun _ => .bind (moves_orFail _) moves_push

theorem moves_unary (operator : Value R → Except Text (Value R)) :
    MovesStack (unaryInstruction operator : Program R World Unit) (depth + 1) (depth + 1) :=
  .bind moves_pop fun _ => .bind (moves_orFail _) moves_push

theorem moves_popNumber (what : Text) :
    MovesStack (popNumber what : Program R World R) (depth + 1) depth :=
  .bind moves_pop fun _ => moves_orFail _

theorem moves_forBounds : MovesStack (forBounds : Program R World (R × R)) (depth + 3) depth :=
  .bind moves_pop fun _ => .bind moves_pop fun _ => .bind moves_pop fun _ =>
    .bind (moves_orFail _) fun _ => .bind (moves_orFail _) fun _ =>
      .bind (moves_orFail _) fun _ => rfl

theorem moves_bindParams (count : Nat) :
    MovesStack (bindParams count : Program R World Unit) (depth + count) depth := by
  -- One parameter is taken in each round.
  induction count with
  | zero => rfl
  | succ count ih => exact .bind moves_pop fun value => .bind (moves_trySetVar _ _) fun _ => ih

theorem moves_popValues (count : Nat) :
    MovesStack (popValues count : Program R World (List (Value R))) (depth + count) depth := by
  induction count with
  | zero => rfl
  | succ count ih => exact .bind moves_pop fun value => .bind ih fun _ => rfl

theorem moves_deviceCheck (instruction : Instruction) :
    MovesStack (deviceCheck instruction : Program R World Unit) depth depth := by
  unfold deviceCheck
  split
  · split_ifs
    · exact moves_failWith _
    · rfl
  · split_ifs
    · exact moves_failWith _
    · refine .bind moves_stackSize fun size => ?_
      split
      · exact moves_failWith _
      · rfl
  · rfl

end Programs

section Runs

variable {R World : Type} [ScriptNumber R] {α : Type} {program : Program R World α} {depth last base : Nat}

/-- The stack is so deep above a base. -/
def StackAt (base depth : Nat) (runtime : Runtime R World) : Prop :=
  runtime.stack.length = base + depth

/-- The depths of the stack at which a program takes values, first to last. -/
def popDepths {α : Type} (program : Program R World α) (runtime : Runtime R World) : List Nat :=
  (program.performed handleOp runtime).filterMap fun entry =>
    match entry.1 with
    | .pop => some entry.2.stack.length
    | _ => none

theorem stackAt_next (op : VmOp R World) (depth : Nat) (runtime : Runtime R World)
    (reply : op.Reply) (after : Runtime R World) (found : op.finds depth)
    (start : StackAt base depth runtime) (handled : handleOp op runtime = (some reply, after)) :
    StackAt base (op.depthAfter depth) after := by
  -- Only taking and putting values changes the stack; a variable that is set leaves it alone.
  unfold StackAt at start ⊢
  cases op with
  | pop =>
    have found : 0 < depth := found
    cases stack : runtime.stack with
    | nil => simp [handleOp, stack] at handled
    | cons value rest =>
      simp only [handleOp, stack, Prod.mk.injEq] at handled
      rw [stack, List.length_cons] at start
      rw [← handled.2]
      show rest.length = base + (depth - 1)
      omega
  | push value =>
    simp only [handleOp] at handled
    split at handled
    · cases handled
    · rw [← (Prod.mk.inj handled).2]
      show runtime.stack.length + 1 = base + (depth + 1)
      omega
  | setVar name value =>
    simp only [handleOp] at handled
    split at handled
    · rw [← (Prod.mk.inj handled).2]
      exact start
    · rename_i machine set
      rw [← (Prod.mk.inj handled).2]
      show machine.stack.length = _
      rw [setVar_stack set]
      exact start
  | fail => cases handled
  | _ =>
    rw [← (Prod.mk.inj handled).2]
    exact start

theorem MovesStack.run (moves : MovesStack program depth last) {runtime after : Runtime R World}
    {result : α} (start : StackAt base depth runtime)
    (ran : program.run handleOp runtime = (some result, after)) : StackAt base last after :=
  Effectful.Typed.run stackAt_next moves start ran

theorem MovesStack.above (moves : MovesStack program depth last) {runtime : Runtime R World}
    (start : StackAt base depth runtime) : ∀ found ∈ popDepths program runtime, base < found := by
  -- The depth of the stack is known at every operation, and is positive where a value is taken.
  intro found member
  simp only [popDepths, List.mem_filterMap] at member
  obtain ⟨⟨op, state⟩, performed, taken⟩ := member
  obtain ⟨level, finds, here⟩ := Effectful.Typed.performed stackAt_next moves start _ performed
  cases op with
  | pop =>
    have positive : 0 < level := finds
    have here : state.stack.length = base + level := here
    obtain rfl := Option.some.inj taken
    show base < state.stack.length
    omega
  | _ => cases taken

end Runs

section Instructions

variable {R World : Type} [ScriptNumber R] {depth : Nat}

theorem moves_pushConst (code : Code R) (operand : Nat) :
    MovesStack (pushConst code operand : Program R World Unit) depth (depth + 1) := by
  unfold pushConst
  split
  · exact moves_failWith _
  · exact moves_push _

theorem moves_pushVar (code : Code R) (operand : Nat) :
    MovesStack (pushVar code operand : Program R World Unit) depth (depth + 1) :=
  .bind (moves_orFail _) fun name => .bind (moves_readVar name) moves_push

theorem moves_popVar (code : Code R) (operand : Nat) :
    MovesStack (popVar code operand : Program R World Unit) (depth + 1) depth :=
  .bind (moves_orFail _) fun name => .bind moves_pop (moves_assign name)

theorem moves_container {code : Code R} {operand : Nat} {kind : Text} {last : Nat}
    {act : Text → Program R World Unit} (moves : ∀ name, MovesStack (act name) depth last) :
    MovesStack (containerInstruction code operand kind act) depth last :=
  .bind (moves_orFail _) moves

theorem moves_dimArray (name : Text) :
    MovesStack (dimArray name : Program R World Unit) (depth + 1) depth := by
  refine .bind moves_pop fun size => ?_
  cases size with
  | number n =>
    simp only
    split
    · exact moves_failWith _
    · split_ifs
      · exact moves_failWith _
      · exact moves_failWith _
      · exact moves_assign _ _
  | _ => exact moves_failWith _

theorem moves_arrayGet (name : Text) :
    MovesStack (arrayGet name : Program R World Unit) (depth + 1) (depth + 1) := by
  refine .bind moves_pop fun index => .bind (moves_orFail _) fun position =>
    .bind (moves_readVar name) fun value => ?_
  split
  · split
    · exact moves_push _
    · exact moves_failWith _
  · exact moves_failWith _

theorem moves_arraySet (name : Text) :
    MovesStack (arraySet name : Program R World Unit) (depth + 2) depth := by
  refine .bind moves_pop fun index => .bind moves_pop fun value =>
    .bind (moves_orFail _) fun position => .bind (moves_readVar name) fun container => ?_
  split
  · refine .bind (moves_orFail _) fun element => ?_
    split
    · exact moves_assign _ _
    · exact moves_failWith _
  · exact moves_failWith _

theorem moves_mapGet (name : Text) :
    MovesStack (mapGet name : Program R World Unit) (depth + 1) (depth + 1) := by
  refine .bind moves_pop fun index => .bind (moves_orFail _) fun key =>
    .bind (moves_readVar name) fun value => ?_
  split
  · exact moves_push _
  · exact moves_failWith _

theorem moves_mapSet (name : Text) :
    MovesStack (mapSet name : Program R World Unit) (depth + 2) depth := by
  refine .bind moves_pop fun keyValue => .bind moves_pop fun value =>
    .bind (moves_orFail _) fun key => .bind (moves_checkVar name) fun known => ?_
  -- The container is read or made, and then both are treated alike.
  cases known
  all_goals
    simp only [Bool.false_eq_true, if_false, if_true]
    refine @MovesStack.bind R World _ _ _ depth depth depth _ ?_ fun container => ?_
    rotate_left
    · split
      · exact .bind (moves_orFail _) fun element => moves_assign _ _
      · exact moves_failWith _
  · rfl
  · exact moves_readVar name

theorem moves_clearParams (count : Nat) :
    MovesStack (clearParams count : Program R World Unit) depth depth := by
  induction count with
  | zero => rfl
  | succ count ih => exact .bind ih fun _ => .bind (moves_trySetVar _ _) fun _ => rfl

theorem moves_leaveGosub (hasReturnValue : Bool) (count : Nat) :
    MovesStack (leaveGosub hasReturnValue count : Program R World Unit)
      (depth + if hasReturnValue then 1 else 0) depth := by
  cases hasReturnValue with
  | false => exact moves_clearParams count
  | true =>
    exact .bind moves_pop fun value => .bind (moves_trySetVar _ _) fun _ => moves_clearParams count

theorem moves_returnValue (hasReturnValue : Bool) :
    MovesStack (returnValue hasReturnValue : Program R World (Value R))
      (depth + if hasReturnValue then 1 else 0) depth := by
  cases hasReturnValue with
  | false => rfl
  | true => exact moves_pop

theorem moves_deviceProgram (devices : Devices R World) (code : Code R) (instruction : Instruction)
    (depth : Nat) :
    MovesStack (deviceProgram devices code instruction)
      (depth + deviceOperands instruction.opcode instruction.operand)
      (depth + if deviceYields instruction.opcode then 1 else 0) := by
  refine .bind (moves_deviceCheck instruction) fun _ => .bind (moves_popValues _) fun values =>
    .bind (.of_leaves (devices.leavesStack code instruction values) depth) fun answer => ?_
  split
  · exact moves_push answer
  · rfl

theorem binaryOperator_effect {opcode : Opcode}
    {operator : Value R → Value R → Except Text (Value R)}
    (known : binaryOperator opcode = some operator) (operand : Nat) :
    opcode.pops operand = 2 ∧ opcode.pushes = 1 := by
  unfold binaryOperator at known
  split at known <;> first | exact ⟨rfl, rfl⟩ | cases known

theorem unaryOperator_effect {opcode : Opcode} {operator : Value R → Except Text (Value R)}
    (known : unaryOperator opcode = some operator) (operand : Nat) :
    opcode.pops operand = 1 ∧ opcode.pushes = 1 := by
  unfold unaryOperator at known
  split at known <;> first | exact ⟨rfl, rfl⟩ | cases known

theorem moves_dataProgram {host : Host R World} {devices : Devices R World}
    (device : host.device = deviceProgram devices) (code : Code R) {instruction : Instruction}
    (plain : instruction.opcode.isControl = false) (depth : Nat) :
    MovesStack (dataProgram host code instruction)
      (depth + instruction.opcode.pops instruction.operand)
      (depth + instruction.opcode.pushes) := by
  -- Each instruction that the dispatcher of data handles has its own rule, and so have operators.
  obtain ⟨opcode, operand, line⟩ := instruction
  unfold dataProgram
  split
  case h_1 same =>
    obtain rfl : opcode = .nop := same
    exact rfl
  case h_2 same =>
    obtain rfl : opcode = .enterScope := same
    exact rfl
  case h_3 same =>
    obtain rfl : opcode = .exitScope := same
    exact rfl
  case h_4 same =>
    obtain rfl : opcode = .pushConst := same
    exact moves_pushConst code operand
  case h_5 same =>
    obtain rfl : opcode = .pushNum := same
    exact moves_push _
  case h_6 same =>
    obtain rfl : opcode = .pushVar := same
    exact moves_pushVar code operand
  case h_7 same =>
    obtain rfl : opcode = .popVar := same
    exact moves_popVar code operand
  case h_8 same =>
    obtain rfl : opcode = .pop := same
    exact .bind moves_pop fun _ => rfl
  case h_9 same =>
    obtain rfl : opcode = .dimArray := same
    exact moves_container moves_dimArray
  case h_10 same =>
    obtain rfl : opcode = .arrayGet := same
    exact moves_container moves_arrayGet
  case h_11 same =>
    obtain rfl : opcode = .arraySet := same
    exact moves_container moves_arraySet
  case h_12 same =>
    obtain rfl : opcode = .mapGet := same
    exact moves_container moves_mapGet
  case h_13 same =>
    obtain rfl : opcode = .mapSet := same
    exact moves_container moves_mapSet
  case h_14 =>
    split
    · rename_i operator known
      obtain ⟨pops, pushes⟩ := binaryOperator_effect known operand
      simp only at pops pushes ⊢
      rw [pops, pushes]
      exact moves_binary operator
    · split
      · rename_i operator known
        obtain ⟨pops, pushes⟩ := unaryOperator_effect known operand
        simp only at pops pushes ⊢
        rw [pops, pushes]
        exact moves_unary operator
      · -- What is left the dispatchers of the devices handle, and their counts are the effect.
        rename_i noBinary _ noUnary
        rw [device]
        cases opcode <;> first
          | exact moves_deviceProgram devices code ⟨_, operand, line⟩ depth
          | exact absurd plain (by decide)
          | (cases noBinary; done)
          | (cases noUnary; done)
          | contradiction

end Instructions

end C64Stream
