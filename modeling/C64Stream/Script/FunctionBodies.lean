import C64Stream.Script.Blocks
import C64Stream.Script.VmLaws

/-! Function bodies: how execution gets to their ends, and what it finds there. -/

namespace C64Stream

variable {R World : Type} [ScriptNumber R]

section Rounds

variable {host : Host R World} {code : Code R}

theorem vmNext_pushConst {operand : Nat} {line : Int} {constant : Constant R}
    {runtime after : Runtime R World}
    (found : code.bytecode[runtime.ip]? = some ⟨.pushConst, operand, line⟩)
    (known : code.constants[operand]? = some constant)
    (stepped : vmNext host code runtime = some after) :
    after.toMachine =
      { runtime.toMachine with
        ip := runtime.ip + 1
        stack := constant.toValue :: runtime.stack } := by
  obtain ⟨same, entered, skip, executed, here, begins, outcome, ends⟩ :=
    vmStep_running (vmNext_eq_some.mp stepped)
  obtain rfl := Option.some.inj (found.symm.trans here)
  obtain ⟨_, middle, _, ran, rest⟩ := andThen_control outcome
  simp only [dataProgram, pushConst, known] at ran
  obtain ⟨_, rfl⟩ := push_ok ran
  obtain ⟨-, rfl⟩ := Prod.mk.inj rest
  rw [ends]
  show { entered.toMachine with stack := constant.toValue :: entered.toMachine.stack } = _
  rw [begins]

theorem vmNext_return {operand : Nat} {line : Int} {scope : Scope R} {rest : List (Scope R)}
    {value : Value R} {below : List (Value R)} {runtime after : Runtime R World}
    (found : code.bytecode[runtime.ip]? = some ⟨.return, operand, line⟩) (valued : operand ≠ 0)
    (scopes : runtime.scopeStack = scope :: rest) (stack : runtime.stack = value :: below)
    (stepped : vmNext host code runtime = some after) :
    after.toMachine =
      { runtime.toMachine with ip := scope.returnIp, scopeStack := rest } := by
  obtain ⟨same, entered, skip, executed, here, begins, outcome, ends⟩ :=
    vmStep_running (vmNext_eq_some.mp stepped)
  obtain rfl := Option.some.inj (found.symm.trans here)
  have opened : entered.scopeStack = scope :: rest := by
    show entered.toMachine.scopeStack = _
    rw [begins, ← scopes]
  have top : entered.stack = value :: below := by
    show entered.toMachine.stack = _
    rw [begins, ← stack]
  simp only [executeInstruction, executeReturn, opened, valued, ne_eq, not_false_eq_true,
    decide_true] at outcome
  obtain ⟨returned, middle, _, popped, pushing⟩ := andThen_control outcome
  obtain ⟨others, found, rfl⟩ := pop_ok popped
  obtain ⟨_, last, _, pushed, rest⟩ := andThen_control pushing
  obtain ⟨_, rfl⟩ := push_ok pushed
  obtain ⟨-, rfl⟩ := Prod.mk.inj rest
  obtain ⟨rfl, rfl⟩ := List.cons.inj (top.symm.trans found)
  rw [ends]
  show { entered.toMachine with
    stack := value :: below
    scopeStack := entered.toMachine.scopeStack.tail
    ip := scope.returnIp } = _
  rw [begins, ← stack, scopes]
  rfl

end Rounds

section Bodies

/-- The body of a function, with the address of its first instruction. -/
structure FunctionSite (R : Type) [ScriptNumber R] where
  line : Int
  start : Nat
  body : List (AstStmt R)

/-- The items of the statements of a function. -/
def FunctionSite.items (site : FunctionSite R) : List (Item R) :=
  flattenStatements site.start site.body

/-- The address behind the statements of a function. -/
def FunctionSite.bodyEnd (site : FunctionSite R) : Nat :=
  site.start + codeSize site.items

/-- The address behind the code of a function, its implicit return included. -/
def FunctionSite.codeEnd (site : FunctionSite R) : Nat :=
  site.bodyEnd + codeSize (flattenImplicitReturn site.line site.items)

/-- Whether the compiler adds a return to a function. -/
def FunctionSite.hasImplicitReturn (site : FunctionSite R) : Bool :=
  !endsInReturn false site.items

/-- A program defines a function of this body. -/
def DefinesFunction (program : List (AstStmt R)) (site : FunctionSite R) : Prop :=
  ∃ base name paramNames rest, site.start = base + 1 ∧
    OccursAt program base (.functionDef site.line name paramNames site.body :: rest)

/-- A `GOTO` of a function stands at an address, and its label at the end of the function. -/
def FunctionSite.GotoEndAt (site : FunctionSite R) (address : Nat) : Prop :=
  ∃ label line labelLine, (address, .jump .jump label line) ∈ addressed site.start site.items ∧
    (site.codeEnd, .label label labelLine) ∈ addressed site.start site.items

/-- A `GOTO` of a function stands at an address, whatever its label. -/
def FunctionSite.GotoAt (site : FunctionSite R) (address : Nat) : Prop :=
  ∃ label line, (address, .jump .jump label line) ∈ addressed site.start site.items

/-- Whether the instruction at an address calls or returns. -/
def Code.callsAt (code : Code R) (ip : Nat) : Bool :=
  code.bytecode[ip]?.any fun instruction => instruction.opcode.isCall

/-- A round falls through the end of a function: it goes on there, but does not call, return or
jump to a label outside of the function. -/
def FallsThrough (code : Code R) (site : FunctionSite R) (state next : Runtime R World) : Prop :=
  site.start ≤ state.ip ∧ state.ip < site.codeEnd ∧ code.callsAt state.ip = false ∧
    (site.GotoAt state.ip → site.GotoEndAt state.ip) ∧ next.ip = site.codeEnd

/-- The instruction at hand takes the jump that it is. -/
def JumpsFrom (code : Code R) (state : Runtime R World) : Prop :=
  ∃ instruction, code.bytecode[state.ip]? = some instruction ∧
    jumpsNow state.toMachine instruction.opcode = true

/-- A function without an implicit return is about to leave its last statement by a jump: out of a
branch, over an inner function, or to a label at its end. -/
def TakesExit (code : Code R) (site : FunctionSite R) (state : Runtime R World) : Prop :=
  site.hasImplicitReturn = false ∧
    (state.ip ∈ blockExits site.start site.body ∧ JumpsFrom code state ∨
      site.GotoEndAt state.ip ∧ ∃ instruction, code.bytecode[state.ip]? = some instruction ∧
        instruction.operand = site.codeEnd)

/-- At the end of its statements a function with an implicit return gives its caller one value,
zero, and closes its scope. -/
def ReturnsZero (host : Host R World) (code : Code R) (site : FunctionSite R)
    (state : Runtime R World) : Prop :=
  site.hasImplicitReturn = true → state.ip = site.bodyEnd →
    ∀ scope rest, state.scopeStack = scope :: rest →
      ∀ middle last, vmNext host code state = some middle → vmNext host code middle = some last →
        last.toMachine =
          { state.toMachine with
            ip := scope.returnIp
            scopeStack := rest
            stack := .number numberZero :: state.stack }

end Bodies

section Returns

variable {host : Host R World} {code : Code R} {program : List (AstStmt R)}
  {functions : List FunctionDef} {site : FunctionSite R}

theorem DefinesFunction.standsAt (defined : DefinesFunction program site) :
    StandsAt (flattenProgram program) site.start
      (site.items ++ flattenImplicitReturn site.line site.items) := by
  obtain ⟨base, name, paramNames, rest, start, occurs⟩ := defined
  have stands := occurs.standsAt
  rw [flattenStatements, flattenStatement, ← start] at stands
  have whole := stands.left
  rw [List.append_assoc] at whole
  have inner := whole.right
  rw [show base + codeSize [Item.op .jump _ site.line, Item.function name site.start paramNames] =
    site.start from start.symm] at inner
  exact inner

theorem DefinesFunction.placed (defined : DefinesFunction program site)
    (compiled : c64scriptCompile program functions = .ok code) :
    Placed code.bytecode code.constants site.start
        (site.items ++ flattenImplicitReturn site.line site.items) ∧
      site.codeEnd ≤ (flattenProgram program).length := by
  have stands := defined.standsAt
  refine ⟨stands.placed (compile_placed compiled).1, ?_⟩
  have bound := stands.size_le
  have small := codeSize_le_length (flattenProgram program)
  simp only [codeSize_append] at bound
  unfold FunctionSite.codeEnd FunctionSite.bodyEnd
  omega

theorem codeEnd_eq (site : FunctionSite R) :
    site.codeEnd = if site.hasImplicitReturn then site.bodyEnd + 2 else site.bodyEnd := by
  unfold FunctionSite.codeEnd FunctionSite.hasImplicitReturn
  rw [codeSize_implicitReturn]
  cases endsInReturn false site.items <;> rfl

theorem flattenImplicitReturn_eq (implicit : site.hasImplicitReturn = true) :
    flattenImplicitReturn site.line site.items =
      [.constant .pushConst (numberConstant 0) site.line, .op .return 1 site.line] := by
  unfold FunctionSite.hasImplicitReturn at implicit
  rw [flattenImplicitReturn, if_neg (by simpa using implicit)]

theorem codeEnd_return {address : Nat}
    (placed : Placed code.bytecode code.constants site.start
      (site.items ++ flattenImplicitReturn site.line site.items))
    (last : address + 1 = site.codeEnd) :
    ∃ instruction, code.bytecode[address]? = some instruction ∧
      instruction.opcode = .return := by
  have ends := codeEnd_eq site
  obtain ⟨items, added⟩ := placed_append.mp placed
  cases implicit : site.hasImplicitReturn with
  | true =>
    -- The compiler added the return itself.
    rw [implicit, if_pos rfl] at ends
    rw [flattenImplicitReturn_eq implicit] at added
    have found := added.2.1
    have same : site.start + codeSize site.items + 1 = address := by
      show site.bodyEnd + 1 = address
      omega
    rw [show Item.size (.constant .pushConst (numberConstant 0 : Constant R) site.line) = 1
      from rfl, same] at found
    exact ⟨_, found, rfl⟩
  | false =>
    rw [implicit, if_neg (by decide)] at ends
    have returns : endsInReturn false site.items = true := by
      simpa [FunctionSite.hasImplicitReturn] using implicit
    rcases endsInReturn_last site.start returns with
      ⟨none, _⟩ | ⟨place, item, next, returns, member⟩
    · cases none
    · have same : place = address := by
        have next : place + 1 = site.bodyEnd := next
        omega
      rw [same] at member
      have found := addressed_placed items member
      cases item with
      | op opcode operand line => exact ⟨_, found, eq_of_beq returns⟩
      | constant opcode value line =>
        obtain ⟨index, _, found⟩ := found
        exact ⟨_, found, eq_of_beq returns⟩
      | jump opcode label line =>
        obtain ⟨operand, found⟩ := found
        exact ⟨_, found, eq_of_beq returns⟩
      | _ => cases returns

theorem isLocalJump_of_jumpsNow {machine : Machine R} {opcode : Opcode}
    (jumps : jumpsNow machine opcode = true) : opcode.isLocalJump = true := by
  unfold jumpsNow at jumps
  split at jumps <;> first | rfl | cases jumps

theorem isCall_of_isLocalJump {opcode : Opcode} (jumps : opcode.isLocalJump = true) :
    opcode.isCall = false := by
  unfold Opcode.isLocalJump at jumps
  split at jumps <;> first | rfl | cases jumps

theorem callsAt_of_found {instruction : Instruction} {ip : Nat}
    (found : code.bytecode[ip]? = some instruction) :
    code.callsAt ip = instruction.opcode.isCall := by
  simp [Code.callsAt, found]

/-- A round falls through the end of a function exactly when it takes an exit. -/
theorem fallsThrough_iff (compiled : c64scriptCompile program functions = .ok code)
    (fits : (flattenProgram program).length < operandBound)
    (defined : DefinesFunction program site) {state next : Runtime R World}
    (stepped : vmNext host code state = some next) :
    FallsThrough code site state next ↔ TakesExit code site state := by
  obtain ⟨placed, bound⟩ := defined.placed compiled
  obtain ⟨inBody, inReturn⟩ := placed_append.mp placed
  have exits := blockExits_exact site.start site.body
  have ends := codeEnd_eq site
  have running := vmNext_eq_some.mp stepped
  obtain ⟨instruction, _, _, _, found, _⟩ := vmStep_running running
  have atEnd : ∀ {target : Nat}, target ≤ site.bodyEnd → target = site.codeEnd →
      site.hasImplicitReturn = false := by
    intro target before same
    cases implicit : site.hasImplicitReturn with
    | false => rfl
    | true =>
      rw [implicit, if_pos rfl] at ends
      omega
  constructor
  · rintro ⟨start, inside, plain, goto, leaves⟩
    rw [callsAt_of_found found] at plain
    have address := vmStep_ip found plain running
    -- The last instruction returns, so that only a jump leads to the end.
    have jumps : jumpsNow state.toMachine instruction.opcode = true := by
      by_contra stays
      rw [if_neg stays, leaves] at address
      obtain ⟨last, here, returns⟩ := codeEnd_return placed address.symm
      obtain rfl := Option.some.inj (found.symm.trans here)
      rw [returns] at plain
      cases plain
    have isJump := isLocalJump_of_jumpsNow jumps
    rw [if_pos jumps, leaves] at address
    obtain ⟨item, one, member⟩ : ∃ item, item.size = 1 ∧ (state.ip, item) ∈
        addressed site.start (site.items ++ flattenImplicitReturn site.line site.items) :=
      exists_addressed start (by rw [codeSize_append, ← Nat.add_assoc]; exact inside)
    have here := addressed_placed placed member
    have regular : item.isRegular := by
      rcases List.mem_append.mp (mem_of_addressed member) with body | added
      · exact flattenStatements_regular site.start site.body item body
      · exact Item.isRegular_of_straight (flattenImplicitReturn_straight _ _ item added)
    cases item with
    | op opcode operand line =>
      obtain rfl := Option.some.inj (found.symm.trans here)
      have jump : (state.ip, operand) ∈ localJumps site.start
          (site.items ++ flattenImplicitReturn site.line site.items) :=
        mem_localJumps.mpr ⟨opcode, line, isJump, member⟩
      rw [localJumps_append, localJumps_straight (flattenImplicitReturn_straight _ _),
        List.append_nil] at jump
      have target : operand ≤ site.bodyEnd := exits.1 _ jump
      have small : operand % operandBound = operand := by
        refine Nat.mod_eq_of_lt (lt_of_le_of_lt target (lt_of_le_of_lt ?_ fits))
        unfold FunctionSite.codeEnd at bound
        omega
      simp only [small] at address
      have none := atEnd target address.symm
      rw [none, if_neg (by decide)] at ends
      refine ⟨none, .inl ⟨(exits.2 _).mpr ?_, _, found, jumps⟩⟩
      rw [← address, ends] at jump
      exact jump
    | constant opcode value line =>
      obtain ⟨index, _, here⟩ := here
      obtain rfl := Option.some.inj (found.symm.trans here)
      simp only [Item.isRegular, isJump] at regular
      cases regular
    | jump opcode label line =>
      -- A call is no jump within its block, so that this is a `GOTO`.
      simp only [Item.isRegular, Bool.or_eq_true, beq_iff_eq] at regular
      obtain ⟨operand, here⟩ := here
      obtain rfl := Option.some.inj (found.symm.trans here)
      rcases regular with rfl | rfl
      · rw [addressed_append, List.mem_append] at member
        rcases member with body | added
        · have atLabel := goto ⟨label, line, body⟩
          obtain ⟨_, _, _, _, labelled⟩ := id atLabel
          have none := atEnd (addressed_bounds labelled).2 rfl
          exact ⟨none, .inr ⟨atLabel, _, found, address.symm⟩⟩
        · have straight := flattenImplicitReturn_straight _ _ _ (mem_of_addressed added)
          cases straight
      · cases isJump
    | invoke name argCount line =>
      obtain ⟨functions, form, operand, known, here⟩ := here
      obtain rfl := Option.some.inj (found.symm.trans here)
      rw [callOpcodes_straight (callForm_opcode known)] at isJump
      cases isJump
    | _ => cases one
  · rintro ⟨none, leaves⟩
    rw [none, if_neg (by decide)] at ends
    rcases leaves with ⟨exit, same, here, jumps⟩ | ⟨atLabel, same, here, operand⟩
    · -- The jump of an exit leads behind the last statement.
      obtain rfl := Option.some.inj (found.symm.trans here)
      obtain ⟨opcode, line, isJump, member⟩ := mem_localJumps.mp ((exits.2 _).mp exit)
      have inside := addressed_bounds member
      have placedHere := addressed_placed inBody member
      obtain rfl := Option.some.inj (found.symm.trans placedHere)
      have address := vmStep_ip found (isCall_of_isLocalJump isJump) running
      rw [if_pos jumps] at address
      have small : site.bodyEnd % operandBound = site.bodyEnd :=
        Nat.mod_eq_of_lt (by omega)
      have target : next.ip = site.bodyEnd := address.trans small
      refine ⟨inside.1, ?_, ?_, ?_, target.trans ends.symm⟩
      · have last : state.ip + 1 ≤ site.bodyEnd := inside.2
        omega
      · rw [callsAt_of_found found]
        exact isCall_of_isLocalJump isJump
      · rintro ⟨label, other, jump⟩
        cases addressed_unique member jump rfl rfl
    · obtain rfl := Option.some.inj (found.symm.trans here)
      obtain ⟨label, line, labelLine, member, labelled⟩ := id atLabel
      have inside := addressed_bounds member
      obtain ⟨_, placedHere⟩ := addressed_placed inBody member
      obtain rfl := Option.some.inj (found.symm.trans placedHere)
      have address := vmStep_ip found rfl running
      refine ⟨inside.1, ?_, ?_, fun _ => atLabel, address.trans operand⟩
      · have last : state.ip + 1 ≤ site.bodyEnd := inside.2
        omega
      · rw [callsAt_of_found found]
        rfl

theorem vmNext_implicitReturn (compiled : c64scriptCompile program functions = .ok code)
    (fits : (flattenProgram program).length < operandBound)
    (defined : DefinesFunction program site) (state : Runtime R World) :
    ReturnsZero host code site state := by
  intro implicit address scope rest scopes middle last first second
  obtain ⟨placed, bound⟩ := defined.placed compiled
  rw [flattenImplicitReturn_eq implicit] at placed
  obtain ⟨⟨index, known, pushes⟩, returns, _⟩ := (placed_append.mp placed).2
  have small : index % operandBound = index := by
    have inside : index < code.constants.length := (List.getElem?_eq_some_iff.mp known).1
    have pool := compile_constants compiled
    exact Nat.mod_eq_of_lt (by omega)
  -- First the zero is pushed, and then it is returned.
  rw [show site.start + codeSize site.items = state.ip from address.symm] at pushes returns
  rw [small] at pushes
  have pushed := vmNext_pushConst pushes known first
  have next : middle.ip = state.ip + 1 := congrArg Machine.ip pushed
  have opened : middle.scopeStack = scope :: rest := (congrArg Machine.scopeStack pushed).trans scopes
  have top : middle.stack = .number numberZero :: state.stack := congrArg Machine.stack pushed
  have final := vmNext_return (by rw [next]; exact returns) (by decide) opened top second
  rw [final, pushed]
  rfl

end Returns

section Runs

/-- In a run from a call of a function, the code of the function is never left through its end,
and its end returns zero, exactly as long as no exit is taken. -/
theorem functionBody_returns_iff (host : Host R World) {program : List (AstStmt R)}
    {functions : List FunctionDef} {code : Code R}
    (compiled : c64scriptCompile program functions = .ok code)
    (fits : (flattenProgram program).length < operandBound) {site : FunctionSite R}
    (defined : DefinesFunction program site) (entered : Runtime R World) :
    (∀ state, Reaches (vmNext host code) (fun _ => True) entered state →
        ReturnsZero host code site state ∧
          ∀ next, vmNext host code state = some next → ¬ FallsThrough code site state next) ↔
      ∀ state next, Reaches (vmNext host code) (fun _ => True) entered state →
        vmNext host code state = some next → ¬ TakesExit code site state := by
  constructor
  · intro safe state next reached stepped
    rw [← fallsThrough_iff compiled fits defined stepped]
    exact (safe state reached).2 next stepped
  · intro avoids state reached
    refine ⟨vmNext_implicitReturn compiled fits defined state, fun next stepped => ?_⟩
    rw [fallsThrough_iff compiled fits defined stepped]
    exact avoids state next reached stepped

end Runs

section Examples

/-- A function whose only return stands in a branch. -/
def returnInBranch : List (AstStmt Int) :=
  [.functionDef 1 (text "F") []
      [.if 2 (.identifier 2 (text "X")) [.return 3 (some (.number 3 (literal 1)))] []],
    .command 6 (.assignment (text "A") (.call 6 (text "F") []))]

/-- The body of that function. -/
def returnInBranchSite : FunctionSite Int :=
  ⟨1, 1, [.if 2 (.identifier 2 (text "X")) [.return 3 (some (.number 3 (literal 1)))] []]⟩

/-- If the branch is not taken, the call runs on into the code behind the function. -/
theorem returnInBranch_fallsThrough :
    ∃ code state next, c64scriptCompile returnInBranch [] = .ok code ∧
      DefinesFunction returnInBranch returnInBranchSite ∧
      Reaches (vmNext quietHost code) (fun _ => True) (vmStart code (runtimeCreate ())) state ∧
      vmNext quietHost code state = some next ∧ state.scopeStack.map Scope.returnIp = [6] ∧
        FallsThrough code returnInBranchSite state next := by
  have defined : DefinesFunction returnInBranch returnInBranchSite :=
    ⟨0, _, _, _, rfl, .program⟩
  refine ⟨_, _, _, rfl, defined, reaches_of_stepTimes (n := 3) rfl, rfl, rfl, ?_⟩
  have compiled : c64scriptCompile returnInBranch [] = .ok _ := rfl
  refine (fallsThrough_iff compiled (by decide) defined
    (show vmNext quietHost _ _ = some _ from rfl)).mpr ⟨rfl, .inl ⟨by decide, _, rfl, rfl⟩⟩

/-- A function without statements returns at once. -/
theorem functionBody_returns_empty :
    ∃ code : Code Int, ∃ site,
      c64scriptCompile [.functionDef 1 (text "F") [] []] [] = .ok code ∧
        site.hasImplicitReturn = true ∧
      ((∀ state, Reaches (vmNext quietHost code) (fun _ => True)
          (vmStart code (runtimeCreate ())) state →
          ReturnsZero quietHost code site state ∧ ∀ next, vmNext quietHost code state = some next →
            ¬ FallsThrough code site state next) ↔
        ∀ state next, Reaches (vmNext quietHost code) (fun _ => True)
          (vmStart code (runtimeCreate ())) state →
          vmNext quietHost code state = some next → ¬ TakesExit code site state) := by
  have defined : DefinesFunction (R := Int) [.functionDef 1 (text "F") [] []] ⟨1, 1, []⟩ :=
    ⟨0, _, _, _, rfl, .program⟩
  have compiled : c64scriptCompile (R := Int) [.functionDef 1 (text "F") [] []] [] = .ok _ := rfl
  exact ⟨_, ⟨1, 1, []⟩, compiled, rfl,
    functionBody_returns_iff quietHost compiled (by decide) defined _⟩

end Examples

end C64Stream
