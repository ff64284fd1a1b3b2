import C64Stream.Script.StackLevels

/-! The level of the stack at every address of a program, and where its jumps lead. -/

namespace C64Stream

variable {R : Type} [ScriptNumber R]

section Unique

/-- Whether an item rejects the program. -/
def Item.isFailure (item : Item R) : Bool :=
  match item with
  | .failure _ => true
  | _ => false

theorem Opcode.Leads.unique {opcode : Opcode} {operand : Nat} {level first second : StackLevel}
    (one : opcode.Leads operand level first) (two : opcode.Leads operand level second) :
    first = second := by
  generalize same : level = other at two
  cases one with
  | plain depth uncounted noCall =>
    cases two with
    | plain depth' =>
      have equal := StackLevel.values.inj same
      rw [show depth = depth' by omega]
    | count counts => exact absurd counts uncounted
    | call calls => exact absurd calls noCall
  | count counts =>
    cases two with
    | plain _ uncounted => exact absurd counts uncounted
    | count => rfl
    | call => cases same
  | call calls =>
    cases two with
    | plain _ _ noCall => exact absurd calls noCall
    | count counts => cases same
    | call => rfl

theorem Item.Leads.unique {item : Item R} (sound : item.isFailure = false)
    {level first second : StackLevel} (one : item.Leads level first)
    (two : item.Leads level second) : first = second := by
  cases item with
  | op opcode operand line => exact one.2.1.unique two.2.1
  | constant opcode value line => exact (one.2.2 0).unique (two.2.2 0)
  | jump opcode label line => exact (one 0).unique (two 0)
  | invoke name argCount line =>
    obtain ⟨depth, rfl, rfl⟩ := one
    obtain ⟨depth', same, rfl⟩ := two
    have equal := StackLevel.values.inj same
    rw [show depth = depth' by omega]
  | checkCall name argCount => exact Eq.trans one (Eq.symm two)
  | pool value => exact Eq.trans one (Eq.symm two)
  | label name line => exact one.2.trans two.2.symm
  | function name address paramNames => exact one.2.trans two.2.symm
  | failure message => cases sound

theorem Item.Leads.silent {item : Item R} (sound : item.isFailure = false)
    (silent : item.size = 0) {level next : StackLevel} (leads : item.Leads level next) :
    next = level := by
  cases item with
  | checkCall name argCount => exact leads
  | pool value => exact leads
  | label name line => exact leads.2.trans leads.1.symm
  | function name address paramNames => exact leads.2.trans leads.1.symm
  | failure message => cases sound
  | op _ _ _ | constant _ _ _ | jump _ _ _ | invoke _ _ _ => cases silent

theorem ItemsLead.unique {items : List (Item R)} (sound : ∀ item ∈ items, item.isFailure = false)
    {level first second : StackLevel} (one : ItemsLead items level first)
    (two : ItemsLead items level second) : first = second := by
  induction items generalizing level with
  | nil => exact Eq.trans one (Eq.symm two)
  | cons item rest ih =>
    obtain ⟨middle, leads, others⟩ := one
    obtain ⟨middle', leads', others'⟩ := two
    obtain rfl := leads.unique (sound item (by simp)) leads'
    exact ih (fun item member => sound item (by simp [member])) others others'

theorem ItemsLead.silent {items : List (Item R)} (sound : ∀ item ∈ items, item.isFailure = false)
    (silent : codeSize items = 0) {level last : StackLevel} (leads : ItemsLead items level last) :
    last = level := by
  induction items generalizing level with
  | nil => exact leads
  | cons item rest ih =>
    obtain ⟨middle, one, others⟩ := leads
    rw [codeSize_cons] at silent
    have same := one.silent (sound item (by simp)) (by omega)
    exact (ih (fun item member => sound item (by simp [member])) (by omega) others).trans same

/-- The items in front of an address lead to a level. -/
def LevelAt (all : List (Item R)) (address : Nat) (level : StackLevel) : Prop :=
  ∃ before after, all = before ++ after ∧ codeSize before = address ∧
    ItemsLead before (.values 0) level

/-- A statement may begin at an address: nothing of another one is on the stack. -/
def Ground (all : List (Item R)) (address : Nat) : Prop :=
  LevelAt all address (.values 0)

theorem LevelAt.unique {all : List (Item R)} (sound : ∀ item ∈ all, item.isFailure = false)
    {address : Nat} {first second : StackLevel} (one : LevelAt all address first)
    (two : LevelAt all address second) : first = second := by
  obtain ⟨before, after, whole, size, leads⟩ := one
  obtain ⟨before', after', whole', size', leads'⟩ := two
  -- One of the two parts in front of the address goes on behind the other, without code.
  have longer : ∀ {short long rest rest' : List (Item R)} {level level' : StackLevel},
      all = short ++ rest → all = long ++ rest' → short <+: long →
      codeSize short = codeSize long → ItemsLead short (.values 0) level →
      ItemsLead long (.values 0) level' → level' = level := by
    rintro short _ rest rest' level level' _ whole ⟨added, rfl⟩ same leads leads'
    rw [codeSize_append] at same
    have inside : ∀ item ∈ short ++ added, item.isFailure = false := fun item member =>
      sound item (by rw [whole]; exact List.mem_append_left _ member)
    obtain ⟨middle, one, two⟩ := itemsLead_append.mp leads'
    obtain rfl := one.unique (fun item member => inside item (List.mem_append_left _ member)) leads
    exact two.silent (fun item member => inside item (List.mem_append_right _ member)) (by omega)
  have prefixes : before <+: all := ⟨after, whole.symm⟩
  have prefixes' : before' <+: all := ⟨after', whole'.symm⟩
  rcases List.prefix_or_prefix_of_prefix prefixes prefixes' with shorter | shorter
  · exact (longer whole whole' shorter (by omega) leads leads').symm
  · exact longer whole' whole shorter (by omega) leads' leads

theorem addressed_split {base address : Nat} {items : List (Item R)} {item : Item R}
    (member : (address, item) ∈ addressed base items) :
    ∃ before after, items = before ++ item :: after ∧ base + codeSize before = address := by
  induction items generalizing base with
  | nil => cases member
  | cons head rest ih =>
    rcases List.mem_cons.mp member with same | later
    · obtain ⟨rfl, rfl⟩ := Prod.mk.inj same
      exact ⟨[], rest, rfl, rfl⟩
    · obtain ⟨before, after, rfl, size⟩ := ih later
      exact ⟨head :: before, after, rfl, by rw [codeSize_cons, ← size]; omega⟩

theorem addressed_leads {all : List (Item R)} {last : StackLevel}
    (leads : ItemsLead all (.values 0) last) {address : Nat} {item : Item R}
    (member : (address, item) ∈ addressed 0 all) :
    ∃ level next, LevelAt all address level ∧ item.Leads level next ∧
      LevelAt all (address + item.size) next := by
  obtain ⟨before, after, rfl, size⟩ := addressed_split member
  rw [Nat.zero_add] at size
  obtain ⟨level, first, next, one, others⟩ := itemsLead_append.mp leads
  refine ⟨level, next, ⟨before, item :: after, rfl, size, first⟩, one,
    ⟨before ++ [item], after, by simp, ?_, first.append (itemsLead_single.mpr one)⟩⟩
  rw [codeSize_append, codeSize_cons, codeSize_nil, size]
  rfl

theorem ground_zero (all : List (Item R)) : Ground all 0 :=
  ⟨[], all, rfl, rfl, rfl⟩

theorem Ground.truncated {all : List (Item R)} (fits : codeSize all ≤ operandBound) {address : Nat}
    (ground : Ground all address) : Ground all (address % operandBound) := by
  have inside : address ≤ codeSize all := by
    obtain ⟨before, after, rfl, rfl, _⟩ := ground
    rw [codeSize_append]
    exact Nat.le_add_right _ _
  rcases Nat.lt_or_ge address operandBound with small | large
  · rwa [Nat.mod_eq_of_lt small]
  · -- Only the end of the longest code is cut, and becomes its first address.
    rw [show address = operandBound by omega, Nat.mod_self]
    exact ground_zero all

end Unique

section Targets

/-- The address that an item names: the target of a jump within its block, or of a function. -/
def Item.target (item : Item R) : Option Nat :=
  match item with
  | .op opcode operand _ => if opcode.isLocalJump then some operand else none
  | .function _ address _ => some address
  | _ => none

/-- The addresses that items name. -/
def targets (items : List (Item R)) : List Nat :=
  items.filterMap Item.target

theorem targets_straight {items : List (Item R)} (straight : ∀ item ∈ items, item.isStraight) :
    targets items = [] := by
  refine List.filterMap_eq_nil_iff.mpr fun item member => ?_
  have one := straight item member
  cases item with
  | op opcode operand line =>
    simp only [Item.isStraight, Bool.not_eq_true'] at one
    simp [Item.target, one]
  | function name address paramNames => cases one
  | _ => rfl

/-- Items stand where a statement may begin, among others. -/
def SettledAt (all : List (Item R)) (base : Nat) (items : List (Item R)) : Prop :=
  ∃ before after, all = before ++ items ++ after ∧ codeSize before = base ∧
    ItemsLead before (.values 0) (.values 0)

theorem SettledAt.ground {all items : List (Item R)} {base : Nat}
    (settled : SettledAt all base items) : Ground all base := by
  obtain ⟨before, after, rfl, size, leads⟩ := settled
  exact ⟨before, items ++ after, by simp, size, leads⟩

theorem SettledAt.left {all first second : List (Item R)} {base : Nat}
    (settled : SettledAt all base (first ++ second)) : SettledAt all base first := by
  obtain ⟨before, after, rfl, size, leads⟩ := settled
  exact ⟨before, second ++ after, by simp, size, leads⟩

theorem SettledAt.right {all first second : List (Item R)} {base : Nat}
    (settled : SettledAt all base (first ++ second))
    (empty : ItemsLead first (.values 0) (.values 0)) :
    SettledAt all (base + codeSize first) second := by
  obtain ⟨before, after, rfl, rfl, leads⟩ := settled
  exact ⟨before ++ first, after, by simp, codeSize_append _ _, leads.append empty⟩

theorem SettledAt.ground_end {all items : List (Item R)} {base : Nat}
    (settled : SettledAt all base items) (empty : ItemsLead items (.values 0) (.values 0)) :
    Ground all (base + codeSize items) := by
  rw [← List.append_nil items] at settled
  exact (settled.right empty).ground

@[simp] theorem targets_append (first second : List (Item R)) :
    targets (first ++ second) = targets first ++ targets second :=
  List.filterMap_append

theorem targets_cons (item : Item R) (rest : List (Item R)) :
    targets (item :: rest) = item.target.toList ++ targets rest := by
  unfold targets
  cases found : item.target <;> simp [found]

/-- The items of a loop in front of its check. -/
def forSetup (line : Int) (variableName : Text) (start finish : AstExpr R)
    (step : Option (AstExpr R)) : List (Item R) :=
  flattenExpression start ++
    [.constant .popVar (.string variableName) line,
      .constant .pushVar (.string variableName) line] ++ flattenExpression finish ++
    flattenOperand line (expressionOr step (numberConstant 1)) ++
    [.constant .forInit (.string variableName) line]

theorem targets_forSetup (line : Int) (variableName : Text) (start finish : AstExpr R)
    (step : Option (AstExpr R)) : targets (forSetup line variableName start finish step) = [] := by
  simp only [forSetup, targets_append, targets_straight (flattenExpression_straight _),
    targets_straight (flattenOperand_straight _ _)]
  rfl

mutual

/-- The addresses at which a statement and those inside it begin. -/
def statementStarts : Nat → AstStmt R → List Nat
  | base, .functionDef _ _ _ body => base :: blockStarts (base + 1) body
  | base, .if _ condition thenBranch elseBranch =>
    let start := base + codeSize (flattenExpression condition) + 1
    base :: (blockStarts start thenBranch ++
      blockStarts (start + codeSize (flattenStatements start thenBranch) + 1) elseBranch)
  | base, .for line variableName start finish step body =>
    base ::
      blockStarts (base + codeSize (forSetup line variableName start finish step) + 1) body
  | base, .while _ condition body =>
    base :: blockStarts (base + codeSize (flattenExpression condition) + 1) body
  | base, _ => [base]

/-- The addresses at which the statements of a block begin. -/
def blockStarts : Nat → List (AstStmt R) → List Nat
  | _, [] => []
  | base, stmt :: rest =>
    statementStarts base stmt ++ blockStarts (base + codeSize (flattenStatement base stmt)) rest

end

/-- The addresses at which the statements of a program begin. -/
def programStarts (program : List (AstStmt R)) : List Nat :=
  blockStarts 0 program

/-- Statements may begin at all of some addresses. -/
def AllGround (all : List (Item R)) (addresses : List Nat) : Prop :=
  ∀ address ∈ addresses, Ground all address

theorem AllGround.append {all : List (Item R)} {first second : List Nat}
    (one : AllGround all first) (two : AllGround all second) : AllGround all (first ++ second) :=
  fun address member => (List.mem_append.mp member).elim (one address) (two address)

theorem AllGround.nil (all : List (Item R)) : AllGround all [] :=
  fun _ member => nomatch member

theorem AllGround.single {all : List (Item R)} {address : Nat} (ground : Ground all address) :
    AllGround all [address] :=
  fun _ member => by rwa [List.mem_singleton.mp member]

end Targets

section Programs

variable {all : List (Item R)}

/-- The addresses of a block: those its items name, and those its statements begin at. -/
def BlockGround (all : List (Item R)) (base : Nat) (stmts : List (AstStmt R)) : Prop :=
  AllGround all (targets (flattenStatements base stmts)) ∧ AllGround all (blockStarts base stmts)

/-- The addresses of a statement. -/
def StatementGround (all : List (Item R)) (base : Nat) (stmt : AstStmt R) : Prop :=
  AllGround all (targets (flattenStatement base stmt)) ∧ AllGround all (statementStarts base stmt)

theorem StatementGround.of_straight {base : Nat} {stmt : AstStmt R}
    (settled : SettledAt all base (flattenStatement base stmt))
    (straight : targets (flattenStatement base stmt) = [])
    (simple : statementStarts base stmt = [base]) : StatementGround all base stmt := by
  refine ⟨?_, ?_⟩
  · rw [straight]
    exact .nil all
  · rw [simple]
    exact .single settled.ground

mutual

/-- A statement names only addresses that statements may begin at, and its own begin there. -/
theorem statement_ground : ∀ (base : Nat) (stmt : AstStmt R),
    SettledAt all base (flattenStatement base stmt) → StatementGround all base stmt
  | base, .empty _, settled | base, .rem _, settled | base, .label _ _, settled
  | base, .goto _ _, settled | base, .stop _, settled | base, .return _ none, settled =>
    .of_straight settled rfl rfl
  | base, .return line (some value), settled => by
    refine .of_straight settled ?_ rfl
    rw [flattenStatement, targets_append, targets_straight (flattenExpression_straight value)]
    rfl
  | base, .gosub line label params, settled => by
    refine .of_straight settled ?_ rfl
    have none : targets (params.flatMap flattenExpression) = [] :=
      targets_straight fun item member => by
        obtain ⟨param, _, inside⟩ := List.mem_flatMap.mp member
        exact flattenExpression_straight param item inside
    rw [flattenStatement, targets_append, none]
    rfl
  | base, .command line command, settled => by
    refine .of_straight settled ?_ rfl
    rw [flattenStatement, targets_straight (flattenCommand_straight line command)]
  | base, .functionDef line name paramNames body, settled => by
    have whole := settled.ground_end (flattenStatement_leads base _)
    have start := settled.ground
    rw [flattenStatement] at settled whole
    have head : ∀ target, ItemsLead
        [(.op .jump target line : Item R), .function name (base + 1) paramNames]
        (.values 0) (.values 0) :=
      fun target => (jump_leads target line).append (itemsLead_single.mpr ⟨rfl, rfl⟩)
    have body : SettledAt all (base + 1) (flattenStatements (base + 1) body) :=
      settled.left.right (head _)
    have inner := block_ground (base + 1) _ body
    refine ⟨?_, (AllGround.single start).append inner.2⟩
    rw [flattenStatement, targets_append, targets_append,
      targets_straight (flattenImplicitReturn_straight _ _), List.append_nil]
    -- The jump leads behind the function, and the function begins with its body.
    refine ((AllGround.single ?_).append (.single body.ground)).append inner.1
    simpa [Item.size, Nat.add_assoc] using whole
  | base, .if line condition thenBranch [], settled => by
    have whole := settled.ground_end (flattenStatement_leads base _)
    have start := settled.ground
    rw [flattenStatement] at settled whole
    have branch := settled.right (test_leads (.inl rfl) condition _ line)
    rw [codeSize_append, ← Nat.add_assoc] at branch
    have inner := block_ground _ thenBranch branch
    refine ⟨?_, ?_⟩
    · rw [flattenStatement, targets_append, targets_append,
        targets_straight (flattenExpression_straight condition)]
      refine AllGround.append (.single ?_) inner.1
      simpa [Item.size, Nat.add_assoc] using whole
    · rw [statementStarts, blockStarts, List.append_nil]
      exact (AllGround.single start).append inner.2
  | base, .if line condition thenBranch (first :: rest), settled => by
    have whole := settled.ground_end (flattenStatement_leads base _)
    have start := settled.ground
    rw [flattenStatement] at settled whole
    have test : ∀ target, ItemsLead (flattenExpression condition ++
        [.op .jumpIfFalse target line]) (.values 0) (.values 0) :=
      fun target => test_leads (.inl rfl) condition target line
    have branch := settled.left.left.right (test _)
    rw [codeSize_append, ← Nat.add_assoc] at branch
    have inner := block_ground _ thenBranch branch
    have other := settled.right (((test _).append (flattenStatements_leads _ thenBranch)).append
      (jump_leads _ line))
    simp only [codeSize_append, ← Nat.add_assoc] at other
    have second := block_ground _ (first :: rest) other
    refine ⟨?_, (AllGround.single start).append (inner.2.append second.2)⟩
    rw [flattenStatement, targets_append, targets_append, targets_append, targets_append,
      targets_straight (flattenExpression_straight condition)]
    -- The test leads to the second branch, and the first one over it.
    refine ((AllGround.append (.single other.ground) inner.1).append (.single ?_)).append second.1
    simpa [Item.size, Nat.add_assoc] using whole
  | base, .for line variableName start finish step body, settled => by
    have whole := settled.ground_end (flattenStatement_leads base _)
    have begins := settled.ground
    rw [flattenStatement, ← forSetup] at settled whole
    have setup := forSetup_leads line variableName start finish step
    have check : ∀ target, ItemsLead [(.op .forCheck target line : Item R)] (.values 0)
        (.values 0) := fun _ => leaving_leads rfl rfl rfl nofun nofun
    have loop := settled.left.left.right setup
    have branch := settled.left.right (setup.append (check _))
    rw [codeSize_append, ← Nat.add_assoc] at branch
    have inner := block_ground _ body branch
    refine ⟨?_, (AllGround.single begins).append inner.2⟩
    rw [flattenStatement, ← forSetup, targets_append, targets_append, targets_append,
      targets_forSetup, List.nil_append]
    -- The check leads behind the loop, and the jump back to the check.
    refine (AllGround.append (.single ?_) inner.1).append (.single loop.ground)
    simpa [Item.size, Nat.add_assoc] using whole
  | base, .while line condition body, settled => by
    have whole := settled.ground_end (flattenStatement_leads base _)
    have start := settled.ground
    rw [flattenStatement] at settled whole
    have branch := settled.left.right (test_leads (.inr rfl) condition _ line)
    rw [codeSize_append, ← Nat.add_assoc] at branch
    have inner := block_ground _ body branch
    refine ⟨?_, (AllGround.single start).append inner.2⟩
    rw [flattenStatement, targets_append, targets_append, targets_append,
      targets_straight (flattenExpression_straight condition)]
    -- The check leads behind the loop, and the jump back to its condition.
    refine (AllGround.append (.single ?_) inner.1).append (.single start)
    simpa [Item.size, Nat.add_assoc] using whole

theorem block_ground : ∀ (base : Nat) (stmts : List (AstStmt R)),
    SettledAt all base (flattenStatements base stmts) → BlockGround all base stmts
  | base, [], settled => ⟨.nil all, .nil all⟩
  | base, stmt :: rest, settled => by
    rw [flattenStatements] at settled
    have one := statement_ground base stmt settled.left
    have others := block_ground _ rest (settled.right (flattenStatement_leads base stmt))
    refine ⟨?_, ?_⟩
    · rw [flattenStatements, targets_append]
      exact one.1.append others.1
    · rw [blockStarts]
      exact one.2.append others.2

end

end Programs

section Calls

/-- An operand of an instruction comes from its source. -/
def OperandSource.Fits (source : OperandSource) (operand : Nat) : Prop :=
  match source with
  | .immediate given => operand = given % operandBound
  | .name _ => True

theorem callOperand_argCount {index argCount operand : Nat} (small : argCount < 65536)
    (fits : OperandSource.Fits (.immediate (callOperand index argCount)) operand) :
    operand % 65536 = argCount := by
  have fits : operand = callOperand index argCount % operandBound := fits
  rw [fits, Nat.mod_mod_of_dvd _ (by decide), callOperand, show (65536 : Nat) = 2 ^ 16 from rfl,
    Nat.or_mod_two_pow, Nat.mul_mod_left, Nat.zero_or]
  exact Nat.mod_eq_of_lt small

theorem callOpcodes_effect {opcode : Opcode} (known : opcode ∈ callOpcodes) :
    opcode.pushes = 1 ∧ opcode ≠ .pushNum ∧ opcode ≠ .call ∧ opcode.leaves = false := by
  simp only [callOpcodes, List.mem_cons, List.not_mem_nil, or_false] at known
  rcases known with rfl | rfl | rfl | rfl | rfl | rfl | rfl | rfl | rfl <;>
    exact ⟨rfl, by decide, by decide, rfl⟩

theorem callForm_pops {functions : List FunctionDef} {name : Text} {argCount operand : Nat}
    {form : CallForm} (known : callForm functions name argCount = .ok form)
    (small : argCount < 65536) (fits : form.operand.Fits operand) :
    form.opcode.pops operand = argCount + if form.emptyFirst then 1 else 0 := by
  rcases callForm_cases known with ⟨call, fixed, rfl, rfl⟩ | ⟨opcode, either, index, rfl⟩ | ⟨rfl, rfl⟩
  · have every : ∀ call ∈ fixedCalls,
        call.2.opcode.pops = fun _ => call.1 + if call.2.emptyFirst then 1 else 0 := by
      simp only [fixedCalls, List.forall_mem_cons]
      exact ⟨rfl, rfl, rfl, rfl, rfl, rfl, rfl, List.forall_mem_nil _⟩
    exact congrFun (every call fixed) operand
  · -- The operand of a call by number counts the arguments.
    have counted := callOperand_argCount small fits
    simp only [List.mem_cons, List.not_mem_nil, or_false] at either
    rcases either with rfl | rfl
    · exact counted
    · exact counted
  · rfl

theorem invoke_leads {functions : List FunctionDef} {name : Text} {argCount operand : Nat}
    {line : Int} {form : CallForm} (known : callForm functions name argCount = .ok form)
    (fits : form.operand.Fits operand) {level next : StackLevel}
    (leads : (.invoke name argCount line : Item R).Leads level next)
    (fitting : level.depth ≤ c64scriptMaxStackDepth) : form.opcode.Leads operand level next := by
  obtain ⟨depth, rfl, rfl⟩ := leads
  have deep : depth + (argCount + callExtra name argCount) ≤ 64 := fitting
  have pops := callForm_pops known (by omega) fits
  obtain ⟨pushes, uncounted, noCall, stays⟩ := callOpcodes_effect (callForm_opcode known)
  have extra : callExtra name argCount = if form.emptyFirst then 1 else 0 := by
    rw [callExtra, callForm_shape known]
  rw [extra, ← pops, ← pushes]
  exact .plain depth uncounted noCall fun leaves => by rw [stays] at leaves; cases leaves

end Calls

section Sites

theorem mem_labelSites {name : Text} {address base : Nat} {items : List (Item R)}
    (member : (name, address) ∈ labelSites base items) :
    ∃ line, (address, .label name line) ∈ addressed base items := by
  induction items generalizing base with
  | nil => cases member
  | cons item rest ih =>
    cases item with
    | label other line =>
      rcases List.mem_cons.mp member with same | later
      · obtain ⟨rfl, rfl⟩ := Prod.mk.inj same
        exact ⟨line, List.mem_cons_self ..⟩
      · obtain ⟨line, found⟩ := ih later
        exact ⟨line, List.mem_cons_of_mem _ found⟩
    | _ =>
      obtain ⟨line, found⟩ := ih (by simpa only [labelSites] using member)
      exact ⟨line, List.mem_cons_of_mem _ found⟩

theorem jumpSites_of_addressed {opcode : Opcode} {label : Text} {line : Int}
    {items : List (Item R)} {before : List (Text × Nat)} {deferred base address : Nat}
    (member : (address, .jump opcode label line) ∈ addressed base items) :
    ∃ site ∈ jumpSites before deferred base items, site.index = address := by
  induction items generalizing before deferred base with
  | nil => cases member
  | cons item rest ih =>
    cases item with
    | jump other target line' =>
      rcases List.mem_cons.mp member with same | later
      · obtain ⟨rfl, _⟩ := Prod.mk.inj same
        exact ⟨_, List.mem_cons_self .., rfl⟩
      · obtain ⟨site, found, index⟩ := ih later
        exact ⟨site, List.mem_cons_of_mem _ found, index⟩
    | _ =>
      rcases List.mem_cons.mp member with same | later
      · cases same
      · exact ih later

theorem addressed_of_jumpSites {items : List (Item R)} {before : List (Text × Nat)}
    {deferred base : Nat} {site : JumpSite}
    (member : site ∈ jumpSites before deferred base items) :
    ∃ opcode line, (site.index, .jump opcode site.label line) ∈ addressed base items := by
  induction items generalizing before deferred base with
  | nil => cases member
  | cons item rest ih =>
    cases item with
    | jump other target line =>
      rcases List.mem_cons.mp member with rfl | later
      · exact ⟨other, line, List.mem_cons_self ..⟩
      · obtain ⟨opcode, line, found⟩ := ih later
        exact ⟨opcode, line, List.mem_cons_of_mem _ found⟩
    | _ =>
      obtain ⟨opcode, line, found⟩ := ih (by simpa only [jumpSites] using member)
      exact ⟨opcode, line, List.mem_cons_of_mem _ found⟩

theorem assemble_invoke {items : List (Item R)} {ctx after : CompilerContext R}
    (assembled : assemble items ctx = .ok after) {address : Nat} {name : Text} {argCount : Nat}
    {line : Int}
    (member : (address, .invoke name argCount line) ∈ addressed ctx.instructions.length items) :
    ∃ functions form operand, callForm functions name argCount = .ok form ∧
      form.operand.Fits operand ∧
        after.instructions[address]? = some ⟨form.opcode, operand, line⟩ := by
  induction items generalizing ctx with
  | nil => cases member
  | cons item rest ih =>
    obtain ⟨middle, first, others⟩ := assemble_cons_ok assembled
    rcases List.mem_cons.mp member with same | later
    · obtain ⟨rfl, rfl⟩ := Prod.mk.inj same
      obtain ⟨form, known, emitted⟩ := assembleItem_invoke first
      have grows := (assemble_placed others).1.1
      cases source : form.operand with
      | immediate given =>
        rw [source] at emitted
        have placed := (emit_placed ctx form.opcode given line).2
        rw [Except.ok.inj emitted] at placed
        exact ⟨_, form, _, known, by rw [source]; rfl, getElem?_of_prefix grows placed⟩
      | name text =>
        rw [source] at emitted
        obtain ⟨_, index, _, placed⟩ := emitConstant_placed emitted
        exact ⟨_, form, _, known, by rw [source]; trivial, getElem?_of_prefix grows placed⟩
    · rw [← assembleItem_length first] at later
      exact ih others later

theorem assemble_functions {items : List (Item R)} {ctx after : CompilerContext R}
    (assembled : assemble items ctx = .ok after) :
    ∀ function ∈ after.functions,
      function ∈ ctx.functions ∨ function.bytecodeAddress ∈ targets items := by
  induction items generalizing ctx with
  | nil =>
    rw [← Except.ok.inj assembled]
    exact fun function member => .inl member
  | cons item rest ih =>
    obtain ⟨middle, first, others⟩ := assemble_cons_ok assembled
    intro function member
    rw [targets_cons]
    rcases ih others function member with known | named
    · cases item with
      | function name address paramNames =>
        rw [assembleItem_function first, List.mem_append, List.mem_singleton] at known
        rcases known with known | rfl
        · exact .inl known
        · exact .inr (List.mem_append_left _ (List.mem_singleton_self _))
      | label name line =>
        rw [assembleItem_label first] at known
        exact .inl known
      | jump opcode label line =>
        rw [← Except.ok.inj first, emitJump] at known
        split at known <;> exact .inl known
      | _ =>
        rw [(assembleItem_plain rfl first).2.2] at known
        exact .inl known
    · exact .inr (List.mem_append_right _ named)

theorem assemble_sound {items : List (Item R)} {ctx after : CompilerContext R}
    (assembled : assemble items ctx = .ok after) : ∀ item ∈ items, item.isFailure = false := by
  induction items generalizing ctx with
  | nil => exact fun _ member => nomatch member
  | cons item rest ih =>
    obtain ⟨middle, first, others⟩ := assemble_cons_ok assembled
    intro other member
    rcases List.mem_cons.mp member with rfl | later
    · cases other with
      | failure message => cases first
      | _ => rfl
    · exact ih others other later

end Sites

section Compiled

variable {program : List (AstStmt R)} {functions : List FunctionDef} {code : Code R}

theorem compile_sound (compiled : c64scriptCompile program functions = .ok code) :
    ∀ item ∈ flattenProgram program, item.isFailure = false := by
  obtain ⟨after, assembled, _⟩ := compile_assembles compiled
  exact assemble_sound assembled

theorem program_ground (program : List (AstStmt R)) :
    AllGround (flattenProgram program) (targets (flattenProgram program)) ∧
      AllGround (flattenProgram program) (programStarts program) := by
  have settled : SettledAt (flattenProgram program) 0 (flattenStatements 0 program) :=
    ⟨[], [.op .halt 0 (-1)], rfl, rfl, rfl⟩
  have ground := block_ground 0 program settled
  refine ⟨?_, ground.2⟩
  -- The last instruction names no address.
  rw [flattenProgram, targets_append]
  exact ground.1.append (.nil _)

theorem compile_invoke (compiled : c64scriptCompile program functions = .ok code) {address : Nat}
    {name : Text} {argCount : Nat} {line : Int}
    (member : (address, .invoke name argCount line) ∈ addressed 0 (flattenProgram program)) :
    ∃ functions form operand, callForm functions name argCount = .ok form ∧
      form.operand.Fits operand ∧ code.bytecode[address]? = some ⟨form.opcode, operand, line⟩ := by
  obtain ⟨after, assembled, patched, _⟩ := compile_assembles compiled
  obtain ⟨known, form, operand, accepted, fits, found⟩ := assemble_invoke assembled member
  refine ⟨known, form, operand, accepted, fits, ?_⟩
  -- Only the instructions of jumps are patched.
  rw [← found]
  refine patchJumps_other patched fun patch inside same => ?_
  obtain ⟨site, jumps, _, _, rfl⟩ := (program_patches assembled).mp inside
  obtain ⟨opcode, line', jump⟩ := addressed_of_jumpSites jumps
  rw [show site.index = address from same] at jump
  cases addressed_unique jump member rfl rfl

theorem compile_leads (compiled : c64scriptCompile program functions = .ok code) {address : Nat}
    {instruction : Instruction} (found : code.bytecode[address]? = some instruction) :
    ∃ level next, LevelAt (flattenProgram program) address level ∧
      LevelAt (flattenProgram program) (address + 1) next ∧
        (level.depth ≤ c64scriptMaxStackDepth →
          instruction.opcode.Leads instruction.operand level next) := by
  obtain ⟨placed, size⟩ := compile_placed compiled
  have inside : address < 0 + codeSize (flattenProgram program) := by
    rw [Nat.zero_add, ← size]
    exact (List.getElem?_eq_some_iff.mp found).1
  obtain ⟨item, one, member⟩ := exists_addressed (Nat.zero_le _) inside
  obtain ⟨level, next, here, leads, behind⟩ := addressed_leads (flattenProgram_leads program) member
  rw [one] at behind
  refine ⟨level, next, here, behind, fun fitting => ?_⟩
  have place := addressed_placed placed member
  cases item with
  | op opcode operand line =>
    obtain rfl := Option.some.inj (found.symm.trans place)
    exact leads.2.2.resolve_right (Nat.not_lt.mpr fitting)
  | constant opcode value line =>
    obtain ⟨index, _, place⟩ := place
    obtain rfl := Option.some.inj (found.symm.trans place)
    exact leads.2.2 _
  | jump opcode label line =>
    obtain ⟨operand, place⟩ := place
    obtain rfl := Option.some.inj (found.symm.trans place)
    exact leads _
  | invoke name argCount line =>
    obtain ⟨known, form, operand, accepted, fits, place⟩ := compile_invoke compiled member
    obtain rfl := Option.some.inj (found.symm.trans place)
    exact invoke_leads accepted fits leads fitting
  | checkCall _ _ | pool _ | label _ _ | function _ _ _ | failure _ => cases one

theorem compile_jump_ground (compiled : c64scriptCompile program functions = .ok code)
    (fits : code.bytecode.length ≤ operandBound) (site : JumpSite) :
    Ground (flattenProgram program) (site.operand (programLabels program)) := by
  rw [(compile_placed compiled).2] at fits
  unfold JumpSite.operand
  split
  · refine Ground.truncated fits ?_
    cases stored : storedTarget (programLabels program) site.label with
    | none => exact ground_zero _
    | some address =>
      -- The address is that of a label, which stands between statements.
      simp only [storedTarget, getLabelAddress, Option.map_eq_some_iff] at stored
      obtain ⟨entry, found, rfl⟩ := stored
      have listed := List.mem_of_find?_eq_some found
      simp only [storedLabels, List.mem_map] at listed
      obtain ⟨label, known, rfl⟩ := listed
      obtain ⟨line, label⟩ := mem_labelSites known
      obtain ⟨level, _, here, leads, _⟩ := addressed_leads (flattenProgram_leads program) label
      rw [leads.1] at here
      exact here
  · exact ground_zero _

theorem compile_target_ground (compiled : c64scriptCompile program functions = .ok code)
    (fits : code.bytecode.length ≤ operandBound) {address : Nat} {instruction : Instruction}
    (found : code.bytecode[address]? = some instruction)
    (jumps : instruction.opcode.isLocalJump = true ∨ instruction.opcode = .call) :
    Ground (flattenProgram program) instruction.operand := by
  obtain ⟨placed, size⟩ := compile_placed compiled
  have inside : address < 0 + codeSize (flattenProgram program) := by
    rw [Nat.zero_add, ← size]
    exact (List.getElem?_eq_some_iff.mp found).1
  obtain ⟨item, one, member⟩ := exists_addressed (Nat.zero_le _) inside
  obtain ⟨_, _, _, leads, _⟩ := addressed_leads (flattenProgram_leads program) member
  have place := addressed_placed placed member
  cases item with
  | op opcode operand line =>
    obtain rfl := Option.some.inj (found.symm.trans place)
    -- The target of a jump within its block is an address that its item names.
    have jumps : opcode.isLocalJump = true := jumps.resolve_right leads.1
    refine Ground.truncated (by rwa [← size]) ((program_ground program).1 operand ?_)
    exact List.mem_filterMap.mpr ⟨_, mem_of_addressed member, by simp [Item.target, jumps]⟩
  | constant opcode value line =>
    obtain ⟨index, _, place⟩ := place
    obtain rfl := Option.some.inj (found.symm.trans place)
    have stays := leads.2.1
    rcases jumps with jumps | calls
    · simp only [Opcode.leaves, show opcode.isLocalJump = true from jumps] at stays
      cases stays
    · exact absurd calls leads.1
  | jump opcode label line =>
    obtain ⟨operand, place⟩ := place
    obtain ⟨site, jump, rfl⟩ := @jumpSites_of_addressed _ _ _ _ _ _ [] 0 _ _ member
    obtain ⟨⟨_, here, operand⟩, _⟩ := programJumps_operand compiled jump
    obtain rfl := Option.some.inj (found.symm.trans here)
    rw [operand]
    exact compile_jump_ground compiled fits site
  | invoke name argCount line =>
    obtain ⟨known, form, operand, accepted, _, place⟩ := compile_invoke compiled member
    obtain rfl := Option.some.inj (found.symm.trans place)
    obtain ⟨_, _, noCall, stays⟩ := callOpcodes_effect (callForm_opcode accepted)
    rcases jumps with jumps | calls
    · simp only [Opcode.leaves, show form.opcode.isLocalJump = true from jumps] at stays
      cases stays
    · exact absurd calls noCall
  | checkCall _ _ | pool _ | label _ _ | function _ _ _ | failure _ => cases one

theorem compile_function_ground (compiled : c64scriptCompile program [] = .ok code) :
    ∀ function ∈ code.functions, Ground (flattenProgram program) function.bytecodeAddress := by
  obtain ⟨after, assembled, _, _, table⟩ := compile_assembles compiled
  intro function member
  rw [table] at member
  rcases assemble_functions assembled function member with known | named
  · cases known
  · exact (program_ground program).1 _ named

end Compiled

end C64Stream
