import C64Stream.Script.Jumps

/-! Blocks of statements inside a program, and the jumps that lead to their ends. -/

namespace C64Stream

variable {R : Type} [ScriptNumber R]

section Addresses

variable {base address : Nat} {items : List (Item R)}

/-- Items with the addresses they stand at. -/
def addressed : Nat → List (Item R) → List (Nat × Item R)
  | _, [] => []
  | base, item :: rest => (base, item) :: addressed (base + item.size) rest

theorem addressed_append (base : Nat) (first second : List (Item R)) :
    addressed base (first ++ second) =
      addressed base first ++ addressed (base + codeSize first) second := by
  induction first generalizing base with
  | nil => rfl
  | cons item rest ih =>
    simp only [List.cons_append, addressed, ih, codeSize_cons, Nat.add_assoc]

theorem addressed_bounds {item : Item R} (member : (address, item) ∈ addressed base items) :
    base ≤ address ∧ address + item.size ≤ base + codeSize items := by
  induction items generalizing base with
  | nil => cases member
  | cons head rest ih =>
    rw [codeSize_cons]
    rcases List.mem_cons.mp member with same | later
    · obtain ⟨rfl, rfl⟩ := Prod.mk.inj same
      omega
    · have inner := ih later
      omega

theorem addressed_placed {bytecode : List Instruction} {constants : List (Constant R)}
    {item : Item R} (placed : Placed bytecode constants base items)
    (member : (address, item) ∈ addressed base items) :
    placedAt bytecode constants address item := by
  induction items generalizing base with
  | nil => cases member
  | cons head rest ih =>
    rcases List.mem_cons.mp member with same | later
    · obtain ⟨rfl, rfl⟩ := Prod.mk.inj same
      exact placed.1
    · exact ih placed.2 later

theorem exists_addressed (start : base ≤ address) (inside : address < base + codeSize items) :
    ∃ item, item.size = 1 ∧ (address, item) ∈ addressed base items := by
  -- Items without code are passed over until the address is reached.
  induction items generalizing base with
  | nil =>
    rw [codeSize_nil] at inside
    omega
  | cons head rest ih =>
    have small := head.size_le_one
    rw [codeSize_cons] at inside
    by_cases here : base = address ∧ head.size = 1
    · exact ⟨head, here.2, by rw [← here.1]; exact List.mem_cons_self ..⟩
    · have later : base + head.size ≤ address := by
        by_cases same : base = address
        · have none : head.size ≠ 1 := fun one => here ⟨same, one⟩
          omega
        · omega
      obtain ⟨item, one, member⟩ := ih later (by omega)
      exact ⟨item, one, List.mem_cons_of_mem _ member⟩

theorem addressed_unique {first second : Item R} (one : (address, first) ∈ addressed base items)
    (two : (address, second) ∈ addressed base items) (firstSize : first.size = 1)
    (secondSize : second.size = 1) : first = second := by
  induction items generalizing base with
  | nil => cases one
  | cons head rest ih =>
    rcases List.mem_cons.mp one with same | later
    · obtain ⟨rfl, rfl⟩ := Prod.mk.inj same
      rcases List.mem_cons.mp two with same | later
      · exact (Prod.mk.inj same).2.symm
      · -- Everything behind the first item has a greater address.
        have bound := (addressed_bounds later).1
        omega
    · rcases List.mem_cons.mp two with same | behind
      · obtain ⟨rfl, rfl⟩ := Prod.mk.inj same
        have bound := (addressed_bounds later).1
        omega
      · exact ih later behind

end Addresses

section LocalJumps

/-- Where an item may jump to, if it is a jump within its block. -/
def Item.localTarget (item : Item R) : Option Nat :=
  match item with
  | .op opcode operand _ => if opcode.isLocalJump then some operand else none
  | _ => none

/-- The jumps of some items within their block, with the addresses they may lead to. -/
def localJumps (base : Nat) (items : List (Item R)) : List (Nat × Nat) :=
  (addressed base items).filterMap fun entry => entry.2.localTarget.map fun target =>
    (entry.1, target)

@[simp] theorem localJumps_nil (base : Nat) : localJumps base ([] : List (Item R)) = [] := rfl

@[simp] theorem localJumps_append (base : Nat) (first second : List (Item R)) :
    localJumps base (first ++ second) =
      localJumps base first ++ localJumps (base + codeSize first) second := by
  simp [localJumps, addressed_append]

theorem localJumps_cons (base : Nat) (item : Item R) (rest : List (Item R)) :
    localJumps base (item :: rest) =
      (item.localTarget.map fun target => (base, target)).toList ++
        localJumps (base + item.size) rest := by
  cases target : item.localTarget <;>
    simp [localJumps, addressed, target]

theorem localJumps_straight {items : List (Item R)} (straight : ∀ item ∈ items, item.isStraight)
    (base : Nat) : localJumps base items = [] := by
  induction items generalizing base with
  | nil => rfl
  | cons item rest ih =>
    have one := straight item (by simp)
    have none : item.localTarget = none := by
      cases item <;> simp_all [Item.localTarget, Item.isStraight]
    rw [localJumps_cons, none, ih fun item member => straight item (by simp [member])]
    rfl

theorem mem_localJumps {base address target : Nat} {items : List (Item R)} :
    (address, target) ∈ localJumps base items ↔
      ∃ opcode line, opcode.isLocalJump = true ∧
        (address, .op opcode target line) ∈ addressed base items := by
  simp only [localJumps, List.mem_filterMap, Option.map_eq_some_iff]
  constructor
  · rintro ⟨⟨_, item⟩, member, _, found, rfl, rfl⟩
    cases item with
    | op opcode operand line =>
      simp only [Item.localTarget] at found
      split at found
      · obtain rfl := Option.some.inj found
        exact ⟨opcode, line, ‹_›, member⟩
      · cases found
    | _ => cases found
  · rintro ⟨opcode, line, jumps, member⟩
    exact ⟨_, member, target, by simp [Item.localTarget, jumps], rfl⟩

end LocalJumps

section Exits

variable {fin : Nat}

mutual

/-- The addresses of the jumps of a statement that lead to its end. -/
def statementExits : Nat → AstStmt R → List Nat
  | base, .functionDef _ _ _ body =>
    -- The code of a function without an implicit return ends where its body does.
    base :: (if endsInReturn false (flattenStatements (base + 1) body) then
      blockExits (base + 1) body else [])
  | base, .if _ condition thenBranch elseBranch =>
    let test := base + codeSize (flattenExpression condition)
    match elseBranch with
    | [] => test :: blockExits (test + 1) thenBranch
    | first :: rest =>
      let leave := test + 1 + codeSize (flattenStatements (test + 1) thenBranch)
      (if codeSize (flattenStatements (leave + 1) (first :: rest)) = 0 then [test] else []) ++
        leave :: blockExits (leave + 1) (first :: rest)
  | base, .for line variableName start finish step _ =>
    [base + codeSize (flattenExpression start ++
      [.constant .popVar (.string variableName) line,
        .constant .pushVar (.string variableName) line] ++ flattenExpression finish ++
      flattenOperand line (expressionOr step (numberConstant 1)) ++
      [.constant .forInit (.string variableName) line])]
  | base, .while _ condition _ => [base + codeSize (flattenExpression condition)]
  | _, _ => []

/-- The addresses of the jumps of a block that lead to its end. -/
def blockExits : Nat → List (AstStmt R) → List Nat
  | _, [] => []
  | base, stmt :: rest =>
    let next := base + codeSize (flattenStatement base stmt)
    -- A statement ends where its block does if no code follows.
    (if codeSize (flattenStatements next rest) = 0 then statementExits base stmt else []) ++
      blockExits next rest

end

/-- The jumps of some code lead no further than its end, and the exits are those that lead there. -/
def ExitsOf (jumps : List (Nat × Nat)) (fin : Nat) (exits : List Nat) : Prop :=
  (∀ jump ∈ jumps, jump.2 ≤ fin) ∧ ∀ address, address ∈ exits ↔ (address, fin) ∈ jumps

theorem ExitsOf.append {first second : List (Nat × Nat)} {exits others : List Nat}
    (one : ExitsOf first fin exits) (two : ExitsOf second fin others) :
    ExitsOf (first ++ second) fin (exits ++ others) := by
  refine ⟨fun jump member => ?_, fun address => ?_⟩
  · rcases List.mem_append.mp member with early | late
    · exact one.1 jump early
    · exact two.1 jump late
  · rw [List.mem_append, List.mem_append, one.2, two.2]

theorem ExitsOf.later {jumps : List (Nat × Nat)} {near : Nat} {exits : List Nat}
    (inner : ExitsOf jumps near exits) (before : near < fin) : ExitsOf jumps fin [] := by
  refine ⟨fun jump member => (inner.1 jump member).trans before.le, fun address => ?_⟩
  simp only [List.not_mem_nil, false_iff]
  intro member
  have bound := inner.1 _ member
  simp only at bound
  omega

theorem ExitsOf.nil (fin : Nat) : ExitsOf [] fin [] :=
  ⟨fun jump member => (by cases member), fun address => by simp⟩

theorem ExitsOf.jump {target : Nat} (address : Nat) (same : target = fin) :
    ExitsOf [(address, target)] fin [address] := by
  subst same
  exact ⟨fun jump member => by rw [List.mem_singleton.mp member], fun other => by simp⟩

theorem ExitsOf.back {target : Nat} (address : Nat) (before : target < fin) :
    ExitsOf [(address, target)] fin [] := (ExitsOf.jump address rfl).later before

theorem flattenImplicitReturn_straight (line : Int) (items : List (Item R)) :
    ∀ item ∈ flattenImplicitReturn line items, item.isStraight := by
  unfold flattenImplicitReturn
  split <;> simp [Item.isStraight, Opcode.isLocalJump]

theorem codeSize_implicitReturn (line : Int) (items : List (Item R)) :
    codeSize (flattenImplicitReturn line items) = if endsInReturn false items then 0 else 2 := by
  unfold flattenImplicitReturn
  split <;> rfl

mutual

/-- The jumps of a statement stay inside it or are its exits. -/
theorem statementExits_exact : ∀ (base : Nat) (stmt : AstStmt R),
    ExitsOf (localJumps base (flattenStatement base stmt))
      (base + codeSize (flattenStatement base stmt)) (statementExits base stmt)
  | base, .empty _ | base, .rem _ | base, .label _ _ => .nil _
  | base, .goto _ _ | base, .stop _ | base, .return _ none => .nil _
  | base, .gosub line label params => by
    have none : localJumps base (params.flatMap flattenExpression) = [] := by
      refine localJumps_straight (fun item member => ?_) base
      obtain ⟨param, _, inside⟩ := List.mem_flatMap.mp member
      exact flattenExpression_straight param item inside
    rw [flattenStatement, localJumps_append, none]
    exact .nil _
  | base, .return line (some value) => by
    rw [flattenStatement, localJumps_append,
      localJumps_straight (flattenExpression_straight value)]
    exact .nil _
  | base, .command line command => by
    rw [flattenStatement, localJumps_straight (flattenCommand_straight line command)]
    exact .nil _
  | base, .functionDef line name paramNames body => by
    have inner := blockExits_exact (base + 1) body
    rw [flattenStatement, statementExits]
    generalize flattenStatements (base + 1) body = items at inner ⊢
    have implicit := localJumps_straight (flattenImplicitReturn_straight line items)
    have size := codeSize_implicitReturn line items
    simp only [implicit, size, localJumps_append, localJumps_cons, Item.localTarget,
      Opcode.isLocalJump, if_true, Option.map_some, Option.map_none, Option.toList_some,
      Option.toList_none, localJumps_nil, List.append_nil, codeSize_append, codeSize_cons,
      codeSize_nil, Item.size, Nat.add_zero]
    cases ends : endsInReturn false items with
    | true =>
      -- The body ends where the function does.
      simp only [if_true, Nat.add_zero, ← Nat.add_assoc]
      exact (ExitsOf.jump base (by omega)).append inner
    | false =>
      -- The implicit return lies between the body and the end.
      simp only [Bool.false_eq_true, if_false, ← Nat.add_assoc]
      exact (ExitsOf.jump base (by omega)).append (inner.later (by omega))
  | base, .if line condition thenBranch [] => by
    have test := localJumps_straight (flattenExpression_straight condition)
    have inner := blockExits_exact (base + codeSize (flattenExpression condition) + 1) thenBranch
    rw [flattenStatement, statementExits]
    simp only [test, localJumps_append, localJumps_cons, Item.localTarget, Opcode.isLocalJump,
      if_true, Option.map_some, Option.toList_some, localJumps_nil, List.append_nil,
      List.nil_append, codeSize_append, codeSize_cons, codeSize_nil, Item.size, Nat.add_zero]
    refine .append (.jump _ (by omega)) ?_
    simpa [Nat.add_assoc] using inner
  | base, .if line condition thenBranch (first :: rest) => by
    have test := localJumps_straight (flattenExpression_straight condition)
    have inner := blockExits_exact (base + codeSize (flattenExpression condition) + 1) thenBranch
    rw [flattenStatement, statementExits]
    generalize thenCode : flattenStatements (base + codeSize (flattenExpression condition) + 1)
      thenBranch = items at inner ⊢
    have other := blockExits_exact
      (base + codeSize (flattenExpression condition) + 1 + codeSize items + 1) (first :: rest)
    simp only [test, localJumps_append, localJumps_cons, Item.localTarget, Opcode.isLocalJump,
      if_true, Option.map_some, Option.toList_some, localJumps_nil, List.append_nil,
      List.nil_append, codeSize_append, codeSize_cons, codeSize_nil, Item.size, Nat.add_zero,
      ← Nat.add_assoc]
    generalize codeSize (flattenStatements _ (first :: rest)) = size at other ⊢
    -- The first branch is left by a jump over the second one, which may be without code.
    have skip : ExitsOf
        [(base + codeSize (flattenExpression condition),
          base + codeSize (flattenExpression condition) + 1 + codeSize items + 1)]
        (base + codeSize (flattenExpression condition) + 1 + codeSize items + 1 + size)
        (if size = 0 then [base + codeSize (flattenExpression condition)] else []) := by
      split
      · exact .jump _ (by omega)
      · exact .back _ (by omega)
    have whole := ((skip.append (inner.later (by omega))).append (.jump
      (base + codeSize (flattenExpression condition) + 1 + codeSize items) rfl)).append other
    simpa using whole
  | base, .for line variableName start finish step body => by
    rw [flattenStatement, statementExits]
    generalize setup : flattenExpression start ++ _ ++ _ ++ _ ++ _ = items
    have straight : ∀ item ∈ items, item.isStraight := by
      rw [← setup]
      intro item member
      simp only [List.append_assoc, List.mem_append, List.mem_cons, List.not_mem_nil,
        or_false] at member
      rcases member with value | (rfl | rfl) | limit | step | rfl
      · exact flattenExpression_straight start item value
      · rfl
      · rfl
      · exact flattenExpression_straight finish item limit
      · exact flattenOperand_straight line _ item step
      · rfl
    have inner := blockExits_exact (base + codeSize items + 1) body
    simp only [localJumps_straight straight, localJumps_append, localJumps_cons,
      Item.localTarget, Opcode.isLocalJump, if_true, Option.map_some, Option.map_none,
      Option.toList_some, Option.toList_none, localJumps_nil, List.append_nil, List.nil_append,
      codeSize_append, codeSize_cons, codeSize_nil, Item.size, Nat.add_zero, ← Nat.add_assoc]
    exact ((ExitsOf.jump _ (by omega)).append (inner.later (by omega))).append
      (.back _ (by omega))
  | base, .while line condition body => by
    have test := localJumps_straight (flattenExpression_straight condition)
    have inner := blockExits_exact (base + codeSize (flattenExpression condition) + 1) body
    rw [flattenStatement, statementExits]
    simp only [test, localJumps_append, localJumps_cons, Item.localTarget, Opcode.isLocalJump,
      if_true, Option.map_some, Option.toList_some, localJumps_nil, List.append_nil,
      List.nil_append, codeSize_append, codeSize_cons, codeSize_nil, Item.size, Nat.add_zero,
      ← Nat.add_assoc]
    exact ((ExitsOf.jump _ (by omega)).append (inner.later (by omega))).append
      (.back _ (by omega))

theorem blockExits_exact : ∀ (base : Nat) (stmts : List (AstStmt R)),
    ExitsOf (localJumps base (flattenStatements base stmts))
      (base + codeSize (flattenStatements base stmts)) (blockExits base stmts)
  | base, [] => .nil _
  | base, stmt :: rest => by
    have one := statementExits_exact base stmt
    have others := blockExits_exact (base + codeSize (flattenStatement base stmt)) rest
    rw [flattenStatements, blockExits, localJumps_append, codeSize_append, ← Nat.add_assoc]
    refine .append ?_ others
    split
    · rename_i none
      rwa [none, Nat.add_zero]
    · exact one.later (by omega)

end

end Exits

section Occurrences

variable {all : List (Item R)} {base : Nat}

/-- A block of statements stands in a program, with its code at an address. -/
inductive OccursAt (program : List (AstStmt R)) : Nat → List (AstStmt R) → Prop where
  | program : OccursAt program 0 program
  | rest {base : Nat} {stmt : AstStmt R} {rest : List (AstStmt R)}
      (block : OccursAt program base (stmt :: rest)) :
      OccursAt program (base + codeSize (flattenStatement base stmt)) rest
  | functionBody {base : Nat} {line : Int} {name : Text} {paramNames : List Text}
      {body rest : List (AstStmt R)}
      (block : OccursAt program base (.functionDef line name paramNames body :: rest)) :
      OccursAt program (base + 1) body
  | thenBranch {base : Nat} {line : Int} {condition : AstExpr R}
      {thenBranch elseBranch rest : List (AstStmt R)}
      (block : OccursAt program base (.if line condition thenBranch elseBranch :: rest)) :
      OccursAt program (base + codeSize (flattenExpression condition) + 1) thenBranch
  | elseBranch {base : Nat} {line : Int} {condition : AstExpr R}
      {thenBranch : List (AstStmt R)} {first : AstStmt R} {others rest : List (AstStmt R)}
      (block : OccursAt program base (.if line condition thenBranch (first :: others) :: rest)) :
      OccursAt program
        (base + codeSize (flattenExpression condition) + 1 +
          codeSize (flattenStatements (base + codeSize (flattenExpression condition) + 1)
            thenBranch) + 1)
        (first :: others)
  | forBody {base : Nat} {line : Int} {variableName : Text} {start finish : AstExpr R}
      {step : Option (AstExpr R)} {body rest : List (AstStmt R)}
      (block : OccursAt program base (.for line variableName start finish step body :: rest)) :
      OccursAt program
        (base + codeSize (flattenExpression start ++
          [.constant .popVar (.string variableName) line,
            .constant .pushVar (.string variableName) line] ++ flattenExpression finish ++
          flattenOperand line (expressionOr step (numberConstant 1)) ++
          [.constant .forInit (.string variableName) line]) + 1)
        body
  | whileBody {base : Nat} {line : Int} {condition : AstExpr R} {body rest : List (AstStmt R)}
      (block : OccursAt program base (.while line condition body :: rest)) :
      OccursAt program (base + codeSize (flattenExpression condition) + 1) body

/-- Some items stand among others, behind items of a given size. -/
def StandsAt (all : List (Item R)) (base : Nat) (items : List (Item R)) : Prop :=
  ∃ before after, all = before ++ items ++ after ∧ codeSize before = base

theorem StandsAt.left {first second : List (Item R)}
    (stands : StandsAt all base (first ++ second)) : StandsAt all base first := by
  obtain ⟨before, after, rfl, size⟩ := stands
  exact ⟨before, second ++ after, by simp, size⟩

theorem StandsAt.right {first second : List (Item R)}
    (stands : StandsAt all base (first ++ second)) :
    StandsAt all (base + codeSize first) second := by
  obtain ⟨before, after, rfl, rfl⟩ := stands
  exact ⟨before ++ first, after, by simp, codeSize_append _ _⟩

theorem StandsAt.placed {bytecode : List Instruction} {constants : List (Constant R)}
    {items : List (Item R)} (stands : StandsAt all base items)
    (placed : Placed bytecode constants 0 all) : Placed bytecode constants base items := by
  obtain ⟨before, after, rfl, rfl⟩ := stands
  have inner := (placed_append.mp (placed_append.mp placed).1).2
  rwa [Nat.zero_add] at inner

theorem StandsAt.size_le {items : List (Item R)} (stands : StandsAt all base items) :
    base + codeSize items ≤ codeSize all := by
  obtain ⟨before, after, rfl, rfl⟩ := stands
  simp only [codeSize_append]
  omega

theorem OccursAt.standsAt {program stmts : List (AstStmt R)}
    (occurs : OccursAt program base stmts) :
    StandsAt (flattenProgram program) base (flattenStatements base stmts) := by
  -- Each block is a part of the items of the statement or the block around it.
  induction occurs with
  | program => exact ⟨[], [.op .halt 0 (-1)], rfl, rfl⟩
  | rest block ih =>
    rw [flattenStatements] at ih
    exact ih.right
  | functionBody block ih =>
    rw [flattenStatements, flattenStatement] at ih
    exact ih.left.left.right
  | @thenBranch _ _ _ _ elseBranch _ block ih =>
    cases elseBranch with
    | nil =>
      rw [flattenStatements, flattenStatement] at ih
      simpa [Item.size, Nat.add_assoc] using ih.left.right
    | cons first others =>
      -- The jump over the second branch follows the first one.
      rw [flattenStatements, flattenStatement] at ih
      simpa [Item.size, Nat.add_assoc] using ih.left.left.left.right
  | elseBranch block ih =>
    rw [flattenStatements, flattenStatement] at ih
    simpa [Item.size, Nat.add_assoc] using ih.left.right
  | forBody block ih =>
    rw [flattenStatements, flattenStatement] at ih
    simpa [Item.size, Nat.add_assoc] using ih.left.left.right
  | whileBody block ih =>
    rw [flattenStatements, flattenStatement] at ih
    simpa [Item.size, Nat.add_assoc] using ih.left.left.right

end Occurrences

section Shapes

/-- Constants do not jump, and what names a label jumps or calls. -/
def Item.isRegular (item : Item R) : Bool :=
  match item with
  | .constant opcode _ _ => !opcode.isLocalJump
  | .jump opcode _ _ => opcode == .jump || opcode == .call
  | _ => true

theorem Item.isRegular_of_straight {item : Item R} (straight : item.isStraight) :
    item.isRegular := by
  cases item with
  | jump opcode label line => cases straight
  | constant opcode value line => exact straight
  | _ => rfl

mutual

theorem flattenStatement_regular : ∀ (base : Nat) (stmt : AstStmt R),
    ∀ item ∈ flattenStatement base stmt, item.isRegular
  | base, .empty _ | base, .rem _ | base, .label _ _ | base, .goto _ _ | base, .stop _
  | base, .return _ none => by simp [flattenStatement, Item.isRegular]
  | base, .return line (some value) => by
    intro item member
    rw [flattenStatement, List.mem_append, List.mem_singleton] at member
    rcases member with value | rfl
    · exact Item.isRegular_of_straight (flattenExpression_straight _ item value)
    · rfl
  | base, .gosub line label params => by
    intro item member
    simp only [flattenStatement, List.mem_append, List.mem_flatMap, List.mem_cons,
      List.not_mem_nil, or_false] at member
    rcases member with ⟨param, _, value⟩ | rfl | rfl
    · exact Item.isRegular_of_straight (flattenExpression_straight _ item value)
    · rfl
    · rfl
  | base, .command line command => fun item member =>
    Item.isRegular_of_straight (flattenCommand_straight line command item
      (by rwa [flattenStatement] at member))
  | base, .functionDef line name paramNames body => by
    have inner := flattenStatements_regular (base + 1) body
    intro item member
    simp only [flattenStatement, List.mem_append, List.mem_cons, List.not_mem_nil,
      or_false] at member
    rcases member with ((rfl | rfl) | body) | implicit
    · rfl
    · rfl
    · exact inner item body
    · exact Item.isRegular_of_straight (flattenImplicitReturn_straight _ _ item implicit)
  | base, .if line condition thenBranch [] => by
    have inner := flattenStatements_regular (base + codeSize (flattenExpression condition) + 1)
      thenBranch
    intro item member
    simp only [flattenStatement, List.mem_append, List.mem_singleton] at member
    rcases member with (test | rfl) | branch
    · exact Item.isRegular_of_straight (flattenExpression_straight _ item test)
    · rfl
    · exact inner item branch
  | base, .if line condition thenBranch (first :: rest) => by
    have inner := flattenStatements_regular (base + codeSize (flattenExpression condition) + 1)
      thenBranch
    have other := flattenStatements_regular (base + codeSize (flattenExpression condition) + 1 +
      codeSize (flattenStatements (base + codeSize (flattenExpression condition) + 1)
        thenBranch) + 1) (first :: rest)
    intro item member
    simp only [flattenStatement, List.mem_append, List.mem_singleton] at member
    rcases member with (((test | rfl) | branch) | rfl) | branch
    · exact Item.isRegular_of_straight (flattenExpression_straight _ item test)
    · rfl
    · exact inner item branch
    · rfl
    · exact other item branch
  | base, .for line variableName start finish step body => by
    have inner := flattenStatements_regular (base + codeSize (flattenExpression start ++
      [.constant .popVar (.string variableName) line,
        .constant .pushVar (.string variableName) line] ++ flattenExpression finish ++
      flattenOperand line (expressionOr step (numberConstant 1)) ++
      [.constant .forInit (.string variableName) line]) + 1) body
    intro item member
    simp only [flattenStatement, List.mem_append, List.mem_cons, List.not_mem_nil,
      or_false] at member
    rcases member with
      ((((((value | rfl | rfl) | limit) | step) | rfl) | rfl) | inside) | rfl | rfl
    · exact Item.isRegular_of_straight (flattenExpression_straight _ item value)
    all_goals first
      | rfl
      | exact Item.isRegular_of_straight (flattenExpression_straight _ item limit)
      | exact Item.isRegular_of_straight (flattenOperand_straight _ _ item step)
      | exact inner item inside
  | base, .while line condition body => by
    have inner := flattenStatements_regular (base + codeSize (flattenExpression condition) + 1)
      body
    intro item member
    simp only [flattenStatement, List.mem_append, List.mem_singleton] at member
    rcases member with ((test | rfl) | body) | rfl
    · exact Item.isRegular_of_straight (flattenExpression_straight _ item test)
    · rfl
    · exact inner item body
    · rfl

theorem flattenStatements_regular : ∀ (base : Nat) (stmts : List (AstStmt R)),
    ∀ item ∈ flattenStatements base stmts, item.isRegular
  | base, [] => by simp [flattenStatements]
  | base, stmt :: rest => by
    have one := flattenStatement_regular base stmt
    have others := flattenStatements_regular (base + codeSize (flattenStatement base stmt)) rest
    intro item member
    rw [flattenStatements, List.mem_append] at member
    exact member.elim (one item) (others item)

end

theorem mem_of_addressed {base address : Nat} {items : List (Item R)} {item : Item R}
    (member : (address, item) ∈ addressed base items) : item ∈ items := by
  induction items generalizing base with
  | nil => cases member
  | cons head rest ih =>
    rcases List.mem_cons.mp member with same | later
    · obtain ⟨rfl, rfl⟩ := Prod.mk.inj same
      exact List.mem_cons_self ..
    · exact List.mem_cons_of_mem _ (ih later)

/-- Whether the instruction of an item is a return. -/
def Item.returns (item : Item R) : Bool :=
  match item with
  | .op opcode _ _ | .constant opcode _ _ | .jump opcode _ _ => opcode == .return
  | _ => false

theorem endsInReturn_last {items : List (Item R)} {before : Bool} (base : Nat)
    (ends : endsInReturn before items = true) :
    before = true ∧ codeSize items = 0 ∨
      ∃ address item, address + 1 = base + codeSize items ∧ item.returns = true ∧
        (address, item) ∈ addressed base items := by
  -- The last item with an instruction decides, and those behind it have none.
  induction items generalizing base before with
  | nil => exact .inl ⟨ends, rfl⟩
  | cons item rest ih =>
    have keep : ∀ {last : Bool}, endsInReturn last rest = true →
        (last = true → item.size = 1 → item.returns = true) →
        (last = true → item.size = 0 → before = true) →
        before = true ∧ codeSize (item :: rest) = 0 ∨
          ∃ address item', address + 1 = base + codeSize (item :: rest) ∧
            item'.returns = true ∧ (address, item') ∈ addressed base (item :: rest) := by
      intro last inner returns passes
      have small := item.size_le_one
      rcases ih (base + item.size) inner with ⟨found, none⟩ | ⟨address, other, place, found, member⟩
      · by_cases one : item.size = 1
        · refine .inr ⟨base, item, ?_, returns found one, List.mem_cons_self ..⟩
          rw [codeSize_cons, none, one]
        · have zero : item.size = 0 := by omega
          exact .inl ⟨passes found zero, by rw [codeSize_cons, none, zero]⟩
      · refine .inr ⟨address, other, ?_, found, List.mem_cons_of_mem _ member⟩
        rw [codeSize_cons, place, Nat.add_assoc]
    cases item with
    | op opcode operand line => exact keep ends (fun last _ => last) (fun _ zero => by cases zero)
    | constant opcode value line => exact keep ends (fun last _ => last) (fun _ zero => by cases zero)
    | jump opcode label line => exact keep ends (fun last _ => last) (fun _ zero => by cases zero)
    | invoke name argCount line => exact keep ends (fun last _ => by cases last) (fun last _ => by cases last)
    | _ => exact keep ends (fun _ one => by cases one) (fun last _ => last)

end Shapes

end C64Stream
