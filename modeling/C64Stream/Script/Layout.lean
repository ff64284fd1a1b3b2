import C64Stream.Script.Flattening

/-! Where the instructions of each part of a program end up. -/

namespace C64Stream

variable {R : Type} [ScriptNumber R]

/-- The instruction of an item stands at a position of the bytecode. -/
def placedAt (bytecode : List Instruction) (constants : List (Constant R)) (position : Nat)
    (item : Item R) : Prop :=
  match item with
  | .op opcode operand line =>
    bytecode[position]? = some ⟨opcode, operand % operandBound, line⟩
  | .constant opcode value line =>
    ∃ index : Nat, constants[index]? = some value ∧
      bytecode[position]? = some ⟨opcode, index % operandBound, line⟩
  | .jump opcode _ line => ∃ operand, bytecode[position]? = some ⟨opcode, operand, line⟩
  | .invoke name argCount line =>
    ∃ functions form operand, callForm functions name argCount = .ok form ∧
      bytecode[position]? = some ⟨form.opcode, operand, line⟩
  | _ => True

/-- The instructions of items stand one after another from a position on. -/
def Placed (bytecode : List Instruction) (constants : List (Constant R)) :
    Nat → List (Item R) → Prop
  | _, [] => True
  | base, item :: rest =>
    placedAt bytecode constants base item ∧ Placed bytecode constants (base + item.size) rest

theorem placed_append {bytecode : List Instruction} {constants : List (Constant R)} {base : Nat}
    {first second : List (Item R)} :
    Placed bytecode constants base (first ++ second) ↔
      Placed bytecode constants base first ∧
        Placed bytecode constants (base + codeSize first) second := by
  induction first generalizing base with
  | nil => simp [Placed]
  | cons item rest ih =>
    simp only [List.cons_append, Placed, ih, codeSize_cons, and_assoc, Nat.add_assoc]

section Growth

variable {after ctx : CompilerContext R}

/-- A context that only has more instructions and constants. -/
def CompilerContext.Extends (after before : CompilerContext R) : Prop :=
  before.instructions <+: after.instructions ∧ before.constants <+: after.constants

theorem CompilerContext.Extends.refl (ctx : CompilerContext R) : ctx.Extends ctx :=
  ⟨List.prefix_refl _, List.prefix_refl _⟩

theorem CompilerContext.Extends.trans {first second third : CompilerContext R}
    (later : third.Extends second) (earlier : second.Extends first) : third.Extends first :=
  ⟨earlier.1.trans later.1, earlier.2.trans later.2⟩

theorem getElem?_of_prefix {α : Type} {short long : List α} (grows : short <+: long)
    {index : Nat} {value : α} (found : short[index]? = some value) :
    long[index]? = some value := by
  obtain ⟨rest, rfl⟩ := grows
  have inside : index < short.length := (List.getElem?_eq_some_iff.mp found).1
  rw [List.getElem?_append_left inside, found]

theorem placedAt_extends {before : CompilerContext R} (grows : after.Extends before)
    {position : Nat} {item : Item R}
    (placed : placedAt before.instructions before.constants position item) :
    placedAt after.instructions after.constants position item := by
  cases item with
  | op opcode operand line => exact getElem?_of_prefix grows.1 placed
  | constant opcode value line =>
    obtain ⟨index, found, placed⟩ := placed
    exact ⟨index, getElem?_of_prefix grows.2 found, getElem?_of_prefix grows.1 placed⟩
  | jump opcode label line =>
    obtain ⟨operand, placed⟩ := placed
    exact ⟨operand, getElem?_of_prefix grows.1 placed⟩
  | invoke name argCount line =>
    obtain ⟨functions, form, operand, known, placed⟩ := placed
    exact ⟨functions, form, operand, known, getElem?_of_prefix grows.1 placed⟩
  | checkCall _ _ | pool _ | label _ _ | function _ _ _ | failure _ => trivial

theorem sameConstant_eq {value existing : Constant R} (same : sameConstant value existing = true) :
    existing = value := by
  cases value with
  | number a =>
    cases existing with
    | number b =>
      have equal := ScriptNumber.literal_equal b.val a.val b.property a.property same
      exact congrArg Constant.number (Subtype.ext equal)
    | string bytes => simp [sameConstant] at same
  | string a =>
    cases existing with
    | number b => simp [sameConstant] at same
    | string b => simpa [sameConstant] using same

theorem addConstant_spec (ctx : CompilerContext R) (value : Constant R) :
    (addConstant ctx value).2.Extends ctx ∧
      ∃ index : Nat, (addConstant ctx value).2.constants[index]? = some value ∧
        (addConstant ctx value).1 = index % operandBound := by
  unfold addConstant
  split
  · rename_i index found
    obtain ⟨inside, same, _⟩ := List.findIdx?_eq_some_iff_getElem.mp found
    refine ⟨.refl ctx, index, ?_, rfl⟩
    rw [List.getElem?_eq_getElem inside, sameConstant_eq same]
  · exact ⟨⟨List.prefix_refl _, List.prefix_append _ _⟩, ctx.constants.length, by simp, rfl⟩

theorem emitConstant_placed {opcode : Opcode} {value : Constant R} {line : Int}
    (emitted : emitConstant ctx opcode value line = .ok after) :
    after.Extends ctx ∧ placedAt after.instructions after.constants ctx.instructions.length
      (.constant opcode value line) := by
  obtain ⟨grows, index, found, operand⟩ := addConstant_spec ctx value
  simp only [emitConstant] at emitted
  split at emitted
  · simp [CompilerContext.failSilently] at emitted
  · simp only [Except.ok.injEq] at emitted
    rw [← emitted]
    refine ⟨⟨grows.1.trans (List.prefix_append _ _), grows.2⟩, index, found, ?_⟩
    have here := addConstant_instructions ctx value
    simp [emit, here, operand]

theorem emit_placed (ctx : CompilerContext R) (opcode : Opcode) (operand : Nat) (line : Int) :
    (emit ctx opcode operand line).Extends ctx ∧
      (emit ctx opcode operand line).instructions[ctx.instructions.length]? =
        some ⟨opcode, operand % operandBound, line⟩ := by
  refine ⟨⟨List.prefix_append _ _, List.prefix_refl _⟩, ?_⟩
  simp [emit]

theorem emitJump_placed (ctx : CompilerContext R) (opcode : Opcode) (label : Text) (line : Int) :
    (emitJump ctx opcode label line).Extends ctx ∧
      (emitJump ctx opcode label line).instructions[ctx.instructions.length]? =
        some ⟨opcode, (getLabelAddress ctx.labels label).getD 0 % operandBound, line⟩ := by
  unfold emitJump
  cases getLabelAddress ctx.labels label with
  | none => exact emit_placed { ctx with patches := _ } opcode 0 line
  | some address => exact emit_placed ctx opcode address line

theorem assembleItem_placed {item : Item R} (assembled : assembleItem item ctx = .ok after) :
    after.Extends ctx ∧
      placedAt after.instructions after.constants ctx.instructions.length item := by
  cases item with
  | op opcode operand line =>
    rw [← Except.ok.inj assembled]
    exact emit_placed ctx opcode operand line
  | constant opcode value line => exact emitConstant_placed assembled
  | jump opcode label line =>
    rw [← Except.ok.inj assembled]
    have placed := emitJump_placed ctx opcode label line
    exact ⟨placed.1, _, placed.2⟩
  | invoke name argCount line =>
    obtain ⟨form, known, emitted⟩ := assembleItem_invoke assembled
    cases source : form.operand with
    | immediate operand =>
      rw [source] at emitted
      rw [← Except.ok.inj emitted]
      have placed := emit_placed ctx form.opcode operand line
      exact ⟨placed.1, ctx.functions, form, _, known, placed.2⟩
    | name name =>
      rw [source] at emitted
      obtain ⟨grows, index, _, placed⟩ := emitConstant_placed emitted
      exact ⟨grows, ctx.functions, form, _, known, placed⟩
  | checkCall name argCount => rw [assembleItem_checkCall assembled]; exact ⟨.refl ctx, trivial⟩
  | pool value =>
    rw [← Except.ok.inj assembled]
    exact ⟨(addConstant_spec ctx value).1, trivial⟩
  | label name line => rw [assembleItem_label assembled]; exact ⟨.refl ctx, trivial⟩
  | function name address paramNames =>
    rw [assembleItem_function assembled]
    exact ⟨.refl ctx, trivial⟩
  | failure message => simp [assembleItem] at assembled

theorem assemble_placed {items : List (Item R)} (assembled : assemble items ctx = .ok after) :
    after.Extends ctx ∧
      Placed after.instructions after.constants ctx.instructions.length items := by
  -- Each item is placed when it is assembled and stays so while the code grows.
  induction items generalizing ctx with
  | nil =>
    rw [← Except.ok.inj assembled]
    exact ⟨.refl ctx, trivial⟩
  | cons item rest ih =>
    obtain ⟨middle, first, rest⟩ := assemble_cons_ok assembled
    have one := assembleItem_placed first
    have others := ih rest
    rw [assembleItem_length first] at others
    exact ⟨others.1.trans one.1, placedAt_extends others.1 one.2, others.2⟩

end Growth

section Pool

variable {ctx after : CompilerContext R}

theorem addConstant_length (ctx : CompilerContext R) (value : Constant R) :
    (addConstant ctx value).2.constants.length ≤ ctx.constants.length + 1 := by
  unfold addConstant
  split
  · exact Nat.le_succ _
  · simp

theorem emitConstant_constants {opcode : Opcode} {value : Constant R} {line : Int}
    (emitted : emitConstant ctx opcode value line = .ok after) :
    after.constants.length ≤ ctx.constants.length + 1 := by
  simp only [emitConstant] at emitted
  split at emitted
  · simp [CompilerContext.failSilently] at emitted
  · rw [← Except.ok.inj emitted]
    exact addConstant_length ctx value

theorem assembleItem_constants {item : Item R} (assembled : assembleItem item ctx = .ok after) :
    after.constants.length ≤ ctx.constants.length + 1 := by
  cases item with
  | op opcode operand line => rw [← Except.ok.inj assembled]; exact Nat.le_succ _
  | constant opcode value line => exact emitConstant_constants assembled
  | jump opcode label line =>
    rw [← Except.ok.inj assembled, emitJump]
    split <;> exact Nat.le_succ _
  | invoke name argCount line =>
    obtain ⟨form, _, emitted⟩ := assembleItem_invoke assembled
    cases source : form.operand with
    | immediate operand =>
      rw [source] at emitted
      rw [← Except.ok.inj emitted]
      exact Nat.le_succ _
    | name name =>
      rw [source] at emitted
      exact emitConstant_constants emitted
  | checkCall name argCount => rw [assembleItem_checkCall assembled]; exact Nat.le_succ _
  | pool value => rw [← Except.ok.inj assembled]; exact addConstant_length ctx value
  | label name line => rw [assembleItem_label assembled]; exact Nat.le_succ _
  | function name address paramNames =>
    rw [assembleItem_function assembled]
    exact Nat.le_succ _
  | failure message => cases assembled

theorem assemble_constants {items : List (Item R)} (assembled : assemble items ctx = .ok after) :
    after.constants.length ≤ ctx.constants.length + items.length := by
  induction items generalizing ctx with
  | nil => rw [← Except.ok.inj assembled]; exact le_rfl
  | cons item rest ih =>
    obtain ⟨middle, first, others⟩ := assemble_cons_ok assembled
    have one := assembleItem_constants first
    have more := ih others
    rw [List.length_cons]
    omega

end Pool

end C64Stream
