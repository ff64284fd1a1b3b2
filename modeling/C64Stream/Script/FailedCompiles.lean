import C64Stream.Script.Flattening

/-! Failed compilations: what they leave behind in the runtime that they were for. -/

namespace C64Stream

variable {R : Type} [ScriptNumber R]

section Compiling

/-- The fields of a runtime that a compilation reads and writes. -/
structure CompiledRuntime (R : Type) [ScriptNumber R] where
  bytecode : List Instruction
  constants : List (Constant R)
  functions : List FunctionDef
  ip : Nat

/-- Compile for a runtime: whether that worked, the message that was written, and the runtime. -/
def c64scriptCompileFor (program : List (AstStmt R)) (runtime : CompiledRuntime R) :
    (Bool × Option Text) × CompiledRuntime R :=
  match c64scriptCompile program runtime.functions with
  | .error failure =>
    -- The clean-up is about the tables of the compiler; functions are in the runtime by now.
    ((false, failure.message), { runtime with functions := failure.functions })
  | .ok code =>
    ((true, none),
      { bytecode := code.bytecode, constants := code.constants, functions := code.functions
        ip := 0 })

end Compiling

section Rejections

/-- Whether an item defines a function. -/
def Item.isFunction (item : Item R) : Bool :=
  match item with
  | .function _ _ _ => true
  | _ => false

/-- The constant that an item looks up in the pool, or adds to it. -/
def Item.pooledConstant (functions : List FunctionDef) (item : Item R) : Option (Constant R) :=
  match item with
  | .constant _ value _ | .pool value => some value
  | .invoke name argCount _ =>
    match callForm functions name argCount with
    | .ok form =>
      match form.operand with
      | .name name => some (.string name)
      | .immediate _ => none
    | .error _ => none
  | _ => none

/-- The stored name that an item gives to its address. -/
def Item.storedLabel (item : Item R) : Option Text :=
  match item with
  | .label name _ => some (nameField name)
  | _ => none

/-- An empty compiler context but for the constants that some items need. -/
def pooled (functions : List FunctionDef) (items : List (Item R)) : CompilerContext R :=
  (items.filterMap (Item.pooledConstant functions)).foldl
    (fun ctx value => (addConstant ctx value).2) (emptyContext functions)

/-- Whether a constant gets the index that stands for a failure. -/
def Overflows (functions : List FunctionDef) (before : List (Item R)) (value : Constant R) :
    Prop :=
  (addConstant (pooled functions before) value).1 = uint32Max

/-- The compiler refuses an item behind some others that define no function. -/
def Item.IsRejected (functions : List FunctionDef) (before : List (Item R)) (item : Item R) :
    Prop :=
  match item with
  | .failure _ => True
  | .checkCall name argCount => ∃ message, callForm functions name argCount = .error message
  | .invoke name argCount line =>
    (∃ message, callForm functions name argCount = .error message) ∨
      ∃ value ∈ (Item.invoke name argCount line : Item R).pooledConstant functions,
        Overflows functions before value
  | .constant _ value _ => Overflows functions before value
  | .label name _ =>
    name ∈ before.filterMap Item.storedLabel ∨
      c64scriptMaxLabels ≤ (before.filterMap Item.storedLabel).length
  | .op _ _ _ | .jump _ _ _ | .pool _ | .function _ _ _ => False

/-- The compiler refuses one of some items that define no function. -/
def HasRejected (functions : List FunctionDef) (items : List (Item R)) : Prop :=
  ∃ before item after, items = before ++ item :: after ∧ item.IsRejected functions before

/-- No function gets into the table unless something in front of all functions is refused. -/
def DefinesNothing (functions : List FunctionDef) (items : List (Item R)) : Prop :=
  -- The first definition decides: it is not reached, or its name is in the table.
  ∀ before name address paramNames after,
    items = before ++ .function name address paramNames :: after →
    (∀ item ∈ before, ¬ item.isFunction) →
      HasRejected functions before ∨ functions.any fun function => function.name == name

end Rejections

section Prefixes

variable {functions : List FunctionDef} {before : List (Item R)} {value : Constant R}

/-- The context has what the items in front of it ask for, and the given functions. -/
structure Gathered (functions : List FunctionDef) (before : List (Item R))
    (ctx : CompilerContext R) : Prop where
  table : ctx.functions = functions
  labels : ctx.labels.map Prod.fst = before.filterMap Item.storedLabel
  pool : ctx.constants = (pooled functions before).constants

theorem addConstant_congr {first second : CompilerContext R}
    (same : first.constants = second.constants) (value : Constant R) :
    (addConstant first value).1 = (addConstant second value).1 ∧
      (addConstant first value).2.constants = (addConstant second value).2.constants := by
  unfold addConstant
  rw [same]
  split
  · exact ⟨rfl, same⟩
  · exact ⟨rfl, rfl⟩

theorem pooled_none {item : Item R} (none : item.pooledConstant functions = none) :
    pooled functions (before ++ [item]) = pooled functions before := by
  simp [pooled, List.filterMap_append, none]

theorem pooled_some {item : Item R} (some : item.pooledConstant functions = some value) :
    pooled functions (before ++ [item]) = (addConstant (pooled functions before) value).2 := by
  simp [pooled, List.filterMap_append, some]

/-- The result of assembling an item behind some others. -/
def Item.Settles (functions : List FunctionDef) (before : List (Item R)) (item : Item R)
    (result : Compiled R) : Prop :=
  match result with
  | .ok ctx => Gathered functions (before ++ [item]) ctx ∧ ¬ item.IsRejected functions before
  | .error refusal => refusal.functions = functions ∧ item.IsRejected functions before

variable {ctx : CompilerContext R} {item : Item R}

theorem Gathered.plain (gathered : Gathered functions before ctx) {after : CompilerContext R}
    (tables : after.functions = ctx.functions ∧ after.labels = ctx.labels ∧
      after.constants = ctx.constants)
    (unlabelled : item.storedLabel = none) (unpooled : item.pooledConstant functions = none) :
    Gathered functions (before ++ [item]) after where
  table := tables.1.trans gathered.table
  labels := by
    rw [tables.2.1, gathered.labels, List.filterMap_append]
    simp [unlabelled]
  pool := by rw [tables.2.2, gathered.pool, pooled_none unpooled]

theorem Gathered.addConstant (gathered : Gathered functions before ctx)
    (unlabelled : item.storedLabel = none) (asked : item.pooledConstant functions = some value) :
    Gathered functions (before ++ [item]) (addConstant ctx value).2 where
  table := (addConstant_tables ctx value).2.2.trans gathered.table
  labels := by
    rw [(addConstant_tables ctx value).1, gathered.labels, List.filterMap_append]
    simp [unlabelled]
  pool := by rw [pooled_some asked, (addConstant_congr gathered.pool value).2]

theorem emitConstant_settles (gathered : Gathered functions before ctx) (opcode : Opcode)
    (line : Int) (unlabelled : item.storedLabel = none)
    (asked : item.pooledConstant functions = some value)
    (refused : item.IsRejected functions before ↔ Overflows functions before value) :
    item.Settles functions before (emitConstant ctx opcode value line) := by
  have added := gathered.addConstant unlabelled asked
  have place : (addConstant ctx value).1 = uint32Max ↔ Overflows functions before value := by
    rw [Overflows, (addConstant_congr gathered.pool value).1]
  simp only [emitConstant]
  split
  · rename_i full
    exact ⟨added.table, refused.mpr (place.mp full)⟩
  · rename_i room
    exact ⟨⟨added.table, added.labels, added.pool⟩, fun no => room (place.mpr (refused.mp no))⟩

theorem assembleItem_settles (gathered : Gathered functions before ctx)
    (ordinary : ¬ item.isFunction) :
    item.Settles functions before (assembleItem item ctx) := by
  cases item with
  | op opcode operand line => exact ⟨gathered.plain ⟨rfl, rfl, rfl⟩ rfl rfl, id⟩
  | constant opcode value line =>
    exact emitConstant_settles gathered opcode line rfl rfl Iff.rfl
  | jump opcode label line =>
    refine ⟨gathered.plain ?_ rfl rfl, id⟩
    unfold emitJump
    split <;> exact ⟨rfl, rfl, rfl⟩
  | pool value => exact ⟨gathered.addConstant rfl rfl, id⟩
  | failure message => exact ⟨gathered.table, trivial⟩
  | function name address paramNames => exact absurd rfl ordinary
  | checkCall name argCount =>
    simp only [assembleItem, gathered.table]
    cases form : callForm functions name argCount with
    | error message => exact ⟨gathered.table, message, form⟩
    | ok shape =>
      refine ⟨gathered.plain ⟨rfl, rfl, rfl⟩ rfl rfl, ?_⟩
      rintro ⟨message, refused⟩
      cases form.symm.trans refused
  | label name line =>
    have stored : (ctx.labels.any fun label => label.1 == name) = true ↔
        name ∈ before.filterMap Item.storedLabel := by
      rw [← gathered.labels, List.any_eq_true, List.mem_map]
      simp only [beq_iff_eq]
    have count : ctx.labels.length = (before.filterMap Item.storedLabel).length := by
      rw [← gathered.labels, List.length_map]
    simp only [assembleItem, defineLabel]
    split
    · rename_i duplicate
      exact ⟨gathered.table, .inl (stored.mp duplicate)⟩
    rename_i fresh
    split
    · rename_i room
      refine ⟨⟨gathered.table, ?_, ?_⟩, ?_⟩
      · rw [List.map_append, gathered.labels, List.filterMap_append]
        rfl
      · exact gathered.pool.trans (congrArg _ (pooled_none rfl).symm)
      · rintro (duplicate | full)
        · exact fresh (stored.mpr duplicate)
        · omega
    · exact ⟨gathered.table, .inr (by omega)⟩
  | invoke name argCount line =>
    simp only [assembleItem, gathered.table]
    cases form : callForm functions name argCount with
    | error message => exact ⟨gathered.table, .inl ⟨message, form⟩⟩
    | ok shape =>
      have known : ¬ ∃ message, callForm functions name argCount = .error message := by
        rintro ⟨message, refused⟩
        cases form.symm.trans refused
      show Item.Settles functions before _ (emitSource ctx shape.opcode shape.operand line)
      cases source : shape.operand with
      | immediate operand =>
        have unpooled : (Item.invoke name argCount line : Item R).pooledConstant functions =
            none := by
          simp only [Item.pooledConstant, form, source]
        refine ⟨gathered.plain ⟨rfl, rfl, rfl⟩ rfl unpooled, ?_⟩
        rintro (refused | ⟨value, asked, _⟩)
        · exact known refused
        · cases unpooled.symm.trans asked
      | name array =>
        have asked : (Item.invoke name argCount line : Item R).pooledConstant functions =
            some (.string array) := by
          simp only [Item.pooledConstant, form, source]
        refine emitConstant_settles gathered _ line rfl asked ⟨?_, fun full => ?_⟩
        · rintro (refused | ⟨value, other, full⟩)
          · exact absurd refused known
          · rwa [← Option.some.inj (other.symm.trans asked)]
        · exact .inr ⟨_, asked, full⟩

theorem assemble_settles (functions : List FunctionDef) (items : List (Item R))
    (ordinary : ∀ item ∈ items, ¬ item.isFunction) :
    match assemble items (emptyContext functions) with
    | .ok ctx => Gathered functions items ctx ∧ ¬ HasRejected functions items
    | .error refusal => refusal.functions = functions ∧ HasRejected functions items := by
  -- The induction takes the last item off, since an item is refused for those in front of it.
  induction items using List.reverseRecOn with
  | nil =>
    refine ⟨⟨rfl, rfl, rfl⟩, ?_⟩
    rintro ⟨before, item, after, cut, _⟩
    cases before <;> cases cut
  | append_singleton items item ih =>
    have front := ih fun other member => ordinary other (List.mem_append_left _ member)
    rw [assemble_append]
    cases assembled : assemble items (emptyContext functions) with
    | error refusal =>
      rw [assembled] at front
      obtain ⟨before, culprit, after, cut, refused⟩ := front.2
      refine ⟨front.1, before, culprit, after ++ [item], ?_, refused⟩
      rw [cut, List.append_assoc, List.cons_append]
    | ok ctx =>
      rw [assembled] at front
      obtain ⟨gathered, accepted⟩ := front
      have last := assembleItem_settles gathered
        (ordinary item (List.mem_append_right _ (List.mem_singleton.mpr rfl)))
      show match assemble [item] ctx with
        | .ok ctx => Gathered functions (items ++ [item]) ctx ∧
          ¬ HasRejected functions (items ++ [item])
        | .error refusal => refusal.functions = functions ∧
          HasRejected functions (items ++ [item])
      rw [assemble_single]
      cases result : assembleItem item ctx with
      | error refusal =>
        rw [result] at last
        exact ⟨last.1, items, item, [], rfl, last.2⟩
      | ok after =>
        rw [result] at last
        refine ⟨last.1, ?_⟩
        rintro ⟨before, culprit, others, cut, refused⟩
        -- The refused item is the last one, or one of those in front of it.
        rcases List.eq_nil_or_concat others with rfl | ⟨others, final, rfl⟩
        · obtain ⟨rfl, same⟩ := List.append_inj' cut rfl
          obtain rfl := (List.cons.inj same).1
          exact last.2 refused
        · rw [List.concat_eq_append, ← List.cons_append, ← List.append_assoc] at cut
          obtain ⟨rfl, _⟩ := List.append_inj' cut rfl
          exact accepted ⟨before, culprit, others, rfl, refused⟩

end Prefixes

section Tables

/-- The function table that a compilation leaves. -/
def Compiled.functions (result : Compiled R) : List FunctionDef :=
  match result with
  | .ok ctx => ctx.functions
  | .error failure => failure.functions

theorem emitConstant_functions (ctx : CompilerContext R) (opcode : Opcode) (value : Constant R)
    (line : Int) : Compiled.functions (emitConstant ctx opcode value line) = ctx.functions := by
  simp only [emitConstant]
  split <;> exact (addConstant_tables ctx value).2.2

theorem emitSource_functions (ctx : CompilerContext R) (opcode : Opcode)
    (operand : OperandSource) (line : Int) :
    Compiled.functions (emitSource ctx opcode operand line) = ctx.functions := by
  cases operand with
  | immediate operand => rfl
  | name name => exact emitConstant_functions ctx opcode (.string name) line

theorem assembleItem_functions {item : Item R} (ordinary : ¬ item.isFunction)
    (ctx : CompilerContext R) : Compiled.functions (assembleItem item ctx) = ctx.functions := by
  cases item with
  | op opcode operand line => rfl
  | constant opcode value line => exact emitConstant_functions ctx opcode value line
  | jump opcode label line =>
    show (emitJump ctx opcode label line).functions = ctx.functions
    unfold emitJump
    split <;> rfl
  | invoke name argCount line =>
    simp only [assembleItem]
    split
    · rfl
    · exact emitSource_functions ctx _ _ line
  | checkCall name argCount =>
    simp only [assembleItem]
    split <;> rfl
  | pool value => exact (addConstant_tables ctx value).2.2
  | label name line =>
    simp only [assembleItem, defineLabel]
    split
    · rfl
    · split <;> rfl
  | function name address paramNames => exact absurd rfl ordinary
  | failure message => rfl

theorem assembleItem_definition (ctx : CompilerContext R) (name : Text) (address : Nat)
    (paramNames : List Text) :
    assembleItem (.function name address paramNames) ctx =
      if ctx.functions.any fun function => function.name == name then
        ctx.fail (text "Too many function definitions or duplicate function name: " ++ name)
      else
        .ok { ctx with
          functions := ctx.functions ++ [⟨nameField name, address, paramNames⟩] } := by
  simp only [assembleItem, registerFunction]
  by_cases taken : ctx.functions.any fun function => function.name == name
  · rw [if_pos taken, if_pos taken]
  · rw [if_neg taken, if_neg taken]

theorem assembleItem_prefix (item : Item R) (ctx : CompilerContext R) :
    ctx.functions <+: Compiled.functions (assembleItem item ctx) := by
  by_cases defines : item.isFunction
  · cases item with
    | function name address paramNames =>
      rw [assembleItem_definition]
      split
      · exact List.prefix_rfl
      · exact List.prefix_append _ _
    | _ => cases defines
  · rw [assembleItem_functions defines]

theorem assemble_front (items : List (Item R)) (ctx : CompilerContext R) :
    ctx.functions <+: Compiled.functions (assemble items ctx) := by
  induction items generalizing ctx with
  | nil => exact List.prefix_rfl
  | cons item rest ih =>
    have first := assembleItem_prefix item ctx
    rw [assemble]
    cases assembled : assembleItem item ctx with
    | error failure =>
      rw [assembled] at first
      exact first
    | ok middle =>
      rw [assembled] at first
      exact first.trans (ih middle)

theorem c64scriptCompile_functions {program : List (AstStmt R)} {functions : List FunctionDef}
    {failure : CompileFailure} (failed : c64scriptCompile program functions = .error failure) :
    failure.functions =
      Compiled.functions (assemble (flattenProgram program) (emptyContext functions)) := by
  cases program with
  | nil =>
    obtain rfl := Except.error.inj failed
    rfl
  | cons first rest =>
    simp only [c64scriptCompile, compileProgram_assembles] at failed
    cases assembled : assemble (flattenProgram (first :: rest)) (emptyContext functions) with
    | error refusal =>
      rw [assembled] at failed
      obtain rfl := Except.error.inj failed
      rfl
    | ok ctx =>
      -- The jumps could not be patched.
      rw [assembled] at failed
      show failure.functions = ctx.functions
      simp only [Bind.bind, Except.bind] at failed
      split at failed
      · obtain rfl := Except.error.inj failed
        rfl
      · cases failed

theorem first_function (items : List (Item R)) :
    (∀ item ∈ items, ¬ item.isFunction) ∨
      ∃ before name address paramNames after,
        items = before ++ .function name address paramNames :: after ∧
          ∀ item ∈ before, ¬ item.isFunction := by
  induction items with
  | nil => exact .inl (List.forall_mem_nil _)
  | cons item rest ih =>
    by_cases defines : item.isFunction
    · cases item with
      | function name address paramNames =>
        exact .inr ⟨[], name, address, paramNames, rest, rfl, List.forall_mem_nil _⟩
      | _ => cases defines
    · rcases ih with none | ⟨before, name, address, paramNames, after, rfl, ordinary⟩
      · exact .inl (List.forall_mem_cons.mpr ⟨defines, none⟩)
      · exact .inr ⟨item :: before, name, address, paramNames, after, rfl,
          List.forall_mem_cons.mpr ⟨defines, ordinary⟩⟩

theorem assemble_definition_iff (functions : List FunctionDef) {before : List (Item R)}
    (ordinary : ∀ item ∈ before, ¬ item.isFunction) (name : Text) (address : Nat)
    (paramNames : List Text) (after : List (Item R)) :
    Compiled.functions (assemble (before ++ .function name address paramNames :: after)
        (emptyContext functions)) = functions ↔
      HasRejected functions before ∨ functions.any fun function => function.name == name := by
  have front := assemble_settles functions before ordinary
  rw [assemble_append]
  cases assembled : assemble before (emptyContext functions) with
  | error failure =>
    rw [assembled] at front
    exact ⟨fun _ => .inl front.2, fun _ => front.1⟩
  | ok ctx =>
    rw [assembled] at front
    obtain ⟨gathered, accepted⟩ := front
    show Compiled.functions (assemble (.function name address paramNames :: after) ctx) = _ ↔ _
    rw [assemble, assembleItem_definition, gathered.table]
    by_cases taken : functions.any fun function => function.name == name
    · rw [if_pos taken]
      exact ⟨fun _ => .inr taken, fun _ => gathered.table⟩
    · rw [if_neg taken]
      -- The table is longer from here on.
      refine ⟨fun same => ?_, fun untouched => ?_⟩
      · have grown := (assemble_front after { ctx with
          functions := functions ++ [⟨nameField name, address, paramNames⟩] }).length_le
        rw [List.length_append, List.length_singleton] at grown
        have size := congrArg List.length same
        exact absurd (grown.trans_eq size) (Nat.not_succ_le_self _)
      · exact untouched.elim (absurd · accepted) (absurd · taken)

theorem assemble_functions_iff (functions : List FunctionDef) (items : List (Item R)) :
    Compiled.functions (assemble items (emptyContext functions)) = functions ↔
      DefinesNothing functions items := by
  constructor
  · rintro same before name address paramNames after rfl ordinary
    exact (assemble_definition_iff functions ordinary name address paramNames after).mp same
  · intro defines
    rcases first_function items with none | ⟨before, name, address, paramNames, after, cut, rest⟩
    · have whole := assemble_settles functions items none
      cases assembled : assemble items (emptyContext functions) with
      | error failure =>
        rw [assembled] at whole
        exact whole.1
      | ok ctx =>
        rw [assembled] at whole
        exact whole.1.table
    · have first := defines before name address paramNames after cut rest
      rw [cut]
      exact (assemble_definition_iff functions rest name address paramNames after).mpr first

/-- A failed compilation leaves a runtime alone exactly if no function was defined by then. -/
theorem failedCompile_unchanged_iff (program : List (AstStmt R)) (runtime : CompiledRuntime R)
    (failed : (c64scriptCompileFor program runtime).1.1 = false) :
    ((c64scriptCompileFor program runtime).2 = runtime ∧
      ∀ corrected, c64scriptCompileFor corrected (c64scriptCompileFor program runtime).2 =
        c64scriptCompileFor corrected runtime) ↔
      DefinesNothing runtime.functions (flattenProgram program) := by
  cases compiled : c64scriptCompile program runtime.functions with
  | ok code => simp [c64scriptCompileFor, compiled] at failed
  | error failure =>
    have left : (c64scriptCompileFor program runtime).2 =
        { runtime with functions := failure.functions } := by
      simp only [c64scriptCompileFor, compiled]
    rw [← assemble_functions_iff, ← c64scriptCompile_functions compiled, left]
    -- Only the function table can differ, and if it does not, neither does a later compilation.
    constructor
    · rintro ⟨same, _⟩
      exact congrArg CompiledRuntime.functions same
    · intro same
      have unchanged : { runtime with functions := failure.functions } = runtime := by
        rw [same]
      exact ⟨unchanged, fun corrected => by rw [unchanged]⟩

/-- A runtime that nothing has been compiled for. -/
def unusedRuntime : CompiledRuntime Int where
  bytecode := []
  constants := []
  functions := []
  ip := 0

/-- A function, and a line that defines its label a second time in front of it. -/
def duplicateLabel : List (AstStmt Int) :=
  [.label 1 (text "A"), .label 2 (text "A"), .functionDef 3 (text "F") [] []]

/-- A label that is refused in front of the function keeps the function out of the table. -/
theorem duplicateLabel_unchanged :
    (c64scriptCompileFor duplicateLabel unusedRuntime).1.1 = false ∧
      DefinesNothing unusedRuntime.functions (flattenProgram duplicateLabel) :=
  ⟨rfl, (failedCompile_unchanged_iff duplicateLabel unusedRuntime rfl).mp ⟨rfl, fun _ => rfl⟩⟩

/-- A function with a jump to a label that the program does not have. -/
def missingLabel : List (AstStmt Int) :=
  [.functionDef 1 (text "F") [] [], .goto 2 (text "X")]

/-- The same function without that jump. -/
def correctedProgram : List (AstStmt Int) :=
  [.functionDef 1 (text "F") [] []]

/-- The function of the failed program stays behind, and the corrected one is a duplicate then. -/
theorem missingLabel_leavesFunction :
    (c64scriptCompileFor missingLabel unusedRuntime).1.1 = false ∧
      (c64scriptCompileFor missingLabel unusedRuntime).2.functions =
        [⟨text "F", 1, []⟩] ∧
      (c64scriptCompileFor correctedProgram unusedRuntime).1.1 = true ∧
      (c64scriptCompileFor correctedProgram
        (c64scriptCompileFor missingLabel unusedRuntime).2).1 =
          (false, some (text "Too many function definitions or duplicate function name: F")) := by
  decide +kernel

end Tables

end C64Stream
