import C64Stream.Script.Layout

/-! Where the jumps to labels lead. -/

namespace C64Stream

variable {R : Type} [ScriptNumber R]

/-- A jump to a label, with what the compiler knows when it reaches it. -/
structure JumpSite where
  /-- The index of its instruction. -/
  index : Nat
  label : Text
  /-- The labels defined before it, with their full names. -/
  before : List (Text × Nat)
  /-- The number of jumps before it that had to be deferred. -/
  deferredBefore : Nat
  deriving DecidableEq

/-- The labels with the names they are stored under. -/
def storedLabels (labels : List (Text × Nat)) : List (Text × Nat) :=
  labels.map fun label => (nameField label.1, label.2)

/-- Whether a jump finds its label among those defined before it. -/
def resolvedEarly (before : List (Text × Nat)) (label : Text) : Bool :=
  before.any fun known => nameField known.1 == label

/-- The labels defined by items whose code starts at an address. -/
def labelSites : Nat → List (Item R) → List (Text × Nat)
  | _, [] => []
  | base, .label name _ :: rest => (name, base) :: labelSites base rest
  | base, item :: rest => labelSites (base + item.size) rest

/-- The jumps of items whose code starts at an address, after given labels and deferred jumps. -/
def jumpSites : List (Text × Nat) → Nat → Nat → List (Item R) → List JumpSite
  | _, _, _, [] => []
  | before, deferred, base, .label name _ :: rest =>
    jumpSites (before ++ [(name, base)]) deferred base rest
  | before, deferred, base, .jump _ label _ :: rest =>
    ⟨base, label, before, deferred⟩ ::
      jumpSites before (if resolvedEarly before label then deferred else deferred + 1) (base + 1)
        rest
  | before, deferred, base, item :: rest => jumpSites before deferred (base + item.size) rest

/-- The labels of a program, each with the address of the statement after it. -/
def programLabels (program : List (AstStmt R)) : List (Text × Nat) :=
  labelSites 0 (flattenProgram program)

/-- The `GOTO` and `GOSUB` statements of a program. -/
def programJumps (program : List (AstStmt R)) : List JumpSite :=
  jumpSites [] 0 0 (flattenProgram program)

/-- The address of the first label of exactly this name. -/
def labelTarget (labels : List (Text × Nat)) (label : Text) : Option Nat :=
  (labels.find? fun known => known.1 == label).map Prod.snd

/-- The address of the first label that is stored like this name. -/
def storedTarget (labels : List (Text × Nat)) (label : Text) : Option Nat :=
  getLabelAddress (storedLabels labels) (nameField label)

/-- Whether a jump is one the compiler resolves: at once, or with a place to defer it to. -/
def JumpSite.isResolved (site : JumpSite) : Bool :=
  resolvedEarly site.before site.label || decide (site.deferredBefore < c64scriptMaxLabels)

/-- The operand that a jump ends up with. -/
def JumpSite.operand (labels : List (Text × Nat)) (site : JumpSite) : Nat :=
  if site.isResolved then (storedTarget labels site.label).getD 0 % operandBound else 0

section Sites

variable {items : List (Item R)} {before : List (Text × Nat)} {deferred base : Nat}

theorem jumpSites_ge {site : JumpSite} (member : site ∈ jumpSites before deferred base items) :
    base ≤ site.index := by
  induction items generalizing before deferred base with
  | nil => simp [jumpSites] at member
  | cons item rest ih =>
    cases item with
    | label name line => exact ih member
    | jump opcode label line =>
      simp only [jumpSites, List.mem_cons] at member
      rcases member with rfl | member
      · exact le_rfl
      · have later := ih member
        omega
    | _ =>
      have later := ih (by simpa only [jumpSites] using member)
      omega

theorem jumpSites_index {first second : JumpSite}
    (one : first ∈ jumpSites before deferred base items)
    (two : second ∈ jumpSites before deferred base items) (same : first.index = second.index) :
    first = second := by
  induction items generalizing before deferred base with
  | nil => simp [jumpSites] at one
  | cons item rest ih =>
    cases item with
    | label name line => exact ih one two
    | jump opcode label line =>
      simp only [jumpSites, List.mem_cons] at one two
      rcases one with rfl | one
      · rcases two with rfl | two
        · rfl
        · have later := jumpSites_ge two
          simp only at same
          omega
      · rcases two with rfl | two
        · have later := jumpSites_ge one
          simp only at same
          omega
        · exact ih one two
    | _ => exact ih (by simpa only [jumpSites] using one) (by simpa only [jumpSites] using two)

theorem jumpSites_before {site : JumpSite} (member : site ∈ jumpSites before deferred base items) :
    site.before <+: before ++ labelSites base items := by
  induction items generalizing before deferred base with
  | nil => simp [jumpSites] at member
  | cons item rest ih =>
    cases item with
    | label name line =>
      have inner := ih (by simpa only [jumpSites] using member)
      simpa only [labelSites, List.append_assoc, List.singleton_append] using inner
    | jump opcode label line =>
      simp only [jumpSites, List.mem_cons] at member
      rcases member with rfl | member
      · exact List.prefix_append _ _
      · exact ih member
    | _ => exact ih (by simpa only [jumpSites] using member)

end Sites

section Lookup

variable {label : Text}

theorem getLabelAddress_prefix {short long : List (Text × Nat)} (grows : short <+: long)
    {address : Nat} (found : getLabelAddress short label = some address) :
    getLabelAddress long label = some address := by
  obtain ⟨rest, rfl⟩ := grows
  simp only [getLabelAddress, Option.map_eq_some_iff] at found ⊢
  obtain ⟨entry, found, rfl⟩ := found
  exact ⟨entry, by simp [List.find?_append, found], rfl⟩

theorem getLabelAddress_isSome (before : List (Text × Nat)) (label : Text) :
    (getLabelAddress (storedLabels before) label).isSome = resolvedEarly before label := by
  rw [Bool.eq_iff_iff, getLabelAddress, Option.isSome_map, List.find?_isSome, resolvedEarly,
    List.any_eq_true, storedLabels]
  simp only [List.mem_map, exists_exists_and_eq_and]

theorem nameField_of_resolvedEarly {before : List (Text × Nat)}
    (early : resolvedEarly before label) : nameField label = label := by
  simp only [resolvedEarly, List.any_eq_true, beq_iff_eq] at early
  obtain ⟨known, _, rfl⟩ := early
  simp [nameField]

theorem storedTarget_of_early {before labels : List (Text × Nat)} (first : before <+: labels)
    (early : resolvedEarly before label) :
    ∃ address, getLabelAddress (storedLabels before) label = some address ∧
      storedTarget labels label = some address := by
  have found := getLabelAddress_isSome before label
  rw [early, Option.isSome_iff_exists] at found
  obtain ⟨address, found⟩ := found
  refine ⟨address, found, ?_⟩
  rw [storedTarget, nameField_of_resolvedEarly early]
  exact getLabelAddress_prefix (first.map _) found

end Lookup

section Deferred

/-- The places that deferred jumps take in the patch table, if it has room. -/
def deferredJumps (sites : List JumpSite) : List (Nat × Text) :=
  (sites.filter fun site => !resolvedEarly site.before site.label).map fun site =>
    (site.index, nameField site.label)

theorem mem_take_concat {pending : List (Nat × Text)} {added patch : Nat × Text} {room : Nat} :
    patch ∈ (pending ++ [added]).take room ↔
      patch ∈ pending.take room ∨ (patch = added ∧ pending.length < room) := by
  rcases Nat.lt_or_ge pending.length room with inside | full
  · have short : pending.length ≤ room := by omega
    have shorter : (pending ++ [added]).length ≤ room := by simp; omega
    rw [List.take_of_length_le short, List.take_of_length_le shorter]
    simp [inside]
  · rw [List.take_append_of_le_length full]
    constructor
    · exact Or.inl
    · rintro (member | ⟨_, inside⟩)
      · exact member
      · omega

theorem mem_deferredJumps {items : List (Item R)} {before : List (Text × Nat)} {base room : Nat}
    {pending : List (Nat × Text)} {patch : Nat × Text} :
    patch ∈ (pending ++
        deferredJumps (jumpSites before pending.length base items)).take room ↔
      patch ∈ pending.take room ∨
        ∃ site ∈ jumpSites before pending.length base items,
          resolvedEarly site.before site.label = false ∧ site.deferredBefore < room ∧
            patch = (site.index, nameField site.label) := by
  -- The jumps are taken in order, and each one deferred makes the table longer.
  induction items generalizing before base pending with
  | nil => simp [jumpSites, deferredJumps]
  | cons item rest ih =>
    cases item with
    | label name line => exact ih
    | jump opcode label line =>
      simp only [jumpSites, List.mem_cons, exists_eq_or_imp]
      cases early : resolvedEarly before label with
      | true =>
        simp only [deferredJumps, List.filter_cons, early, Bool.not_true, Bool.false_eq_true,
          if_false, if_true, false_and, false_or, Bool.true_eq_false]
        exact ih
      | false =>
        have longer : pending.length + 1 = (pending ++ [(base, nameField label)]).length := by
          simp
        have inner := @ih before (base + 1) (pending ++ [(base, nameField label)])
        rw [mem_take_concat, List.append_assoc, List.singleton_append, ← longer] at inner
        simp only [deferredJumps, List.filter_cons, early, Bool.not_false, if_true,
          Bool.false_eq_true, if_false, true_and, List.map_cons] at inner ⊢
        rw [inner]
        tauto
    | _ => exact ih

end Deferred

section Assembled

variable {items : List (Item R)} {ctx after : CompilerContext R} {before : List (Text × Nat)}

theorem assemble_labels (assembled : assemble items ctx = .ok after)
    (known : ctx.labels = storedLabels before) :
    after.labels = storedLabels (before ++ labelSites ctx.instructions.length items) := by
  induction items generalizing ctx before with
  | nil => simp [← Except.ok.inj assembled, known, labelSites]
  | cons item rest ih =>
    obtain ⟨middle, first, others⟩ := assemble_cons_ok assembled
    have address := assembleItem_length first
    cases item with
    | label name line =>
      have added : middle.labels =
          storedLabels (before ++ [(name, ctx.instructions.length)]) := by
        simp [assembleItem_label first, known, storedLabels]
      have inner := ih others added
      rw [address] at inner
      simpa [labelSites, Item.size] using inner
    | jump opcode label line =>
      have same : middle.labels = ctx.labels := by
        rw [← Except.ok.inj first, emitJump]
        split <;> rfl
      have inner := ih others (same.trans known)
      rwa [address] at inner
    | function name start paramNames =>
      have inner := @ih middle before others (by rw [assembleItem_function first]; exact known)
      rwa [address] at inner
    | _ =>
      have same := (assembleItem_plain rfl first).1
      have inner := ih others (same.trans known)
      rwa [address] at inner

theorem assemble_patches {pending : List (Nat × Text)} (assembled : assemble items ctx = .ok after)
    (known : ctx.labels = storedLabels before)
    (table : ctx.patches = pending.take c64scriptMaxLabels) :
    after.patches = (pending ++ deferredJumps
      (jumpSites before pending.length ctx.instructions.length items)).take
        c64scriptMaxLabels := by
  induction items generalizing ctx before pending with
  | nil => simp [← Except.ok.inj assembled, table, jumpSites, deferredJumps]
  | cons item rest ih =>
    obtain ⟨middle, first, others⟩ := assemble_cons_ok assembled
    have address := assembleItem_length first
    cases item with
    | label name line =>
      have added : middle.labels =
          storedLabels (before ++ [(name, ctx.instructions.length)]) := by
        simp [assembleItem_label first, known, storedLabels]
      have inner := ih others added (by rw [assembleItem_label first]; exact table)
      rwa [address] at inner
    | jump opcode label line =>
      have early := getLabelAddress_isSome before label
      have emitted := Except.ok.inj first
      rw [emitJump, known] at emitted
      simp only [Item.size] at address
      cases found : getLabelAddress (storedLabels before) label with
      | some target =>
        simp only [found, Option.isSome_some] at early emitted
        have inner := @ih middle before _ others (by rw [← emitted]; exact known)
          (by rw [← emitted]; exact table)
        rw [address] at inner
        simp only [jumpSites, ← early, if_true, deferredJumps, List.filter_cons, Bool.not_true,
          Bool.false_eq_true, if_false]
        exact inner
      | none =>
        simp only [found, Option.isSome_none] at early emitted
        -- The jump takes the next place of the table, if there is one.
        have added : middle.patches =
            (pending ++ [(ctx.instructions.length, nameField label)]).take
              c64scriptMaxLabels := by
          rw [← emitted]
          simp only [emit, table, List.length_take]
          rcases Nat.lt_or_ge pending.length c64scriptMaxLabels with inside | full
          · rw [if_pos (by omega), List.take_of_length_le inside.le,
              List.take_of_length_le (by simpa using inside)]
          · rw [if_neg (by omega), List.take_append_of_le_length full]
        have inner := @ih middle before _ others (by rw [← emitted]; rfl) added
        rw [address, List.length_append, List.length_singleton] at inner
        simp only [jumpSites, ← early, Bool.false_eq_true, if_false, deferredJumps,
          List.filter_cons, Bool.not_false, if_true, List.map_cons]
        simpa [deferredJumps] using inner
    | function name start paramNames =>
      have inner := @ih middle before pending others
        (by rw [assembleItem_function first]; exact known)
        (by rw [assembleItem_function first]; exact table)
      rwa [address] at inner
    | _ =>
      have same := assembleItem_plain rfl first
      have inner := ih others (same.1.trans known) (same.2.1.trans table)
      rwa [address] at inner

theorem assemble_operands (assembled : assemble items ctx = .ok after)
    (known : ctx.labels = storedLabels before) (deferred : Nat) :
    ∀ site ∈ jumpSites before deferred ctx.instructions.length items,
      ∃ instruction, after.instructions[site.index]? = some instruction ∧
        instruction.operand =
          (getLabelAddress (storedLabels site.before) site.label).getD 0 % operandBound := by
  induction items generalizing ctx before deferred with
  | nil => simp [jumpSites]
  | cons item rest ih =>
    obtain ⟨middle, first, others⟩ := assemble_cons_ok assembled
    have address := assembleItem_length first
    cases item with
    | label name line =>
      have added : middle.labels =
          storedLabels (before ++ [(name, ctx.instructions.length)]) := by
        simp [assembleItem_label first, known, storedLabels]
      have inner := ih others added deferred
      rwa [address] at inner
    | jump opcode label line =>
      have same : middle.labels = ctx.labels := by
        rw [← Except.ok.inj first, emitJump]
        split <;> rfl
      have inner := ih others (same.trans known)
        (if resolvedEarly before label then deferred else deferred + 1)
      rw [address] at inner
      simp only [jumpSites, List.mem_cons]
      rintro site (rfl | member)
      · have placed := (emitJump_placed ctx opcode label line).2
        rw [known, Except.ok.inj first] at placed
        exact ⟨_, getElem?_of_prefix (assemble_placed others).1.1 placed, rfl⟩
      · exact inner site member
    | function name start paramNames =>
      have inner := @ih middle before others
        (by rw [assembleItem_function first]; exact known) deferred
      rwa [address] at inner
    | _ =>
      have same := assembleItem_plain rfl first
      have inner := ih others (same.1.trans known) deferred
      rwa [address] at inner

end Assembled

section Patched

variable {labels : List (Text × Nat)} {patches : List (Nat × Text)}
  {instructions result : List Instruction} {index : Nat}

theorem patchJumps_length (patched : patchJumps labels patches instructions = .ok result) :
    result.length = instructions.length := by
  induction patches generalizing instructions with
  | nil => rw [← Except.ok.inj patched]
  | cons patch rest ih =>
    rw [patchJumps] at patched
    split at patched
    · cases patched
    · rw [ih patched, setOperand_length]

theorem patchJumps_other (patched : patchJumps labels patches instructions = .ok result)
    (other : ∀ patch ∈ patches, patch.1 ≠ index) : result[index]? = instructions[index]? := by
  induction patches generalizing instructions with
  | nil => rw [← Except.ok.inj patched]
  | cons patch rest ih =>
    rw [patchJumps] at patched
    split at patched
    · cases patched
    · rw [ih patched fun later member => other later (by simp [member]), setOperand_getElem?,
        if_neg (other patch (by simp))]

theorem patchJumps_target (patched : patchJumps labels patches instructions = .ok result)
    {label : Text} (member : (index, label) ∈ patches)
    (only : ∀ patch ∈ patches, patch.1 = index → patch.2 = label) :
    ∃ address, getLabelAddress labels label = some address ∧
      result[index]? = instructions[index]?.map fun instruction =>
        { instruction with operand := address % operandBound } := by
  -- All patches of the instruction name the same label, so the last one decides nothing new.
  induction patches generalizing instructions with
  | nil => simp at member
  | cons patch rest ih =>
    rw [patchJumps] at patched
    split at patched
    · cases patched
    · rename_i address found
      by_cases again : (index, label) ∈ rest
      · obtain ⟨target, known, outcome⟩ :=
          ih patched again fun later inside => only later (by simp [inside])
        refine ⟨target, known, ?_⟩
        rw [outcome, setOperand_getElem?]
        split <;> cases instructions[index]? <;> rfl
      · have here : patch = (index, label) := by
          rcases List.mem_cons.mp member with same | later
          · exact same.symm
          · exact absurd later again
        rw [here] at found patched
        refine ⟨address, found, ?_⟩
        rw [patchJumps_other patched, setOperand_getElem?, if_pos rfl]
        · intro later inside same
          have name := only later (by simp [inside]) same
          exact again (by rw [← same, ← name]; exact inside)

theorem patchJumps_shape (patched : patchJumps labels patches instructions = .ok result)
    {instruction : Instruction} (found : instructions[index]? = some instruction) :
    ∃ operand : Nat, result[index]? = some { instruction with operand } := by
  induction patches generalizing instructions instruction with
  | nil =>
    rw [← Except.ok.inj patched]
    exact ⟨instruction.operand, found⟩
  | cons patch rest ih =>
    rw [patchJumps] at patched
    split at patched
    · cases patched
    · rename_i address _
      by_cases here : patch.1 = index
      · -- The operand is overwritten here, and perhaps again by a later patch.
        have moved : (setOperand instructions patch.1 address)[index]? =
            some { instruction with operand := address % operandBound } := by
          rw [setOperand_getElem?, if_pos here, found]
          rfl
        obtain ⟨operand, final⟩ := ih patched moved
        exact ⟨operand, final⟩
      · exact ih patched (by rw [setOperand_getElem?, if_neg here, found])

theorem placed_patched {bytecode : List Instruction} {constants : List (Constant R)}
    {items : List (Item R)} {before : List (Text × Nat)} {deferred base : Nat}
    (placed : Placed bytecode constants base items)
    (other : ∀ index, base ≤ index →
      (∀ site ∈ jumpSites before deferred base items, site.index ≠ index) →
      result[index]? = bytecode[index]?)
    (shape : ∀ (index : Nat) (instruction : Instruction), bytecode[index]? = some instruction →
      ∃ operand : Nat, result[index]? = some { instruction with operand }) :
    Placed result constants base items := by
  induction items generalizing before deferred base with
  | nil => trivial
  | cons item rest ih =>
    obtain ⟨one, others⟩ := placed
    cases item with
    | label name line => exact ⟨trivial, ih others other⟩
    | jump opcode label line =>
      obtain ⟨operand, found⟩ := one
      obtain ⟨target, found⟩ := shape base _ found
      refine ⟨⟨target, found⟩, @ih before
        (if resolvedEarly before label then deferred else deferred + 1) _ others ?_⟩
      intro index late none
      simp only [Item.size] at late
      refine other index (by omega) fun site member => ?_
      simp only [jumpSites, List.mem_cons] at member
      rcases member with rfl | member
      · simp only
        omega
      · exact none site member
    | op opcode operand line =>
      have kept := other base le_rfl fun site member => by
        have later : base + 1 ≤ site.index := jumpSites_ge member
        omega
      exact ⟨by rw [placedAt, kept]; exact one, ih others fun index late none =>
        other index (Nat.le_of_succ_le late) none⟩
    | constant opcode value line =>
      have kept := other base le_rfl fun site member => by
        have later : base + 1 ≤ site.index := jumpSites_ge member
        omega
      exact ⟨by rw [placedAt, kept]; exact one, ih others fun index late none =>
        other index (Nat.le_of_succ_le late) none⟩
    | invoke name argCount line =>
      have kept := other base le_rfl fun site member => by
        have later : base + 1 ≤ site.index := jumpSites_ge member
        omega
      exact ⟨by rw [placedAt, kept]; exact one, ih others fun index late none =>
        other index (Nat.le_of_succ_le late) none⟩
    | checkCall _ _ | pool _ | function _ _ _ | failure _ => exact ⟨trivial, ih others other⟩

end Patched

section Compiled

variable {program : List (AstStmt R)} {functions : List FunctionDef} {code : Code R}

theorem compile_assembles (compiled : c64scriptCompile program functions = .ok code) :
    ∃ after, assemble (flattenProgram program) (emptyContext functions) = .ok after ∧
      patchJumps after.labels after.patches after.instructions = .ok code.bytecode ∧
      code.constants = after.constants ∧ code.functions = after.functions := by
  unfold c64scriptCompile at compiled
  split at compiled
  · cases compiled
  · rename_i first rest
    rw [compileProgram_assembles] at compiled
    cases assembled : assemble (flattenProgram (first :: rest)) (emptyContext functions) with
    | error failure => simp [assembled, Bind.bind, Except.bind] at compiled
    | ok after =>
      simp only [assembled, Bind.bind, Except.bind] at compiled
      split at compiled
      · cases compiled
      · rename_i bytecode patched
        rw [← Except.ok.inj compiled]
        exact ⟨after, rfl, patched, rfl, rfl⟩

theorem program_patches {after : CompilerContext R}
    (assembled : assemble (flattenProgram program) (emptyContext functions) = .ok after)
    {patch : Nat × Text} :
    patch ∈ after.patches ↔
      ∃ site ∈ programJumps program, resolvedEarly site.before site.label = false ∧
        site.deferredBefore < c64scriptMaxLabels ∧
          patch = (site.index, nameField site.label) := by
  have table := @assemble_patches _ _ _ _ _ [] [] assembled rfl rfl
  rw [table]
  refine (@mem_deferredJumps _ _ _ _ _ _ [] _).trans ?_
  simp only [List.take_nil, List.not_mem_nil, false_or]
  rfl

theorem compile_placed (compiled : c64scriptCompile program functions = .ok code) :
    Placed code.bytecode code.constants 0 (flattenProgram program) ∧
      code.bytecode.length = codeSize (flattenProgram program) := by
  obtain ⟨after, assembled, patched, constants, _⟩ := compile_assembles compiled
  have placed := (assemble_placed assembled).2
  have size := assemble_length assembled
  rw [constants]
  refine ⟨@placed_patched _ _ _ _ _ _ [] 0 _ placed (fun index _ none => ?_)
    fun index instruction => patchJumps_shape patched, ?_⟩
  · refine patchJumps_other patched fun patch member => ?_
    obtain ⟨site, inside, _, _, rfl⟩ := (program_patches assembled).mp member
    exact none site inside
  · rw [patchJumps_length patched, size]
    exact Nat.zero_add _

theorem compile_constants (compiled : c64scriptCompile program functions = .ok code) :
    code.constants.length ≤ (flattenProgram program).length := by
  obtain ⟨after, assembled, _, constants, _⟩ := compile_assembles compiled
  have bound := assemble_constants assembled
  rw [constants]
  simpa [emptyContext] using bound

theorem programJumps_operand (compiled : c64scriptCompile program functions = .ok code)
    {site : JumpSite} (member : site ∈ programJumps program) :
    (∃ instruction, code.bytecode[site.index]? = some instruction ∧
        instruction.operand = site.operand (programLabels program)) ∧
      (site.isResolved → (storedTarget (programLabels program) site.label).isSome) := by
  obtain ⟨after, assembled, patched, _, _⟩ := compile_assembles compiled
  obtain ⟨emitted, found, operand⟩ := @assemble_operands _ _ _ _ _ [] assembled rfl 0 site member
  have labels : after.labels = storedLabels (programLabels program) :=
    @assemble_labels _ _ _ _ _ [] assembled rfl
  have first : site.before <+: programLabels program := by
    simpa [programLabels] using jumpSites_before member
  have listed : (site.index, nameField site.label) ∈ after.patches ↔ _ :=
    program_patches assembled
  have only : ∀ patch ∈ after.patches, patch.1 = site.index →
      resolvedEarly site.before site.label = false ∧ site.deferredBefore < c64scriptMaxLabels ∧
        patch.2 = nameField site.label := by
    intro patch inside same
    obtain ⟨other, known, early, room, rfl⟩ := (program_patches assembled).mp inside
    have equal := jumpSites_index known member same
    rw [← equal]
    exact ⟨early, room, rfl⟩
  cases early : resolvedEarly site.before site.label with
  | true =>
    -- The jump got its address at once, and no patch touches it.
    obtain ⟨address, known, target⟩ := storedTarget_of_early first early
    have kept := patchJumps_other patched fun patch inside same => by
      have none := (only patch inside same).1
      rw [early] at none
      cases none
    refine ⟨⟨emitted, kept.trans found, ?_⟩, fun _ => by rw [target]; rfl⟩
    rw [operand, known, JumpSite.operand, JumpSite.isResolved, early, target]
    rfl
  | false =>
    by_cases room : site.deferredBefore < c64scriptMaxLabels
    · -- The jump was deferred, and its patch gives it the address.
      have inside := listed.mpr ⟨site, member, early, room, rfl⟩
      obtain ⟨address, target, outcome⟩ :=
        patchJumps_target patched inside fun patch inside same => (only patch inside same).2.2
      rw [labels] at target
      have stored : storedTarget (programLabels program) site.label = some address := target
      rw [found] at outcome
      refine ⟨⟨_, outcome, ?_⟩, fun _ => by rw [stored]; rfl⟩
      simp [JumpSite.operand, JumpSite.isResolved, room, stored]
    · -- There was no place to defer the jump to, and it keeps the placeholder.
      have kept := patchJumps_other patched fun patch inside same =>
        room (only patch inside same).2.1
      have unknown : getLabelAddress (storedLabels site.before) site.label = none := by
        rw [← Option.not_isSome_iff_eq_none, getLabelAddress_isSome, early]
        simp
      refine ⟨⟨emitted, kept.trans found, ?_⟩, fun resolved => ?_⟩
      · rw [operand, unknown]
        simp [JumpSite.operand, JumpSite.isResolved, early, room]
      · simp [JumpSite.isResolved, early, room] at resolved

end Compiled

section Targets

/-- A jump leads to the label of exactly the name it was written with. -/
def JumpSite.Leads (bytecode : List Instruction) (labels : List (Text × Nat))
    (site : JumpSite) : Prop :=
  ∃ address instruction, labelTarget labels site.label = some address ∧
    bytecode[site.index]? = some instruction ∧ instruction.operand = address

/-- The label of a jump is told apart from the others, and the jump has a place in the tables. -/
def JumpSite.IsSafe (labels : List (Text × Nat)) (site : JumpSite) : Prop :=
  ∃ address, labelTarget labels site.label = some address ∧
    if site.isResolved then
      (storedTarget labels site.label).map (· % operandBound) = some address
    else address = 0

/-- Every jump leads to its label exactly when its label is told apart and its place is found. -/
theorem compiledJump_leads_iff {program : List (AstStmt R)} {functions : List FunctionDef}
    {code : Code R} (compiled : c64scriptCompile program functions = .ok code) :
    ∀ site ∈ programJumps program,
      (site.Leads code.bytecode (programLabels program) ↔
        site.IsSafe (programLabels program)) := by
  intro site member
  obtain ⟨⟨instruction, found, operand⟩, known⟩ := programJumps_operand compiled member
  constructor
  · rintro ⟨address, other, target, here, leads⟩
    obtain rfl : instruction = other := Option.some.inj (found.symm.trans here)
    refine ⟨address, target, ?_⟩
    rw [operand, JumpSite.operand] at leads
    split
    · rename_i resolved
      rw [if_pos resolved] at leads
      obtain ⟨stored, same⟩ := Option.isSome_iff_exists.mp (known resolved)
      rw [same] at leads ⊢
      exact congrArg some leads
    · rename_i unresolved
      rw [if_neg unresolved] at leads
      exact leads.symm
  · rintro ⟨address, target, safe⟩
    refine ⟨address, instruction, target, found, ?_⟩
    rw [operand, JumpSite.operand]
    split
    · rename_i resolved
      rw [if_pos resolved] at safe
      obtain ⟨stored, same, rfl⟩ := Option.map_eq_some_iff.mp safe
      rw [same]
      rfl
    · rename_i unresolved
      rw [if_neg unresolved] at safe
      exact safe.symm

/-- A forward jump over a label reaches its own label. -/
theorem compiledJump_leads_forward :
    (⟨0, [66], [], 0⟩ : JumpSite).Leads [⟨.jump, 2, 1⟩, ⟨.stop, 0, 3⟩, ⟨.halt, 0, -1⟩]
        (programLabels (R := Int) [.goto 1 [66], .label 2 [65], .stop 3, .label 4 [66]]) ↔
      (⟨0, [66], [], 0⟩ : JumpSite).IsSafe
        (programLabels (R := Int) [.goto 1 [66], .label 2 [65], .stop 3, .label 4 [66]]) :=
  @compiledJump_leads_iff _ _ [.goto 1 [66], .label 2 [65], .stop 3, .label 4 [66]] []
    ⟨_, [], []⟩ rfl ⟨0, [66], [], 0⟩ (by decide)

/-- A name one byte longer than its field. -/
def longLabel (last : UInt8) : Text :=
  List.replicate 63 65 ++ [last]

/-- Two labels that share their first 63 bytes, and a jump to the second one. -/
def twinLabels : List (AstStmt Int) :=
  [.goto 1 (longLabel 66), .label 2 (longLabel 65), .stop 3, .label 4 (longLabel 66), .stop 5]

/-- The jump to the second of two long labels is accepted and leads to the first. -/
theorem twinLabels_misled :
    ∃ code, c64scriptCompile twinLabels [] = .ok code ∧
      ∃ site ∈ programJumps twinLabels,
        labelTarget (programLabels twinLabels) site.label = some 2 ∧
          code.bytecode[site.index]? = some ⟨.jump, 1, 1⟩ ∧
            ¬ site.Leads code.bytecode (programLabels twinLabels) := by
  refine ⟨⟨[⟨.jump, 1, 1⟩, ⟨.stop, 0, 3⟩, ⟨.stop, 0, 5⟩, ⟨.halt, 0, -1⟩], [], []⟩, rfl,
    ⟨0, longLabel 66, [], 0⟩, by decide, by decide, rfl, ?_⟩
  rintro ⟨address, instruction, target, found, leads⟩
  have second : labelTarget (programLabels twinLabels) (longLabel 66) = some 2 := by decide
  rw [second, Option.some.injEq] at target
  rw [← Option.some.inj found] at leads
  simp only at leads
  omega

end Targets

end C64Stream
