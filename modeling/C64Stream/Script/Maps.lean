import C64Stream.Script.Tables

/-! Maps: what reading them gives after any sequence of statements that write and read them. -/

namespace C64Stream

variable {R World : Type} [ScriptNumber R]

section Statements

/-- The name of a map, as the code of a script refers to it. -/
structure MapName (code : Code R) where
  operand : Nat
  name : Text
  known : code.constants[operand]? = some (.string name)

/-- A statement that sets the value of a key, or a read of one; the operands are evaluated. -/
inductive MapStatement (code : Code R) where
  | set (map : MapName code) (key : Text) (value : Scalar R)
  | get (map : MapName code) (key : Text)

variable {code : Code R}

/-- The map that a statement is about. -/
def MapStatement.map (statement : MapStatement code) : MapName code :=
  match statement with
  | .set map _ _ | .get map _ => map

/-- The values that the code of a statement pushes, the last one first. -/
def MapStatement.operands (statement : MapStatement code) : List (Value R) :=
  match statement with
  | .set _ key value => [.string key, value.toValue]
  | .get _ key => [.string key]

/-- The instruction that ends the code of a statement. -/
def MapStatement.instruction (statement : MapStatement code) : Instruction :=
  match statement with
  | .set map _ _ => ⟨.mapSet, map.operand, 1⟩
  | .get map _ => ⟨.mapGet, map.operand, 1⟩

/-- Execute the instruction of a statement behind the code that pushes its operands. -/
def MapStatement.execute (host : Host R World) (statement : MapStatement code)
    (runtime : Runtime R World) : Executed R World :=
  executeInstruction host code statement.instruction
    { runtime with stack := statement.operands ++ runtime.stack }

end Statements

section Runs

/-- A write to a map, with its value as the map holds it. -/
structure MapWrite (R : Type) where
  name : Text
  key : Text
  value : Scalar R

/-- A read of a map: what it should give, and what it gave, if it gave anything. -/
structure MapRead (R : Type) where
  expected : Scalar R
  answer : Option (Value R)

/-- A script between two statements, beside the writes and reads so far, the latest first. -/
structure MapRun (R World : Type) where
  runtime : Runtime R World
  writes : List (MapWrite R)
  reads : List (MapRead R)
  /-- A statement raised an error, which ends the script. -/
  stopped : Bool

/-- The value that was written last to a key of a map, or the default of its type; the case of
names does not matter. -/
def latestValue (writes : List (MapWrite R)) (name key : Text) : Scalar R :=
  ((writes.find? fun write => equalsIgnoreCase write.name name && write.key == key).map
    MapWrite.value).getD (defaultElement (elementTypeOfName name))

variable {code : Code R}

/-- Execute a statement, and record what it wrote or read. -/
def mapStep (host : Host R World) (run : MapRun R World) (statement : MapStatement code) :
    MapRun R World :=
  if run.stopped then run
  else
    match statement, statement.execute host run.runtime with
    | .set _ _ _, (none, after) => { run with runtime := after, stopped := true }
    | .set map key value, (some _, after) =>
      { run with
        runtime := after
        writes :=
          match elementValue (elementTypeOfName map.name) value.toValue (text "MAP SET") with
          | .ok element => ⟨map.name, key, element⟩ :: run.writes
          | .error _ => run.writes }
    | .get map key, (none, after) =>
      { run with
        runtime := after
        reads := ⟨latestValue run.writes map.name key, none⟩ :: run.reads
        stopped := true }
    | .get map key, (some _, after) =>
      -- The value is on top of the stack, and the rest of the statement takes it from there.
      { run with
        runtime := { after with stack := after.stack.tail }
        reads := ⟨latestValue run.writes map.name key, after.stack.head?⟩ :: run.reads }

/-- Nothing was written or read yet. -/
def MapRun.start (runtime : Runtime R World) : MapRun R World :=
  ⟨runtime, [], [], false⟩

/-- Every read gave the value that it should have given. -/
def MapRun.Faithful (run : MapRun R World) : Prop :=
  ∀ read ∈ run.reads, read.answer = some read.expected.toValue

/-- A statement names a map apart from all others, and one that it reads was written before. -/
def NamesKnownMap (run : MapRun R World) (statement : MapStatement code) : Prop :=
  (∀ write ∈ run.writes,
    normalizeIdentifier write.name = normalizeIdentifier statement.map.name →
      equalsIgnoreCase write.name statement.map.name = true) ∧
  match statement with
  | .set _ _ _ => True
  | .get map _ => run.stopped = true ∨
      ∃ write ∈ run.writes, equalsIgnoreCase write.name map.name = true

instance (run : MapRun R World) (statement : MapStatement code) :
    Decidable (NamesKnownMap run statement) :=
  match statement with
  | .set _ _ _ => inferInstanceAs (Decidable ((∀ write ∈ run.writes, _ → _) ∧ True))
  | .get _ _ => inferInstanceAs (Decidable ((∀ write ∈ run.writes, _ → _) ∧ (_ ∨ _)))

end Runs

section Instructions

variable {host : Host R World} {code : Code R} {runtime : Runtime R World}
  {entries : List (Text × Scalar R)}

theorem mapValue_mapStore (valueType : ScalarType) (entries : List (Text × Scalar R))
    (key other : Text) (value : Scalar R) :
    mapValue valueType (mapStore entries key value) other =
      if other = key then value else mapValue valueType entries other := by
  induction entries with
  | nil =>
    by_cases same : other = key
    · simp [mapStore, mapValue, same]
    · simp [mapStore, mapValue, same, Ne.symm same]
  | cons entry rest ih =>
    rw [mapStore]
    by_cases here : entry.1 = key
    · -- The entry of the key is overwritten.
      rw [if_pos (by simpa using here)]
      by_cases same : other = key
      · simp [mapValue, same]
      · simp [mapValue, same, Ne.symm same, here]
    · rw [if_neg (by simpa using here)]
      by_cases found : entry.1 = other
      · rw [← found, if_neg here]
        simp [mapValue]
      · have passed : ∀ table : List (Text × Scalar R),
            mapValue valueType (entry :: table) other = mapValue valueType table other := by
          intro table
          simp [mapValue, found]
        rw [passed, passed, ih]

theorem heldValue_setVar {before after : Machine R} {name : Text} {value stored : Value R}
    (set : setVar before name value = .ok after)
    (coerced : coerceForName (normalizeIdentifier name) value = .ok stored) (key : Text) :
    heldValue after key =
      if key = normalizeIdentifier name then some stored else heldValue before key := by
  simp only [setVar, coerced, Bind.bind, Except.bind] at set
  cases scopes : before.scopeStack with
  | nil =>
    simp only [scopes] at set
    split at set
    · cases set
    · rw [← Except.ok.inj set]
      simp only [heldValue, scopes, lookup_store]
  | cons scope rest =>
    simp only [scopes] at set
    rw [← Except.ok.inj set]
    simp only [heldValue, scopes, lookup_store]
    split_ifs <;> rfl

theorem executeGet_held (host : Host R World) (map : MapName code) (key : Text)
    {valueType : ScalarType}
    (held : heldValue runtime.toMachine (normalizeIdentifier map.name) =
      some (.map valueType entries)) (room : runtime.stack.length < c64scriptMaxStackDepth) :
    (MapStatement.get map key).execute host runtime =
      (some false,
        { runtime with stack := (mapValue valueType entries key).toValue :: runtime.stack }) := by
  have read : ∀ stack, getVar { runtime.toMachine with stack := stack } map.name =
      .map valueType entries := by
    intro stack
    show (heldValue runtime.toMachine (normalizeIdentifier map.name)).getD _ = _
    rw [held]
    rfl
  simp only [MapStatement.execute, MapStatement.instruction, MapStatement.operands,
    executeInstruction, dataProgram, containerInstruction, constantName, map.known,
    Constant.asString, orFail, mapGet, pop, mapKey, readVar, andThen, Effectful.bind_eq,
    Effectful.bind, Effectful.run, handleOp, List.cons_append, List.nil_append, read, push,
    if_neg (not_le.mpr room)]

theorem storeInMap_ok {name key : Text} {valueType : ScalarType}
    {converted : Except Text (Scalar R)} {reply : Unit} {after : Runtime R World}
    (ran : Effectful.run handleOp ((orFail converted).bind fun element =>
      assign name (.map valueType (mapStore entries key element))) runtime =
        (some reply, after)) :
    ∃ element, converted = .ok element ∧
      ∃ machine, setVar runtime.toMachine name
          (.map valueType (mapStore entries key element)) = .ok machine ∧
        after = { runtime with toMachine := machine } := by
  cases converted with
  | error message => cases ran
  | ok element =>
    refine ⟨element, rfl, ?_⟩
    simp only [orFail, assign, trySetVar, Effectful.bind_eq, Effectful.bind, Effectful.run,
      handleOp] at ran
    cases stored : setVar runtime.toMachine name
      (.map valueType (mapStore entries key element)) with
    | error message =>
      rw [stored] at ran
      cases ran
    | ok machine =>
      rw [stored] at ran
      exact ⟨machine, rfl, (Prod.mk.inj ran).2.symm⟩

theorem executeSet_held (map : MapName code) (key : Text) (value : Scalar R)
    {valueType : ScalarType}
    (held : heldValue runtime.toMachine (normalizeIdentifier map.name) =
        some (.map valueType entries) ∨
      heldValue runtime.toMachine (normalizeIdentifier map.name) = none ∧
        valueType = elementTypeOfName map.name ∧ entries = []) {after : Runtime R World}
    {skip : Bool}
    (executed : (MapStatement.set map key value).execute host runtime = (some skip, after)) :
    ∃ element, elementValue valueType value.toValue (text "MAP SET") = .ok element ∧
      ∃ machine, setVar runtime.toMachine map.name
          (.map valueType (mapStore entries key element)) = .ok machine ∧
        after = { runtime with toMachine := machine } := by
  -- Both ways the map is at hand, and the program goes on to store the value in it.
  have stores : Effectful.run handleOp ((orFail (elementValue valueType value.toValue
      (text "MAP SET"))).bind fun element =>
        (assign map.name (.map valueType (mapStore entries key element)) :
          Program R World Unit)) runtime =
      (some (), after) := by
    simp only [MapStatement.execute, MapStatement.instruction, MapStatement.operands,
      executeInstruction, dataProgram, containerInstruction, constantName, map.known,
      Constant.asString, orFail, mapSet, pop, mapKey, readVar, checkVar, andThen, Effectful.bind_eq,
      Effectful.bind, Effectful.run, handleOp, List.cons_append, List.nil_append] at executed
    have whether : varExists runtime.toMachine map.name =
        (heldValue runtime.toMachine (normalizeIdentifier map.name)).isSome := rfl
    have readBack : getVar runtime.toMachine map.name =
        (heldValue runtime.toMachine (normalizeIdentifier map.name)).getD (.number numberZero) :=
      rfl
    rcases held with held | ⟨held, rfl, rfl⟩
    · -- The variable is read, and the map in it is extended.
      rw [held] at whether readBack
      rw [if_pos (by rw [whether]; rfl)] at executed
      simp only [Effectful.run, handleOp, readBack, Option.getD_some] at executed
      split at executed
      · rename_i ran
        exact ran.trans (by rw [(Prod.mk.inj executed).2])
      · cases executed
    · -- The variable is made with an empty map in it.
      rw [held] at whether
      rw [if_neg (by rw [whether]; simp)] at executed
      split at executed
      · rename_i ran
        exact ran.trans (by rw [(Prod.mk.inj executed).2])
      · cases executed
  exact storeInMap_ok stores

end Instructions

section Names

variable {a b : Text}

theorem normalizeIdentifier_alike (alike : equalsIgnoreCase a b = true) :
    normalizeIdentifier a = normalizeIdentifier b := by
  have upper : a.map toUpper = b.map toUpper := eq_of_beq alike
  simp only [normalizeIdentifier, List.map_take, upper]

theorem nameHasSuffix_upper (name : Text) {suffix : UInt8} (noLetter : suffix.toNat < 65) :
    nameHasSuffix (name.map toUpper) suffix = nameHasSuffix name suffix := by
  have upper : ∀ c, toUpper c = suffix ↔ c = suffix := by
    intro c
    unfold toUpper
    split_ifs with letter
    · -- An upper case letter is not the suffix, and neither is the lower case one.
      have bounds := letter
      simp only [UInt8.le_iff_toNat_le] at bounds
      constructor
      · intro equal
        have number := congrArg UInt8.toNat equal
        rw [UInt8.toNat_sub_of_le _ _ (UInt8.le_iff_toNat_le.mpr (by simp at bounds ⊢; omega))]
          at number
        simp at number bounds
        omega
      · rintro rfl
        simp at bounds
        omega
    · rfl
  rw [Bool.eq_iff_iff]
  simp [nameHasSuffix, List.getLast?_map, upper]

theorem elementTypeOfName_alike (alike : equalsIgnoreCase a b = true) :
    elementTypeOfName a = elementTypeOfName b := by
  have upper : a.map toUpper = b.map toUpper := eq_of_beq alike
  have dollars : dollar.toNat < 65 := by decide
  rw [elementTypeOfName, elementTypeOfName, ← nameHasSuffix_upper a dollars,
    ← nameHasSuffix_upper b dollars, upper]

theorem latestValue_alike (alike : equalsIgnoreCase a b = true) (writes : List (MapWrite R))
    (key : Text) :
    latestValue writes a key = latestValue writes b key := by
  have upper : a.map toUpper = b.map toUpper := eq_of_beq alike
  simp only [latestValue, equalsIgnoreCase, upper, elementTypeOfName_alike alike]

theorem latestValue_cons (write : MapWrite R) (writes : List (MapWrite R)) (name key : Text) :
    latestValue (write :: writes) name key =
      if equalsIgnoreCase write.name name = true ∧ write.key = key then write.value
      else latestValue writes name key := by
  unfold latestValue
  rw [List.find?_cons]
  split_ifs with same
  · simp [same.1, same.2]
  · have other : (equalsIgnoreCase write.name name && write.key == key) = false := by
      simpa [Bool.and_eq_true] using same
    rw [other]

end Names

section Invariant

variable {host : Host R World} {code : Code R} {start : Runtime R World} {run : MapRun R World}

/-- The maps that were written are held with what was written to them, and nothing else changed. -/
structure HoldsWrites (start : Runtime R World) (run : MapRun R World) : Prop where
  stack : run.runtime.stack = start.stack
  written : ∀ write ∈ run.writes, ∃ entries,
    heldValue run.runtime.toMachine (normalizeIdentifier write.name) =
        some (.map (elementTypeOfName write.name) entries) ∧
      ∀ key, mapValue (elementTypeOfName write.name) entries key =
        latestValue run.writes write.name key
  untouched : ∀ name, (∀ write ∈ run.writes, normalizeIdentifier write.name ≠ name) →
    heldValue run.runtime.toMachine name = heldValue start.toMachine name

theorem HoldsWrites.set (holds : HoldsWrites start run) (map : MapName code) (key : Text)
    (value : Scalar R)
    (fresh : heldValue start.toMachine (normalizeIdentifier map.name) = none)
    (apart : ∀ write ∈ run.writes,
      normalizeIdentifier write.name = normalizeIdentifier map.name →
        equalsIgnoreCase write.name map.name = true)
    {after : Runtime R World} {skip : Bool}
    (executed : (MapStatement.set map key value).execute host run.runtime = (some skip, after)) :
    ∃ element, elementValue (elementTypeOfName map.name) value.toValue (text "MAP SET") =
        .ok element ∧
      HoldsWrites start
        { run with runtime := after, writes := ⟨map.name, key, element⟩ :: run.writes } := by
  -- The map is held with what was written to it, or its name holds nothing yet.
  obtain ⟨entries, held, values⟩ : ∃ entries,
      (heldValue run.runtime.toMachine (normalizeIdentifier map.name) =
          some (.map (elementTypeOfName map.name) entries) ∨
        heldValue run.runtime.toMachine (normalizeIdentifier map.name) = none ∧
          elementTypeOfName map.name = elementTypeOfName map.name ∧ entries = []) ∧
      ∀ key, mapValue (elementTypeOfName map.name) entries key =
        latestValue run.writes map.name key := by
    by_cases before : ∃ write ∈ run.writes,
        normalizeIdentifier write.name = normalizeIdentifier map.name
    · obtain ⟨write, member, same⟩ := before
      have alike := apart write member same
      obtain ⟨entries, held, values⟩ := holds.written write member
      rw [same, elementTypeOfName_alike alike] at held
      refine ⟨entries, .inl held, fun key => ?_⟩
      rw [← elementTypeOfName_alike alike, values key, latestValue_alike alike]
    · push Not at before
      refine ⟨[], .inr ⟨(holds.untouched _ before).trans fresh, rfl, rfl⟩, fun key => ?_⟩
      have none : run.writes.find? (fun write =>
          equalsIgnoreCase write.name map.name && write.key == key) = none := by
        rw [List.find?_eq_none]
        intro write member found
        exact before write member (normalizeIdentifier_alike (Bool.and_elim_left found))
      simp [latestValue, none, mapValue]
  obtain ⟨element, converted, machine, stored, rfl⟩ := executeSet_held map key value held executed
  have now := heldValue_setVar stored rfl
  refine ⟨element, converted, (setVar_stack stored).trans holds.stack, ?_, ?_⟩
  · intro write member
    by_cases same : normalizeIdentifier write.name = normalizeIdentifier map.name
    · -- The map that was written now.
      have alike : equalsIgnoreCase write.name map.name = true := by
        rcases List.mem_cons.mp member with rfl | earlier
        · exact beq_self_eq_true _
        · exact apart write earlier same
      refine ⟨mapStore entries key element, ?_, fun other => ?_⟩
      · rw [now, if_pos same, elementTypeOfName_alike alike]
      · rw [elementTypeOfName_alike alike, mapValue_mapStore, values, latestValue_alike alike,
          latestValue_cons]
        by_cases here : other = key
        · rw [if_pos here, if_pos ⟨beq_self_eq_true _, here.symm⟩]
        · rw [if_neg here, if_neg fun both => here both.2.symm]
    · -- A map that was written before, under another name.
      have earlier : write ∈ run.writes := by
        rcases List.mem_cons.mp member with rfl | earlier
        · exact absurd rfl same
        · exact earlier
      obtain ⟨before, heldBefore, valuesBefore⟩ := holds.written write earlier
      refine ⟨before, ?_, fun other => ?_⟩
      · rw [now, if_neg same]
        exact heldBefore
      · rw [valuesBefore, latestValue_cons, if_neg]
        exact fun both => same (normalizeIdentifier_alike both.1).symm
  · intro name others
    rw [now, if_neg fun same => others _ (List.mem_cons_self ..) same.symm]
    exact holds.untouched name fun write member => others write (List.mem_cons_of_mem _ member)

theorem mapStep_faithful (host : Host R World)
    (room : start.stack.length + 2 ≤ c64scriptMaxStackDepth)
    (statement : MapStatement code)
    (fresh : heldValue start.toMachine (normalizeIdentifier statement.map.name) = none)
    (sound : run.Faithful ∧ (run.stopped = false → HoldsWrites start run))
    (meets : NamesKnownMap run statement) :
    (mapStep host run statement).Faithful ∧
      ((mapStep host run statement).stopped = false →
        HoldsWrites start (mapStep host run statement)) := by
  obtain ⟨faithful, holds⟩ := sound
  obtain ⟨apart, known⟩ := meets
  cases stopped : run.stopped with
  | true =>
    -- A script that ended executes nothing more.
    have still : mapStep host run statement = run := by simp [mapStep, stopped]
    rw [still]
    exact ⟨faithful, holds⟩
  | false =>
    have now := holds stopped
    cases statement with
    | set map key value =>
      cases executed : (MapStatement.set map key value).execute host run.runtime with
      | mk result after =>
        cases result with
        | none =>
          have ends : mapStep host run (.set map key value) =
              { run with runtime := after, stopped := true } := by
            simp [mapStep, stopped, executed]
          rw [ends]
          exact ⟨faithful, fun running => by cases running⟩
        | some skip =>
          obtain ⟨element, converted, kept⟩ := now.set map key value fresh apart executed
          have writes : mapStep host run (.set map key value) =
              { run with runtime := after, writes := ⟨map.name, key, element⟩ :: run.writes } := by
            simp [mapStep, stopped, executed, converted]
          rw [writes]
          exact ⟨faithful, fun _ => kept⟩
    | get map key =>
      obtain ⟨write, member, alike⟩ := known.resolve_left (by simp [stopped])
      obtain ⟨entries, held, values⟩ := now.written write member
      rw [normalizeIdentifier_alike alike, elementTypeOfName_alike alike] at held
      have executed := executeGet_held host map key held
        (by rw [now.stack]; omega)
      rw [← elementTypeOfName_alike alike] at executed
      rw [values, latestValue_alike alike] at executed
      have reads : mapStep host run (.get map key) =
          { run with
            reads := ⟨latestValue run.writes map.name key,
              some (latestValue run.writes map.name key).toValue⟩ :: run.reads } := by
        simp [mapStep, stopped, executed]
      rw [reads]
      refine ⟨?_, fun _ => ⟨now.stack, now.written, now.untouched⟩⟩
      intro read member
      rcases List.mem_cons.mp member with rfl | earlier
      · rfl
      · exact faithful read earlier

end Invariant

section Maps

variable {code : Code R}

/-- Maps that are written before they are read, under names that are told apart, hold in every
run for each key what was written to it last. -/
theorem mapReads_faithful (host : Host R World) (runtime : Runtime R World)
    (statements : List (MapStatement code))
    (fresh : ∀ statement ∈ statements,
      heldValue runtime.toMachine (normalizeIdentifier statement.map.name) = none)
    (room : runtime.stack.length + 2 ≤ c64scriptMaxStackDepth)
    (each : EachStep (mapStep host) NamesKnownMap (MapRun.start runtime) statements) :
    Always (mapStep host) MapRun.Faithful (MapRun.start runtime) statements := by
  -- The induction is on the statements; the maps hold the writes as long as the script runs.
  have sound : (MapRun.start runtime).Faithful ∧
      ((MapRun.start runtime).stopped = false → HoldsWrites runtime (MapRun.start runtime)) :=
    ⟨fun read member => (by cases member),
      fun _ => ⟨rfl, fun write member => (by cases member), fun name _ => rfl⟩⟩
  generalize MapRun.start runtime = run at each sound
  induction statements generalizing run with
  | nil => exact sound.1
  | cons statement rest ih =>
    have next := mapStep_faithful host room statement (fresh statement (List.mem_cons_self ..))
      sound each.1
    exact ⟨sound.1, ih (fun other member => fresh other (List.mem_cons_of_mem _ member)) _ each.2
      next⟩

/-- The constants of a script with two maps. -/
def mapsCode : Code Int where
  bytecode := []
  constants := [.string (text "M"), .string (text "M$")]
  functions := []

def numberMap : MapName mapsCode := ⟨0, text "M", rfl⟩

def stringMap : MapName mapsCode := ⟨1, text "M$", rfl⟩

/-- Two maps that were written to are read, one of them at a key that was not written. -/
theorem mapReads_faithful_both :
    Always (mapStep quietHost) MapRun.Faithful (MapRun.start (runtimeCreate ()))
      [.set numberMap (text "A") (.number 1), .set stringMap (text "A") (.string (text "X")),
        .set numberMap (text "A") (.number 2), .get numberMap (text "A"),
        .get numberMap (text "B"), .get stringMap (text "A"), .get stringMap (text "B")] := by
  refine mapReads_faithful quietHost (runtimeCreate ()) _ (fun statement _ => rfl) (by decide) ?_
  decide +kernel

/-- A map that was not written to yet is read. -/
theorem unwrittenMap_raisesError :
    let run := mapStep quietHost (MapRun.start (runtimeCreate ()))
      (.get numberMap (text "A"))
    run.stopped = true ∧ run.runtime.errorMsg = text "Variable 'M' is not a map" ∧
      ¬ run.Faithful := by
  refine ⟨rfl, rfl, fun faithful => ?_⟩
  exact absurd (faithful _ (List.mem_cons_self ..)) (by decide)

end Maps

end C64Stream
