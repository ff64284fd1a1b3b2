import C64Stream.Automation.FolderScan

/-! The scan of a folder: that it ends, and which files it finds. -/

namespace C64Stream

section Names

variable {path : Text}

theorem lastName_fullPathOf (directory name : Text) :
    lastName (fullPathOf directory name) = lastName name := by
  have stops : ((47 : UInt8) :: directory.reverse).takeWhile
      (fun byte => decide (byte ≠ 47 ∧ byte ≠ 92)) = [] := rfl
  rw [lastName, lastName, fullPathOf, List.reverse_append, List.reverse_cons, List.append_assoc,
    List.singleton_append, List.takeWhile_append, stops, List.append_nil]
  split
  · rename_i whole
    rw [List.IsPrefix.eq_of_length (List.takeWhile_prefix _) whole]
  · rfl

theorem isPlayablePath_fullPathOf (directory name : Text) :
    isPlayablePath (fullPathOf directory name) = isPlayablePath name := by
  rw [isPlayablePath, isPlayablePath, lastName_fullPathOf]

theorem lastName_isSuffix (path : Text) : lastName path <:+ path := by
  rw [lastName, ← List.reverse_prefix, List.reverse_reverse]
  exact List.takeWhile_prefix _

theorem strrchr_lastName (some : 46 ∈ lastName path) :
    strrchr 46 path = strrchr 46 (lastName path) := by
  have split : path = path.take (path.length - (lastName path).length) ++ lastName path :=
    (List.suffix_iff_eq_append.mp (lastName_isSuffix path)).symm
  have among : 46 ∈ path := (lastName_isSuffix path).subset some
  rw [strrchr, strrchr, if_pos among, if_pos some]
  conv_lhs => rw [split]
  rw [List.reverse_append, List.takeWhile_append, if_neg]
  -- The point ends what is taken, so it is not the whole name.
  intro whole
  have all := List.IsPrefix.eq_of_length (List.takeWhile_prefix _) whole
  have := List.takeWhile_eq_self_iff.mp all 46 (List.mem_reverse.mpr some)
  simp at this

theorem strrchr_length {mark : UInt8} {rest : Text} (found : strrchr mark path = some rest) :
    rest.length ≤ path.length := by
  unfold strrchr at found
  split at found
  · rename_i among
    obtain rfl := Option.some.inj found
    have shorter := (List.takeWhile_prefix (l := path.reverse) (· ≠ mark)).length_le
    have notAll : (path.reverse.takeWhile (· ≠ mark)).length ≠ path.reverse.length := by
      intro whole
      have all := List.IsPrefix.eq_of_length (List.takeWhile_prefix _) whole
      have := List.takeWhile_eq_self_iff.mp all mark (List.mem_reverse.mpr among)
      simp at this
    rw [List.length_reverse] at shorter notAll
    rw [List.length_cons, List.length_reverse]
    omega
  · cases found

theorem getFileType_of_playable (playable : isPlayablePath path) : (getFileType path).isSome := by
  unfold isPlayablePath at playable
  dsimp only at playable
  split at playable
  · cases playable
  · rename_i dot found
    rw [Bool.and_eq_true, decide_eq_true_eq] at playable
    obtain ⟨inside, known⟩ := playable
    have some : 46 ∈ lastName path := by
      by_contra none
      rw [strrchr, if_neg none] at found
      cases found
    have shorter := strrchr_length found
    have within := (lastName_isSuffix path).length_le
    have same : getExtension path = getExtension (lastName path) := by
      rw [getExtension, getExtension, strrchr_lastName some, found]
      simp only
      rw [if_neg (by omega), if_neg inside]
    rwa [getFileType, same]

theorem playableEntry_isSome (path : Text) :
    (playableEntry path).isSome = isPlayablePath path := by
  unfold playableEntry
  split
  · rename_i playable
    rw [Option.isSome_map, getFileType_of_playable playable, playable]
  · rename_i not
    rw [Bool.not_eq_true] at not
    rw [not]
    rfl

theorem playableEntry_path {entry : FileEntry} (made : playableEntry path = some entry) :
    entry.path = path := by
  unfold playableEntry at made
  split at made
  · obtain ⟨type, _, rfl⟩ := Option.map_eq_some_iff.mp made
    rfl
  · cases made

end Names

section Paths

variable {fs : FileSystem} {name path : Text}

theorem splitOn_fullPathOf (path : Text) (plain : 47 ∉ name) :
    (fullPathOf path name).splitOn 47 = path.splitOn 47 ++ [name] := by
  have single : ∀ byte ∈ name, (byte == 47) = false :=
    fun byte among => beq_eq_false_iff_ne.mpr fun same => plain (same ▸ among)
  rw [fullPathOf, List.splitOn, List.splitOnP_append_cons _ _ (by rfl),
    List.splitOnP_eq_singleton single]
  rfl

theorem fullPathOf_inj {path' name' : Text} (plain : 47 ∉ name) (plain' : 47 ∉ name')
    (same : fullPathOf path name = fullPathOf path' name') : path = path' := by
  have parts := congrArg (List.splitOn 47) same
  rw [splitOn_fullPathOf path plain, splitOn_fullPathOf path' plain'] at parts
  have names := congrArg List.getLast? parts
  rw [List.getLast?_concat, List.getLast?_concat] at names
  rw [Option.some.inj names] at same
  exact List.append_cancel_right same

theorem FileSystem.stat_fullPathOf {id : DirId} (resolved : fs.stat path = some (.directory id))
    (named : name ≠ []) (plain : 47 ∉ name) :
    fs.stat (fullPathOf path name) = fs.lookup id name := by
  cases path with
  | nil => cases resolved
  | cons first path =>
    rw [fullPathOf, List.cons_append, FileSystem.stat, ← List.cons_append, ← fullPathOf,
      splitOn_fullPathOf _ plain, List.foldl_append]
    rw [FileSystem.stat] at resolved
    rw [resolved]
    cases name with
    | nil => exact absurd rfl named
    | cons => rfl

theorem FileSystem.stat_mem {id : DirId} (resolved : fs.stat path = some (.directory id)) :
    id ∈ fs.directories := by
  have step : ∀ kind name, (∀ inner, kind = some (.directory inner) → inner ∈ fs.directories) →
      ∀ inner, fs.enter kind name = some (.directory inner) → inner ∈ fs.directories := by
    intro kind name inside inner entered
    unfold FileSystem.enter at entered
    split at entered
    · exact inside _ (by rw [entered])
    · exact fs.lookups _ _ _ entered
    · cases entered
  have whole : ∀ (parts : List Text) kind,
      (∀ inner, kind = some (.directory inner) → inner ∈ fs.directories) →
      ∀ inner, parts.foldl fs.enter kind = some (.directory inner) → inner ∈ fs.directories := by
    intro parts
    induction parts with
    | nil => exact fun _ inside => inside
    | cons part parts ih => exact fun kind inside => ih _ (step kind part inside)
  unfold FileSystem.stat at resolved
  split at resolved
  · cases resolved
  · refine whole _ _ ?_ _ resolved
    intro inner same
    obtain rfl := FileKind.directory.inj (Option.some.inj same)
    split
    · exact fs.roots.1
    · exact fs.roots.2

end Paths

section Graph

variable (fs : FileSystem)

/-- The names in a directory, without those that every directory has. -/
def FileSystem.namesOf (id : DirId) : List Text :=
  ((fs.readdir id).getD []).filter fun name => !isDotName name

/-- The directory that a name in a directory leads to. -/
def FileSystem.subdirectory (id : DirId) (name : Text) : Option DirId :=
  match fs.lookup id name with
  | some (.directory inner) => some inner
  | _ => none

/-- The directories that a readable directory leads to. -/
def FileSystem.links (id : DirId) : List DirId :=
  (fs.namesOf id).filterMap (fs.subdirectory id)

/-- Whether a name in a directory is that of a regular file that can be played. -/
def FileSystem.Playable (id : DirId) (name : Text) : Prop :=
  fs.lookup id name = some .regular ∧ isPlayablePath name

/-- The entry of a playable file, under the path of its directory. -/
def FileSystem.listedEntry (id : DirId) (path name : Text) : Option FileEntry :=
  match fs.lookup id name with
  | some .regular => playableEntry (fullPathOf path name)
  | _ => none

/-- The entries of all playable files of a directory, under its path. -/
def FileSystem.listed (place : DirId × Text) : List FileEntry :=
  (fs.namesOf place.1).filterMap (fs.listedEntry place.1 place.2)

/-- A directory with a file that can be played. -/
def FileSystem.HasPlayable (id : DirId) : Prop :=
  ∃ name ∈ fs.namesOf id, fs.Playable id name

/-- A directory that at most 64 steps lead to from another one. -/
def FileSystem.Within (root id : DirId) : Prop :=
  WithinCap fs.links localScanMaxDepth root id

/-- Every playable file of every directory within 64 steps is listed exactly once for each of its
names, under a path of its directory, and nothing else is. -/
def FileSystem.Covered (root : DirId) (files : List FileEntry) : Prop :=
  ∃ places : List (DirId × Text), (places.map Prod.fst).Nodup ∧
    (∀ place ∈ places, fs.stat place.2 = some (.directory place.1) ∧ fs.Within root place.1) ∧
    (∀ id, fs.Within root id → fs.HasPlayable id → id ∈ places.map Prod.fst) ∧
    files.Perm (places.flatMap fs.listed)

/-- The paths along which the directories are scanned, with the number of their steps. -/
inductive ScanPath (folderPath : Text) : Nat → Text → DirId → Prop where
  | folder {id : DirId} (resolved : fs.stat folderPath = some (.directory id)) :
    ScanPath folderPath 0 folderPath id
  | inner {n : Nat} {path name : Text} {id inner : DirId} (outer : ScanPath folderPath n path id)
    (among : name ∈ fs.namesOf id) (leads : fs.subdirectory id name = some inner) :
    ScanPath folderPath (n + 1) (fullPathOf path name) inner

/-- The paths of all files and directories that are scanned fit their fields. -/
def FileSystem.PathsFit (folderPath : Text) : Prop :=
  folderPath.length < c64AutomationPathMax ∧
  ∀ n ≤ localScanMaxDepth, ∀ path id, ScanPath fs folderPath n path id →
    ∀ name ∈ fs.namesOf id, (fullPathOf path name).length < c64AutomationPathMax

/-- Memory that is enough for everything. -/
def ScanMemory.Enough (memory : ScanMemory) : Prop :=
  ∀ n, memory.dirStack n ∧ memory.visited n ∧ memory.files n

end Graph

section GraphLaws

variable {fs : FileSystem}

theorem FileSystem.namesOf_valid {id : DirId} {name : Text} (among : name ∈ fs.namesOf id) :
    name ≠ [] ∧ 47 ∉ name := by
  have among := (List.mem_filter.mp among).1
  cases read : fs.readdir id with
  | none =>
    rw [read] at among
    cases among
  | some list =>
    rw [read] at among
    exact fs.names id list read name among

theorem ScanPath.resolved {folderPath path : Text} {n : Nat} {id : DirId}
    (scanned : ScanPath fs folderPath n path id) : fs.stat path = some (.directory id) := by
  induction scanned with
  | folder resolved => exact resolved
  | @inner n path name id inner outer among leads ih =>
    obtain ⟨named, plain⟩ := FileSystem.namesOf_valid among
    rw [FileSystem.stat_fullPathOf ih named plain]
    unfold FileSystem.subdirectory at leads
    split at leads
    · rename_i found
      rw [found, Option.some.inj leads]
    · cases leads

theorem FileSystem.hasPlayable_iff {id : DirId} {path : Text} :
    fs.HasPlayable id ↔ fs.listed (id, path) ≠ [] := by
  have each : ∀ name, fs.Playable id name ↔ (fs.listedEntry id path name).isSome := by
    intro name
    unfold FileSystem.Playable FileSystem.listedEntry
    split
    · rename_i regular
      rw [playableEntry_isSome, isPlayablePath_fullPathOf, regular]
      exact and_iff_right rfl
    · rename_i other
      exact ⟨fun playable => absurd playable.1 (other ·), fun none => by cases none⟩
  rw [FileSystem.listed, ne_eq, List.filterMap_eq_nil_iff]
  simp only [FileSystem.HasPlayable, each, not_forall, Option.isSome_iff_ne_none, exists_prop,
    ne_eq]

end GraphLaws

section Room

variable {memory : ScanMemory}

theorem le_doubleCapacity {needed : Nat} (within : needed ≤ playlistMaxFiles)
    (fuel capacity : Nat) : capacity ≤ doubleCapacity needed fuel capacity := by
  induction fuel generalizing capacity with
  | zero => exact le_rfl
  | succ fuel ih =>
    rw [doubleCapacity]
    split
    · split
      · omega
      · exact le_trans (by omega) (ih (capacity * 2))
    · exact le_rfl

theorem ensureFilesCapacity_enough (enough : memory.Enough) {array : FileArray}
    (below : array.files.length < playlistMaxFiles) :
    ∃ capacity, ensureFilesCapacity memory array 1 = some { array with capacity } := by
  unfold ensureFilesCapacity
  rw [if_neg one_ne_zero]
  split
  · exact ⟨array.capacity, rfl⟩
  · rename_i full
    have grows : array.capacity < doubleCapacity (array.files.length + 1)
        (array.files.length + 1)
        (if array.capacity > 0 then array.capacity else playlistInitialCapacity) := by
      split
      · -- The first doubling already makes the room larger.
        rw [doubleCapacity, if_pos (by omega)]
        split
        · omega
        · exact lt_of_lt_of_le (by omega) (le_doubleCapacity (by omega) _ _)
      · rename_i none
        have initial : 0 < playlistInitialCapacity := by decide
        exact lt_of_lt_of_le (by omega) (le_doubleCapacity (by omega) _ _)
    simp only
    rw [if_neg (not_le.mpr grows), if_pos (enough _).2.2]
    exact ⟨_, rfl⟩

theorem pushDirectory_enough (enough : memory.Enough) (state : ScanState)
    (entry : DirStackEntry) :
    ∃ dirCapacity, pushDirectory memory state entry =
      some { state with dirStack := entry :: state.dirStack, dirCapacity } := by
  unfold pushDirectory
  split
  · exact ⟨state.dirCapacity, rfl⟩
  · simp only [(enough _).1, if_true]
    exact ⟨_, rfl⟩

theorem markVisited_enough (enough : memory.Enough) (state : ScanState) (id : DirId) :
    ∃ visitedCapacity, markVisited memory state id =
      some { state with visited := state.visited ++ [id], visitedCapacity } := by
  unfold markVisited
  split
  · simp only [(enough _).2.1, if_true]
    exact ⟨_, rfl⟩
  · exact ⟨state.visitedCapacity, rfl⟩

end Room

section Entries

variable {fs : FileSystem} {includeSubfolders : Bool} {memory : ScanMemory} {state : ScanState}

theorem pushDirectory_some {after : ScanState} {entry : DirStackEntry}
    (pushed : pushDirectory memory state entry = some after) :
    after.dirStack = entry :: state.dirStack ∧ after.array = state.array ∧
      after.visited = state.visited := by
  unfold pushDirectory at pushed
  split at pushed
  · obtain rfl := Option.some.inj pushed
    exact ⟨rfl, rfl, rfl⟩
  · dsimp only at pushed
    split at pushed
    · obtain rfl := Option.some.inj pushed
      exact ⟨rfl, rfl, rfl⟩
    · cases pushed

theorem ensureFilesCapacity_some {array after : FileArray} {additional : Nat}
    (ensured : ensureFilesCapacity memory array additional = some after) :
    after.files = array.files := by
  unfold ensureFilesCapacity at ensured
  simp only at ensured
  split_ifs at ensured <;> obtain rfl := Option.some.inj ensured <;> rfl

theorem addFile_some {after : ScanState} {entry : FileEntry}
    (added : addFile memory state entry = some after) :
    after.dirStack = state.dirStack ∧ after.array.files = state.array.files ++ [entry] ∧
      after.visited = state.visited := by
  obtain ⟨array, ensured, rfl⟩ := Option.map_eq_some_iff.mp added
  exact ⟨rfl, by rw [FileArray.add, ensureFilesCapacity_some ensured], rfl⟩

theorem readEntries_cons (current : DirStackEntry) (name : Text) (names : List Text)
    (state : ScanState) :
    readEntries fs includeSubfolders memory current (name :: names) state = state ∨
      ∃ after, (after = state ∨ (∃ entry, pushDirectory memory state entry = some after) ∨
          ∃ entry, addFile memory state entry = some after) ∧
        readEntries fs includeSubfolders memory current (name :: names) state =
          readEntries fs includeSubfolders memory current names after := by
  rw [readEntries]
  split
  · exact .inl rfl
  split
  · exact .inr ⟨state, .inl rfl, rfl⟩
  dsimp only
  split
  · exact .inr ⟨state, .inl rfl, rfl⟩
  split
  · split
    · exact .inr ⟨state, .inl rfl, rfl⟩
    split
    · exact .inr ⟨state, .inl rfl, rfl⟩
    split
    · exact .inl rfl
    · rename_i after pushed
      exact .inr ⟨after, .inr (.inl ⟨_, pushed⟩), rfl⟩
  · split
    · exact .inr ⟨state, .inl rfl, rfl⟩
    · split
      · exact .inl rfl
      · rename_i after added
        exact .inr ⟨after, .inr (.inr ⟨_, added⟩), rfl⟩
  · exact .inr ⟨state, .inl rfl, rfl⟩

theorem readEntries_bounds (current : DirStackEntry) (names : List Text) (state : ScanState) :
    let after := readEntries fs includeSubfolders memory current names state
    state.array.files.length ≤ after.array.files.length ∧
      after.dirStack.length ≤ state.dirStack.length + names.length ∧
      after.visited = state.visited := by
  -- The induction is on the names, and each of them keeps the three facts.
  induction names generalizing state with
  | nil => exact ⟨le_rfl, le_rfl, rfl⟩
  | cons name names ih =>
    obtain ends | ⟨after, change, goesOn⟩ := readEntries_cons current name names state
    · rw [ends]
      exact ⟨le_rfl, Nat.le_add_right _ _, rfl⟩
    · rw [goesOn, List.length_cons]
      obtain ⟨files, stack, visited⟩ := ih after
      obtain rfl | ⟨entry, pushed⟩ | ⟨entry, added⟩ := change
      · exact ⟨files, by omega, visited⟩
      · obtain ⟨onStack, same, sameVisited⟩ := pushDirectory_some pushed
        rw [same] at files
        rw [onStack, List.length_cons] at stack
        exact ⟨files, by omega, visited.trans sameVisited⟩
      · obtain ⟨onStack, more, sameVisited⟩ := addFile_some added
        rw [more, List.length_append] at files
        rw [onStack] at stack
        exact ⟨by omega, by omega, visited.trans sameVisited⟩

/-- The directories that a directory puts on the stack, the last one on top. -/
def pushedBy (fs : FileSystem) (id : DirId) (current : DirStackEntry) (names : List Text) :
    List DirStackEntry :=
  if current.depth < localScanMaxDepth then
    (names.filterMap fun name =>
      (fs.subdirectory id name).map fun _ =>
        ⟨fullPathOf current.path name, current.depth + 1⟩).reverse
  else []

theorem pushedBy_cons (fs : FileSystem) (id : DirId) (current : DirStackEntry) (name : Text)
    (names : List Text) :
    pushedBy fs id current (name :: names) =
      pushedBy fs id current names ++ pushedBy fs id current [name] := by
  unfold pushedBy
  split
  · rw [← List.reverse_append, ← List.filterMap_append]
    rfl
  · rfl

theorem readEntries_name (enough : memory.Enough) {id : DirId} {current : DirStackEntry}
    (resolved : fs.stat current.path = some (.directory id)) {name : Text} (named : name ≠ [])
    (plain : 47 ∉ name) (solid : isDotName name = false)
    (fits : (fullPathOf current.path name).length < c64AutomationPathMax)
    (below : state.array.files.length < playlistMaxFiles) (names : List Text) :
    ∃ after, readEntries fs true memory current (name :: names) state =
        readEntries fs true memory current names after ∧
      after.dirStack = pushedBy fs id current [name] ++ state.dirStack ∧
      after.array.files = state.array.files ++ (fs.listedEntry id current.path name).toList := by
  have leads := FileSystem.stat_fullPathOf resolved named plain
  rw [readEntries, if_neg (not_le.mpr below), if_neg (by rw [solid]; decide)]
  simp only [if_neg (not_le.mpr fits), leads, Bool.not_true, Bool.false_eq_true, if_false]
  unfold pushedBy FileSystem.subdirectory FileSystem.listedEntry
  -- What the name leads to decides, as it does in the specification.
  cases kind : fs.lookup id name with
  | none => exact ⟨state, rfl, by simp [kind], by simp⟩
  | some kind' =>
    cases kind' with
    | directory inner =>
      by_cases room : current.depth < localScanMaxDepth
      · obtain ⟨dirCapacity, pushed⟩ := pushDirectory_enough enough state
          ⟨fullPathOf current.path name, current.depth + 1⟩
        simp only [if_neg (not_le.mpr room), pushed]
        exact ⟨_, rfl, by simp [room, kind], by simp⟩
      · simp only [if_pos (not_lt.mp room)]
        exact ⟨state, rfl, by simp [room], by simp⟩
    | regular =>
      simp only
      cases made : playableEntry (fullPathOf current.path name) with
      | none => exact ⟨state, rfl, by simp [kind], by simp⟩
      | some entry =>
        obtain ⟨capacity, ensured⟩ := ensureFilesCapacity_enough enough below
        simp only [addFile, ensured, Option.map_some]
        exact ⟨_, rfl, by simp [kind], by simp [FileArray.add]⟩
    | other => exact ⟨state, rfl, by simp [kind], by simp⟩

theorem readEntries_enough (enough : memory.Enough) {id : DirId} {current : DirStackEntry}
    (resolved : fs.stat current.path = some (.directory id)) {names : List Text}
    (valid : ∀ name ∈ names, name ≠ [] ∧ 47 ∉ name)
    (fit : ∀ name ∈ names.filter fun name => !isDotName name,
      (fullPathOf current.path name).length < c64AutomationPathMax)
    (below : (readEntries fs true memory current names state).array.files.length <
      playlistMaxFiles) :
    (readEntries fs true memory current names state).dirStack =
        pushedBy fs id current (names.filter fun name => !isDotName name) ++ state.dirStack ∧
      (readEntries fs true memory current names state).array.files = state.array.files ++
        (names.filter fun name => !isDotName name).filterMap
          (fs.listedEntry id current.path) := by
  induction names generalizing state with
  | nil => simp [readEntries, pushedBy]
  | cons name names ih =>
    have stateBelow : state.array.files.length < playlistMaxFiles :=
      lt_of_le_of_lt (readEntries_bounds current (name :: names) state).1 below
    have validRest : ∀ name ∈ names, name ≠ [] ∧ 47 ∉ name :=
      fun other among => valid other (List.mem_cons_of_mem _ among)
    cases dot : isDotName name with
    | true =>
      have skipped : readEntries fs true memory current (name :: names) state =
          readEntries fs true memory current names state := by
        rw [readEntries, if_neg (not_le.mpr stateBelow), if_pos dot]
      have same : ((name :: names).filter fun name => !isDotName name) =
          names.filter fun name => !isDotName name :=
        List.filter_cons_of_neg (by simp [dot])
      rw [skipped] at below ⊢
      rw [same] at fit ⊢
      exact ih validRest fit below
    | false =>
      have more : ((name :: names).filter fun name => !isDotName name) =
          name :: names.filter fun name => !isDotName name :=
        List.filter_cons_of_pos (by simp [dot])
      rw [more] at fit ⊢
      obtain ⟨named, plain⟩ := valid name List.mem_cons_self
      obtain ⟨after, goesOn, stack, files⟩ := readEntries_name enough resolved named plain dot
        (fit name List.mem_cons_self) stateBelow names
      rw [goesOn] at below ⊢
      obtain ⟨stackRest, filesRest⟩ :=
        ih validRest (fun other among => fit other (List.mem_cons_of_mem _ among)) below
      rw [stackRest, filesRest, stack, files,
        pushedBy_cons fs id current name (names.filter _), List.append_assoc, List.append_assoc]
      refine ⟨rfl, ?_⟩
      cases listed : fs.listedEntry id current.path name with
      | none => rw [List.filterMap_cons_none listed]; rfl
      | some entry => rw [List.filterMap_cons_some listed]; rfl

end Entries

section Passes

variable {fs : FileSystem} {includeSubfolders : Bool} {memory : ScanMemory}
  {state next : ScanState}

theorem markVisited_some {id : DirId} {after : ScanState}
    (marked : markVisited memory state id = some after) :
    after.dirStack = state.dirStack ∧ after.array = state.array ∧
      after.visited = state.visited ++ [id] := by
  unfold markVisited at marked
  split at marked
  · dsimp only at marked
    split at marked
    · obtain rfl := Option.some.inj marked
      exact ⟨rfl, rfl, rfl⟩
    · cases marked
  · obtain rfl := Option.some.inj marked
    exact ⟨rfl, rfl, rfl⟩

theorem scanNext_some (passed : scanNext fs includeSubfolders memory state = some next) :
    ∃ current rest, state.dirStack = current :: rest ∧
      state.array.files.length < playlistMaxFiles ∧
      ((next = { state with dirStack := rest } ∧
          ∀ id, fs.stat current.path = some (.directory id) → id ∈ state.visited) ∨
        ∃ id marked, fs.stat current.path = some (.directory id) ∧ id ∉ state.visited ∧
          markVisited memory { state with dirStack := rest } id = some marked ∧
          next =
            readEntries fs includeSubfolders memory current ((fs.readdir id).getD []) marked) := by
  unfold scanNext at passed
  split at passed
  · cases passed
  · rename_i current rest stack
    split at passed
    · cases passed
    · rename_i room
      refine ⟨current, rest, stack, not_le.mp room, ?_⟩
      dsimp only at passed
      split at passed
      · rename_i id leads
        split at passed
        · rename_i seen
          refine .inl ⟨(Option.some.inj passed).symm, fun other same => ?_⟩
          obtain rfl := FileKind.directory.inj (Option.some.inj (leads.symm.trans same))
          exact seen
        · rename_i fresh
          split at passed
          · cases passed
          · rename_i marked marks
            refine .inr ⟨id, marked, leads, fresh, marks, ?_⟩
            split at passed
            · rename_i unreadable
              rw [unreadable]
              exact (Option.some.inj passed).symm
            · rename_i names readable
              rw [readable]
              exact (Option.some.inj passed).symm
      · rename_i other
        exact .inl ⟨(Option.some.inj passed).symm, fun id same => absurd same (other id)⟩

/-- The directories on the stack, and the names of those that were not visited. -/
def scanPotential (fs : FileSystem) (state : ScanState) : Nat :=
  state.dirStack.length +
    ∑ id ∈ fs.directories \ state.visited.toFinset, ((fs.readdir id).getD []).length

theorem scanNext_bounds (passed : scanNext fs includeSubfolders memory state = some next) :
    scanPotential fs next < scanPotential fs state ∧
      state.array.files.length ≤ next.array.files.length := by
  obtain ⟨current, rest, stack, _, ⟨rfl, _⟩ | ⟨id, marked, leads, fresh, marks, rfl⟩⟩ :=
    scanNext_some passed
  · refine ⟨?_, le_rfl⟩
    rw [scanPotential, scanPotential, stack, List.length_cons]
    exact Nat.add_lt_add_right (Nat.lt_succ_self _) _
  · obtain ⟨markedStack, markedFiles, markedVisited⟩ := markVisited_some marks
    obtain ⟨files, stackBound, visited⟩ :=
      @readEntries_bounds fs includeSubfolders memory current ((fs.readdir id).getD []) marked
    refine ⟨?_, by rwa [markedFiles] at files⟩
    -- The names of the directory move from those not visited to the stack.
    have among : id ∈ fs.directories \ state.visited.toFinset := by
      rw [Finset.mem_sdiff, List.mem_toFinset]
      exact ⟨FileSystem.stat_mem leads, fresh⟩
    have less : fs.directories \ (state.visited ++ [id]).toFinset =
        (fs.directories \ state.visited.toFinset).erase id := by
      ext other
      simp only [Finset.mem_sdiff, List.mem_toFinset, List.mem_append, List.mem_singleton,
        Finset.mem_erase]
      tauto
    have total := Finset.add_sum_erase _
      (fun id => ((fs.readdir id).getD []).length) among
    rw [markedStack] at stackBound
    rw [scanPotential, scanPotential, visited, markedVisited, less, stack, List.length_cons]
    dsimp only at total stackBound ⊢
    omega

theorem scanLoop_ends {fuel : Nat} (enough : scanPotential fs state < fuel) :
    ∃ last, scanLoop fs includeSubfolders memory fuel state = some last := by
  induction fuel generalizing state with
  | zero => exact absurd enough (Nat.not_lt_zero _)
  | succ fuel ih =>
    rw [scanLoop]
    cases passed : scanNext fs includeSubfolders memory state with
    | none => exact ⟨state, rfl⟩
    | some next =>
      have := (scanNext_bounds passed).1
      exact ih (by omega)

end Passes

section Refinement

variable {fs : FileSystem} {memory : ScanMemory} {folderPath : Text} {state after : ScanState}

/-- A directory on the stack as it waits in a search. -/
def waitingOf (fs : FileSystem) (entry : DirStackEntry) : Option (DirId × Nat) :=
  match fs.stat entry.path with
  | some (.directory id) => some (id, entry.depth)
  | _ => none

/-- The search that the loop makes. -/
def ScanState.search (fs : FileSystem) (state : ScanState) : CappedSearch DirId where
  waiting := state.dirStack.filterMap (waitingOf fs)
  entered := state.visited

/-- The stack holds directories that were reached along scanned paths, no directory was visited
twice, and the files are those of the visited ones. -/
structure ScanSound (fs : FileSystem) (folderPath : Text) (state : ScanState) : Prop where
  stack : ∀ entry ∈ state.dirStack, entry.depth ≤ localScanMaxDepth ∧
    ∃ id, ScanPath fs folderPath entry.depth entry.path id
  nodup : state.visited.Nodup
  files : ∃ places : List (DirId × Text), places.map Prod.fst = state.visited ∧
    (∀ place ∈ places, fs.stat place.2 = some (.directory place.1)) ∧
    state.array.files = places.flatMap fs.listed

theorem pushedBy_scanned {id : DirId} {current : DirStackEntry}
    (scanned : ScanPath fs folderPath current.depth current.path id) :
    ∀ entry ∈ pushedBy fs id current (fs.namesOf id), entry.depth ≤ localScanMaxDepth ∧
      ∃ inner, ScanPath fs folderPath entry.depth entry.path inner := by
  intro entry among
  unfold pushedBy at among
  split at among
  · rename_i room
    obtain ⟨name, named, made⟩ := List.mem_filterMap.mp (List.mem_reverse.mp among)
    obtain ⟨inner, leads, rfl⟩ := Option.map_eq_some_iff.mp made
    exact ⟨room, inner, .inner scanned named leads⟩
  · cases among

theorem pushedBy_waiting {id : DirId} {current : DirStackEntry}
    (resolved : fs.stat current.path = some (.directory id)) :
    (pushedBy fs id current (fs.namesOf id)).filterMap (waitingOf fs) =
      CappedSearch.met fs.links localScanMaxDepth id current.depth := by
  unfold pushedBy CappedSearch.met
  split
  · rw [List.filterMap_reverse, List.filterMap_filterMap, FileSystem.links, List.map_filterMap]
    refine congrArg List.reverse (List.filterMap_congr fun name among => ?_)
    obtain ⟨named, plain⟩ := FileSystem.namesOf_valid among
    have leads := FileSystem.stat_fullPathOf resolved named plain
    unfold FileSystem.subdirectory
    cases kind : fs.lookup id name with
    | none => rfl
    | some kind' =>
      cases kind' with
      | directory inner =>
        rw [kind] at leads
        simp only [Option.map_some, Option.bind_some, waitingOf, leads]
      | regular => rfl
      | other => rfl
  · rfl

theorem ScanSound.step (enough : memory.Enough) (fit : fs.PathsFit folderPath)
    (sound : ScanSound fs folderPath state) (passed : scanNext fs true memory state = some after)
    (below : after.array.files.length < playlistMaxFiles) :
    ScanSound fs folderPath after ∧
      after.search fs = (state.search fs).next fs.links localScanMaxDepth := by
  obtain ⟨current, rest, stack, _, ⟨rfl, seen⟩ | ⟨id, marked, leads, fresh, marks, rfl⟩⟩ :=
    scanNext_some passed
  all_goals obtain ⟨depth, id', scanned⟩ := sound.stack current (stack ▸ List.mem_cons_self)
  · refine ⟨⟨fun entry among => sound.stack entry (stack ▸ List.mem_cons_of_mem _ among),
      sound.nodup, sound.files⟩, ?_⟩
    have waits : waitingOf fs current = some (id', current.depth) := by
      rw [waitingOf, scanned.resolved]
    rw [CappedSearch.next, ScanState.search, ScanState.search, stack,
      List.filterMap_cons_some waits]
    simp only [if_pos (seen id' scanned.resolved)]
  · obtain rfl := FileKind.directory.inj (Option.some.inj (leads.symm.trans scanned.resolved))
    obtain ⟨markedStack, markedFiles, markedVisited⟩ := markVisited_some marks
    have visited :=
      (@readEntries_bounds fs true memory current ((fs.readdir id).getD []) marked).2.2
    have valid : ∀ name ∈ (fs.readdir id).getD [], name ≠ [] ∧ 47 ∉ name := by
      cases read : fs.readdir id with
      | none => exact fun _ among => by cases among
      | some list => exact fs.names id list read
    obtain ⟨pushed, files⟩ := readEntries_enough enough leads valid
      (fun name among => fit.2 current.depth depth current.path id scanned name among) below
    have waits : waitingOf fs current = some (id, current.depth) := by
      rw [waitingOf, leads]
    refine ⟨⟨?_, ?_, ?_⟩, ?_⟩
    · intro entry among
      rw [pushed, markedStack] at among
      obtain new | old := List.mem_append.mp among
      · exact pushedBy_scanned scanned entry new
      · exact sound.stack entry (stack ▸ List.mem_cons_of_mem _ old)
    · rw [visited, markedVisited]
      refine List.nodup_append.mpr ⟨sound.nodup, List.nodup_singleton _, ?_⟩
      rintro other among last final rfl
      exact fresh (List.mem_singleton.mp final ▸ among)
    · obtain ⟨places, ids, resolves, listed⟩ := sound.files
      refine ⟨places ++ [(id, current.path)], ?_, ?_, ?_⟩
      · rw [visited, markedVisited, List.map_append, ids]
        rfl
      · intro place among
        obtain old | new := List.mem_append.mp among
        · exact resolves place old
        · obtain rfl := List.mem_singleton.mp new
          exact leads
      · rw [files, markedFiles, listed, List.flatMap_append, List.flatMap_singleton]
        rfl
    · rw [CappedSearch.next, ScanState.search, ScanState.search, stack,
        List.filterMap_cons_some waits, pushed, markedStack, List.filterMap_append,
        visited, markedVisited]
      simp only [if_neg fresh]
      exact congrArg (CappedSearch.mk · _) (congrArg (· ++ _) (pushedBy_waiting leads))

end Refinement

section Runs

variable {fs : FileSystem} {includeSubfolders : Bool} {memory : ScanMemory} {folderPath : Text}
  {root : DirId} {start last : ScanState}

/-- The state of a loop after some passes, if it has not ended before. -/
def scanAfter (fs : FileSystem) (includeSubfolders : Bool) (memory : ScanMemory)
    (start : ScanState) : Nat → Option ScanState
  | 0 => some start
  | n + 1 => (scanAfter fs includeSubfolders memory start n).bind
      (scanNext fs includeSubfolders memory)

theorem scanAfter_next {next : ScanState}
    (passed : scanNext fs includeSubfolders memory start = some next) (n : Nat) :
    scanAfter fs includeSubfolders memory start (n + 1) =
      scanAfter fs includeSubfolders memory next n := by
  induction n with
  | zero => exact passed
  | succ n ih =>
    rw [scanAfter, ih]
    rfl

theorem scanLoop_some {fuel : Nat}
    (ended : scanLoop fs includeSubfolders memory fuel start = some last) :
    ∃ n, scanAfter fs includeSubfolders memory start n = some last ∧
      scanNext fs includeSubfolders memory last = none := by
  induction fuel generalizing start with
  | zero => cases ended
  | succ fuel ih =>
    rw [scanLoop] at ended
    cases passed : scanNext fs includeSubfolders memory start with
    | none =>
      rw [passed] at ended
      obtain rfl := Option.some.inj ended
      exact ⟨0, rfl, passed⟩
    | some next =>
      rw [passed] at ended
      obtain ⟨n, reached, stops⟩ := ih ended
      exact ⟨n + 1, (scanAfter_next passed n).trans reached, stops⟩

theorem scanAfter_before {n k : Nat} (before : k ≤ n)
    (reached : scanAfter fs includeSubfolders memory start n = some last) :
    ∃ state, scanAfter fs includeSubfolders memory start k = some state ∧
      state.array.files.length ≤ last.array.files.length := by
  induction n generalizing last with
  | zero =>
    obtain rfl := Nat.le_zero.mp before
    exact ⟨last, reached, le_rfl⟩
  | succ n ih =>
    obtain rfl | earlier := Nat.eq_or_lt_of_le before
    · exact ⟨last, reached, le_rfl⟩
    · obtain ⟨middle, reachedMiddle, passed⟩ := Option.bind_eq_some_iff.mp reached
      obtain ⟨state, there, fewer⟩ := ih (by omega) reachedMiddle
      exact ⟨state, there, fewer.trans (scanNext_bounds passed).2⟩

theorem scanAfter_search (enough : memory.Enough) (fit : fs.PathsFit folderPath)
    (resolved : fs.stat folderPath = some (.directory root)) {n : Nat}
    (reached : scanAfter fs true memory (scanStart {} folderPath) n = some last)
    (below : last.array.files.length < playlistMaxFiles) :
    ScanSound fs folderPath last ∧
      last.search fs = CappedSearch.after fs.links localScanMaxDepth root n := by
  induction n generalizing last with
  | zero =>
    obtain rfl := Option.some.inj reached
    have whole : copyField c64AutomationPathMax folderPath = folderPath :=
      List.take_of_length_le (by have := fit.1; omega)
    have waits : waitingOf fs ⟨folderPath, 0⟩ = some (root, 0) := by
      rw [waitingOf, resolved]
    refine ⟨⟨?_, List.nodup_nil, [], rfl, (fun _ among => by cases among), rfl⟩, ?_⟩
    · intro entry among
      obtain rfl := List.mem_singleton.mp among
      rw [whole]
      exact ⟨Nat.zero_le _, root, .folder resolved⟩
    · rw [ScanState.search, scanStart, whole, List.filterMap_cons_some waits]
      rfl
  | succ n ih =>
    obtain ⟨middle, reachedMiddle, passed⟩ := Option.bind_eq_some_iff.mp reached
    obtain ⟨sound, search⟩ :=
      ih reachedMiddle (lt_of_le_of_lt (scanNext_bounds passed).2 below)
    obtain ⟨soundAfter, searchAfter⟩ := sound.step enough fit passed below
    exact ⟨soundAfter, by rw [searchAfter, search, CappedSearch.after]⟩

theorem scanNext_none (enough : memory.Enough)
    (stops : scanNext fs includeSubfolders memory last = none)
    (below : last.array.files.length < playlistMaxFiles) : last.dirStack = [] := by
  unfold scanNext at stops
  split at stops
  · assumption
  · rename_i current rest stack
    rw [if_neg (not_le.mpr below)] at stops
    dsimp only at stops
    split at stops
    · rename_i id leads
      obtain ⟨visitedCapacity, marks⟩ :=
        markVisited_enough enough { last with dirStack := rest } id
      rw [marks] at stops
      split at stops
      · cases stops
      · dsimp only at stops
        split at stops <;> cases stops
    · cases stops

end Runs

section Coverage

variable {fs : FileSystem} {memory : ScanMemory} {folderPath : Text} {root : DirId}

theorem listed_directory {place other : DirId × Text} {entry : FileEntry}
    (resolved : fs.stat place.2 = some (.directory place.1))
    (resolvedToo : fs.stat other.2 = some (.directory other.1)) (among : entry ∈ fs.listed place)
    (amongToo : entry ∈ fs.listed other) : place.1 = other.1 := by
  have pathOf : ∀ {place : DirId × Text}, entry ∈ fs.listed place →
      ∃ name, 47 ∉ name ∧ entry.path = fullPathOf place.2 name := by
    intro place among
    obtain ⟨name, named, made⟩ := List.mem_filterMap.mp among
    refine ⟨name, (FileSystem.namesOf_valid named).2, ?_⟩
    unfold FileSystem.listedEntry at made
    split at made
    · exact playableEntry_path made
    · cases made
  obtain ⟨name, plain, path⟩ := pathOf among
  obtain ⟨name', plain', path'⟩ := pathOf amongToo
  have same := fullPathOf_inj plain plain' (path.symm.trans path')
  rw [same] at resolved
  exact FileKind.directory.inj (Option.some.inj (resolved.symm.trans resolvedToo))

theorem ScanSound.covered_iff {last : ScanState} (sound : ScanSound fs folderPath last)
    (within : ∀ id ∈ last.visited, fs.Within root id) :
    fs.Covered root last.array.files ↔
      ∀ id, fs.HasPlayable id → fs.Within root id → id ∈ last.visited := by
  obtain ⟨visited, ids, resolves, listed⟩ := sound.files
  constructor
  · rintro ⟨places, _, resolved, all, perm⟩ id playable inside
    obtain ⟨place, among, rfl⟩ := List.mem_map.mp (all id inside playable)
    -- One of its files is in the list, so it was listed for a visited directory.
    obtain ⟨entry, entryAmong⟩ :=
      List.exists_mem_of_ne_nil _ (FileSystem.hasPlayable_iff.mp playable)
    have inFiles := perm.mem_iff.mpr (List.mem_flatMap.mpr ⟨place, among, entryAmong⟩)
    rw [listed] at inFiles
    obtain ⟨other, otherAmong, listedThere⟩ := List.mem_flatMap.mp inFiles
    rw [listed_directory (resolved place among).1 (resolves other otherAmong) entryAmong
      listedThere, ← ids]
    exact List.mem_map_of_mem otherAmong
  · intro all
    refine ⟨visited, ids ▸ sound.nodup, fun place among => ⟨resolves place among, ?_⟩, ?_,
      listed ▸ .refl _⟩
    · exact within _ (ids ▸ List.mem_map_of_mem among)
    · exact fun id inside playable => ids ▸ all id playable inside

theorem scan_covered_iff (enough : memory.Enough) (fit : fs.PathsFit folderPath)
    (resolved : fs.stat folderPath = some (.directory root)) {fuel : Nat} {last : ScanState}
    (ended : scanLoop fs true memory fuel (scanStart {} folderPath) = some last)
    (below : last.array.files.length < playlistMaxFiles) :
    fs.Covered root last.array.files ↔
      ∀ k state, scanAfter fs true memory (scanStart {} folderPath) k = some state →
        ∀ id, fs.HasPlayable id → (state.search fs).Keeps fs.links localScanMaxDepth id := by
  obtain ⟨n, reached, stops⟩ := scanLoop_some ended
  have empty := scanNext_none enough stops below
  obtain ⟨sound, search⟩ := scanAfter_search enough fit resolved reached below
  have entered : (CappedSearch.after fs.links localScanMaxDepth root n).entered = last.visited := by
    rw [← search]
    rfl
  have done : (CappedSearch.after fs.links localScanMaxDepth root n).waiting = [] := by
    rw [← search, ScanState.search, empty]
    rfl
  have covers := @CappedSearch.entered_iff_keeps _ _ _ _ _ fs.HasPlayable _ done
  rw [sound.covered_iff fun id among =>
    CappedSearch.after_within n (.inr (entered ▸ among)), ← entered]
  refine covers.trans ?_
  constructor
  · intro keeps k state there id playable
    obtain earlier | rfl | later := Nat.lt_trichotomy k n
    · obtain ⟨state', there', fewer⟩ := scanAfter_before earlier.le reached
      obtain rfl := Option.some.inj (there.symm.trans there')
      rw [(scanAfter_search enough fit resolved there (lt_of_le_of_lt fewer below)).2]
      exact keeps k earlier id playable
    · obtain rfl := Option.some.inj (there.symm.trans reached)
      intro vertex depth rest waits
      rw [ScanState.search, empty] at waits
      cases waits
    · -- Behind its last pass the loop has no state.
      obtain ⟨state', there', -⟩ := scanAfter_before later there
      rw [scanAfter, reached, Option.bind_some, stops] at there'
      cases there'
  · intro keeps k before id playable
    obtain ⟨state, there, fewer⟩ := scanAfter_before before.le reached
    rw [← (scanAfter_search enough fit resolved there (lt_of_le_of_lt fewer below)).2]
    exact keeps k state there id playable

end Coverage

section Order

theorem swapFiles_perm (files : List FileEntry) (i j : Nat) : (swapFiles files i j).Perm files := by
  unfold swapFiles
  split
  · rename_i first second there thereToo
    obtain ⟨small, rfl⟩ := List.getElem?_eq_some_iff.mp there
    obtain ⟨smallToo, rfl⟩ := List.getElem?_eq_some_iff.mp thereToo
    exact List.set_set_perm small smallToo
  · exact .refl _

theorem shuffleFiles_perm (seed : UInt32) (files : List FileEntry) :
    (shuffleFiles seed files).Perm files := by
  have loop : ∀ (i : Nat) (seed : UInt32) (files : List FileEntry),
      (shuffleLoop i seed files).Perm files := by
    intro i
    induction i with
    | zero => exact fun _ _ => .refl _
    | succ i ih => exact fun _ _ => (ih _ _).trans (swapFiles_perm _ _ _)
  unfold shuffleFiles
  split
  · exact .refl _
  · exact loop _ _ _

theorem sortFiles_perm (sorting : SortFunction FileEntry.pathKey) (files : List FileEntry) :
    (sortFiles sorting files).Perm files := by
  unfold sortFiles
  split
  · exact .refl _
  · exact sorting.perm files

theorem sortFiles_sorted (sorting : SortFunction FileEntry.pathKey) (files : List FileEntry) :
    (sortFiles sorting files).Pairwise fun first second => first.pathKey ≤ second.pathKey := by
  unfold sortFiles
  split
  · rename_i short
    match files with
    | [] => exact .nil
    | [_] => exact List.pairwise_singleton _ _
    | _ :: _ :: _ => simp at short
  · exact sorting.sorted files

theorem c64AutomationBuildPlaylist_local {fs : FileSystem}
    {sorting : SortFunction FileEntry.pathKey} {meets : BuildMeets} {fuel : Nat}
    {config : PlaylistConfig} (folder : config.mode = .folder) (onDisk : config.fromC64u = false)
    {scanned : FileArray}
    (scan : c64AutomationScanLocal fs config.includeSubfolders meets.memory fuel {}
      config.folderPath = some scanned) :
    ∃ playlist, c64AutomationBuildPlaylist fs sorting meets fuel config = some playlist ∧
      (playlist.getD []).Perm scanned.files ∧
      (config.shuffle = false →
        (playlist.getD []).Pairwise fun first second => first.pathKey ≤ second.pathKey) := by
  unfold c64AutomationBuildPlaylist
  simp only [folder, onDisk, Bool.false_eq_true, if_false, scan, Option.bind_eq_bind,
    Option.bind_some, Option.pure_def]
  split
  · rename_i none
    exact ⟨_, rfl, by rw [none]; exact .refl _, fun _ => .nil⟩
  · split
    · rename_i shuffled
      exact ⟨_, rfl, shuffleFiles_perm _ _, fun not => absurd (shuffled.symm.trans not) (by decide)⟩
    · exact ⟨_, rfl, sortFiles_perm _ _, fun _ => sortFiles_sorted _ _⟩

theorem covered_nil_iff {fs : FileSystem} {root : DirId} :
    fs.Covered root [] ↔ ∀ id, fs.Within root id → ¬fs.HasPlayable id := by
  constructor
  · rintro ⟨places, _, _, all, perm⟩ id inside playable
    obtain ⟨place, among, rfl⟩ := List.mem_map.mp (all id inside playable)
    have none := List.flatMap_eq_nil_iff.mp (List.nil_perm.mp perm) place among
    exact FileSystem.hasPlayable_iff.mp playable none
  · intro none
    exact ⟨[], .nil, (fun _ among => by cases among),
      (fun id inside playable => absurd playable (none id inside)), .refl _⟩

end Order

section Playlist

variable (fs : FileSystem) (sorting : SortFunction FileEntry.pathKey) (meets : BuildMeets)
  (config : PlaylistConfig)

end Playlist

section Examples

/-- A file system with the given names in its directories, all of them readable. -/
def FileSystem.ofEntries (root : DirId) (entries : List (DirId × Text × FileKind))
    (valid : ∀ entry ∈ entries, entry.2.1 ≠ [] ∧ 47 ∉ entry.2.1) : FileSystem where
  directories := insert root (entries.filterMap fun entry => match entry.2.2 with
    | .directory id => some id
    | _ => none).toFinset
  root := root
  workingDirectory := root
  lookup id name := (entries.find? fun entry => entry.1 = id ∧ entry.2.1 = name).map (·.2.2)
  readdir id := some ((entries.filter fun entry => entry.1 = id).map (·.2.1))
  roots := ⟨Finset.mem_insert_self _ _, Finset.mem_insert_self _ _⟩
  lookups id name inner found := by
    obtain ⟨entry, there, leads⟩ := Option.map_eq_some_iff.mp found
    refine Finset.mem_insert_of_mem (List.mem_toFinset.mpr (List.mem_filterMap.mpr
      ⟨entry, List.mem_of_find?_eq_some there, ?_⟩))
    rw [leads]
  names id list read name among := by
    obtain rfl := Option.some.inj read
    obtain ⟨entry, there, rfl⟩ := List.mem_map.mp among
    exact valid entry (List.mem_of_mem_filter there)

theorem FileSystem.pathsFit_of_short {fs : FileSystem} {folderPath : Text} {bound : Nat}
    (short : ∀ id, ∀ name ∈ fs.namesOf id, name.length ≤ bound)
    (fits : folderPath.length + 65 * (bound + 1) < c64AutomationPathMax) :
    fs.PathsFit folderPath := by
  refine ⟨by omega, fun n within path id scanned name among => ?_⟩
  have length : path.length ≤ folderPath.length + n * (bound + 1) := by
    clear within among
    induction scanned with
    | folder => omega
    | @inner n path name id inner outer among leads ih =>
      have := short id name among
      rw [fullPathOf, List.length_append, List.length_cons, Nat.succ_mul]
      omega
  have := short id name among
  have steps : n * (bound + 1) ≤ 64 * (bound + 1) := Nat.mul_le_mul_right _ within
  rw [fullPathOf, List.length_append, List.length_cons]
  omega

/-- A directory of a disk. -/
def onDisk (inode : Nat) : DirId :=
  ⟨1, inode⟩

/-- The entries of two directories that lead to each other, with a file in each. -/
def cyclicEntries : List (DirId × Text × FileKind) :=
  [(onDisk 0, text "m", .directory (onDisk 1)), (onDisk 1, text "a.sid", .regular),
    (onDisk 1, text "in", .directory (onDisk 2)), (onDisk 2, text "b.prg", .regular),
    (onDisk 2, text "out", .directory (onDisk 1))]

/-- Two directories that lead to each other. -/
def cyclicFolder : FileSystem :=
  .ofEntries (onDisk 0) cyclicEntries (by decide)

/-- The settings that play a folder in the order of its paths. -/
def playFolder : PlaylistConfig where
  mode := .folder
  fromC64u := false
  folderPath := text "/m"
  includeSubfolders := true
  shuffle := false

/-- Memory for everything. -/
def plenty : BuildMeets where
  memory := ⟨fun _ => true, fun _ => true, fun _ => true⟩
  single := true
  deviceFiles := {}
  seed := 0

/-- A folder with a chain of 64 directories, whose last one is also in the folder itself and leads
to a directory with a song. -/
def chainEntries : List (DirId × Text × FileKind) :=
  [(onDisk 0, text "m", .directory (onDisk 1)), (onDisk 1, text "x", .directory (onDisk 65))] ++
    (List.range 64).map (fun i => (onDisk (i + 1), text "d", .directory (onDisk (i + 2)))) ++
    [(onDisk 65, text "e", .directory (onDisk 66)), (onDisk 66, text "s.sid", .regular)]

/-- The folder with the chain. -/
def chainFolder : FileSystem :=
  .ofEntries (onDisk 0) chainEntries (by decide +kernel)

end Examples

end C64Stream
