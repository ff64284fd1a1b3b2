import C64Stream.Automation.Items

/-! The playlist gets to its end exactly where every file can be loaded. -/

namespace C64Stream

section Quiet

/-- Nothing in a list of events takes up an item or shows a text. -/
def Quiet (events : List WorkerEvent) : Prop :=
  ∀ event ∈ events, (∀ item, event ≠ .begins item) ∧ ∀ message, event ≠ .status message

theorem Quiet.append {first second : List WorkerEvent} (left : Quiet first)
    (right : Quiet second) : Quiet (first ++ second) := by
  intro event member
  rcases List.mem_append.mp member with among | among
  · exact left event among
  · exact right event among

theorem Quiet.cons {event : WorkerEvent} {events : List WorkerEvent}
    (here : (∀ item, event ≠ .begins item) ∧ ∀ message, event ≠ .status message)
    (rest : Quiet events) : Quiet (event :: events) := by
  intro other member
  rcases List.mem_cons.mp member with rfl | among
  · exact here
  · exact rest other among

theorem quiet_nil : Quiet [] := by
  intro event member
  cases member

theorem begun_append (first second : List WorkerEvent) :
    begun (first ++ second) = begun first ++ begun second := by
  simp only [begun, List.filterMap_append]

theorem Quiet.begun {events : List WorkerEvent} (quiet : Quiet events) : begun events = [] := by
  unfold C64Stream.begun
  rw [List.filterMap_eq_nil_iff]
  intro event member
  cases event with
  | begins item => exact absurd rfl ((quiet _ member).1 item)
  | _ => rfl

theorem lastStatus_append {first second : List WorkerEvent} {message : Text}
    (later : lastStatus second = some message) : lastStatus (first ++ second) = some message := by
  unfold lastStatus at later ⊢
  rw [List.filterMap_append, List.getLast?_append, later]
  rfl

theorem resetDevice_quiet : Quiet resetDevice :=
  Quiet.cons ⟨nofun, nofun⟩ (Quiet.cons ⟨nofun, nofun⟩ quiet_nil)

theorem typeAutostart_quiet (keyboard : Bool) (template : Text) :
    Quiet (typeAutostart keyboard template) := by
  intro event member
  unfold typeAutostart at member
  split at member
  · obtain ⟨petscii, _, rfl⟩ := List.mem_map.mp member
    exact ⟨nofun, nofun⟩
  · cases member

theorem mountItem_quiet (config : AutomationConfig) (keyboard : Bool) (meets : ItemMeets)
    (mount : RestCall) : Quiet (mountItem config keyboard meets mount) := by
  unfold mountItem
  refine Quiet.append ?_ (Quiet.cons ⟨nofun, nofun⟩ ?_)
  · split
    · exact resetDevice_quiet
    · exact quiet_nil
  · split
    · exact typeAutostart_quiet _ _
    · exact quiet_nil

theorem call_quiet (request : RestCall) : Quiet [.call request] :=
  Quiet.cons ⟨nofun, nofun⟩ quiet_nil

theorem startItem_quiet {config : AutomationConfig} {keyboard : Bool} {file : FileEntry}
    {meets : ItemMeets} {events : List WorkerEvent}
    (started : startItem config keyboard file meets = some events) : Quiet events := by
  unfold startItem at started
  split at started
  · -- The item is on the device.
    obtain rfl := Option.some.inj started
    unfold startPath
    cases file.type with
    | sid | mod | prg | crt => exact call_quiet _
    | d64 | g64 | d71 | g71 | d81 => exact mountItem_quiet _ _ _ _
  · -- The item was loaded.
    obtain ⟨data, _, rfl⟩ := Option.map_eq_some_iff.mp started
    unfold startData
    cases file.type with
    | sid | mod | prg | crt => exact call_quiet _
    | d64 | g64 | d71 | g71 | d81 => exact mountItem_quiet _ _ _ _

theorem waitForDuration_quiet (durationMs elapsedMs : Int) :
    Quiet (waitForDuration durationMs elapsedMs) := by
  induction elapsedMs using waitForDuration.induct durationMs with
  | case1 elapsedMs past =>
    rw [waitForDuration, if_pos past]
    exact quiet_nil
  | case2 elapsedMs goesOn ih =>
    rw [waitForDuration, if_neg goesOn]
    exact Quiet.cons ⟨nofun, nofun⟩ ih

theorem resetAfter_quiet (config : AutomationConfig) (file : FileEntry) :
    Quiet (resetAfter config file) := by
  unfold resetAfter
  split
  · exact resetDevice_quiet
  · exact quiet_nil

end Quiet

section Passes

variable {config : AutomationConfig} {keyboard : Bool}

theorem startItem_isSome_iff (file : FileEntry) (meets : ItemMeets) :
    (startItem config keyboard file meets).isSome = true ↔
      config.fromC64u = true ∨ (loadFile meets.opened).isSome = true := by
  unfold startItem
  split
  · rename_i onDevice
    exact ⟨fun _ => .inl onDevice, fun _ => rfl⟩
  · rename_i onDisk
    rw [Option.isSome_map]
    exact ⟨.inr, fun loads => loads.resolve_left onDisk⟩

theorem automationPass_cases (config : AutomationConfig) (keyboard : Bool) (numFiles i : Nat)
    (file : FileEntry) (meets : ItemMeets) :
    ((startItem config keyboard file meets).isSome = false ∧
      ∃ events, automationPass config keyboard numFiles i file meets = (i, events) ∧
        begun events = [i]) ∨
    ((startItem config keyboard file meets).isSome = true ∧
      ∃ events, automationPass config keyboard numFiles i file meets = (i + 1, events) ∧
        begun events = [i]) := by
  unfold automationPass
  cases start : startItem config keyboard file meets with
  | none => exact .inl ⟨rfl, _, rfl, rfl⟩
  | some started =>
    refine .inr ⟨rfl, _, rfl, ?_⟩
    -- Only the first event takes up an item; all that follow are quiet.
    rw [List.append_assoc, List.append_assoc, begun_append,
      ((startItem_quiet start).append
        ((waitForDuration_quiet _ _).append (resetAfter_quiet _ _))).begun, List.append_nil]
    rfl

end Passes

section Loop

variable {config : AutomationConfig} {keyboard : Bool} {files : List FileEntry}
  {meets : Nat → ItemMeets}

theorem automationLoop_end (fuel passes i : Nat) (behind : files.length ≤ i) :
    automationLoop config keyboard files meets (fuel + 1) passes i =
      some [.status (text "completed")] := by
  rw [automationLoop, List.getElem?_eq_none behind]

theorem automationLoop_pass (fuel passes i : Nat) {file : FileEntry} {next : Nat}
    {events : List WorkerEvent} (found : files[i]? = some file)
    (pass : automationPass config keyboard files.length i file (meets passes) = (next, events)) :
    automationLoop config keyboard files meets (fuel + 1) passes i =
      (automationLoop config keyboard files meets fuel (passes + 1) next).map (events ++ ·) := by
  rw [automationLoop, found]
  simp only [pass]

theorem automationLoop_completes (left : Nat) (passes i : Nat) (size : files.length - i = left)
    (loads : ∀ file, ∀ pass < left,
      (startItem config keyboard file (meets (passes + pass))).isSome = true) :
    ∃ events, automationLoop config keyboard files meets (left + 1) passes i = some events ∧
      begun events = List.range' i left ∧ lastStatus events = some (text "completed") := by
  induction left generalizing passes i with
  | zero => exact ⟨_, automationLoop_end 0 passes i (by omega), rfl, rfl⟩
  | succ left ih =>
    have within : i < files.length := by omega
    have here := loads files[i] 0 (by omega)
    obtain ⟨fails, _⟩ | ⟨_, events, pass, items⟩ :=
      automationPass_cases config keyboard files.length i files[i]
        (meets passes)
    · -- The item can be started.
      rw [Nat.add_zero] at here
      rw [here] at fails
      cases fails
    · obtain ⟨rest, run, others, last⟩ := ih (passes + 1) (i + 1) (by omega)
        fun file pass below => by
          rw [Nat.add_right_comm]
          exact loads file (pass + 1) (by omega)
      refine ⟨events ++ rest, ?_, ?_, lastStatus_append last⟩
      · rw [automationLoop_pass _ _ _ (List.getElem?_eq_getElem within) pass, run]
        rfl
      · rw [begun_append, items, others]
        rfl

theorem automationLoop_begins {fuel passes i : Nat} (within : i < files.length)
    {events : List WorkerEvent}
    (run : automationLoop config keyboard files meets fuel passes i = some events) :
    ∃ later, begun events = i :: later := by
  cases fuel with
  | zero => cases run
  | succ fuel =>
    have step : ∃ next first, automationPass config keyboard files.length i files[i]
        (meets passes) = (next, first) ∧ begun first = [i] := by
      obtain ⟨_, first, pass, items⟩ | ⟨_, first, pass, items⟩ :=
        automationPass_cases config keyboard files.length i files[i]
          (meets passes)
      · exact ⟨i, first, pass, items⟩
      · exact ⟨i + 1, first, pass, items⟩
    obtain ⟨next, first, pass, items⟩ := step
    rw [automationLoop_pass _ _ _ (List.getElem?_eq_getElem within) pass] at run
    obtain ⟨rest, _, rfl⟩ := Option.map_eq_some_iff.mp run
    exact ⟨begun rest, by rw [begun_append, items]; rfl⟩

theorem automationLoop_loads {fuel passes i left : Nat} (size : files.length - i = left)
    {events : List WorkerEvent}
    (run : automationLoop config keyboard files meets fuel passes i = some events)
    (items : begun events = List.range' i left) :
    ∀ pass < left, config.fromC64u = true ∨ (loadFile (meets (passes + pass)).opened).isSome := by
  induction left generalizing fuel passes i events with
  | zero => exact fun pass below => absurd below (by omega)
  | succ left ih =>
    have within : i < files.length := by omega
    cases fuel with
    | zero => cases run
    | succ fuel =>
      obtain ⟨fails, first, pass, taken⟩ | ⟨starts, first, pass, taken⟩ :=
        automationPass_cases config keyboard files.length i files[i]
          (meets passes)
      · -- The same item would be taken up twice.
        rw [automationLoop_pass _ _ _ (List.getElem?_eq_getElem within) pass] at run
        obtain ⟨rest, again, rfl⟩ := Option.map_eq_some_iff.mp run
        obtain ⟨later, repeated⟩ := automationLoop_begins within again
        rw [begun_append, taken, repeated] at items
        cases left with
        | zero => simp at items
        | succ left => simp [List.range'_succ] at items
      · rw [automationLoop_pass _ _ _ (List.getElem?_eq_getElem within) pass] at run
        obtain ⟨rest, goesOn, rfl⟩ := Option.map_eq_some_iff.mp run
        rw [begun_append, taken, List.range'_succ] at items
        have others := ih (by omega) goesOn (List.cons.inj items).2
        rintro (_ | pass) below
        · exact (startItem_isSome_iff _ _).mp starts
        · have := others pass (by omega)
          rwa [Nat.add_right_comm] at this

end Loop

section Simulation

variable {config : AutomationConfig} {keyboard : Bool} {automation : Automation}

/-- Nobody asks the worker for anything. -/
structure Calm (automation : Automation) : Prop where
  noSkip : automation.skipRequested = false
  noStop : automation.shouldStop = false

theorem waitForDuration_simulated (calm : Calm automation) (durationSeconds : Int)
    (songlengthMsOverride elapsedMs : Int) :
    ∃ met : List Meets,
      met.foldl automationWorker { automation with pc := .wait songlengthMsOverride elapsedMs } =
        { automation with pc := .afterWait } ∧
      met.length = (waitForDuration (durationMs songlengthMsOverride durationSeconds)
        elapsedMs).length + 1 := by
  obtain ⟨noSkip, noStop⟩ := calm
  induction elapsedMs using waitForDuration.induct
      (durationMs songlengthMsOverride durationSeconds) with
  | case1 elapsedMs past =>
    refine ⟨[⟨true, songlengthMsOverride, durationSeconds⟩], ?_, ?_⟩
    · simp [automationWorker, past, noSkip]
    · rw [waitForDuration, if_pos past]
      rfl
  | case2 elapsedMs goesOn ih =>
    obtain ⟨met, run, size⟩ := ih
    refine ⟨⟨true, songlengthMsOverride, durationSeconds⟩ :: met, ?_, ?_⟩
    · rw [List.foldl_cons, ← run]
      simp [automationWorker, goesOn, noSkip, noStop]
    · rw [waitForDuration, if_neg goesOn, List.length_cons, List.length_cons, size]

/-- Where the worker stands between two items, with the items that it has taken up. -/
structure AtHead (automation : Automation) (numFiles i : Nat) (items : List Int) : Prop where
  calm : Calm automation
  pc : automation.pc = .head
  size : automation.numFiles = numFiles
  item : automation.i = i
  taken : automation.starts.map Start.item = items

theorem automationPass_simulated {numFiles i : Nat} {items : List Int}
    (here : AtHead automation numFiles i items) (within : i < numFiles) (file : FileEntry)
    (meets : ItemMeets) {next : Nat} {events : List WorkerEvent}
    (pass : automationPass config keyboard numFiles i file meets = (next, events)) :
    ∃ met : List Meets, AtHead (met.foldl automationWorker automation) numFiles next
      (items ++ (begun events).map Int.ofNat) := by
  obtain ⟨⟨noSkip, noStop⟩, atHead, rfl, item, rfl⟩ := here
  have inside : ¬ (i : Int) ≥ automation.numFiles := by omega
  -- The loop head goes on, and the item is published.
  have opens : ∀ meets, automationWorker (automationWorker automation meets) meets =
      { automation with
        currentIndex := i
        starts := automation.starts ++ [⟨automation.promise, i⟩]
        promise := .after i
        pc := .play } := by
    intro meets
    simp [automationWorker, atHead, item, inside, noStop]
  obtain ⟨fails, _, stays, taken⟩ | ⟨_, _, goesOn, taken⟩ :=
    automationPass_cases config keyboard automation.numFiles i file
      meets
  · -- The file cannot be loaded: the item is left at once.
    obtain ⟨rfl, rfl⟩ := Prod.mk.inj (pass.symm.trans stays)
    refine ⟨[⟨false, 0, 0⟩, ⟨false, 0, 0⟩, ⟨false, 0, 0⟩], ?_⟩
    rw [List.foldl_cons, List.foldl_cons, opens, taken]
    exact ⟨⟨noSkip, noStop⟩, rfl, rfl, item, by simp [automationWorker]⟩
  · -- The item plays until its time is over, and is counted up.
    obtain ⟨rfl, rfl⟩ := Prod.mk.inj (pass.symm.trans goesOn)
    let playing : Automation :=
      { automation with
        currentIndex := i
        starts := automation.starts ++ [⟨automation.promise, i⟩]
        promise := .after i }
    obtain ⟨met, run, _⟩ := @waitForDuration_simulated playing ⟨noSkip, noStop⟩
      config.durationSeconds (songlengthMsOverride config file meets) 0
    let loads : Meets := ⟨true, songlengthMsOverride config file meets, 0⟩
    refine ⟨loads :: loads :: loads :: (met ++ [loads]), ?_⟩
    rw [List.foldl_cons, List.foldl_cons, opens, List.foldl_cons, List.foldl_append]
    change AtHead (automationWorker (met.foldl automationWorker
      { playing with pc := .wait (songlengthMsOverride config file meets) 0 }) _) _ _ _
    rw [run, taken]
    exact ⟨⟨noSkip, noStop⟩, rfl, rfl, by simp [automationWorker, playing, item],
      by simp [automationWorker, playing]⟩

theorem automationLoop_simulated {files : List FileEntry} {meets : Nat → ItemMeets}
    {fuel passes i : Nat} {items : List Int} (here : AtHead automation files.length i items)
    {events : List WorkerEvent}
    (run : automationLoop config keyboard files meets fuel passes i = some events) :
    ∃ met : List Meets, (met.foldl automationWorker automation).pc = .ended ∧
      (met.foldl automationWorker automation).starts.map Start.item =
        items ++ (begun events).map Int.ofNat := by
  induction fuel generalizing automation passes i items events with
  | zero => cases run
  | succ fuel ih =>
    by_cases within : i < files.length
    · cases pass : automationPass config keyboard files.length i files[i] (meets passes) with
      | mk next first =>
        rw [automationLoop_pass _ _ _ (List.getElem?_eq_getElem within) pass] at run
        obtain ⟨rest, goesOn, rfl⟩ := Option.map_eq_some_iff.mp run
        obtain ⟨met, between⟩ := automationPass_simulated here within files[i] (meets passes) pass
        obtain ⟨others, ended, taken⟩ := ih between goesOn
        refine ⟨met ++ others, ?_, ?_⟩
        · rw [List.foldl_append]
          exact ended
        · rw [List.foldl_append, taken, begun_append, List.map_append, List.append_assoc]
    · -- Behind the last item, the worker leaves the loop and ends.
      rw [automationLoop_end fuel passes i (by omega)] at run
      obtain rfl := Option.some.inj run
      obtain ⟨⟨noSkip, noStop⟩, atHead, size, item, rfl⟩ := here
      have behind : (i : Int) ≥ automation.numFiles := by omega
      refine ⟨[⟨true, 0, 0⟩, ⟨true, 0, 0⟩], ?_, ?_⟩
      · simp [automationWorker, atHead, item, behind]
      · simp [automationWorker, atHead, item, behind, begun]

end Simulation

section Results

/-- The playlist advances to its end exactly where every item is on the device or loads. -/
theorem playlist_advances_iff (config : AutomationConfig) (keyboard : Bool)
    (files : List FileEntry) (startIndex : Int) (meets : Nat → ItemMeets) :
    AdvancesThrough config keyboard files startIndex meets ↔
      EveryItemLoads config files startIndex meets := by
  constructor
  · rintro ⟨fuel, events, run, items, _⟩
    have loads := automationLoop_loads rfl run items
    by_cases onDevice : config.fromC64u = true
    · exact .inl onDevice
    · refine .inr fun pass below => ?_
      have here := (loads pass below).resolve_left onDevice
      rwa [Nat.zero_add] at here
  · intro loads
    obtain ⟨events, run, items, last⟩ :=
      @automationLoop_completes config keyboard files meets _ 0
        (firstItem files.length startIndex) rfl fun file pass below => by
          rw [Nat.zero_add]
          exact (startItem_isSome_iff _ _).mpr (loads.imp_right fun each => each pass below)
    exact ⟨_, events, run, items, last⟩

/-- A file that is not there. -/
def missingFile : ItemMeets where
  opened := none
  songlength := none
  succeeds _ := true

/-- A playlist with a program that is not there is never left. -/
theorem missingProgram_not_advances :
    ¬ AdvancesThrough ⟨false, 1, false, false, []⟩ false [⟨text "a.prg", .prg⟩] 0
      fun _ => missingFile := by
  rintro ⟨fuel, events, run, -⟩
  have stuck : ∀ fuel passes, automationLoop ⟨false, 1, false, false, []⟩ false
      [⟨text "a.prg", .prg⟩] (fun _ => missingFile) fuel passes 0 = none := by
    intro fuel
    induction fuel with
    | zero => exact fun _ => rfl
    | succ fuel ih =>
      intro passes
      rw [@automationLoop_pass _ _ _ _ fuel passes 0 _ 0 _ rfl rfl, ih]
      rfl
  rw [show firstItem _ 0 = 0 from rfl, stuck] at run
  cases run

/-- A loop over the files that comes to its end is a run of the worker, step by step: it starts the
same items in the same order, and ends. -/
theorem automationLoop_played {config : AutomationConfig} {keyboard : Bool}
    {files : List FileEntry} {startIndex : Int} {meets : Nat → ItemMeets} {fuel : Nat}
    {events : List WorkerEvent}
    (run : automationLoop config keyboard files meets fuel 0 (firstItem files.length startIndex) =
      some events) :
    ∃ met : List Meets,
      let played := met.foldl automationWorker (c64AutomationStart files.length startIndex)
      played.pc = .ended ∧ played.starts.map Start.item = (begun events).map Int.ofNat := by
  have here : AtHead (automationWorker (c64AutomationStart files.length startIndex) ⟨true, 0, 0⟩)
      files.length (firstItem files.length startIndex) [] := by
    refine ⟨⟨rfl, rfl⟩, rfl, rfl, ?_, rfl⟩
    simp only [automationWorker, c64AutomationStart, firstItem]
    split_ifs <;> omega
  obtain ⟨met, ended, taken⟩ := automationLoop_simulated here run
  exact ⟨⟨true, 0, 0⟩ :: met, ended, taken⟩

/-- A playlist on the device is played from its second item. -/
theorem automationLoop_played_second :
    ∃ met : List Meets,
      let played := met.foldl automationWorker (c64AutomationStart 2 1)
      played.pc = .ended ∧ played.starts.map Start.item = [1] := by
  obtain ⟨events, run, items, _⟩ := @automationLoop_completes ⟨true, 1, false, false, []⟩ false
    [⟨text "a.prg", .prg⟩, ⟨text "b.prg", .prg⟩] (fun _ => missingFile) 1 0 1 rfl
    fun file _ _ => (startItem_isSome_iff file _).mpr (.inl rfl)
  have played := @automationLoop_played _ _ _ 1 _ _ _ run
  rw [items] at played
  exact played

end Results

end C64Stream
