import C64Stream.Script.Executor
import C64Stream.Script.VmLaws

/-! What holds of the executor at any time: who holds its mutex, and whether its thread lives. -/

namespace C64Stream

section Phases

/-- Whether the thread of the user interface holds the mutex at an access. -/
def UiPhase.holdsMutex : UiPhase → Bool
  | .startReadRunning | .startUnlock _ | .startErrorStatus | .startErrorUnlock | .startStatus
  | .startRunning | .startStopRequested | .startReadyUnlock | .startFailedRunning
  | .startFailedStatus | .startFailedUnlock | .stopReadRunning | .stopRequest _ | .stopUnlock _
  | .stopRunning | .stopStatus | .stopEndedUnlock | .pauseReadStatus | .pauseShouldPause
  | .pauseStatus | .pauseUnlock | .resumeReadStatus | .resumeIsPaused | .resumeShouldPause
  | .resumeStatus | .resumeUnlock _ | .stepReadStatus | .stepStepMode | .stepSkipWaits
  | .stepUnlock _ => true
  | _ => false

/-- Whether the script thread holds the mutex at an access. -/
def ScriptPhase.holdsMutex : ScriptPhase → Bool
  | .clearRunning _ | .readStopRequested _ | .writeStatus _ | .unlock => true
  | _ => false

/-- Whether there is no script thread, or it has ended. -/
def ScriptPhase.isGone : ScriptPhase → Bool
  | .absent | .ended => true
  | _ => false

/-- Whether the script thread has not come to its end. -/
def ScriptPhase.isLive : ScriptPhase → Bool
  | .absent | .ended | .readStopRequested _ | .writeStatus _ | .unlock => false
  | _ => true

/-- Whether an access is only made while there is no script thread. -/
def UiPhase.isAlone : UiPhase → Bool
  | .startUnlock false | .startCompile | .startErrorLock | .startErrorStatus | .startErrorUnlock
  | .startShouldPause | .startIsPaused | .startStepMode | .startReadyLock | .startStatus
  | .startRunning | .startStopRequested | .startReadyUnlock | .startCreate | .startFailedLock
  | .startFailedRunning | .startFailedStatus | .startFailedUnlock | .stopEndedLock | .stopRunning
  | .stopStatus | .stopEndedUnlock => true
  | _ => false

/-- Whether a start has said that a thread runs, which it is about to create. -/
def UiPhase.isCreating : UiPhase → Bool
  | .startStopRequested | .startReadyUnlock | .startCreate | .startFailedLock
  | .startFailedRunning => true
  | _ => false

end Phases

section Orderly

variable {R World : Type} [ScriptNumber R] {host : Host R World} {executor : Executor R World}

/-- The mutex is held by the thread that took it, and the thread that is said to run does. -/
structure Executor.Orderly (executor : Executor R World) : Prop where
  uiHolds : executor.mutex = some .ui ↔ executor.ui.holdsMutex = true
  scriptHolds : executor.mutex = some .script ↔ executor.script.holdsMutex = true
  alone : executor.ui.isAlone = true → executor.script.isGone = true
  live : executor.script.isLive = true → executor.threadRunning = true
  running : executor.threadRunning = true →
    executor.script.isLive = true ∨ executor.ui.isCreating = true
  creating : executor.ui.isCreating = true → executor.threadRunning = true
  request : executor.ui = .stopRequest true → executor.threadRunning = true

theorem executorCreate_orderly (code : Code R) (world : World) :
    (executorCreate code world).Orderly := by
  constructor <;> simp [executorCreate, UiPhase.holdsMutex, ScriptPhase.holdsMutex,
    UiPhase.isAlone, UiPhase.isCreating, ScriptPhase.isLive]

theorem Executor.Orderly.exclusive (orderly : executor.Orderly)
    (holds : executor.ui.holdsMutex = true) : executor.script.holdsMutex = false := by
  have held := orderly.uiHolds.mpr holds
  have other := orderly.scriptHolds
  rw [held] at other
  simpa using other

theorem Executor.Orderly.move (orderly : executor.Orderly) {next : Executor R World}
    {phase following : UiPhase} (here : executor.ui = phase) (there : next.ui = following)
    (same : next.mutex = executor.mutex ∧ next.script = executor.script ∧
      next.threadRunning = executor.threadRunning)
    (holds : following.holdsMutex = phase.holdsMutex)
    (alone : following.isAlone = true → phase.isAlone = true)
    (creating : following.isCreating = phase.isCreating)
    (request : following = .stopRequest true → executor.threadRunning = true) : next.Orderly := by
  subst here there
  obtain ⟨mutex, script, running⟩ := same
  constructor
  · rw [mutex, holds]
    exact orderly.uiHolds
  · rw [mutex, script]
    exact orderly.scriptHolds
  · rw [script]
    exact fun first => orderly.alone (alone first)
  · rw [script, running]
    exact orderly.live
  · rw [script, running]
    rw [creating]
    exact orderly.running
  · rw [creating, running]
    exact orderly.creating
  · rw [running]
    exact request

theorem Executor.Orderly.uiLock (orderly : executor.Orderly) {phase following : UiPhase}
    (here : executor.ui = phase) (holds : following.holdsMutex = true)
    (alone : following.isAlone = true → phase.isAlone = true)
    (creating : following.isCreating = phase.isCreating)
    (request : following ≠ .stopRequest true) : (executor.uiLock following).Orderly := by
  subst here
  unfold Executor.uiLock
  split_ifs with free
  · have unheld : executor.script.holdsMutex ≠ true := fun held => by
      have taken := orderly.scriptHolds.mpr held
      rw [free] at taken
      cases taken
    refine ⟨⟨fun _ => holds, fun _ => rfl⟩, ⟨nofun, fun held => absurd held unheld⟩,
      fun there => orderly.alone (alone there), orderly.live, fun runs => ?_, fun there => ?_,
      fun there => absurd there request⟩
    · exact (orderly.running runs).imp_right (fun there => creating ▸ there)
    · exact orderly.creating (creating ▸ there)
  · exact orderly

theorem Executor.Orderly.uiUnlock (orderly : executor.Orderly) {phase following : UiPhase}
    (here : executor.ui = phase) (held : phase.holdsMutex = true)
    (unheld : following.holdsMutex = false)
    (alone : following.isAlone = true → phase.isAlone = true)
    (creating : following.isCreating = phase.isCreating) :
    (executor.uiUnlock following).Orderly := by
  subst here
  have exclusive := orderly.exclusive held
  have other : following ≠ .stopRequest true := by
    rintro rfl
    cases unheld
  refine ⟨⟨nofun, fun holds => ?_⟩, ⟨nofun, fun holds => ?_⟩,
    fun there => orderly.alone (alone there), orderly.live,
    fun runs => (orderly.running runs).imp_right (fun there => creating ▸ there),
    fun there => orderly.creating (creating ▸ there), fun there => absurd there other⟩
  · rw [show (executor.uiUnlock following).ui = following from rfl, unheld] at holds
    cases holds
  · rw [show (executor.uiUnlock following).script = executor.script from rfl, exclusive] at holds
    cases holds

theorem Executor.Orderly.begin (orderly : executor.Orderly) (call : ExecutorCall R World) :
    (executor.begin call).Orderly := by
  unfold Executor.begin
  by_cases free : executor.ui = .idle
  · rw [if_neg (not_not.mpr free)]
    cases call with
    | start start => exact orderly.move free rfl ⟨rfl, rfl, rfl⟩ rfl nofun rfl nofun
    | stop => exact orderly.move free rfl ⟨rfl, rfl, rfl⟩ rfl nofun rfl nofun
    | pause | resume | step =>
      dsimp only
      split_ifs
      · exact orderly.move free rfl ⟨rfl, rfl, rfl⟩ rfl nofun rfl nofun
      · exact orderly
  · rw [if_pos free]
    exact orderly

theorem Executor.Orderly.gone (orderly : executor.Orderly)
    (still : executor.threadRunning = false) (free : executor.script.holdsMutex = false) :
    executor.script.isGone = true := by
  have live := orderly.live
  rw [still] at live
  revert live free
  cases executor.script <;> simp [ScriptPhase.isLive, ScriptPhase.isGone, ScriptPhase.holdsMutex]

theorem ScriptPhase.not_isLive_of_isGone {phase : ScriptPhase} (gone : phase.isGone = true) :
    phase.isLive = false := by
  cases phase <;> first | rfl | cases gone

theorem Executor.Orderly.startReadRunning (orderly : executor.Orderly)
    (phase : executor.ui = .startReadRunning) :
    (executor.uiAt (.startUnlock executor.threadRunning)).Orderly := by
  -- The script thread cannot take the mutex now.
  have free := orderly.exclusive (by rw [phase]; rfl)
  have held := orderly.uiHolds.mpr (by rw [phase]; rfl)
  refine ⟨⟨fun _ => rfl, fun _ => held⟩, orderly.scriptHolds, fun alone => ?_, orderly.live,
    fun runs => .inl ?_, nofun, nofun⟩
  · cases running : executor.threadRunning with
    | true =>
      rw [running] at alone
      cases alone
    | false => exact orderly.gone running free
  · have creating := orderly.running runs
    rw [phase] at creating
    exact creating.resolve_right nofun

theorem Executor.Orderly.startCreate (orderly : executor.Orderly)
    (phase : executor.ui = .startCreate) :
    Executor.Orderly { executor with script := .created, ui := .idle } := by
  have uiHolds := orderly.uiHolds
  have gone := orderly.alone (by rw [phase]; rfl)
  have running := orderly.creating (by rw [phase]; rfl)
  rw [phase] at uiHolds
  have unheld : executor.script.holdsMutex ≠ true := by
    intro held
    revert gone held
    cases executor.script <;> simp [ScriptPhase.isGone, ScriptPhase.holdsMutex]
  refine ⟨uiHolds, ⟨fun held => absurd (orderly.scriptHolds.mp held) unheld, nofun⟩, nofun,
    fun _ => running, fun _ => .inl rfl, nofun, nofun⟩

theorem Executor.Orderly.clearRunning (orderly : executor.Orderly) {following : UiPhase}
    (holds : executor.ui.holdsMutex = true) (alone : executor.ui.isAlone = true)
    (still : following.holdsMutex = true) (created : following.isCreating = false)
    (request : following ≠ .stopRequest true) :
    Executor.Orderly { executor with threadRunning := false, ui := following } := by
  have held := orderly.uiHolds.mpr holds
  have gone := orderly.alone alone
  refine ⟨⟨fun _ => still, fun _ => held⟩, orderly.scriptHolds, fun _ => gone, fun live => ?_,
    nofun, fun there => ?_, fun there => absurd there request⟩
  · rw [ScriptPhase.not_isLive_of_isGone gone] at live
    cases live
  · rw [created] at there
    cases there

theorem Executor.Orderly.uiStep (orderly : executor.Orderly) : executor.uiStep.Orderly := by
  unfold Executor.uiStep
  cases phase : executor.ui with
  | idle => exact orderly
  | startLock | stopLock | pauseLock | resumeLock | stepLock =>
    exact orderly.uiLock phase rfl nofun rfl nofun
  | startErrorLock | startReadyLock | stopEndedLock =>
    exact orderly.uiLock phase rfl (fun _ => rfl) rfl nofun
  | startFailedLock => exact orderly.uiLock phase rfl (fun _ => rfl) rfl nofun
  | startErrorUnlock | stopEndedUnlock | pauseUnlock | resumeUnlock | stepUnlock =>
    exact orderly.uiUnlock phase rfl rfl nofun rfl
  | startReadyUnlock => exact orderly.uiUnlock phase rfl rfl (fun _ => rfl) rfl
  | startReadRunning => exact orderly.startReadRunning phase
  | startUnlock running =>
    cases running with
    | true => exact orderly.uiUnlock phase rfl rfl nofun rfl
    | false => exact orderly.uiUnlock phase rfl rfl (fun _ => rfl) rfl
  | startFailedUnlock =>
    have unlocked := @Executor.Orderly.uiUnlock R World _ _ orderly _ .idle phase rfl rfl nofun rfl
    exact unlocked.move rfl rfl ⟨rfl, rfl, rfl⟩ rfl nofun rfl nofun
  | startCompile =>
    dsimp only [UiPhase.callKind, Executor.startStep]
    cases executor.starting.script with
    | none => exact orderly.move phase rfl ⟨rfl, rfl, rfl⟩ rfl (fun _ => rfl) rfl nofun
    | some compiled =>
      cases executor.starting.paused
      all_goals exact orderly.move phase rfl ⟨rfl, rfl, rfl⟩ rfl (fun _ => rfl) rfl nofun
  | startRunning =>
    have held := orderly.uiHolds.mpr (by rw [phase]; rfl)
    have gone := orderly.alone (by rw [phase]; rfl)
    exact ⟨⟨fun _ => rfl, fun _ => held⟩, orderly.scriptHolds, fun _ => gone, fun _ => rfl,
      fun _ => .inr rfl, fun _ => rfl, nofun⟩
  | startCreate =>
    dsimp only [UiPhase.callKind, Executor.startStep]
    split_ifs
    · exact orderly.startCreate phase
    · exact orderly.move phase rfl ⟨rfl, rfl, rfl⟩ rfl (fun _ => rfl) rfl nofun
  | startFailedRunning | stopRunning =>
    exact orderly.clearRunning (by rw [phase]; rfl) (by rw [phase]; rfl) rfl rfl nofun
  | stopReadRunning =>
    dsimp only [UiPhase.callKind, Executor.stopStep]
    exact orderly.move phase rfl ⟨rfl, rfl, rfl⟩ rfl nofun rfl (UiPhase.stopRequest.inj ·)
  | stopRequest running =>
    exact orderly.move phase rfl ⟨rfl, rfl, rfl⟩ rfl nofun rfl nofun
  | stopUnlock running =>
    cases running with
    | true =>
      dsimp only [UiPhase.callKind, Executor.stopStep]
      cases executor.hasRuntime
      all_goals exact orderly.uiUnlock phase rfl rfl nofun rfl
    | false => exact orderly.uiUnlock phase rfl rfl nofun rfl
  | stopJoin =>
    dsimp only [UiPhase.callKind, Executor.stopStep]
    split_ifs with ended
    · have uiHolds := orderly.uiHolds
      have running := orderly.running
      rw [phase] at uiHolds running
      refine ⟨uiHolds, orderly.scriptHolds, fun _ => ?_, orderly.live, running, nofun, nofun⟩
      show executor.script.isGone = true
      rw [ended]
      rfl
    · exact orderly
  | pauseReadStatus | resumeReadStatus | stepReadStatus =>
    dsimp only [UiPhase.callKind, Executor.debugStep]
    split_ifs
    all_goals exact orderly.move phase rfl ⟨rfl, rfl, rfl⟩ rfl nofun rfl nofun
  | stopShouldStop | pauseShouldPause | pauseStatus | resumeIsPaused | resumeShouldPause
  | resumeStatus | stepStepMode | stepSkipWaits =>
    exact orderly.move phase rfl ⟨rfl, rfl, rfl⟩ rfl nofun rfl nofun
  | startErrorStatus | startShouldPause | startIsPaused | startStepMode | startStatus
  | startFailedStatus | stopStatus =>
    exact orderly.move phase rfl ⟨rfl, rfl, rfl⟩ rfl (fun _ => rfl) rfl nofun
  | startStopRequested =>
    exact orderly.move phase rfl ⟨rfl, rfl, rfl⟩ rfl (fun _ => rfl) rfl nofun

theorem UiPhase.isAlone_of_isCreating {phase : UiPhase} (creating : phase.isCreating = true) :
    phase.isAlone = true := by
  cases phase <;> first | rfl | cases creating

theorem Executor.Orderly.together (orderly : executor.Orderly)
    (there : executor.script.isGone = false) :
    executor.ui.isAlone = false ∧ executor.ui.isCreating = false := by
  have apart : executor.ui.isAlone ≠ true := by
    intro alone
    rw [orderly.alone alone] at there
    cases there
  refine ⟨by simpa using apart, ?_⟩
  simpa using fun creating => apart (UiPhase.isAlone_of_isCreating creating)

theorem Executor.Orderly.scriptMove (orderly : executor.Orderly) {next : Executor R World}
    {phase following : ScriptPhase} (here : executor.script = phase)
    (there : next.script = following)
    (same : next.mutex = executor.mutex ∧ next.ui = executor.ui ∧
      next.threadRunning = executor.threadRunning)
    (holds : following.holdsMutex = phase.holdsMutex) (present : phase.isGone = false)
    (live : following.isLive = phase.isLive) : next.Orderly := by
  subst here there
  obtain ⟨mutex, ui, running⟩ := same
  obtain ⟨apart, _⟩ := orderly.together present
  constructor
  · rw [mutex, ui]
    exact orderly.uiHolds
  · rw [mutex, holds]
    exact orderly.scriptHolds
  · rw [ui, apart]
    exact nofun
  · rw [live, running]
    exact orderly.live
  · rw [live, running, ui]
    exact orderly.running
  · rw [ui, running]
    exact orderly.creating
  · rw [ui, running]
    exact orderly.request

theorem Executor.Orderly.scriptLock (orderly : executor.Orderly) {succeeded : Bool}
    (phase : executor.script = .lock succeeded) (free : executor.mutex = none) :
    Executor.Orderly
      { executor with mutex := some .script, script := .clearRunning succeeded } := by
  have running := orderly.live (by rw [phase]; rfl)
  obtain ⟨apart, _⟩ := orderly.together (by rw [phase]; rfl)
  have unheld : executor.ui.holdsMutex ≠ true := by
    intro held
    have taken := orderly.uiHolds.mpr held
    rw [free] at taken
    cases taken
  refine ⟨⟨nofun, fun held => absurd held unheld⟩, ⟨fun _ => rfl, fun _ => rfl⟩, fun alone => ?_,
    fun _ => running, fun _ => .inl rfl, orderly.creating, orderly.request⟩
  rw [apart] at alone
  cases alone

theorem Executor.Orderly.scriptClearRunning (orderly : executor.Orderly) {succeeded : Bool}
    (phase : executor.script = .clearRunning succeeded) :
    Executor.Orderly
      { executor with threadRunning := false, script := .readStopRequested succeeded } := by
  have held := orderly.scriptHolds.mpr (by rw [phase]; rfl)
  obtain ⟨apart, uncreated⟩ := orderly.together (by rw [phase]; rfl)
  refine ⟨orderly.uiHolds, ⟨fun _ => rfl, fun _ => held⟩, fun alone => ?_, nofun, nofun,
    fun creating => ?_, fun request => ?_⟩
  · rw [apart] at alone
    cases alone
  · rw [uncreated] at creating
    cases creating
  · -- A stop that makes its request holds the mutex.
    have taken := orderly.uiHolds.mpr (by rw [request]; rfl)
    rw [held] at taken
    cases taken

theorem Executor.Orderly.scriptUnlock (orderly : executor.Orderly)
    (phase : executor.script = .unlock) :
    Executor.Orderly { executor with mutex := none, script := .ended } := by
  have held := orderly.scriptHolds.mpr (by rw [phase]; rfl)
  have running := orderly.running
  rw [phase] at running
  refine ⟨⟨nofun, fun holds => ?_⟩, ⟨nofun, nofun⟩, fun _ => rfl, nofun, running, orderly.creating,
    orderly.request⟩
  have taken := orderly.uiHolds.mpr holds
  rw [held] at taken
  cases taken

theorem Executor.Orderly.scriptStep (orderly : executor.Orderly) (waits : Bool) :
    (executor.scriptStep host waits).Orderly := by
  unfold Executor.scriptStep
  cases phase : executor.script with
  | absent | ended => exact orderly
  | created =>
    dsimp only
    split_ifs
    all_goals exact orderly.scriptMove phase rfl ⟨rfl, rfl, rfl⟩ rfl rfl rfl
  | testStop =>
    dsimp only [Executor.testStop]
    split
    · exact orderly.scriptMove phase rfl ⟨rfl, rfl, rfl⟩ rfl rfl rfl
    · split_ifs
      all_goals exact orderly.scriptMove phase rfl ⟨rfl, rfl, rfl⟩ rfl rfl rfl
  | execute =>
    dsimp only [Executor.execute]
    split
    · exact orderly.scriptMove phase rfl ⟨rfl, rfl, rfl⟩ rfl rfl rfl
    · split_ifs
      · exact orderly
      · split
        all_goals exact orderly.scriptMove phase rfl ⟨rfl, rfl, rfl⟩ rfl rfl rfl
  | testPause | testSkipWaits | testPaused | testPausedStop | testStepMode | leavePause =>
    dsimp only
    split_ifs
    all_goals exact orderly.scriptMove phase rfl ⟨rfl, rfl, rfl⟩ rfl rfl rfl
  | limited | setPaused | takePause | clearSkipWaits | clearStepMode | setSkipWaits | clearPaused
  | setPause | readStopRequested | writeStatus =>
    exact orderly.scriptMove phase rfl ⟨rfl, rfl, rfl⟩ rfl rfl rfl
  | lock succeeded =>
    dsimp only
    split_ifs with free
    · exact orderly.scriptLock phase free
    · exact orderly
  | clearRunning succeeded => exact orderly.scriptClearRunning phase
  | unlock => exact orderly.scriptUnlock phase

theorem Executor.scriptStep_keeps (waits : Bool) :
    (executor.scriptStep host waits).ui = executor.ui ∧
      (executor.scriptStep host waits).stopRequested = executor.stopRequested := by
  unfold Executor.scriptStep
  cases executor.script with
  | testStop =>
    dsimp only [Executor.testStop]
    split
    · exact ⟨rfl, rfl⟩
    · split_ifs <;> exact ⟨rfl, rfl⟩
  | execute =>
    dsimp only [Executor.execute]
    split
    · exact ⟨rfl, rfl⟩
    · split_ifs
      · exact ⟨rfl, rfl⟩
      · split <;> exact ⟨rfl, rfl⟩
  | created | lock =>
    dsimp only
    split_ifs <;> exact ⟨rfl, rfl⟩
  | _ => exact ⟨rfl, rfl⟩

end Orderly

section Flags

variable {R World : Type} [ScriptNumber R] {host : Host R World} {code : Code R}

/-- What the user interface and the script thread share, and the line that decides about pauses. -/
def Runtime.watched (runtime : Runtime R World) : Flags × Int :=
  (runtime.flags, runtime.lastExecutedLine)

theorem run_watched {α : Type} (program : Program R World α) (runtime : Runtime R World) :
    (program.run handleOp runtime).2.watched = runtime.watched := by
  refine Effectful.run_relates (fun before after : Runtime R World => after.watched = before.watched)
    (fun _ => rfl) (fun _ _ _ first second => second.trans first) program runtime fun entry _ => ?_
  obtain ⟨op, state⟩ := entry
  cases op with
  | pop | push | setVar =>
    simp only [handleOp]
    split <;> rfl
  | _ => rfl

theorem andThen_watched {α : Type} (program : Program R World α) (runtime : Runtime R World)
    {next : α → Runtime R World → Executed R World}
    (keeps : ∀ result after, (next result after).2.watched = after.watched) :
    (andThen program runtime next).2.watched = runtime.watched := by
  have ran := run_watched program runtime
  unfold andThen
  split
  · rename_i result after outcome
    rw [outcome] at ran
    exact (keeps result after).trans ran
  · rename_i after outcome
    rw [outcome] at ran
    exact ran

theorem executeReturn_watched (hasReturnValue : Bool) (runtime : Runtime R World) :
    (executeReturn hasReturnValue runtime).2.watched = runtime.watched := by
  unfold executeReturn
  split
  · exact andThen_watched _ _ fun _ after => andThen_watched _ _ fun _ _ => rfl
  · split
    · exact andThen_watched _ _ fun _ _ => rfl
    · rfl

theorem executeInstruction_watched (instruction : Instruction) (runtime : Runtime R World) :
    (executeInstruction host code instruction runtime).2.watched = runtime.watched ∨
      (executeInstruction host code instruction runtime).2.watched =
        ({ runtime.flags with shouldStop := true }, runtime.lastExecutedLine) := by
  unfold executeInstruction
  split
  case h_1 => exact .inl rfl
  case h_2 | h_3 =>
    refine .inl (andThen_watched _ _ fun _ after => ?_)
    split_ifs <;> rfl
  case h_4 =>
    refine .inl (andThen_watched _ _ fun _ after => ?_)
    split_ifs <;> rfl
  case h_5 | h_6 => exact .inl (executeReturn_watched _ _)
  case h_7 =>
    left
    unfold executeCallFunction
    dsimp only
    split
    · rfl
    · split_ifs <;> rfl
  case h_8 | h_9 => exact .inr rfl
  case h_10 =>
    refine .inl (andThen_watched _ _ fun _ after => ?_)
    split_ifs
    · rfl
    · split <;> rfl
  case h_11 =>
    left
    unfold executeForCheck
    split
    · rfl
    · split
      · rfl
      · split_ifs <;> rfl
  case h_12 =>
    left
    unfold executeForIncr
    split
    · rfl
    · split
      · rfl
      · exact andThen_watched _ _ fun _ _ => rfl
  case h_13 => exact .inl (andThen_watched _ _ fun _ _ => rfl)

/-- The state that a round leads to. -/
def Progress.runtime : Progress R World → Runtime R World
  | .running runtime | .finished runtime | .failed runtime => runtime

theorem vmDispatch_flags (instruction : Instruction) (runtime : Runtime R World) :
    (vmDispatch host code instruction runtime).runtime.flags = runtime.flags ∨
      (vmDispatch host code instruction runtime).runtime.flags =
        { runtime.flags with shouldStop := true } := by
  have kept := @executeInstruction_watched R World _ host code instruction
    (beginInstruction instruction runtime)
  unfold vmDispatch
  split
  all_goals
    rename_i outcome
    rw [outcome] at kept
    exact kept.imp (congrArg Prod.fst) (congrArg Prod.fst)

end Flags

section Safety

variable {R World : Type} [ScriptNumber R] {host : Host R World} {executor : Executor R World}

/-- Whether an access, or one that follows it, works on the runtime. -/
def UiPhase.needsRuntime : UiPhase → Bool
  | .startShouldPause | .startIsPaused | .startStepMode | .startReadyLock | .startStatus
  | .startRunning | .startStopRequested | .startReadyUnlock | .startCreate | .stopShouldStop => true
  | phase => phase.callKind = .debug

/-- Whoever works on the runtime finds one. -/
def Executor.Supplied (executor : Executor R World) : Prop :=
  executor.ui.needsRuntime = true ∨ executor.script.isGone = false → executor.hasRuntime = true

/-- While a script thread is there, it keeps its code and its runtime, and no other is created. -/
def Executor.KeepsScript (host : Host R World) (executor : Executor R World)
    (op : ExecutorOp R World) : Prop :=
  executor.script.isGone = false →
    (executor.step host op).code = executor.code ∧ (executor.step host op).hasRuntime = true ∧
      ((executor.step host op).script = .created → executor.script = .created)

theorem Executor.Supplied.uiStep (supplied : executor.Supplied)
    (alone : executor.ui.isAlone = true → executor.script.isGone = true) :
    executor.uiStep.Supplied := by
  unfold Supplied at supplied ⊢
  unfold Executor.uiStep
  cases phase : executor.ui <;> rw [phase] at supplied alone <;>
    dsimp only [UiPhase.callKind, startStep, stopStep, debugStep, uiLock, uiUnlock, uiAt,
      setFlags] <;>
    (try split) <;> (try split) <;>
    first
    | exact fun _ => supplied (.inl rfl)
    | simp_all [UiPhase.needsRuntime, UiPhase.callKind, UiPhase.isAlone]

/-- Only a start that found no thread running changes the code, the runtime or the thread. -/
theorem Executor.uiStep_keeps (apart : executor.ui.isAlone = false) :
    executor.uiStep.code = executor.code ∧ executor.uiStep.hasRuntime = executor.hasRuntime ∧
      executor.uiStep.script = executor.script := by
  unfold Executor.uiStep
  cases phase : executor.ui <;> rw [phase] at apart <;> first | cases apart | skip
  all_goals
    dsimp only [UiPhase.callKind, startStep, stopStep, debugStep, uiLock, uiUnlock, uiAt, setFlags]
  all_goals first | exact ⟨rfl, rfl, rfl⟩ | (split <;> exact ⟨rfl, rfl, rfl⟩)

theorem Executor.scriptStep_frame (waits : Bool) :
    (executor.scriptStep host waits).code = executor.code ∧
      (executor.scriptStep host waits).hasRuntime = executor.hasRuntime ∧
      ((executor.scriptStep host waits).script = executor.script ∨
        (executor.script.isGone = false ∧
          (executor.scriptStep host waits).script ≠ .created)) := by
  unfold Executor.scriptStep Executor.testStop Executor.execute
  cases phase : executor.script <;> dsimp only <;> (repeat' split) <;>
    first
    | exact ⟨rfl, rfl, .inl phase⟩
    | exact ⟨rfl, rfl, .inr ⟨rfl, by simp [Executor.scriptAt]⟩⟩

theorem Executor.Orderly.step (orderly : executor.Orderly) (op : ExecutorOp R World) :
    (executor.step host op).Orderly := by
  cases op with
  | call call => exact orderly.begin call
  | ui => exact orderly.uiStep
  | script waits => exact orderly.scriptStep waits

theorem Executor.Supplied.step (supplied : executor.Supplied) (orderly : executor.Orderly)
    (op : ExecutorOp R World) :
    (executor.step host op).Supplied ∧ executor.KeepsScript host op := by
  cases op with
  | call call =>
    have frame : (executor.begin call).code = executor.code ∧
        (executor.begin call).hasRuntime = executor.hasRuntime ∧
        (executor.begin call).script = executor.script ∧
        ((executor.begin call).ui.needsRuntime = true →
          executor.ui.needsRuntime = true ∨ executor.hasRuntime = true) := by
      unfold Executor.begin
      cases call <;> dsimp only <;> split_ifs <;>
        simp_all [uiAt, UiPhase.needsRuntime, UiPhase.callKind]
    obtain ⟨code, runtime, script, ui⟩ := frame
    constructor
    · intro uses
      refine runtime.trans ?_
      rcases uses with needs | there
      · exact (ui needs).elim (fun before => supplied (.inl before)) id
      · exact supplied (.inr (script ▸ there))
    · exact fun there => ⟨code, runtime.trans (supplied (.inr there)), fun made => script ▸ made⟩
  | ui =>
    refine ⟨supplied.uiStep orderly.alone, fun there => ?_⟩
    obtain ⟨code, runtime, script⟩ := executor.uiStep_keeps (orderly.together there).1
    exact ⟨code, runtime.trans (supplied (.inr there)), fun created => script ▸ created⟩
  | script waits =>
    obtain ⟨code, runtime, script⟩ := @Executor.scriptStep_frame _ _ _ host executor waits
    have ui := (@Executor.scriptStep_keeps _ _ _ host executor waits).1
    constructor
    · intro uses
      refine runtime.trans (supplied ?_)
      rcases script with same | ⟨there, _⟩
      · exact uses.imp (ui ▸ ·) (same ▸ ·)
      · exact .inr there
    · intro there
      refine ⟨code, runtime.trans (supplied (.inr there)), fun created => ?_⟩
      rcases script with same | ⟨_, other⟩
      · exact same ▸ created
      · exact absurd created other

/-- Whatever is asked and however the threads take turns, they are never both inside the mutex,
nobody works on a runtime that was destroyed, and a script thread that is there keeps its code and
stays the only one. -/
theorem executor_safe (host : Host R World) (code : Code R) (world : World)
    (ops : List (ExecutorOp R World)) :
    Always (Executor.step host)
        (fun executor =>
          ¬ (executor.ui.holdsMutex = true ∧ executor.script.holdsMutex = true) ∧
            executor.Supplied)
        (executorCreate code world) ops ∧
      EachStep (Executor.step host) (Executor.KeepsScript host) (executorCreate code world) ops := by
  have always := @always_of_step _ _ (Executor.step host)
    (fun executor => executor.Orderly ∧ executor.Supplied)
    (fun _ op sound => ⟨sound.1.step op, (sound.2.step sound.1 op).1⟩) _
    ⟨executorCreate_orderly code world, fun uses => by simp [executorCreate, UiPhase.needsRuntime,
      UiPhase.callKind, ScriptPhase.isGone] at uses⟩ ops
  refine ⟨always.imp fun executor sound => ⟨fun both => ?_, sound.2⟩,
    always.eachStep fun _ op sound => (sound.2.step sound.1 op).2⟩
  rw [sound.1.exclusive both.1] at both
  exact Bool.false_ne_true both.2

end Safety

end C64Stream
