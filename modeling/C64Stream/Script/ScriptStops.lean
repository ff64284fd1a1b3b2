import C64Stream.Script.Bytecode
import C64Stream.Script.ExecutorLaws

/-! What becomes of a script after a stop was asked for, and when the stop is lost. -/

namespace C64Stream

section Promise

variable {R World : Type} [ScriptNumber R] (host : Host R World)

/-- Whether the test of the loop let the instruction at hand pass. -/
def ScriptPhase.inIteration : ScriptPhase → Bool
  | .testPause | .setPaused | .takePause | .testSkipWaits | .clearSkipWaits | .testPaused
  | .testPausedStop | .testStepMode | .clearStepMode | .setSkipWaits | .clearPaused | .setPause
  | .leavePause | .execute => true
  | _ => false

/-- An executor beside what happened since a stop set its flag. -/
structure StopRun (R World : Type) [ScriptNumber R] where
  executor : Executor R World
  /-- How many instructions the thread may still execute: the one that it is in. -/
  allowed : Option Nat
  /-- How many instructions it executed since. -/
  executed : Nat

/-- What happens next, and how the instructions since a stop are counted. -/
def StopRun.step (run : StopRun R World) (op : ExecutorOp R World) : StopRun R World :=
  let next := run.executor.step host op
  match op with
  | .call _ => { run with executor := next }
  | .ui =>
    if run.executor.ui = .stopShouldStop then
      ⟨next, some (if run.executor.script.inIteration then 1 else 0), 0⟩
    else if run.executor.ui = .startCompile then ⟨next, none, 0⟩
    else { run with executor := next }
  | .script _ =>
    if run.executor.script = .execute ∧ next.script ≠ .execute then
      ⟨next, run.allowed, run.executed + 1⟩
    else { run with executor := next }

/-- Nothing has happened yet. -/
def StopRun.start (code : Code R) (world : World) : StopRun R World :=
  ⟨executorCreate code world, none, 0⟩

/-- Whether the script thread makes an access. -/
def ExecutorOp.isScript : ExecutorOp R World → Bool
  | .script _ => true
  | _ => false

def accessesToEnd : Nat := 15

/-- Since a stop set its flag no more than the instruction at hand was executed, the script is idle
once its thread has ended, and that it does in any run in which the thread goes on. -/
def StopRun.Heeded (run : StopRun R World) : Prop :=
  ∀ allowed ∈ run.allowed,
    run.executed ≤ allowed ∧ (run.executor.script = .ended → run.executor.status = .idle) ∧
      ∀ ops : List (ExecutorOp R World), accessesToEnd ≤ ops.countP (·.isScript) →
        ∃ n ≤ ops.length,
          ((ops.take n).foldl (Executor.step host) run.executor).script = .ended

/-- A stop sets its flag only after the thread has cleared it at its start. -/
def StopRun.StopsAfterReset (run : StopRun R World) (op : ExecutorOp R World) : Prop :=
  match op with
  | .ui => run.executor.ui = .stopShouldStop → run.executor.script ≠ .created
  | _ => True

instance StopRun.decidableStopsAfterReset (run : StopRun R World) :
    ∀ op, Decidable (run.StopsAfterReset op)
  | .ui =>
    inferInstanceAs (Decidable (run.executor.ui = .stopShouldStop → run.executor.script ≠ .created))
  | .call _ | .script _ => inferInstanceAs (Decidable True)

end Promise

section Steps

variable {R World : Type} [ScriptNumber R] {host : Host R World} {executor : Executor R World}

/-- How far the thread is from its end, once it was asked to stop. -/
def ScriptPhase.rank : ScriptPhase → Nat
  | .absent | .ended => 0
  | .unlock => 1
  | .writeStatus _ => 2
  | .readStopRequested _ => 3
  | .clearRunning _ => 4
  | .lock _ => 5
  | .limited | .testStop => 6
  | .execute => 7
  | .leavePause => 8
  | .testPausedStop | .setPause => 9
  | .testPaused | .clearPaused => 10
  | .clearSkipWaits | .setSkipWaits => 11
  | .testSkipWaits | .clearStepMode => 12
  | .takePause | .testStepMode => 13
  | .setPaused => 14
  | .testPause => 15
  | .created => 16

/-- What an access of a script thread that was asked to stop leads to. -/
structure HeadsForEnd (executor next : Executor R World) : Prop where
  stop : next.runtime.flags.shouldStop = true
  uncreated : next.script ≠ .created
  present : next.script ≠ .absent
  nearer : next.script.rank < executor.script.rank
  iteration : next.script.inIteration = true → executor.script.inIteration = true

theorem HeadsForEnd.of {next : Executor R World} {phase : ScriptPhase} (following : ScriptPhase)
    (here : executor.script = phase) (there : next.script = following)
    (stop : next.runtime.flags.shouldStop = true)
    (others : following ≠ .created ∧ following ≠ .absent) (nearer : following.rank < phase.rank)
    (iteration : following.inIteration = true → phase.inIteration = true) :
    HeadsForEnd executor next := by
  subst here there
  exact ⟨stop, others.1, others.2, nearer, iteration⟩

theorem Executor.execute_headsForEnd (waits : Bool)
    (phase : executor.script = .execute) (stop : executor.runtime.flags.shouldStop = true) :
    HeadsForEnd executor (executor.execute host waits) ∧
      (executor.execute host waits).script.inIteration = false := by
  unfold Executor.execute
  split
  · exact ⟨.of (.lock true) phase rfl stop (by decide) (by decide) nofun, rfl⟩
  · rename_i instruction found
    -- An instruction that waits sees the flag.
    rw [if_neg (by simp [stop])]
    have kept := @vmDispatch_flags R World _ host executor.code instruction executor.runtime
    have stopped : (vmDispatch host executor.code instruction
        executor.runtime).runtime.flags.shouldStop = true := by
      rcases kept with same | set
      · rw [same, stop]
      · rw [set]
    cases outcome : vmDispatch host executor.code instruction executor.runtime with
    | running after =>
      rw [outcome] at stopped
      exact ⟨.of .testStop phase rfl stopped (by decide) (by decide) nofun, rfl⟩
    | finished after =>
      rw [outcome] at stopped
      exact ⟨.of (.lock true) phase rfl stopped (by decide) (by decide) nofun, rfl⟩
    | failed after =>
      rw [outcome] at stopped
      exact ⟨.of (.lock false) phase rfl stopped (by decide) (by decide) nofun, rfl⟩

theorem Executor.scriptStep_headsForEnd (waits : Bool)
    (stop : executor.runtime.flags.shouldStop = true) (present : executor.script.isGone = false)
    (uncreated : executor.script ≠ .created)
    (free : ∀ succeeded, executor.script = .lock succeeded → executor.mutex = none) :
    HeadsForEnd executor (executor.scriptStep host waits) := by
  unfold Executor.scriptStep
  cases phase : executor.script with
  | absent | ended =>
    rw [phase] at present
    cases present
  | created => exact absurd phase uncreated
  | testStop =>
    dsimp only [Executor.testStop]
    rw [if_pos stop]
    split
    all_goals exact .of (.lock true) phase rfl stop (by decide) (by decide) nofun
  | limited => exact .of (.lock false) phase rfl rfl (by decide) (by decide) nofun
  | testPause =>
    dsimp only
    split_ifs
    · exact .of .setPaused phase rfl stop (by decide) (by decide) (fun _ => rfl)
    · exact .of .execute phase rfl stop (by decide) (by decide) (fun _ => rfl)
  | setPaused => exact .of .takePause phase rfl stop (by decide) (by decide) (fun _ => rfl)
  | takePause => exact .of .testSkipWaits phase rfl stop (by decide) (by decide) (fun _ => rfl)
  | testSkipWaits =>
    dsimp only
    split_ifs
    · exact .of .clearSkipWaits phase rfl stop (by decide) (by decide) (fun _ => rfl)
    · exact .of .testPaused phase rfl stop (by decide) (by decide) (fun _ => rfl)
  | clearSkipWaits => exact .of .testPaused phase rfl stop (by decide) (by decide) (fun _ => rfl)
  | testPaused =>
    dsimp only
    split_ifs
    · exact .of .testPausedStop phase rfl stop (by decide) (by decide) (fun _ => rfl)
    · exact .of .leavePause phase rfl stop (by decide) (by decide) (fun _ => rfl)
  | testPausedStop =>
    dsimp only
    rw [if_pos stop]
    exact .of .leavePause phase rfl stop (by decide) (by decide) (fun _ => rfl)
  | testStepMode =>
    dsimp only
    split_ifs
    · exact .of .clearStepMode phase rfl stop (by decide) (by decide) (fun _ => rfl)
    · exact .of .testPaused phase rfl stop (by decide) (by decide) (fun _ => rfl)
  | clearStepMode => exact .of .setSkipWaits phase rfl stop (by decide) (by decide) (fun _ => rfl)
  | setSkipWaits => exact .of .clearPaused phase rfl stop (by decide) (by decide) (fun _ => rfl)
  | clearPaused => exact .of .setPause phase rfl stop (by decide) (by decide) (fun _ => rfl)
  | setPause => exact .of .leavePause phase rfl stop (by decide) (by decide) (fun _ => rfl)
  | leavePause =>
    dsimp only
    rw [if_pos stop]
    exact .of (.lock true) phase rfl stop (by decide) (by decide) nofun
  | execute => exact (Executor.execute_headsForEnd waits phase stop).1
  | lock succeeded =>
    dsimp only
    rw [if_pos (free succeeded phase)]
    exact .of (.clearRunning succeeded) phase rfl stop ⟨nofun, nofun⟩ (Nat.lt_succ_self 4) nofun
  | clearRunning succeeded =>
    exact .of (.readStopRequested succeeded) phase rfl stop ⟨nofun, nofun⟩ (Nat.lt_succ_self 3)
      nofun
  | readStopRequested succeeded =>
    exact .of (.writeStatus (endStatus executor.stopRequested succeeded)) phase rfl stop
      ⟨nofun, nofun⟩ (Nat.lt_succ_self 2) nofun
  | writeStatus status =>
    exact .of .unlock phase rfl stop (by decide) (Nat.lt_succ_self 1) nofun
  | unlock => exact .of .ended phase rfl stop (by decide) (by decide) nofun

end Steps

section Stopping

variable {R World : Type} [ScriptNumber R] {host : Host R World} {executor : Executor R World}

/-- Whether a stop that found a running script is about to set its flag, or waits for the thread. -/
def UiPhase.isStopping : UiPhase → Bool
  | .stopUnlock true | .stopShouldStop | .stopJoin => true
  | _ => false

/-- Whether an access of the user interface leaves the status of a stopped script alone. -/
def UiPhase.isHarmless : UiPhase → Bool
  | .idle | .startLock | .startReadRunning | .startUnlock _ | .startCompile | .stopLock
  | .stopReadRunning | .stopRequest false | .stopUnlock false | .stopJoin | .stopEndedLock
  | .stopRunning | .stopStatus | .stopEndedUnlock | .pauseLock | .pauseReadStatus | .pauseUnlock
  | .resumeLock | .resumeReadStatus | .resumeUnlock _ | .stepLock | .stepReadStatus
  | .stepUnlock _ => true
  | _ => false

/-- The end of the script, as far as it has come, leads to the status of a stopped one. -/
def Executor.EndsIdle (executor : Executor R World) : Prop :=
  match executor.script with
  | .writeStatus status => status = .idle
  | .unlock | .ended => executor.status = .idle
  | _ => True

/-- What holds while a stop is about to set its flag, or waits for the thread. -/
structure Executor.Asked (executor : Executor R World) : Prop where
  requested : executor.stopRequested = true
  endsIdle : executor.EndsIdle
  present : executor.script ≠ .absent

/-- What holds since a stop set its flag. -/
structure Executor.Stopped (executor : Executor R World) : Prop where
  stop : executor.runtime.flags.shouldStop = true
  uncreated : executor.script ≠ .created
  present : executor.script ≠ .absent
  waits : executor.script ≠ .ended → executor.ui = .stopJoin
  quiet : executor.script = .ended → executor.status = .idle ∧ executor.ui.isHarmless = true

theorem Executor.scriptStep_present (waits : Bool) (present : executor.script ≠ .absent) :
    (executor.scriptStep host waits).script ≠ .absent := by
  unfold Executor.scriptStep
  cases phase : executor.script with
  | absent => exact absurd phase present
  | ended =>
    dsimp only
    rw [phase]
    nofun
  | testStop =>
    dsimp only [Executor.testStop]
    split
    · nofun
    · split_ifs <;> nofun
  | execute =>
    dsimp only [Executor.execute]
    split
    · nofun
    · split_ifs
      · exact present
      · split <;> nofun
  | created | lock =>
    dsimp only
    split_ifs
    · nofun
    · first | exact present | nofun
  | testPause | testSkipWaits | testPaused | testPausedStop | testStepMode | leavePause =>
    dsimp only [Executor.scriptAt]
    split_ifs <;> nofun
  | _ => nofun

theorem Executor.scriptStep_endsIdle (waits : Bool) (requested : executor.stopRequested = true)
    (endsIdle : executor.EndsIdle) : (executor.scriptStep host waits).EndsIdle := by
  unfold Executor.scriptStep
  cases phase : executor.script with
  | testStop =>
    dsimp only [Executor.testStop]
    split
    · trivial
    · split_ifs <;> trivial
  | execute =>
    dsimp only [Executor.execute]
    split
    · trivial
    · split_ifs
      · exact endsIdle
      · split <;> trivial
  | created | lock =>
    dsimp only
    split_ifs
    · trivial
    · first | exact endsIdle | trivial
  | testPause | testSkipWaits | testPaused | testPausedStop | testStepMode | leavePause =>
    dsimp only [Executor.scriptAt]
    split_ifs <;> trivial
  | readStopRequested succeeded =>
    exact (if_pos requested : endStatus executor.stopRequested succeeded = .idle)
  | writeStatus status =>
    unfold Executor.EndsIdle at endsIdle
    rw [phase] at endsIdle
    exact endsIdle
  | unlock =>
    unfold Executor.EndsIdle at endsIdle
    rw [phase] at endsIdle
    exact endsIdle
  | absent | ended => exact endsIdle
  | _ => trivial

theorem Executor.Asked.scriptStep (asked : executor.Asked) (waits : Bool) :
    (executor.scriptStep host waits).Asked where
  requested := (Executor.scriptStep_keeps waits).2.trans asked.requested
  endsIdle := Executor.scriptStep_endsIdle waits asked.requested asked.endsIdle
  present := Executor.scriptStep_present waits asked.present

theorem Executor.Orderly.asked (orderly : executor.Orderly)
    (phase : executor.ui = .stopRequest true) :
    Executor.Asked { executor with stopRequested := true, ui := .stopUnlock true } := by
  have free := orderly.exclusive (by rw [phase]; rfl)
  have live := orderly.running (orderly.request phase)
  rw [phase] at live
  have lives : executor.script.isLive = true := live.resolve_right nofun
  refine ⟨rfl, ?_, fun absent => ?_⟩
  · show Executor.EndsIdle _
    unfold Executor.EndsIdle
    revert lives free
    cases executor.script <;> simp [ScriptPhase.isLive, ScriptPhase.holdsMutex]
  · rw [show executor.script = .absent from absent] at lives
    cases lives

theorem Executor.Asked.move (asked : executor.Asked) {next : Executor R World}
    (same : next.script = executor.script ∧ next.stopRequested = executor.stopRequested ∧
      next.status = executor.status) : next.Asked := by
  obtain ⟨script, stopRequested, status⟩ := same
  refine ⟨stopRequested.trans asked.requested, ?_, script ▸ asked.present⟩
  have endsIdle := asked.endsIdle
  unfold Executor.EndsIdle at endsIdle ⊢
  rw [script, status]
  exact endsIdle

theorem Executor.Asked.uiStep (orderly : executor.Orderly)
    (asked : executor.ui.isStopping = true → executor.Asked)
    (stopping : executor.uiStep.ui.isStopping = true) : executor.uiStep.Asked := by
  unfold Executor.uiStep at stopping ⊢
  cases phase : executor.ui with
  | stopRequest running =>
    rw [phase] at stopping
    cases running with
    | true => exact orderly.asked phase
    | false => cases stopping
  | stopUnlock running =>
    rw [phase] at stopping asked
    cases running with
    | true => exact (asked rfl).move ⟨rfl, rfl, rfl⟩
    | false => cases stopping
  | stopShouldStop =>
    rw [phase] at asked
    exact (asked rfl).move ⟨rfl, rfl, rfl⟩
  | stopJoin =>
    rw [phase] at asked
    dsimp only [UiPhase.callKind, Executor.stopStep]
    split_ifs
    all_goals exact (asked rfl).move ⟨rfl, rfl, rfl⟩
  | startLock | startErrorLock | startReadyLock | startFailedLock | stopLock | stopEndedLock
  | pauseLock | resumeLock | stepLock =>
    rw [phase] at stopping
    simp only [UiPhase.callKind, Executor.startStep, Executor.stopStep, Executor.debugStep,
      Executor.uiLock] at stopping
    split_ifs at stopping
    · cases stopping
    · rw [phase] at stopping
      cases stopping
  | startCompile =>
    rw [phase] at stopping
    dsimp only [UiPhase.callKind, Executor.startStep] at stopping
    cases script : executor.starting.script with
    | none =>
      rw [script] at stopping
      cases stopping
    | some compiled =>
      rw [script] at stopping
      dsimp only at stopping
      split_ifs at stopping <;> cases stopping
  | startUnlock running =>
    rw [phase] at stopping
    cases running <;> cases stopping
  | startCreate | pauseReadStatus | resumeReadStatus | stepReadStatus =>
    rw [phase] at stopping
    dsimp only [UiPhase.callKind, Executor.startStep, Executor.debugStep] at stopping
    split_ifs at stopping <;> cases stopping
  | idle =>
    rw [phase] at stopping
    dsimp only [UiPhase.callKind] at stopping
    rw [phase] at stopping
    cases stopping
  | _ =>
    rw [phase] at stopping
    cases stopping

theorem Executor.Stopped.uiStep (stopped : executor.Stopped) (orderly : executor.Orderly)
    (other : executor.ui ≠ .startCompile) : executor.uiStep.Stopped := by
  obtain ⟨stop, uncreated, present, waits, quiet⟩ := stopped
  by_cases ended : executor.script = .ended
  · obtain ⟨idle, harmless⟩ := quiet ended
    -- What a call asks for is refused, for the status is not the one of a running script.
    have settle : ∀ next : Executor R World, next.runtime = executor.runtime →
        next.script = executor.script → next.status = executor.status →
        next.ui.isHarmless = true → next.Stopped := fun next runtime script status there =>
      ⟨runtime ▸ stop, script ▸ uncreated, script ▸ present,
        fun live => absurd (script.trans ended) live, fun _ => ⟨status.trans idle, there⟩⟩
    unfold Executor.uiStep
    cases phase : executor.ui with
    | startCompile => exact absurd phase other
    | idle => exact settle _ rfl rfl rfl harmless
    | startLock | stopLock | stopEndedLock | pauseLock | resumeLock | stepLock =>
      dsimp only [UiPhase.callKind, Executor.startStep, Executor.stopStep, Executor.debugStep,
        Executor.uiLock]
      split_ifs
      · exact settle _ rfl rfl rfl rfl
      · exact settle _ rfl rfl rfl harmless
    | startReadRunning | startUnlock | stopStatus =>
      refine settle _ rfl rfl ?_ ?_
      · first | rfl | (dsimp only [UiPhase.callKind, Executor.stopStep]; simp [idle])
      · first | rfl | (rename_i running; cases running <;> rfl)
    | stopReadRunning =>
      -- The thread that ended has said so before.
      have still : executor.threadRunning = false := by
        have running := orderly.running
        rw [phase, ended] at running
        simpa [ScriptPhase.isLive, UiPhase.isCreating] using running
      refine settle _ rfl rfl rfl ?_
      show (UiPhase.stopRequest executor.threadRunning).isHarmless = true
      rw [still]
      rfl
    | stopRequest running | stopUnlock running =>
      cases running with
      | true =>
        rw [phase] at harmless
        cases harmless
      | false => exact settle _ rfl rfl rfl rfl
    | stopJoin =>
      dsimp only [UiPhase.callKind, Executor.stopStep]
      rw [if_pos ended]
      exact settle _ rfl rfl rfl rfl
    | stopRunning | stopEndedUnlock | pauseUnlock | resumeUnlock | stepUnlock =>
      exact settle _ rfl rfl rfl rfl
    | pauseReadStatus | resumeReadStatus | stepReadStatus =>
      dsimp only [UiPhase.callKind, Executor.debugStep]
      rw [if_neg (by rw [idle]; decide)]
      exact settle _ rfl rfl rfl rfl
    | _ =>
      rw [phase] at harmless
      cases harmless
  · -- The stop waits for the thread.
    have join := waits ended
    have same : executor.uiStep = executor := by
      unfold Executor.uiStep
      rw [join]
      exact if_neg ended
    rw [same]
    exact ⟨stop, uncreated, present, waits, quiet⟩

theorem Executor.Stopped.begin (stopped : executor.Stopped) (call : ExecutorCall R World) :
    (executor.begin call).Stopped := by
  unfold Executor.begin
  by_cases free : executor.ui = .idle
  · rw [if_neg (not_not.mpr free)]
    have ended : executor.script = .ended := by
      by_contra live
      have join := stopped.waits live
      rw [free] at join
      cases join
    have settle : ∀ next : Executor R World, next.runtime = executor.runtime →
        next.script = executor.script → next.status = executor.status →
        next.ui.isHarmless = true → next.Stopped := fun next runtime script status there =>
      ⟨runtime ▸ stopped.stop, script ▸ stopped.uncreated, script ▸ stopped.present,
        fun live => absurd (script.trans ended) live,
        fun _ => ⟨status.trans (stopped.quiet ended).1, there⟩⟩
    cases call with
    | start | stop => exact settle _ rfl rfl rfl rfl
    | pause | resume | step =>
      dsimp only
      split_ifs
      · exact settle _ rfl rfl rfl rfl
      · exact stopped
  · rw [if_pos free]
    exact stopped

theorem Executor.Stopped.headsForEnd (stopped : executor.Stopped) (orderly : executor.Orderly)
    (live : executor.script ≠ .ended) (waits : Bool) :
    HeadsForEnd executor (executor.scriptStep host waits) := by
  have join := stopped.waits live
  refine Executor.scriptStep_headsForEnd waits stopped.stop ?_ stopped.uncreated ?_
  · have present := stopped.present
    revert live present
    cases executor.script <;> simp [ScriptPhase.isGone]
  · intro succeeded phase
    -- A stop that waits does not hold the mutex.
    cases held : executor.mutex with
    | none => rfl
    | some holder =>
      cases holder with
      | ui =>
        have holds := orderly.uiHolds.mp held
        rw [join] at holds
        cases holds
      | script =>
        have holds := orderly.scriptHolds.mp held
        rw [phase] at holds
        cases holds

theorem Executor.Stopped.scriptStep (stopped : executor.Stopped) (orderly : executor.Orderly)
    (asked : executor.ui.isStopping = true → executor.Asked) (waits : Bool) :
    (executor.scriptStep host waits).Stopped := by
  by_cases ended : executor.script = .ended
  · have same : executor.scriptStep host waits = executor := by
      unfold Executor.scriptStep
      rw [ended]
    rw [same]
    exact stopped
  · have join := stopped.waits ended
    have heads := @Executor.Stopped.headsForEnd R World _ host executor stopped orderly ended waits
    have ui := (@Executor.scriptStep_keeps R World _ host executor waits).1.trans join
    refine ⟨heads.stop, heads.uncreated, heads.present, fun _ => ui, fun finished => ?_⟩
    have next := @Executor.Asked.scriptStep R World _ host _ (asked (by rw [join]; rfl)) waits
    have endsIdle := next.endsIdle
    unfold Executor.EndsIdle at endsIdle
    rw [finished] at endsIdle
    refine ⟨endsIdle, ?_⟩
    rw [ui]
    rfl

theorem Executor.Stopped.ends (stopped : executor.Stopped) (orderly : executor.Orderly)
    (asked : executor.ui.isStopping = true → executor.Asked) (ops : List (ExecutorOp R World))
    (enough : executor.script.rank ≤ ops.countP (·.isScript)) :
    ∃ n ≤ ops.length, ((ops.take n).foldl (Executor.step host) executor).script = .ended := by
  -- The induction is on the operations; the rank falls with every access of the thread.
  induction ops generalizing executor with
  | nil =>
    refine ⟨0, Nat.zero_le _, ?_⟩
    have present := stopped.present
    have none : executor.script.rank = 0 := Nat.le_zero.mp enough
    show executor.script = .ended
    revert none present
    cases executor.script <;> simp [ScriptPhase.rank]
  | cons op rest ih =>
    by_cases ended : executor.script = .ended
    · exact ⟨0, Nat.zero_le _, ended⟩
    have join := stopped.waits ended
    have onwards : ∀ next : Executor R World, executor.step host op = next → next.Stopped →
        next.Orderly → (next.ui.isStopping = true → next.Asked) →
        next.script.rank ≤ rest.countP (·.isScript) →
        ∃ n ≤ (op :: rest).length,
          (((op :: rest).take n).foldl (Executor.step host) executor).script = .ended := by
      rintro next rfl stopped orderly asked enough
      obtain ⟨n, bound, finished⟩ := ih stopped orderly asked enough
      exact ⟨n + 1, Nat.succ_le_succ bound, finished⟩
    cases op with
    | call call =>
      refine onwards executor ?_ stopped orderly asked enough
      exact if_pos (by rw [join]; decide)
    | ui =>
      refine onwards executor ?_ stopped orderly asked enough
      show executor.uiStep = executor
      unfold Executor.uiStep
      rw [join]
      exact if_neg ended
    | script waits =>
      have heads := @Executor.Stopped.headsForEnd R World _ host executor stopped orderly ended waits
      refine onwards _ rfl (stopped.scriptStep orderly asked waits) (orderly.scriptStep waits)
        (fun stopping => ?_) ?_
      · have here : (executor.scriptStep host waits).ui.isStopping = true := stopping
        rw [(Executor.scriptStep_keeps waits).1] at here
        exact (asked here).scriptStep waits
      · have nearer := heads.nearer
        rw [List.countP_cons_of_pos rfl] at enough
        exact Nat.le_of_lt_succ (Nat.lt_of_lt_of_le nearer enough)

end Stopping

section Runs

variable {R World : Type} [ScriptNumber R] {host : Host R World} {run : StopRun R World}
  {executor : Executor R World}

/-- What holds in every run in which no stop is lost. -/
structure StopRun.Sound (run : StopRun R World) : Prop where
  orderly : run.executor.Orderly
  asked : run.executor.ui.isStopping = true → run.executor.Asked
  stopped : ∀ allowed ∈ run.allowed, run.executor.Stopped ∧
    run.executed + (if run.executor.script.inIteration then 1 else 0) ≤ allowed

theorem Executor.Stopped.iteration (stopped : executor.Stopped) (orderly : executor.Orderly)
    (waits : Bool) :
    (if (executor.scriptStep host waits).script.inIteration then 1 else 0) ≤
      if executor.script.inIteration then 1 else 0 := by
  by_cases ended : executor.script = .ended
  · have same : executor.scriptStep host waits = executor := by
      unfold Executor.scriptStep
      rw [ended]
    rw [same]
  · have heads := @Executor.Stopped.headsForEnd R World _ host executor stopped orderly ended waits
    split_ifs with next now
    · exact Nat.le_refl 1
    · exact absurd (heads.iteration next) now
    · exact Nat.zero_le 1
    · exact Nat.le_refl 0

theorem StopRun.Sound.script (sound : run.Sound) (waits : Bool) :
    (run.step host (.script waits)).Sound := by
  have orderly := @Executor.Orderly.scriptStep R World _ host _ sound.orderly waits
  have asked : (run.executor.scriptStep host waits).ui.isStopping = true →
      (run.executor.scriptStep host waits).Asked := fun stopping => by
    rw [(Executor.scriptStep_keeps waits).1] at stopping
    exact (sound.asked stopping).scriptStep waits
  unfold StopRun.step
  dsimp only [Executor.step]
  split_ifs with executes
  · refine ⟨orderly, asked, fun allowed some => ?_⟩
    obtain ⟨stopped, count⟩ := sound.stopped allowed some
    have left := (@Executor.execute_headsForEnd R World _ host _ waits executes.1 stopped.stop).2
    have here : run.executor.scriptStep host waits = run.executor.execute host waits := by
      unfold Executor.scriptStep
      rw [executes.1]
    refine ⟨stopped.scriptStep sound.orderly sound.asked waits, ?_⟩
    rw [executes.1, if_pos (show ScriptPhase.execute.inIteration = true from rfl)] at count
    rw [← here] at left
    simpa [left] using count
  · refine ⟨orderly, asked, fun allowed some => ?_⟩
    obtain ⟨stopped, count⟩ := sound.stopped allowed some
    have fewer := @Executor.Stopped.iteration R World _ host _ stopped sound.orderly waits
    exact ⟨stopped.scriptStep sound.orderly sound.asked waits, by dsimp only; omega⟩

theorem Executor.uiStep_script (other : executor.ui ≠ .startCreate) :
    executor.uiStep.script = executor.script := by
  unfold Executor.uiStep
  cases phase : executor.ui with
  | startCreate => exact absurd phase other
  | startCompile =>
    dsimp only [UiPhase.callKind, Executor.startStep]
    split <;> rfl
  | startLock | startErrorLock | startReadyLock | startFailedLock | stopLock | stopEndedLock
  | pauseLock | resumeLock | stepLock =>
    dsimp only [UiPhase.callKind, Executor.startStep, Executor.stopStep, Executor.debugStep,
      Executor.uiLock]
    split_ifs <;> rfl
  | stopJoin =>
    dsimp only [UiPhase.callKind, Executor.stopStep]
    split_ifs <;> rfl
  | _ => rfl

theorem Executor.Asked.stopped (asked : executor.Asked) (sets : executor.ui = .stopShouldStop)
    (reset : executor.script ≠ .created) :
    executor.uiStep.Stopped := by
  have endsIdle := asked.endsIdle
  unfold Executor.uiStep
  rw [sets]
  refine ⟨rfl, reset, asked.present, fun _ => rfl, fun ended => ⟨?_, rfl⟩⟩
  unfold Executor.EndsIdle at endsIdle
  rw [show executor.script = .ended from ended] at endsIdle
  exact endsIdle

theorem StopRun.Sound.ui (sound : run.Sound) (reset : run.StopsAfterReset .ui) :
    (run.step host .ui).Sound := by
  have orderly := sound.orderly.uiStep
  have asked := Executor.Asked.uiStep sound.orderly sound.asked
  unfold StopRun.step
  dsimp only [Executor.step]
  by_cases sets : run.executor.ui = .stopShouldStop
  · rw [if_pos sets]
    have kept : run.executor.uiStep.script = run.executor.script :=
      Executor.uiStep_script (by rw [sets]; decide)
    refine ⟨orderly, asked, fun allowed counted => ?_⟩
    obtain rfl := Option.some.inj counted
    refine ⟨(sound.asked (by rw [sets]; rfl)).stopped sets (reset sets), ?_⟩
    rw [kept]
    exact Nat.le_of_eq (Nat.zero_add _)
  · rw [if_neg sets]
    by_cases compiles : run.executor.ui = .startCompile
    · rw [if_pos compiles]
      exact ⟨orderly, asked, nofun⟩
    · rw [if_neg compiles]
      refine ⟨orderly, asked, fun allowed counted => ?_⟩
      obtain ⟨stopped, count⟩ := sound.stopped allowed counted
      refine ⟨stopped.uiStep sound.orderly compiles, ?_⟩
      have kept : run.executor.uiStep.script = run.executor.script := by
        refine Executor.uiStep_script fun create => ?_
        -- A thread that ended is not created again, and one that lives is waited for.
        by_cases ended : run.executor.script = .ended
        · have harmless := (stopped.quiet ended).2
          rw [create] at harmless
          cases harmless
        · have join := stopped.waits ended
          rw [create] at join
          cases join
      rw [kept]
      exact count

theorem Executor.begin_script (call : ExecutorCall R World) :
    (executor.begin call).script = executor.script := by
  unfold Executor.begin
  by_cases free : executor.ui = .idle
  · rw [if_neg (not_not.mpr free)]
    cases call with
    | start | stop => rfl
    | pause | resume | step =>
      dsimp only
      split_ifs <;> rfl
  · rw [if_pos free]

theorem Executor.Asked.begin (asked : executor.ui.isStopping = true → executor.Asked)
    (call : ExecutorCall R World) (stopping : (executor.begin call).ui.isStopping = true) :
    (executor.begin call).Asked := by
  unfold Executor.begin at stopping ⊢
  by_cases free : executor.ui = .idle
  · rw [if_neg (not_not.mpr free)] at stopping
    cases call with
    | start | stop => cases stopping
    | pause | resume | step =>
      dsimp only at stopping
      split_ifs at stopping
      · cases stopping
      · rw [free] at stopping
        cases stopping
  · rw [if_pos free] at stopping ⊢
    exact asked stopping

theorem StopRun.Sound.step (sound : run.Sound) (op : ExecutorOp R World)
    (reset : run.StopsAfterReset op) : (run.step host op).Sound := by
  cases op with
  | call call =>
    refine ⟨sound.orderly.begin call, fun stopping => ?_, fun allowed counted => ?_⟩
    · exact Executor.Asked.begin sound.asked call stopping
    · obtain ⟨stopped, count⟩ := sound.stopped allowed counted
      refine ⟨stopped.begin call, ?_⟩
      show run.executed + (if (run.executor.begin call).script.inIteration then 1 else 0) ≤ allowed
      rw [Executor.begin_script]
      exact count
  | ui => exact sound.ui reset
  | script waits => exact sound.script waits

theorem StopRun.start_sound (code : Code R) (world : World) :
    (StopRun.start code world).Sound where
  orderly := executorCreate_orderly code world
  asked := nofun
  stopped := nofun

theorem StopRun.Sound.heeded (sound : run.Sound) : run.Heeded host := by
  intro allowed counted
  obtain ⟨stopped, count⟩ := sound.stopped allowed counted
  refine ⟨Nat.le_trans (Nat.le_add_right _ _) count, fun ended => (stopped.quiet ended).1,
    fun ops enough => ?_⟩
  refine stopped.ends sound.orderly sound.asked ops (Nat.le_trans ?_ enough)
  have uncreated := stopped.uncreated
  revert uncreated
  unfold accessesToEnd
  cases run.executor.script <;> simp [ScriptPhase.rank]

/-- In every run in which each stop sets its flag only after the thread of the script has cleared it
at its start, every stop is heeded: at most the instruction at hand is executed, the thread ends, and
the script is idle. -/
theorem stops_heeded (host : Host R World) (code : Code R) (world : World)
    (ops : List (ExecutorOp R World))
    (resets : EachStep (StopRun.step host) StopRun.StopsAfterReset (StopRun.start code world) ops) :
    Always (StopRun.step host) (StopRun.Heeded host) (StopRun.start code world) ops :=
  (always_of_eachStep (fun _ op sound reset => StopRun.Sound.step sound op reset) resets
    (StopRun.start_sound code world)).imp fun _ sound => sound.heeded

end Runs

section Examples

def endlessLoop : List (AstStmt Int) := [.label 1 (text "L"), .goto 2 (text "L")]

/-- A script is started, and its thread makes so many accesses before a stop sets its flag. -/
def startThenStop (code : Code Int) (accesses : Nat) : List (ExecutorOp Int Unit) :=
  .call (.start ⟨some (code, ()), false, true⟩) :: List.replicate 10 .ui ++
    List.replicate accesses (.script false) ++ .call .stop :: List.replicate 5 .ui

/-- A stop whose flag is set before the thread gets going is lost: the loop goes on. -/
theorem stopBeforeReset_lost :
    ∃ code, c64scriptCompile endlessLoop [] = .ok code ∧
      ¬ Always (StopRun.step quietHost) (StopRun.Heeded quietHost) (StopRun.start code ())
        (startThenStop code 0 ++ List.replicate 4 (.script false)) := by
  refine ⟨_, rfl, fun always => ?_⟩
  have few := (always.last 0 (by decide +kernel)).1
  revert few
  decide +kernel

/-- A stop whose flag is set after the thread got going ends the loop. -/
theorem stops_heeded_endlessLoop :
    ∃ code, c64scriptCompile endlessLoop [] = .ok code ∧
      EachStep (StopRun.step quietHost) StopRun.StopsAfterReset (StopRun.start code ())
        (startThenStop code 3 ++ List.replicate 8 (.script false)) ∧
      Always (StopRun.step quietHost) (StopRun.Heeded quietHost) (StopRun.start code ())
        (startThenStop code 3 ++ List.replicate 8 (.script false)) := by
  refine ⟨_, rfl, ?_, stops_heeded quietHost _ () _ ?_⟩
  all_goals decide +kernel

end Examples

end C64Stream
