import C64Stream.Script.Debugging

/-! What the flags of a pause say at each access of the two threads, and that the promises are kept. -/

namespace C64Stream

section Predicates

variable {R World : Type} [ScriptNumber R] (executor : Executor R World)

/-- The machine will wait before it passes on to another line. -/
def Executor.Armed : Prop :=
  let flags := executor.runtime.flags
  match executor.script with
  | .created | .testStop | .testPause | .execute => flags.shouldPause = true
  | .takePause => flags.isPaused = true
  | .testSkipWaits | .clearSkipWaits | .testPaused | .testPausedStop | .testStepMode =>
    flags.isPaused = true ∨ flags.shouldPause = true
  | .leavePause => flags.shouldPause = true ∨ flags.shouldStop = true
  | _ => True

/-- The machine will not wait. -/
structure Executor.Disarmed : Prop where
  unasked : executor.runtime.flags.shouldPause = false
  unpaused : executor.runtime.flags.isPaused = false
  rearms : executor.rearms = false
  pausing : executor.script ≠ .setPaused

/-- The machine waits, or will wait, before it executes anything. -/
def Executor.HeldBack : Prop :=
  let flags := executor.runtime.flags
  flags.stepMode = false ∧
    match executor.script with
    | .created | .testStop | .testPause => flags.shouldPause = true
    | .takePause | .testSkipWaits | .clearSkipWaits | .testPaused | .testPausedStop
    | .testStepMode => flags.isPaused = true
    | .leavePause => flags.shouldStop = true
    | .execute | .clearStepMode | .setSkipWaits | .clearPaused | .setPause => False
    | _ => True

/-- The machine goes from the loop of a pause to an instruction that has a line. -/
def Executor.GoesOn : Prop :=
  let flags := executor.runtime.flags
  flags.shouldStop = false ∧ 0 < executor.lineAtHand ∧
    match executor.script with
    | .testPaused | .testPausedStop | .testStepMode =>
      flags.isPaused = true ∧ flags.stepMode = true
    | .clearStepMode | .setSkipWaits | .clearPaused | .setPause => True
    | .leavePause | .execute => flags.shouldPause = true
    | _ => False

/-- The machine executes a line, and waits where another one begins. -/
def Executor.RunsLine (line : Int) : Prop :=
  let flags := executor.runtime.flags
  match executor.script with
  | .testStop | .testPause => flags.shouldPause = true
  | .execute => flags.shouldPause = true ∧ (0 < executor.lineAtHand → executor.lineAtHand = line)
  | .setPaused => executor.lineAtHand ≠ line
  | .takePause | .testSkipWaits | .clearSkipWaits | .testPaused =>
    flags.isPaused = true ∧ executor.lineAtHand ≠ line
  | .created | .testPausedStop | .testStepMode | .clearStepMode | .setSkipWaits | .clearPaused
  | .setPause | .leavePause => False
  | _ => True

/-- Whether the machine is in a pause, or about to begin or to leave one. -/
def ScriptPhase.inPause : ScriptPhase → Bool
  | .setPaused | .takePause | .testSkipWaits | .clearSkipWaits | .testPaused | .testPausedStop
  | .testStepMode | .clearStepMode | .setSkipWaits | .clearPaused | .setPause | .leavePause => true
  | _ => false

end Predicates

section Script

variable {R World : Type} [ScriptNumber R] {host : Host R World} {executor : Executor R World}

theorem Executor.pausesHere_iff :
    executor.pausesHere = true ↔
      executor.runtime.flags.shouldPause = true ∧
        executor.lineAtHand ≠ executor.runtime.lastExecutedLine ∧ 0 < executor.lineAtHand := by
  unfold Executor.pausesHere Executor.lineAtHand
  rw [Bool.and_eq_true, decide_eq_true_eq]

theorem Executor.execute_cases (waits : Bool) :
    executor.execute host waits = executor ∨
      ((executor.execute host waits).script = .testStop ∨
        ∃ succeeded, (executor.execute host waits).script = .lock succeeded) ∧
      ((executor.execute host waits).runtime.flags = executor.runtime.flags ∨
        (executor.execute host waits).runtime.flags =
          { executor.runtime.flags with shouldStop := true }) := by
  unfold Executor.execute
  split
  · exact .inr ⟨.inr ⟨true, rfl⟩, .inl rfl⟩
  · rename_i instruction found
    split_ifs with waiting
    · exact .inl rfl
    · right
      have kept := @vmDispatch_flags R World _ host executor.code instruction executor.runtime
      cases outcome : vmDispatch host executor.code instruction executor.runtime with
      | running after =>
        rw [outcome] at kept
        exact ⟨.inl rfl, kept⟩
      | finished after =>
        rw [outcome] at kept
        exact ⟨.inr ⟨true, rfl⟩, kept⟩
      | failed after =>
        rw [outcome] at kept
        exact ⟨.inr ⟨false, rfl⟩, kept⟩

theorem Executor.testStop_cases :
    (executor.testStop.script = .testPause ∨ executor.testStop.script = .limited ∨
        executor.testStop.script = .lock true) ∧
      executor.testStop.runtime.flags = executor.runtime.flags := by
  unfold Executor.testStop
  split
  · exact ⟨.inr (.inr rfl), rfl⟩
  · split_ifs
    · exact ⟨.inr (.inr rfl), rfl⟩
    · exact ⟨.inr (.inl rfl), rfl⟩
    · exact ⟨.inl rfl, rfl⟩
    · exact ⟨.inl rfl, rfl⟩

theorem Executor.Armed.scriptStep (armed : executor.Armed) (waits : Bool) :
    (executor.scriptStep host waits).Armed := by
  obtain ⟨status, running, requested, mutex, hasRuntime, code, runtime, starting, ui, script⟩ :=
    executor
  cases script with
  | created =>
    dsimp only [Executor.scriptStep]
    split_ifs
    · trivial
    · exact armed
  | testStop =>
    have cases := @Executor.testStop_cases R World _
      ⟨status, running, requested, mutex, hasRuntime, code, runtime, starting, ui, .testStop⟩
    unfold Executor.Armed
    dsimp only [Executor.scriptStep]
    rcases cases with ⟨there | there | there, flags⟩
    all_goals rw [there]
    · rw [flags]
      exact armed
    all_goals trivial
  | execute =>
    rcases @Executor.execute_cases R World _ host ⟨status, running, requested, mutex, hasRuntime,
      code, runtime, starting, ui, .execute⟩ waits with same | ⟨there | ⟨succeeded, there⟩, flags⟩
    · dsimp only [Executor.scriptStep]
      rw [same]
      exact armed
    all_goals
      unfold Executor.Armed
      dsimp only [Executor.scriptStep]
      rw [there]
    · rcases flags with flags | flags
      all_goals
        rw [flags]
        exact armed
    · trivial
  | testPause =>
    dsimp only [Executor.scriptStep]
    split_ifs
    · trivial
    · exact armed
  | testSkipWaits =>
    dsimp only [Executor.scriptStep]
    split_ifs <;> exact armed
  | testPaused =>
    dsimp only [Executor.scriptStep]
    split_ifs with paused
    · exact armed
    · exact .inl (armed.resolve_left paused)
  | testPausedStop =>
    dsimp only [Executor.scriptStep]
    split_ifs with stop
    · exact .inr stop
    · exact armed
  | testStepMode =>
    dsimp only [Executor.scriptStep]
    split_ifs
    · trivial
    · exact armed
  | leavePause =>
    dsimp only [Executor.scriptStep]
    split_ifs with stop
    · trivial
    · exact armed.resolve_right stop
  | lock =>
    dsimp only [Executor.scriptStep]
    split_ifs <;> trivial
  | setPaused => exact (rfl : true = true)
  | takePause => exact .inl armed
  | clearSkipWaits => exact armed
  | setPause => exact .inl (rfl : true = true)
  | _ => trivial

theorem Executor.Disarmed.scriptStep (disarmed : executor.Disarmed) (waits : Bool) :
    (executor.scriptStep host waits).Disarmed := by
  obtain ⟨status, running, requested, mutex, hasRuntime, code, runtime, starting, ui, script⟩ :=
    executor
  have unasked : runtime.flags.shouldPause = false := disarmed.unasked
  have unpaused : runtime.flags.isPaused = false := disarmed.unpaused
  have settle : ∀ next : Executor R World, next.runtime.flags = runtime.flags →
      next.rearms = false → next.script ≠ .setPaused → next.Disarmed := fun next flags rearms out =>
    ⟨flags ▸ unasked, flags ▸ unpaused, rearms, out⟩
  cases script with
  | created =>
    dsimp only [Executor.scriptStep]
    split_ifs
    · exact settle _ rfl rfl nofun
    · exact ⟨unasked, unpaused, rfl, nofun⟩
  | testStop =>
    obtain ⟨there, flags⟩ := @Executor.testStop_cases R World _
      ⟨status, running, requested, mutex, hasRuntime, code, runtime, starting, ui, .testStop⟩
    dsimp only [Executor.scriptStep]
    refine settle _ flags ?_ ?_
    all_goals rcases there with there | there | there
    all_goals first | (unfold Executor.rearms; rw [there]) | (rw [there]; nofun)
  | execute =>
    rcases @Executor.execute_cases R World _ host ⟨status, running, requested, mutex, hasRuntime,
      code, runtime, starting, ui, .execute⟩ waits with same | ⟨there, flags⟩
    · dsimp only [Executor.scriptStep]
      rw [same]
      exact disarmed
    · dsimp only [Executor.scriptStep]
      refine ⟨?_, ?_, ?_, ?_⟩
      · rcases flags with flags | flags
        all_goals
          rw [flags]
          exact unasked
      · rcases flags with flags | flags
        all_goals
          rw [flags]
          exact unpaused
      all_goals rcases there with there | ⟨succeeded, there⟩
      all_goals first | (unfold Executor.rearms; rw [there]) | (rw [there]; nofun)
  | testPause =>
    dsimp only [Executor.scriptStep]
    have passes : @Executor.pausesHere R World _ ⟨status, running, requested, mutex, hasRuntime,
        code, runtime, starting, ui, .testPause⟩ = false := by
      refine Bool.eq_false_iff.mpr fun pauses => ?_
      have asked : runtime.flags.shouldPause = true := (Executor.pausesHere_iff.mp pauses).1
      rw [unasked] at asked
      cases asked
    rw [passes]
    exact settle _ rfl rfl nofun
  | setPaused => exact absurd rfl disarmed.pausing
  | takePause => exact ⟨rfl, unpaused, rfl, nofun⟩
  | testSkipWaits =>
    dsimp only [Executor.scriptStep]
    split_ifs <;> exact settle _ rfl rfl nofun
  | clearSkipWaits => exact ⟨unasked, unpaused, rfl, nofun⟩
  | testPaused =>
    dsimp only [Executor.scriptStep]
    rw [unpaused]
    exact settle _ rfl rfl nofun
  | testPausedStop =>
    dsimp only [Executor.scriptStep]
    split_ifs
    · exact settle _ rfl rfl nofun
    · exact settle _ rfl disarmed.rearms nofun
  | testStepMode =>
    have still : runtime.flags.stepMode = false := disarmed.rearms
    dsimp only [Executor.scriptStep]
    rw [still]
    exact settle _ rfl rfl nofun
  | clearStepMode | setSkipWaits | clearPaused | setPause =>
    have rearms := disarmed.rearms
    cases rearms
  | leavePause =>
    dsimp only [Executor.scriptStep]
    split_ifs <;> exact settle _ rfl rfl nofun
  | limited => exact ⟨unasked, unpaused, rfl, nofun⟩
  | lock =>
    dsimp only [Executor.scriptStep]
    split_ifs <;> exact settle _ rfl rfl nofun
  | _ => exact settle _ rfl rfl nofun

theorem Executor.scriptStep_unpaused (waits : Bool)
    (unpaused : executor.runtime.flags.isPaused = false) (out : executor.script ≠ .setPaused)
    (passes : executor.script = .testPause → executor.pausesHere = false) :
    (executor.scriptStep host waits).runtime.flags.isPaused = false ∧
      (executor.scriptStep host waits).script ≠ .setPaused := by
  obtain ⟨status, running, requested, mutex, hasRuntime, code, runtime, starting, ui, script⟩ :=
    executor
  have kept : runtime.flags.isPaused = false := unpaused
  cases script with
  | created =>
    dsimp only [Executor.scriptStep]
    split_ifs <;> exact ⟨kept, nofun⟩
  | testStop =>
    obtain ⟨there, flags⟩ := @Executor.testStop_cases R World _
      ⟨status, running, requested, mutex, hasRuntime, code, runtime, starting, ui, .testStop⟩
    dsimp only [Executor.scriptStep]
    refine ⟨flags ▸ kept, ?_⟩
    rcases there with there | there | there
    all_goals
      rw [there]
      nofun
  | execute =>
    rcases @Executor.execute_cases R World _ host ⟨status, running, requested, mutex, hasRuntime,
      code, runtime, starting, ui, .execute⟩ waits with same | ⟨there, flags⟩
    · dsimp only [Executor.scriptStep]
      rw [same]
      exact ⟨kept, nofun⟩
    · dsimp only [Executor.scriptStep]
      constructor
      · rcases flags with flags | flags
        all_goals
          rw [flags]
          exact kept
      · rcases there with there | ⟨succeeded, there⟩
        all_goals
          rw [there]
          nofun
  | testPause =>
    dsimp only [Executor.scriptStep]
    rw [passes rfl]
    exact ⟨kept, nofun⟩
  | setPaused => exact absurd rfl out
  | clearPaused => exact ⟨rfl, nofun⟩
  | testSkipWaits | testPaused | testPausedStop | testStepMode | leavePause | lock =>
    dsimp only [Executor.scriptStep]
    split_ifs <;> exact ⟨kept, nofun⟩
  | _ => exact ⟨kept, nofun⟩

theorem Executor.HeldBack.scriptStep (held : executor.HeldBack) (waits : Bool)
    (pauses : executor.script = .testPause → executor.pausesHere = true) :
    (executor.scriptStep host waits).HeldBack := by
  obtain ⟨status, running, requested, mutex, hasRuntime, code, runtime, starting, ui, script⟩ :=
    executor
  obtain ⟨still, phase⟩ := held
  cases script with
  | created =>
    dsimp only [Executor.scriptStep]
    split_ifs
    · exact ⟨still, trivial⟩
    · exact ⟨still, phase⟩
  | testStop =>
    have cases := @Executor.testStop_cases R World _
      ⟨status, running, requested, mutex, hasRuntime, code, runtime, starting, ui, .testStop⟩
    unfold Executor.HeldBack
    dsimp only [Executor.scriptStep]
    rcases cases with ⟨there | there | there, flags⟩
    all_goals rw [there, flags]
    · exact ⟨still, phase⟩
    all_goals exact ⟨still, trivial⟩
  | testPause =>
    dsimp only [Executor.scriptStep]
    rw [pauses rfl]
    exact ⟨still, trivial⟩
  | execute | clearStepMode | setSkipWaits | clearPaused | setPause => exact phase.elim
  | setPaused => exact ⟨still, rfl⟩
  | takePause | clearSkipWaits => exact ⟨still, phase⟩
  | testSkipWaits =>
    dsimp only [Executor.scriptStep]
    split_ifs <;> exact ⟨still, phase⟩
  | testPaused =>
    dsimp only [Executor.scriptStep]
    rw [if_pos phase]
    exact ⟨still, phase⟩
  | testPausedStop =>
    dsimp only [Executor.scriptStep]
    split_ifs with stop
    · exact ⟨still, stop⟩
    · exact ⟨still, phase⟩
  | testStepMode =>
    dsimp only [Executor.scriptStep]
    rw [if_neg (by rw [still]; nofun)]
    exact ⟨still, phase⟩
  | leavePause =>
    dsimp only [Executor.scriptStep]
    rw [if_pos phase]
    exact ⟨still, trivial⟩
  | lock =>
    dsimp only [Executor.scriptStep]
    split_ifs <;> exact ⟨still, trivial⟩
  | _ => exact ⟨still, trivial⟩

theorem Executor.GoesOn.scriptStep (goes : executor.GoesOn) (waits : Bool)
    (before : executor.script ≠ .execute) : (executor.scriptStep host waits).GoesOn := by
  obtain ⟨status, running, requested, mutex, hasRuntime, code, runtime, starting, ui, script⟩ :=
    executor
  obtain ⟨unstopped, line, phase⟩ := goes
  have stop : runtime.flags.shouldStop = false := unstopped
  cases script with
  | testPaused =>
    dsimp only [Executor.scriptStep]
    rw [if_pos phase.1]
    exact ⟨stop, line, phase⟩
  | testPausedStop =>
    dsimp only [Executor.scriptStep]
    rw [stop]
    exact ⟨stop, line, phase⟩
  | testStepMode =>
    dsimp only [Executor.scriptStep]
    rw [if_pos phase.2]
    exact ⟨stop, line, trivial⟩
  | clearStepMode | setSkipWaits | clearPaused => exact ⟨stop, line, trivial⟩
  | setPause => exact ⟨stop, line, rfl⟩
  | leavePause =>
    dsimp only [Executor.scriptStep]
    rw [stop]
    exact ⟨stop, line, phase⟩
  | execute => exact absurd rfl before
  | _ => exact phase.elim

/-- How many accesses are left from the loop of a pause to an instruction. -/
def ScriptPhase.toExecute : ScriptPhase → Nat
  | .testPaused => 8
  | .testPausedStop => 7
  | .testStepMode => 6
  | .clearStepMode => 5
  | .setSkipWaits => 4
  | .clearPaused => 3
  | .setPause => 2
  | .leavePause => 1
  | _ => 0

theorem Executor.GoesOn.nearer (goes : executor.GoesOn) (waits : Bool)
    (before : executor.script ≠ .execute) :
    (executor.scriptStep host waits).script.toExecute < executor.script.toExecute := by
  obtain ⟨status, running, requested, mutex, hasRuntime, code, runtime, starting, ui, script⟩ :=
    executor
  obtain ⟨unstopped, _, phase⟩ := goes
  have stop : runtime.flags.shouldStop = false := unstopped
  cases script with
  | testPaused =>
    dsimp only [Executor.scriptStep]
    rw [if_pos phase.1]
    exact Nat.lt_succ_self 7
  | testPausedStop =>
    dsimp only [Executor.scriptStep]
    rw [stop]
    exact Nat.lt_succ_self 6
  | testStepMode =>
    dsimp only [Executor.scriptStep]
    rw [if_pos phase.2]
    exact Nat.lt_succ_self 5
  | clearStepMode => exact Nat.lt_succ_self 4
  | setSkipWaits => exact Nat.lt_succ_self 3
  | clearPaused => exact Nat.lt_succ_self 2
  | setPause => exact Nat.lt_succ_self 1
  | leavePause =>
    dsimp only [Executor.scriptStep]
    rw [stop]
    exact Nat.lt_succ_self 0
  | execute => exact absurd rfl before
  | _ => exact phase.elim

theorem Executor.GoesOn.reaches (goes : executor.GoesOn) (waits : Bool) {n : Nat}
    (near : executor.script.toExecute ≤ n) :
    ∃ k ≤ n, ((Executor.scriptStep host waits)^[k] executor).script = .execute := by
  induction n generalizing executor with
  | zero =>
    by_cases before : executor.script = .execute
    · exact ⟨0, Nat.le_refl 0, before⟩
    · have nearer := @Executor.GoesOn.nearer R World _ host _ goes waits before
      omega
  | succ n ih =>
    by_cases before : executor.script = .execute
    · exact ⟨0, Nat.zero_le _, before⟩
    · have nearer := @Executor.GoesOn.nearer R World _ host _ goes waits before
      have next := @Executor.GoesOn.scriptStep R World _ host _ goes waits before
      obtain ⟨k, bound, reached⟩ := ih next (by omega)
      exact ⟨k + 1, Nat.succ_le_succ bound, reached⟩

theorem Executor.execute_runsLine (waits : Bool) (line : Int)
    (asked : executor.runtime.flags.shouldPause = true) (phase : executor.script = .execute)
    (executed : (executor.execute host waits).script ≠ .execute) :
    (executor.execute host waits).RunsLine line := by
  rcases @Executor.execute_cases R World _ host executor waits with
    same | ⟨there | ⟨succeeded, there⟩, flags⟩
  · rw [same] at executed
    exact absurd phase executed
  all_goals
    unfold Executor.RunsLine
    rw [there]
  · rcases flags with flags | flags
    all_goals
      rw [flags]
      exact asked
  · trivial

theorem Executor.RunsLine.scriptStep {line : Int} (runs : executor.RunsLine line) (waits : Bool)
    (tells : executor.script = .testPause →
      (executor.lineAtHand = executor.runtime.lastExecutedLine ↔ executor.lineAtHand = line))
    (before : executor.script ≠ .testPaused) : (executor.scriptStep host waits).RunsLine line := by
  obtain ⟨status, running, requested, mutex, hasRuntime, code, runtime, starting, ui, script⟩ :=
    executor
  cases script with
  | created | testPausedStop | testStepMode | clearStepMode | setSkipWaits | clearPaused | setPause
  | leavePause => exact runs.elim
  | testStop =>
    have cases := @Executor.testStop_cases R World _
      ⟨status, running, requested, mutex, hasRuntime, code, runtime, starting, ui, .testStop⟩
    unfold Executor.RunsLine
    dsimp only [Executor.scriptStep]
    rcases cases with ⟨there | there | there, flags⟩
    all_goals rw [there]
    · rw [flags]
      exact runs
    all_goals trivial
  | testPause =>
    have asked : runtime.flags.shouldPause = true := runs
    have told : code.lineAt runtime.ip = runtime.lastExecutedLine ↔ code.lineAt runtime.ip = line :=
      tells rfl
    dsimp only [Executor.scriptStep]
    split_ifs with pauses
    · exact fun same => (Executor.pausesHere_iff.mp pauses).2.1 (told.mpr same)
    · refine ⟨asked, fun positive => ?_⟩
      by_contra other
      exact pauses (Executor.pausesHere_iff.mpr ⟨asked, fun same => other (told.mp same), positive⟩)
  | execute =>
    rcases @Executor.execute_cases R World _ host ⟨status, running, requested, mutex, hasRuntime,
      code, runtime, starting, ui, .execute⟩ waits with same | ⟨there, flags⟩
    · dsimp only [Executor.scriptStep]
      rw [same]
      exact runs
    · refine Executor.execute_runsLine waits line runs.1 rfl ?_
      rcases there with there | ⟨succeeded, there⟩
      all_goals
        rw [there]
        nofun
  | setPaused => exact ⟨rfl, runs⟩
  | takePause | clearSkipWaits => exact runs
  | testSkipWaits =>
    dsimp only [Executor.scriptStep]
    split_ifs <;> exact runs
  | testPaused => exact absurd rfl before
  | lock =>
    dsimp only [Executor.scriptStep]
    split_ifs <;> trivial
  | _ => trivial

theorem Executor.scriptStep_inPause (waits : Bool)
    (line : executor.script.inPause = true → 0 < executor.lineAtHand)
    (pause : (executor.scriptStep host waits).script.inPause = true) :
    0 < (executor.scriptStep host waits).lineAtHand := by
  obtain ⟨status, running, requested, mutex, hasRuntime, code, runtime, starting, ui, script⟩ :=
    executor
  cases script with
  | created =>
    dsimp only [Executor.scriptStep] at pause
    split_ifs at pause <;> cases pause
  | testStop =>
    dsimp only [Executor.scriptStep] at pause
    obtain ⟨there | there | there, _⟩ := @Executor.testStop_cases R World _
      ⟨status, running, requested, mutex, hasRuntime, code, runtime, starting, ui, .testStop⟩
    all_goals
      rw [there] at pause
      cases pause
  | testPause =>
    dsimp only [Executor.scriptStep] at pause ⊢
    split_ifs at pause ⊢ with pauses
    · exact (Executor.pausesHere_iff.mp pauses).2.2
    · cases pause
  | execute =>
    dsimp only [Executor.scriptStep] at pause
    rcases @Executor.execute_cases R World _ host ⟨status, running, requested, mutex, hasRuntime,
      code, runtime, starting, ui, .execute⟩ waits with same | ⟨there | ⟨succeeded, there⟩, _⟩
    · rw [same] at pause
      cases pause
    all_goals
      rw [there] at pause
      cases pause
  | testSkipWaits | testPaused | testPausedStop | testStepMode =>
    dsimp only [Executor.scriptStep]
    split_ifs <;> exact line rfl
  | leavePause =>
    dsimp only [Executor.scriptStep]
    split_ifs <;> exact line rfl
  | setPaused | takePause | clearSkipWaits | clearStepMode | setSkipWaits | clearPaused
  | setPause => exact line rfl
  | lock =>
    dsimp only [Executor.scriptStep] at pause
    split_ifs at pause <;> cases pause
  | _ => cases pause

end Script

section Table

variable {R World : Type} [ScriptNumber R]

/-- A script runs, or is paused. -/
def ScriptStatus.isActive : ScriptStatus → Bool
  | .running | .paused => true
  | _ => false

/-- Whether a start has said that a script runs, whose thread is not there yet. -/
def UiPhase.isAnnouncing : UiPhase → Bool
  | .startRunning | .startStopRequested | .startReadyUnlock | .startCreate | .startFailedLock
  | .startFailedRunning | .startFailedStatus => true
  | _ => false

/-- Nothing is promised that the machine has yet to keep. -/
def DebugRun.Unpromised (run : DebugRun R World) : Prop :=
  run.heldBack = false ∧ run.resumed = false ∧ run.stepped = .none

/-- The flags of a runtime that is prepared for a run that begins paused. -/
def Flags.Prepared (flags : Flags) : Prop := flags.shouldPause = true ∧ flags.stepMode = false

/-- A paused script is armed, and one that was resumed is not. -/
def DebugRun.Settled (run : DebugRun R World) : Prop :=
  (run.executor.status = .paused → run.executor.Armed) ∧
    (run.resumed = true → run.executor.status ≠ .paused ∧ run.executor.Disarmed)

/-- What the flags and the status say at each access of the user interface. -/
def DebugRun.Facts (run : DebugRun R World) : Prop :=
  let executor := run.executor
  let flags := executor.runtime.flags
  match executor.ui with
  | .startErrorLock | .startErrorStatus | .startFailedLock | .startFailedRunning
  | .startFailedStatus => run.Unpromised
  | .startErrorUnlock | .startFailedUnlock => run.Unpromised ∧ executor.status = .error
  | .startShouldPause =>
    run.Unpromised ∧ executor.starting.paused = true ∧ flags.stepMode = false
  | .startIsPaused | .startStepMode | .startReadyLock | .startStatus =>
    run.Unpromised ∧ (executor.starting.paused = true → flags.Prepared)
  | .startRunning | .startStopRequested | .startReadyUnlock | .startCreate =>
    run.Unpromised ∧ (executor.starting.paused = true → flags.Prepared) ∧
      (executor.status = .paused → executor.starting.paused = true)
  | .pauseReadStatus => run.Settled ∧ run.resumed = false
  | .pauseShouldPause => run.Settled ∧ run.resumed = false ∧ executor.status = .running
  | .pauseStatus =>
    run.Settled ∧ run.resumed = false ∧ executor.status = .running ∧ executor.Armed
  | .resumeIsPaused | .stepStepMode | .stepSkipWaits =>
    run.Settled ∧ run.resumed = false ∧ executor.status = .paused
  | .resumeShouldPause =>
    run.Unpromised ∧ executor.status = .paused ∧ flags.isPaused = false ∧
      executor.script ≠ .setPaused
  | .resumeStatus => run.Unpromised ∧ executor.status = .paused ∧ executor.Disarmed
  | .resumeUnlock true => run.Settled ∧ executor.status = .running ∧ executor.Disarmed
  | _ => run.Settled

/-- What holds in every run in which nothing comes between the accesses of the two threads. -/
structure DebugRun.Sound (run : DebugRun R World) : Prop where
  orderly : run.executor.Orderly
  active : run.executor.status.isActive = true →
    run.executor.ui.isAnnouncing = true ∨
      run.executor.script.isGone = false ∧ run.executor.script ≠ .unlock
  facts : run.Facts
  held : run.heldBack = true → run.executor.HeldBack ∧ run.line = 0
  asked : run.stepped = .asked → run.executor.GoesOn
  ran : ∀ line, run.stepped = .ran line → run.executor.RunsLine line ∧ run.line = line
  lined : run.executor.script.inPause = true → 0 < run.executor.lineAtHand
  ends : ∀ status, run.executor.script = .writeStatus status → status.isActive = false
  kept : run.early = false ∧ run.strayed = false ∧ run.passed = false

theorem DebugRun.start_sound (code : Code R) (world : World) :
    (DebugRun.start code world).Sound where
  orderly := executorCreate_orderly code world
  active := nofun
  facts := ⟨nofun, nofun⟩
  held := nofun
  asked := nofun
  ran := nofun
  lined := nofun
  ends := nofun
  kept := ⟨rfl, rfl, rfl⟩

end Table

section UserInterface

variable {R World : Type} [ScriptNumber R] {run : DebugRun R World} {next : DebugRun R World}

theorem DebugRun.Sound.quiet (sound : run.Sound) (orderly : next.executor.Orderly)
    (same : next.executor.runtime = run.executor.runtime ∧
      next.executor.script = run.executor.script ∧ next.executor.code = run.executor.code)
    (observed : (next.line, next.heldBack, next.stepped, next.early, next.strayed, next.passed) =
      (run.line, run.heldBack, run.stepped, run.early, run.strayed, run.passed))
    (active : next.executor.status.isActive = true → next.executor.ui.isAnnouncing = true ∨
      next.executor.script.isGone = false ∧ next.executor.script ≠ .unlock) (facts : next.Facts) :
    next.Sound := by
  obtain ⟨⟨status, running, requested, mutex, hasRuntime, code, runtime, starting, ui, script⟩,
    line, heldBack, resumed, stepped, early, strayed, passed⟩ := run
  obtain ⟨⟨status', running', requested', mutex', hasRuntime', code', runtime', starting', ui',
    script'⟩, line', heldBack', resumed', stepped', early', strayed', passed'⟩ := next
  obtain ⟨rfl, rfl, rfl⟩ := same
  cases observed
  exact ⟨orderly, active, facts, sound.held, sound.asked, sound.ran, sound.lined, sound.ends,
    sound.kept⟩

theorem DebugRun.Sound.stillActive (sound : run.Sound)
    (same : next.executor.status = run.executor.status ∧
      next.executor.script = run.executor.script)
    (announcing : run.executor.ui.isAnnouncing = true → next.executor.ui.isAnnouncing = true)
    (active : next.executor.status.isActive = true) :
    next.executor.ui.isAnnouncing = true ∨
      next.executor.script.isGone = false ∧ next.executor.script ≠ .unlock := by
  obtain ⟨status, script⟩ := same
  rw [status] at active
  rw [script]
  exact (sound.active active).imp_left announcing

theorem DebugRun.Settled.move (settled : run.Settled)
    (same : next.executor.runtime = run.executor.runtime ∧
      next.executor.script = run.executor.script)
    (before : next.executor.status = .paused → run.executor.status = .paused)
    (again : next.resumed = true → run.resumed = true) : next.Settled := by
  obtain ⟨⟨status, running, requested, mutex, hasRuntime, code, runtime, starting, ui, script⟩,
    line, heldBack, resumed, stepped, early, strayed, passed⟩ := run
  obtain ⟨⟨status', running', requested', mutex', hasRuntime', code', runtime', starting', ui',
    script'⟩, line', heldBack', resumed', stepped', early', strayed', passed'⟩ := next
  obtain ⟨rfl, rfl⟩ := same
  refine ⟨fun paused => settled.1 (before paused), fun freed => ?_⟩
  obtain ⟨other, disarmed⟩ := settled.2 (again freed)
  exact ⟨fun paused => other (before paused), disarmed.unasked, disarmed.unpaused, disarmed.rearms,
    disarmed.pausing⟩

theorem DebugRun.Sound.alone (orderly : next.executor.Orderly)
    (active : next.executor.status.isActive = true → next.executor.ui.isAnnouncing = true ∨
      next.executor.script.isGone = false ∧ next.executor.script ≠ .unlock) (facts : next.Facts)
    (gone : next.executor.script.isGone = true) (unpromised : next.Unpromised)
    (kept : next.early = false ∧ next.strayed = false ∧ next.passed = false) : next.Sound := by
  obtain ⟨unheld, _, unstepped⟩ := unpromised
  refine ⟨orderly, active, facts, fun held => ?_, fun asked => ?_, fun line ran => ?_, fun pause => ?_,
    fun status writes => ?_, kept⟩
  · rw [unheld] at held
    cases held
  · rw [unstepped] at asked
    cases asked
  · rw [unstepped] at ran
    cases ran
  · revert gone pause
    cases next.executor.script <;> simp [ScriptPhase.isGone, ScriptPhase.inPause]
  · rw [writes] at gone
    cases gone

/-- An access of a call that starts a script keeps the promises. -/
theorem DebugRun.Sound.start (sound : run.Sound) (start : run.executor.ui.callKind = .start) :
    run.uiStep.Sound := by
  have orderly := sound.orderly.uiStep
  have alone := sound.orderly.alone
  obtain ⟨⟨status, running, requested, mutex, hasRuntime, code, runtime, starting, ui, script⟩,
    line, heldBack, resumed, stepped, early, strayed, passed⟩ := run
  cases ui with
  | startLock =>
    dsimp only [DebugRun.uiStep, Executor.uiStep, UiPhase.callKind, Executor.startStep,
      Executor.uiLock] at orderly ⊢
    split_ifs at orderly ⊢
    · exact sound.quiet orderly ⟨rfl, rfl, rfl⟩ rfl (sound.stillActive ⟨rfl, rfl⟩ nofun)
        (sound.facts.move ⟨rfl, rfl⟩ id id)
    · exact sound
  | startReadRunning =>
    exact sound.quiet orderly ⟨rfl, rfl, rfl⟩ rfl (sound.stillActive ⟨rfl, rfl⟩ nofun)
      (sound.facts.move ⟨rfl, rfl⟩ id id)
  | startUnlock running =>
    cases running
    all_goals
      exact sound.quiet orderly ⟨rfl, rfl, rfl⟩ rfl (sound.stillActive ⟨rfl, rfl⟩ nofun)
        (sound.facts.move ⟨rfl, rfl⟩ id id)
  | startCompile =>
    have gone : script.isGone = true := alone rfl
    have still : status.isActive = true → False := fun active => by
      rcases sound.active active with announcing | ⟨there, _⟩
      · cases announcing
      · rw [show script.isGone = false from there] at gone
        cases gone
    dsimp only [DebugRun.uiStep, Executor.uiStep, UiPhase.callKind, Executor.startStep]
      at orderly ⊢
    cases compiled : starting.script with
    | none =>
      rw [compiled] at orderly
      exact .alone orderly (fun active => (still active).elim) ⟨rfl, rfl, rfl⟩ gone ⟨rfl, rfl, rfl⟩
        sound.kept
    | some given =>
      rw [compiled] at orderly
      dsimp only at orderly ⊢
      cases paused : starting.paused with
      | true =>
        rw [paused] at orderly
        exact .alone orderly (fun active => (still active).elim) ⟨⟨rfl, rfl, rfl⟩, paused, rfl⟩ gone
          ⟨rfl, rfl, rfl⟩ sound.kept
      | false =>
        rw [paused] at orderly
        refine .alone orderly (fun active => (still active).elim) ⟨⟨rfl, rfl, rfl⟩, fun again => ?_⟩
          gone ⟨rfl, rfl, rfl⟩ sound.kept
        rw [show starting.paused = true from again] at paused
        cases paused
  | startErrorLock =>
    dsimp only [DebugRun.uiStep, Executor.uiStep, UiPhase.callKind, Executor.startStep,
      Executor.uiLock] at orderly ⊢
    split_ifs at orderly ⊢
    · exact sound.quiet orderly ⟨rfl, rfl, rfl⟩ rfl (sound.stillActive ⟨rfl, rfl⟩ nofun)
        sound.facts
    · exact sound
  | startErrorStatus =>
    exact sound.quiet orderly ⟨rfl, rfl, rfl⟩ rfl nofun ⟨sound.facts, rfl⟩
  | startErrorUnlock | startFailedUnlock =>
    obtain ⟨⟨_, unresumed, _⟩, failed⟩ := sound.facts
    refine sound.quiet orderly ⟨rfl, rfl, rfl⟩ rfl (fun active => ?_)
      ⟨fun paused => ?_, fun freed => ?_⟩
    · rw [show status = .error from failed] at active
      cases active
    · rw [show status = .error from failed] at paused
      cases paused
    · rw [show resumed = false from unresumed] at freed
      cases freed
  | startShouldPause =>
    obtain ⟨unpromised, _, still⟩ := sound.facts
    exact .alone orderly (sound.stillActive ⟨rfl, rfl⟩ nofun) ⟨unpromised, fun _ => ⟨rfl, still⟩⟩
      (alone rfl) unpromised sound.kept
  | startIsPaused =>
    exact .alone orderly (sound.stillActive ⟨rfl, rfl⟩ nofun) sound.facts (alone rfl) sound.facts.1
      sound.kept
  | startStepMode =>
    obtain ⟨unpromised, prepared⟩ := sound.facts
    exact .alone orderly (sound.stillActive ⟨rfl, rfl⟩ nofun)
      ⟨unpromised, fun paused => ⟨(prepared paused).1, rfl⟩⟩ (alone rfl) unpromised sound.kept
  | startReadyLock =>
    dsimp only [DebugRun.uiStep, Executor.uiStep, UiPhase.callKind, Executor.startStep,
      Executor.uiLock] at orderly ⊢
    split_ifs at orderly ⊢
    · exact sound.quiet orderly ⟨rfl, rfl, rfl⟩ rfl (sound.stillActive ⟨rfl, rfl⟩ nofun)
        sound.facts
    · exact sound
  | startStatus =>
    obtain ⟨unpromised, prepared⟩ := sound.facts
    refine .alone orderly (fun _ => .inl rfl) ⟨unpromised, prepared, fun paused => ?_⟩ (alone rfl)
      unpromised sound.kept
    have said : (if starting.paused then ScriptStatus.paused else .running) = .paused := paused
    show starting.paused = true
    split_ifs at said with begun
    exact begun
  | startRunning | startStopRequested =>
    exact sound.quiet orderly ⟨rfl, rfl, rfl⟩ rfl (fun _ => .inl rfl) sound.facts
  | startReadyUnlock =>
    exact sound.quiet orderly ⟨rfl, rfl, rfl⟩ rfl (fun _ => .inl rfl) sound.facts
  | startCreate =>
    obtain ⟨⟨_, unresumed, unstepped⟩, prepared, said⟩ := sound.facts
    have gone : script.isGone = true := alone rfl
    dsimp only [DebugRun.uiStep, Executor.uiStep, UiPhase.callKind, Executor.startStep]
      at orderly ⊢
    cases created : starting.threadCreated with
    | true =>
      rw [created] at orderly
      refine ⟨orderly, fun _ => .inr ⟨rfl, nofun⟩, ⟨fun paused => (prepared (said paused)).1,
        fun freed => ?_⟩, fun held => ?_, fun asked => ?_, fun line ran => ?_, nofun, nofun,
        sound.kept⟩
      · rw [show resumed = false from unresumed] at freed
        cases freed
      · obtain ⟨asked, still⟩ := prepared (by simpa using held)
        exact ⟨⟨still, asked⟩, rfl⟩
      · rw [show stepped = .none from unstepped] at asked
        cases asked
      · rw [show stepped = .none from unstepped] at ran
        cases ran
    | false =>
      rw [created] at orderly
      have unpromised : (starting.paused && false) = false ∧ resumed = false ∧ stepped = .none :=
        ⟨Bool.and_false _, unresumed, unstepped⟩
      exact .alone orderly (fun _ => .inl rfl) unpromised gone unpromised sound.kept
  | startFailedLock =>
    dsimp only [DebugRun.uiStep, Executor.uiStep, UiPhase.callKind, Executor.startStep,
      Executor.uiLock] at orderly ⊢
    split_ifs at orderly ⊢
    · exact sound.quiet orderly ⟨rfl, rfl, rfl⟩ rfl (fun _ => .inl rfl) sound.facts
    · exact sound
  | startFailedRunning =>
    exact sound.quiet orderly ⟨rfl, rfl, rfl⟩ rfl (fun _ => .inl rfl) sound.facts
  | startFailedStatus =>
    exact sound.quiet orderly ⟨rfl, rfl, rfl⟩ rfl nofun ⟨sound.facts, rfl⟩
  | _ => cases start

theorem DebugRun.Sound.lock (sound : run.Sound) {following : UiPhase} {resumed : Bool}
    (orderly : (run.executor.uiLock following).Orderly) (there : run.executor.ui.isAnnouncing = false)
    (less : resumed = true → run.resumed = true) (settled : run.Settled)
    (waiting : ∀ next : DebugRun R World, next.Settled → next.resumed = resumed →
      next.executor.ui = run.executor.ui → next.Facts)
    (taken : ∀ next : DebugRun R World, next.Settled → next.resumed = resumed →
      next.executor.ui = following → next.Facts) :
    DebugRun.Sound
      { run with executor := run.executor.uiLock following, resumed := resumed } := by
  unfold Executor.uiLock at orderly ⊢
  split_ifs at orderly ⊢
  · refine sound.quiet orderly ⟨rfl, rfl, rfl⟩ rfl (sound.stillActive ⟨rfl, rfl⟩ fun announcing => ?_)
      (taken _ (settled.move ⟨rfl, rfl⟩ id less) rfl rfl)
    rw [there] at announcing
    cases announcing
  · exact sound.quiet orderly ⟨rfl, rfl, rfl⟩ rfl (sound.stillActive ⟨rfl, rfl⟩ id)
      (waiting _ (settled.move ⟨rfl, rfl⟩ id less) rfl rfl)

theorem DebugRun.Sound.stop (sound : run.Sound) (stop : run.executor.ui.callKind = .stop) :
    run.uiStep.Sound := by
  have orderly := sound.orderly.uiStep
  obtain ⟨⟨status, running, requested, mutex, hasRuntime, code, runtime, starting, ui, script⟩,
    line, heldBack, resumed, stepped, early, strayed, passed⟩ := run
  cases ui with
  | stopLock | stopEndedLock =>
    refine sound.lock orderly rfl id sound.facts ?_ ?_
    all_goals
      intro next settled _ there
      unfold DebugRun.Facts
      dsimp only
      rw [there]
      exact settled
  | stopReadRunning | stopRequest | stopRunning | stopEndedUnlock =>
    exact sound.quiet orderly ⟨rfl, rfl, rfl⟩ rfl (sound.stillActive ⟨rfl, rfl⟩ nofun)
      (sound.facts.move ⟨rfl, rfl⟩ id id)
  | stopUnlock found =>
    cases found with
    | false =>
      exact sound.quiet orderly ⟨rfl, rfl, rfl⟩ rfl (sound.stillActive ⟨rfl, rfl⟩ nofun)
        (sound.facts.move ⟨rfl, rfl⟩ id id)
    | true =>
      cases hasRuntime
      all_goals
        exact sound.quiet orderly ⟨rfl, rfl, rfl⟩ rfl (sound.stillActive ⟨rfl, rfl⟩ nofun)
          (sound.facts.move ⟨rfl, rfl⟩ id id)
  | stopShouldStop =>
    obtain ⟨armed, disarmed⟩ := sound.facts
    refine ⟨orderly, sound.stillActive ⟨rfl, rfl⟩ nofun, ⟨fun paused => ?_, fun freed => ?_⟩,
      fun held => ⟨?_, (sound.held held).2⟩, nofun, nofun, sound.lined, sound.ends, sound.kept⟩
    · have before := armed paused
      cases script with
      | leavePause => exact .inr rfl
      | _ => exact before
    · obtain ⟨other, out⟩ := disarmed freed
      exact ⟨other, out.unasked, out.unpaused, out.rearms, out.pausing⟩
    · have before := (sound.held held).1
      cases script with
      | leavePause => exact ⟨before.1, rfl⟩
      | _ => exact before
  | stopJoin =>
    dsimp only [DebugRun.uiStep, Executor.uiStep, UiPhase.callKind, Executor.stopStep]
      at orderly ⊢
    split_ifs at orderly ⊢
    · exact sound.quiet orderly ⟨rfl, rfl, rfl⟩ rfl (sound.stillActive ⟨rfl, rfl⟩ nofun)
        (sound.facts.move ⟨rfl, rfl⟩ id id)
    · exact sound
  | stopStatus =>
    have alone : script.isGone = true := sound.orderly.alone rfl
    refine sound.quiet orderly ⟨rfl, rfl, rfl⟩ rfl (fun active => ?_)
      (sound.facts.move ⟨rfl, rfl⟩ (fun paused => ?_) id)
    · have before : status.isActive = true := by
        have after : (if status = .running then ScriptStatus.idle else status).isActive = true :=
          active
        split_ifs at after with runs
        · rw [runs]
          rfl
        · exact after
      rcases sound.active before with announcing | there
      · cases announcing
      · exact .inr there
    · have after : (if status = .running then ScriptStatus.idle else status) = .paused := paused
      split_ifs at after
      exact after
  | _ => cases stop

/-- An access of a call that pauses, resumes or steps keeps the promises, if it does not come between
those of the machine. -/
theorem DebugRun.Sound.debug (sound : run.Sound) (debug : run.executor.ui.callKind = .debug)
    (undisturbed : run.Undisturbed .ui) : run.uiStep.Sound := by
  have orderly := sound.orderly.uiStep
  obtain ⟨apart, rearms, asks⟩ := undisturbed
  obtain ⟨⟨status, running, requested, mutex, hasRuntime, code, runtime, starting, ui, script⟩,
    line, heldBack, resumed, stepped, early, strayed, passed⟩ := run
  cases ui with
  | pauseLock =>
    refine sound.lock orderly rfl nofun sound.facts ?_ ?_
    all_goals
      intro next settled unresumed there
      unfold DebugRun.Facts
      dsimp only
      rw [there]
    · exact settled
    · exact ⟨settled, unresumed⟩
  | resumeLock | stepLock =>
    refine sound.lock orderly rfl id sound.facts ?_ ?_
    all_goals
      intro next settled _ there
      unfold DebugRun.Facts
      dsimp only
      rw [there]
      exact settled
  | pauseReadStatus =>
    obtain ⟨settled, unresumed⟩ := sound.facts
    dsimp only [DebugRun.uiStep, Executor.uiStep, UiPhase.callKind, Executor.debugStep]
      at orderly ⊢
    split_ifs at orderly ⊢ with runs
    · exact sound.quiet orderly ⟨rfl, rfl, rfl⟩ rfl (sound.stillActive ⟨rfl, rfl⟩ nofun)
        ⟨settled.move ⟨rfl, rfl⟩ id id, unresumed, runs⟩
    · exact sound.quiet orderly ⟨rfl, rfl, rfl⟩ rfl (sound.stillActive ⟨rfl, rfl⟩ nofun)
        (settled.move ⟨rfl, rfl⟩ id id)
  | pauseShouldPause =>
    obtain ⟨_, unresumed, runs⟩ := sound.facts
    have other : script ≠ .takePause := asks rfl
    refine ⟨orderly, sound.stillActive ⟨rfl, rfl⟩ nofun, ⟨⟨fun paused => ?_, fun freed => ?_⟩,
      unresumed, runs, ?_⟩, fun held => ⟨?_, (sound.held held).2⟩, fun asked => ?_,
      fun line ran => ⟨?_, (sound.ran line ran).2⟩, sound.lined, sound.ends, sound.kept⟩
    · rw [show status = .running from runs] at paused
      cases paused
    · rw [show resumed = false from unresumed] at freed
      cases freed
    · cases script with
      | takePause => exact absurd rfl other
      | created | testStop | testPause | execute => exact (rfl : true = true)
      | testSkipWaits | clearSkipWaits | testPaused | testPausedStop | testStepMode =>
        exact .inr (rfl : true = true)
      | leavePause => exact .inl (rfl : true = true)
      | _ => trivial
    · have before := (sound.held held).1
      cases script with
      | created | testStop | testPause => exact ⟨before.1, rfl⟩
      | _ => exact before
    · have before := sound.asked asked
      cases script with
      | leavePause | execute => exact ⟨before.1, before.2.1, rfl⟩
      | _ => exact before
    · have before := (sound.ran line ran).1
      cases script with
      | testStop | testPause => exact (rfl : true = true)
      | execute => exact ⟨rfl, before.2⟩
      | _ => exact before
  | pauseStatus =>
    obtain ⟨_, unresumed, runs, armed⟩ := sound.facts
    refine sound.quiet orderly ⟨rfl, rfl, rfl⟩ rfl (fun _ => ?_) ⟨fun _ => armed, fun freed => ?_⟩
    · have before : status.isActive = true := by
        rw [show status = .running from runs]
        rfl
      rcases sound.active before with announcing | there
      · cases announcing
      · exact .inr there
    · rw [show resumed = false from unresumed] at freed
      cases freed
  | pauseUnlock | stepUnlock =>
    exact sound.quiet orderly ⟨rfl, rfl, rfl⟩ rfl (sound.stillActive ⟨rfl, rfl⟩ nofun)
      (sound.facts.move ⟨rfl, rfl⟩ id id)
  | resumeReadStatus | stepReadStatus =>
    have settled := sound.facts
    dsimp only [DebugRun.uiStep, Executor.uiStep, UiPhase.callKind, Executor.debugStep]
      at orderly ⊢
    split_ifs at orderly ⊢ with paused
    · refine sound.quiet orderly ⟨rfl, rfl, rfl⟩ rfl (sound.stillActive ⟨rfl, rfl⟩ nofun)
        ⟨settled.move ⟨rfl, rfl⟩ id id, ?_, paused⟩
      -- A script that was resumed is not paused.
      exact Bool.eq_false_iff.mpr fun freed => (settled.2 freed).1 paused
    · exact sound.quiet orderly ⟨rfl, rfl, rfl⟩ rfl (sound.stillActive ⟨rfl, rfl⟩ nofun)
        (settled.move ⟨rfl, rfl⟩ id id)
  | resumeIsPaused =>
    obtain ⟨_, unresumed, paused⟩ := sound.facts
    exact ⟨orderly, sound.stillActive ⟨rfl, rfl⟩ nofun,
      ⟨⟨rfl, unresumed, rfl⟩, paused, rfl, apart rfl⟩, nofun, nofun, nofun, sound.lined, sound.ends,
      sound.kept⟩
  | resumeShouldPause =>
    obtain ⟨⟨unheld, unresumed, unstepped⟩, paused, unpaused, out⟩ := sound.facts
    refine ⟨orderly, sound.stillActive ⟨rfl, rfl⟩ nofun,
      ⟨⟨unheld, unresumed, unstepped⟩, paused, rfl, unpaused, rearms rfl, out⟩, fun held => ?_,
      fun asked => ?_, fun line ran => ?_, sound.lined, sound.ends, sound.kept⟩
    · rw [show heldBack = false from unheld] at held
      cases held
    · rw [show stepped = .none from unstepped] at asked
      cases asked
    · rw [show stepped = .none from unstepped] at ran
      cases ran
  | resumeStatus =>
    obtain ⟨⟨_, unresumed, _⟩, paused, disarmed⟩ := sound.facts
    refine sound.quiet orderly ⟨rfl, rfl, rfl⟩ rfl (fun _ => ?_)
      ⟨⟨nofun, fun freed => ?_⟩, rfl, disarmed.unasked, disarmed.unpaused, disarmed.rearms,
        disarmed.pausing⟩
    · have before : status.isActive = true := by
        rw [show status = .paused from paused]
        rfl
      rcases sound.active before with announcing | there
      · cases announcing
      · exact .inr there
    · rw [show resumed = false from unresumed] at freed
      cases freed
  | resumeUnlock found =>
    cases found with
    | false =>
      exact sound.quiet orderly ⟨rfl, rfl, rfl⟩ rfl (sound.stillActive ⟨rfl, rfl⟩ nofun)
        (sound.facts.move ⟨rfl, rfl⟩ id id)
    | true =>
      obtain ⟨_, runs, disarmed⟩ := sound.facts
      have other : status ≠ .paused := by
        rw [show status = .running from runs]
        nofun
      exact sound.quiet orderly ⟨rfl, rfl, rfl⟩ rfl (sound.stillActive ⟨rfl, rfl⟩ nofun)
        ⟨fun paused => absurd paused other, fun _ => ⟨other, disarmed.unasked, disarmed.unpaused,
          disarmed.rearms, disarmed.pausing⟩⟩
  | stepStepMode =>
    obtain ⟨⟨armed, _⟩, unresumed, paused⟩ := sound.facts
    have settled : ∀ next : DebugRun R World, next.resumed = false → next.executor.Armed →
        next.Settled := fun next unresumed armed => ⟨fun _ => armed, fun freed => by
      rw [unresumed] at freed
      cases freed⟩
    refine ⟨orderly, sound.stillActive ⟨rfl, rfl⟩ nofun,
      ⟨settled _ unresumed (armed paused), unresumed, paused⟩, nofun, fun asked => ?_,
      fun line ran => ?_, sound.lined, sound.ends, sound.kept⟩
    · by_cases waits : @Executor.waitsInLoop R World _ ⟨status, running, requested, mutex, hasRuntime,
          code, runtime, starting, .stepStepMode, script⟩ = true
      · cases script with
        | testPaused | testPausedStop | testStepMode =>
          have loops : (runtime.flags.isPaused && !runtime.flags.shouldStop) = true := waits
          rw [Bool.and_eq_true, Bool.not_eq_true'] at loops
          exact ⟨loops.2, sound.lined rfl, loops.1, rfl⟩
        | _ => cases waits
      · have before := sound.asked ((if_neg waits).symm.trans asked)
        cases script with
        | testPaused | testPausedStop | testStepMode => exact ⟨before.1, before.2.1, before.2.2.1, rfl⟩
        | _ => exact before
    · by_cases waits : @Executor.waitsInLoop R World _ ⟨status, running, requested, mutex, hasRuntime,
          code, runtime, starting, .stepStepMode, script⟩ = true
      · cases (if_pos waits).symm.trans ran
      · exact sound.ran line ((if_neg waits).symm.trans ran)
  | stepSkipWaits =>
    obtain ⟨⟨armed, _⟩, unresumed, paused⟩ := sound.facts
    refine ⟨orderly, sound.stillActive ⟨rfl, rfl⟩ nofun, ⟨fun _ => armed paused, fun freed => ?_⟩,
      sound.held, sound.asked, sound.ran, sound.lined, sound.ends, sound.kept⟩
    rw [show resumed = false from unresumed] at freed
    cases freed
  | _ => cases debug

end UserInterface

section Threads

variable {R World : Type} [ScriptNumber R] {host : Host R World} {run : DebugRun R World}
  {executor : Executor R World}

theorem DebugRun.Sound.armed (sound : run.Sound) (paused : run.executor.saysPaused) :
    run.executor.Armed := by
  obtain ⟨is, noResume, noStatus⟩ := paused
  have facts := sound.facts
  have gone : run.executor.ui.isAlone = true → run.executor.Armed := fun alone => by
    have gone := sound.orderly.alone alone
    unfold Executor.Armed
    revert gone
    cases run.executor.script <;> simp [ScriptPhase.isGone]
  unfold DebugRun.Facts at facts
  dsimp only at facts
  cases phase : run.executor.ui with
  | resumeShouldPause => exact absurd phase noResume
  | resumeStatus => exact absurd phase noStatus
  | startErrorLock | startErrorStatus | startErrorUnlock | startShouldPause | startIsPaused
  | startStepMode | startReadyLock | startStatus | startRunning | startStopRequested
  | startReadyUnlock | startCreate | startFailedLock | startFailedRunning | startFailedStatus
  | startFailedUnlock => exact gone (by rw [phase]; rfl)
  | pauseReadStatus | pauseShouldPause | pauseStatus | resumeIsPaused | stepStepMode
  | stepSkipWaits =>
    rw [phase] at facts
    exact facts.1.1 is
  | resumeUnlock found =>
    rw [phase] at facts
    cases found with
    | true => exact facts.1.1 is
    | false => exact facts.1 is
  | _ =>
    rw [phase] at facts
    exact facts.1 is

theorem DebugRun.Sound.disarmed (sound : run.Sound) (resumed : run.resumed = true) :
    run.executor.Disarmed := by
  have facts := sound.facts
  have never : run.resumed = false → run.executor.Disarmed := fun unresumed => by
    rw [unresumed] at resumed
    cases resumed
  unfold DebugRun.Facts at facts
  dsimp only at facts
  cases phase : run.executor.ui with
  | startErrorLock | startErrorStatus | startFailedLock | startFailedRunning
  | startFailedStatus =>
    rw [phase] at facts
    exact never facts.2.1
  | startErrorUnlock | startShouldPause | startIsPaused | startStepMode | startReadyLock
  | startStatus | startRunning | startStopRequested | startReadyUnlock | startCreate
  | startFailedUnlock | resumeShouldPause | resumeStatus =>
    rw [phase] at facts
    exact never facts.1.2.1
  | pauseReadStatus =>
    rw [phase] at facts
    exact never facts.2
  | pauseShouldPause | pauseStatus | resumeIsPaused | stepStepMode | stepSkipWaits =>
    rw [phase] at facts
    exact never facts.2.1
  | resumeUnlock found =>
    rw [phase] at facts
    cases found with
    | true => exact facts.2.2
    | false => exact (facts.2 resumed).2
  | _ =>
    rw [phase] at facts
    exact (facts.2 resumed).2

theorem DebugRun.scriptStep_executor (waits : Bool) :
    (run.scriptStep host waits).executor = run.executor.scriptStep host waits ∧
      (run.scriptStep host waits).heldBack = run.heldBack ∧
      (run.scriptStep host waits).resumed = run.resumed := by
  unfold DebugRun.scriptStep
  cases run.executor.script with
  | testPaused =>
    dsimp only
    split
    · split_ifs <;> exact ⟨rfl, rfl, rfl⟩
    · exact ⟨rfl, rfl, rfl⟩
  | execute =>
    dsimp only
    split_ifs <;> exact ⟨rfl, rfl, rfl⟩
  | _ => exact ⟨rfl, rfl, rfl⟩

theorem Executor.scriptStep_stays (waits : Bool) (there : executor.script.isGone = false)
    (other : executor.script ≠ .unlock) (before : ∀ status, executor.script ≠ .writeStatus status) :
    ((executor.scriptStep host waits).script.isGone = false ∧
      (executor.scriptStep host waits).script ≠ .unlock) ∧
      (executor.scriptStep host waits).status = executor.status := by
  obtain ⟨status, running, requested, mutex, hasRuntime, code, runtime, starting, ui, script⟩ :=
    executor
  cases script with
  | absent | ended => cases there
  | unlock => exact absurd rfl other
  | writeStatus status => exact absurd rfl (before status)
  | testStop =>
    dsimp only [Executor.scriptStep, Executor.testStop]
    split
    · exact ⟨⟨rfl, nofun⟩, rfl⟩
    · split_ifs <;> exact ⟨⟨rfl, nofun⟩, rfl⟩
  | execute =>
    dsimp only [Executor.scriptStep, Executor.execute]
    split
    · exact ⟨⟨rfl, nofun⟩, rfl⟩
    · split_ifs
      · exact ⟨⟨rfl, nofun⟩, rfl⟩
      · split <;> exact ⟨⟨rfl, nofun⟩, rfl⟩
  | created | testPause | testSkipWaits | testPaused | testPausedStop | testStepMode | leavePause
  | lock =>
    dsimp only [Executor.scriptStep]
    split_ifs <;> exact ⟨⟨rfl, nofun⟩, rfl⟩
  | _ => exact ⟨⟨rfl, nofun⟩, rfl⟩

theorem Executor.scriptStep_ends (waits : Bool) (status : ScriptStatus)
    (writes : (executor.scriptStep host waits).script = .writeStatus status) :
    status.isActive = false := by
  obtain ⟨old, running, requested, mutex, hasRuntime, code, runtime, starting, ui, script⟩ :=
    executor
  cases script with
  | readStopRequested succeeded =>
    have said : endStatus requested succeeded = status := ScriptPhase.writeStatus.inj writes
    rw [← said]
    unfold endStatus
    split_ifs <;> rfl
  | testStop =>
    dsimp only [Executor.scriptStep] at writes
    obtain ⟨there | there | there, _⟩ := @Executor.testStop_cases R World _
      ⟨old, running, requested, mutex, hasRuntime, code, runtime, starting, ui, .testStop⟩
    all_goals
      rw [there] at writes
      cases writes
  | execute =>
    dsimp only [Executor.scriptStep] at writes
    rcases @Executor.execute_cases R World _ host ⟨old, running, requested, mutex, hasRuntime,
      code, runtime, starting, ui, .execute⟩ waits with same | ⟨there | ⟨succeeded, there⟩, _⟩
    · rw [same] at writes
      cases writes
    all_goals
      rw [there] at writes
      cases writes
  | created | testPause | testSkipWaits | testPaused | testPausedStop | testStepMode | leavePause
  | lock =>
    dsimp only [Executor.scriptStep] at writes
    split_ifs at writes <;> cases writes
  | _ => cases writes

theorem Executor.scriptStep_gone (waits : Bool) (gone : executor.script.isGone = true) :
    executor.scriptStep host waits = executor := by
  unfold Executor.scriptStep
  cases phase : executor.script with
  | absent | ended => rfl
  | _ =>
    rw [phase] at gone
    cases gone

theorem DebugRun.Sound.scriptActive (sound : run.Sound) (there : run.executor.script.isGone = false)
    (waits : Bool) (active : (run.executor.scriptStep host waits).status.isActive = true) :
    ((run.executor.scriptStep host waits).script.isGone = false ∧
      (run.executor.scriptStep host waits).script ≠ .unlock) ∧
      (run.executor.scriptStep host waits).status = run.executor.status := by
  have writes : ∀ status, run.executor.script ≠ .writeStatus status := fun status phase => by
    have inactive := sound.ends status phase
    unfold Executor.scriptStep at active
    rw [phase] at active
    rw [show status.isActive = true from active] at inactive
    cases inactive
  refine Executor.scriptStep_stays waits there (fun unlock => ?_) writes
  have same : (run.executor.scriptStep host waits).status = run.executor.status := by
    unfold Executor.scriptStep
    rw [unlock]
  rw [same] at active
  rcases sound.active active with announcing | ⟨_, other⟩
  · have alone : run.executor.ui.isAlone = true := by
      revert announcing
      cases run.executor.ui <;> simp [UiPhase.isAnnouncing, UiPhase.isAlone]
    rw [sound.orderly.alone alone] at there
    cases there
  · exact other unlock

theorem DebugRun.Sound.scriptSettled (sound : run.Sound) (settled : run.Settled)
    (there : run.executor.script.isGone = false) (waits : Bool) :
    (run.scriptStep host waits).Settled := by
  obtain ⟨executor, _, resumed⟩ := @DebugRun.scriptStep_executor R World _ host run waits
  unfold DebugRun.Settled
  rw [executor, resumed]
  have before : (run.executor.scriptStep host waits).status = .paused →
      run.executor.status = .paused := fun paused => by
    rw [← paused]
    exact (sound.scriptActive there waits (by rw [paused]; rfl)).2.symm
  refine ⟨fun paused => (settled.1 (before paused)).scriptStep waits, fun freed => ?_⟩
  obtain ⟨other, disarmed⟩ := settled.2 freed
  exact ⟨fun paused => other (before paused), disarmed.scriptStep waits⟩

theorem DebugRun.Unpromised.scriptStep (unpromised : run.Unpromised) (waits : Bool) :
    (run.scriptStep host waits).Unpromised := by
  obtain ⟨executor, line, heldBack, resumed, stepped, early, strayed, passed⟩ := run
  obtain ⟨rfl, rfl, rfl⟩ := unpromised
  unfold DebugRun.scriptStep
  dsimp only
  cases executor.script with
  | execute =>
    dsimp only
    split_ifs <;> exact ⟨rfl, rfl, rfl⟩
  | _ => exact ⟨rfl, rfl, rfl⟩

theorem DebugRun.Sound.scriptFacts (sound : run.Sound) (waits : Bool)
    (there : run.executor.script.isGone = false) (undisturbed : run.Undisturbed (.script waits)) :
    (run.scriptStep host waits).Facts := by
  obtain ⟨executor, _, resumed⟩ := @DebugRun.scriptStep_executor R World _ host run waits
  have apart := (sound.orderly.together there).1
  have facts := sound.facts
  -- A call that holds the mutex keeps the thread from its end.
  have holding : run.executor.ui.holdsMutex = true →
      (run.executor.scriptStep host waits).status = run.executor.status := fun holds => by
    have unheld := sound.orderly.exclusive holds
    refine (Executor.scriptStep_stays waits there (fun unlock => ?_) fun status writes => ?_).2
    all_goals
      first | rw [unlock] at unheld | rw [writes] at unheld
      cases unheld
  have settled : run.Settled → (run.scriptStep host waits).Settled := fun settled =>
    sound.scriptSettled settled there waits
  unfold DebugRun.Facts at facts ⊢
  dsimp only at facts ⊢
  rw [executor, resumed, (Executor.scriptStep_keeps waits).1]
  cases phase : run.executor.ui with
  | startErrorLock | startErrorStatus | startErrorUnlock | startShouldPause | startIsPaused
  | startStepMode | startReadyLock | startStatus | startRunning | startStopRequested
  | startReadyUnlock | startCreate | startFailedLock | startFailedRunning | startFailedStatus
  | startFailedUnlock =>
    rw [phase] at apart
    cases apart
  | pauseReadStatus =>
    rw [phase] at facts
    exact ⟨settled facts.1, facts.2⟩
  | pauseShouldPause =>
    rw [phase] at facts holding
    exact ⟨settled facts.1, facts.2.1, (holding rfl).trans facts.2.2⟩
  | pauseStatus =>
    rw [phase] at facts holding
    obtain ⟨settles, unresumed, runs, armed⟩ := facts
    exact ⟨settled settles, unresumed, (holding rfl).trans runs, armed.scriptStep waits⟩
  | resumeIsPaused | stepStepMode | stepSkipWaits =>
    rw [phase] at facts holding
    exact ⟨settled facts.1, facts.2.1, (holding rfl).trans facts.2.2⟩
  | resumeShouldPause =>
    rw [phase] at facts holding
    obtain ⟨unpromised, paused, unpaused, out⟩ := facts
    have still := @Executor.scriptStep_unpaused R World _ host _ waits unpaused out
      fun tests => (undisturbed tests).1 phase
    exact ⟨unpromised.scriptStep waits, (holding rfl).trans paused, still⟩
  | resumeStatus =>
    rw [phase] at facts holding
    obtain ⟨unpromised, paused, disarmed⟩ := facts
    exact ⟨unpromised.scriptStep waits, (holding rfl).trans paused, disarmed.scriptStep waits⟩
  | resumeUnlock found =>
    rw [phase] at facts holding
    cases found with
    | true =>
      obtain ⟨settles, runs, disarmed⟩ := facts
      exact ⟨settled settles, (holding rfl).trans runs, disarmed.scriptStep waits⟩
    | false => exact settled facts
  | _ =>
    rw [phase] at facts
    exact settled facts

end Threads

section Promises

variable {R World : Type} [ScriptNumber R] {host : Host R World} {run : DebugRun R World}

theorem DebugRun.pausesHere_of {waits : Bool}
    (undisturbed : run.Undisturbed (.script waits : ExecutorOp R World))
    (tests : run.executor.script = .testPause)
    (asked : run.executor.runtime.flags.shouldPause = true) (positive : 0 < run.executor.lineAtHand)
    (other : run.executor.lineAtHand ≠ run.line) : run.executor.pausesHere = true := by
  have told := (undisturbed tests).2.1 asked
  exact Executor.pausesHere_iff.mpr ⟨asked, fun same => other (told.mp same), positive⟩

theorem DebugRun.Sound.scriptHeld (sound : run.Sound) (waits : Bool)
    (undisturbed : run.Undisturbed (.script waits))
    (held : (run.scriptStep host waits).heldBack = true) :
    (run.scriptStep host waits).executor.HeldBack ∧ (run.scriptStep host waits).line = 0 := by
  obtain ⟨executor, same, _⟩ := @DebugRun.scriptStep_executor R World _ host run waits
  rw [same] at held
  obtain ⟨back, first⟩ := sound.held held
  rw [executor]
  refine ⟨back.scriptStep waits fun tests => ?_, ?_⟩
  · have positive := (undisturbed tests).2.2 held
    have asked : run.executor.runtime.flags.shouldPause = true := by
      unfold Executor.HeldBack at back
      dsimp only at back
      rw [tests] at back
      exact back.2
    exact DebugRun.pausesHere_of undisturbed tests asked positive (by omega)
  · unfold DebugRun.scriptStep
    cases phase : run.executor.script with
    | execute =>
      unfold Executor.HeldBack at back
      dsimp only at back
      rw [phase] at back
      exact back.2.elim
    | testPaused =>
      dsimp only
      split
      · split_ifs <;> exact first
      · exact first
    | _ => exact first

theorem Executor.execute_waiting {executor : Executor R World} (waits : Bool)
    (still : (executor.execute host waits).script = .execute) :
    executor.execute host waits = executor := by
  rcases @Executor.execute_cases R World _ host executor waits with
    same | ⟨there | ⟨succeeded, there⟩, _⟩
  · exact same
  all_goals
    rw [there] at still
    cases still

theorem Executor.scriptStep_execute {executor : Executor R World} (waits : Bool)
    (phase : executor.script = .execute) :
    executor.scriptStep host waits = executor.execute host waits := by
  unfold Executor.scriptStep
  rw [phase]

theorem DebugRun.scriptStep_cases (waits : Bool) :
    let next := run.executor.scriptStep host waits
    let line := run.executor.lineAtHand
    (run.executor.script = .execute ∧ next.script ≠ .execute ∧
      run.scriptStep host waits =
        ⟨next, if 0 < line then line else run.line, run.heldBack, run.resumed,
          (match run.stepped with
            | .asked => .ran line
            | other => other),
          run.early || run.heldBack,
          run.strayed ||
            (match run.stepped with
              | .ran first => decide (0 < line ∧ line ≠ first)
              | _ => false),
          run.passed⟩) ∨
    (∃ first, run.executor.script = .testPaused ∧ run.stepped = .ran first ∧
      run.executor.runtime.flags.isPaused = true ∧
      run.scriptStep host waits =
        { run with
          executor := next, stepped := .none, strayed := run.strayed || decide (line = first) }) ∨
    (run.executor.script = .testPause ∧
      run.scriptStep host waits =
        { run with
          executor := next
          passed := run.passed ||
            decide (run.executor.saysPaused ∧ next.script = .execute ∧ 0 < line ∧
              line ≠ run.line) }) ∨
    ((run.executor.script = .execute → next.script = .execute) ∧
      (run.executor.script = .testPaused → ∀ first, run.stepped = .ran first →
        run.executor.runtime.flags.isPaused = false) ∧ run.executor.script ≠ .testPause ∧
      run.scriptStep host waits = { run with executor := next }) := by
  intro next line
  unfold DebugRun.scriptStep
  cases phase : run.executor.script with
  | execute =>
    by_cases still : next.script = .execute
    · exact .inr (.inr (.inr ⟨fun _ => still, nofun, nofun, if_pos still⟩))
    · exact .inl ⟨rfl, still, if_neg still⟩
  | testPaused =>
    cases stepped : run.stepped with
    | ran first =>
      cases paused : run.executor.runtime.flags.isPaused with
      | true => exact .inr (.inl ⟨first, rfl, rfl, rfl, rfl⟩)
      | false => exact .inr (.inr (.inr ⟨nofun, fun _ _ _ => rfl, nofun, rfl⟩))
    | none | asked => exact .inr (.inr (.inr ⟨nofun, fun _ _ => nofun, nofun, rfl⟩))
  | testPause => exact .inr (.inr (.inl ⟨rfl, rfl⟩))
  | _ => exact .inr (.inr (.inr ⟨nofun, nofun, nofun, rfl⟩))

theorem DebugRun.Sound.scriptAsked (sound : run.Sound) (waits : Bool)
    (asked : (run.scriptStep host waits).stepped = .asked) :
    (run.scriptStep host waits).executor.GoesOn := by
  rw [(@DebugRun.scriptStep_executor R World _ host run waits).1]
  have onwards : run.stepped = .asked → run.executor.script ≠ .execute →
      (run.executor.scriptStep host waits).GoesOn := fun stepped before =>
    (sound.asked stepped).scriptStep waits before
  rcases @DebugRun.scriptStep_cases R World _ host run waits with
    ⟨phase, executed, next⟩ | ⟨first, phase, _, _, next⟩ | ⟨phase, next⟩ | ⟨still, _, _, next⟩
  all_goals rw [next] at asked
  · cases stepped : run.stepped with
    | asked | none | ran =>
      dsimp only at asked
      rw [stepped] at asked
      cases asked
  · cases asked
  · exact onwards asked (by rw [phase]; nofun)
  · by_cases phase : run.executor.script = .execute
    · have waiting := still phase
      rw [Executor.scriptStep_execute waits phase] at waiting ⊢
      rw [Executor.execute_waiting waits waiting]
      exact sound.asked asked
    · exact onwards asked phase

theorem DebugRun.Sound.scriptRan (sound : run.Sound) (waits : Bool)
    (undisturbed : run.Undisturbed (.script waits)) (line : Int)
    (ran : (run.scriptStep host waits).stepped = .ran line) :
    (run.scriptStep host waits).executor.RunsLine line ∧ (run.scriptStep host waits).line = line := by
  have tells : run.line = line → run.executor.RunsLine line → run.executor.script = .testPause →
      (run.executor.lineAtHand = run.executor.runtime.lastExecutedLine ↔
        run.executor.lineAtHand = line) := fun same runs tests => by
    unfold Executor.RunsLine at runs
    dsimp only at runs
    rw [tests] at runs
    rw [(undisturbed tests).2.1 runs, same]
  rcases @DebugRun.scriptStep_cases R World _ host run waits with
    ⟨phase, executed, next⟩ | ⟨first, phase, _, _, next⟩ | ⟨phase, next⟩ | ⟨still, unpaused, _, next⟩
  all_goals rw [next] at ran ⊢
  · rw [Executor.scriptStep_execute waits phase] at executed ⊢
    dsimp only at ran ⊢
    cases stepped : run.stepped with
    | asked =>
      -- The first instruction of the step gives its line.
      rw [stepped] at ran
      obtain rfl := StepProgress.ran.inj ran
      obtain ⟨_, positive, asked⟩ := sound.asked stepped
      rw [phase] at asked
      exact ⟨Executor.execute_runsLine waits _ asked phase executed, if_pos positive⟩
    | ran first =>
      rw [stepped] at ran
      obtain rfl := StepProgress.ran.inj ran
      obtain ⟨runs, same⟩ := sound.ran first stepped
      unfold Executor.RunsLine at runs
      dsimp only at runs
      rw [phase] at runs
      refine ⟨Executor.execute_runsLine waits _ runs.1 phase executed, ?_⟩
      split_ifs with positive
      · exact runs.2 positive
      · exact same
    | none =>
      rw [stepped] at ran
      cases ran
  · cases ran
  · obtain ⟨runs, same⟩ := sound.ran line ran
    exact ⟨runs.scriptStep waits (tells same runs) (by rw [phase]; nofun), same⟩
  · obtain ⟨runs, same⟩ := sound.ran line ran
    refine ⟨runs.scriptStep waits (tells same runs) fun tests => ?_, same⟩
    unfold Executor.RunsLine at runs
    dsimp only at runs
    rw [tests] at runs
    have paused := unpaused tests line ran
    rw [runs.1] at paused
    cases paused

theorem DebugRun.Sound.scriptKept (sound : run.Sound) (waits : Bool)
    (undisturbed : run.Undisturbed (.script waits)) :
    (run.scriptStep host waits).early = false ∧ (run.scriptStep host waits).strayed = false ∧
      (run.scriptStep host waits).passed = false := by
  obtain ⟨early, strayed, passed⟩ := sound.kept
  rcases @DebugRun.scriptStep_cases R World _ host run waits with
    ⟨phase, executed, next⟩ | ⟨first, phase, ran, paused, next⟩ | ⟨phase, next⟩ | ⟨_, _, _, next⟩
  all_goals rw [next]
  · refine ⟨?_, ?_, passed⟩
    · -- A run that is held back does not come to an instruction.
      refine Bool.or_eq_false_iff.mpr ⟨early, Bool.eq_false_iff.mpr fun held => ?_⟩
      have back := (sound.held held).1
      unfold Executor.HeldBack at back
      dsimp only at back
      rw [phase] at back
      exact back.2
    · refine Bool.or_eq_false_iff.mpr ⟨strayed, ?_⟩
      cases stepped : run.stepped with
      | ran first =>
        have runs := (sound.ran first stepped).1
        unfold Executor.RunsLine at runs
        dsimp only at runs
        rw [phase] at runs
        exact decide_eq_false fun ⟨positive, other⟩ => other (runs.2 positive)
      | none | asked => rfl
  · refine ⟨early, Bool.or_eq_false_iff.mpr ⟨strayed, ?_⟩, passed⟩
    have runs := (sound.ran first ran).1
    unfold Executor.RunsLine at runs
    dsimp only at runs
    rw [phase] at runs
    exact decide_eq_false runs.2
  · refine ⟨early, strayed, Bool.or_eq_false_iff.mpr ⟨passed, ?_⟩⟩
    refine decide_eq_false fun ⟨paused, executes, positive, other⟩ => ?_
    have armed := sound.armed paused
    unfold Executor.Armed at armed
    dsimp only at armed
    rw [phase] at armed
    have pauses := DebugRun.pausesHere_of undisturbed phase armed positive other
    unfold Executor.scriptStep at executes
    rw [phase] at executes
    dsimp only at executes
    rw [pauses] at executes
    cases executes
  · exact ⟨early, strayed, passed⟩

theorem DebugRun.Sound.script (sound : run.Sound) (waits : Bool)
    (undisturbed : run.Undisturbed (.script waits)) : (run.scriptStep host waits).Sound := by
  obtain ⟨executor, _, _⟩ := @DebugRun.scriptStep_executor R World _ host run waits
  by_cases gone : run.executor.script.isGone = true
  · have same : run.scriptStep host waits = run := by
      have still := @Executor.scriptStep_gone R World _ host _ waits gone
      unfold DebugRun.scriptStep
      rw [still]
      cases phase : run.executor.script with
      | testPause | testPaused | execute =>
        rw [phase] at gone
        cases gone
      | _ => rfl
    rw [same]
    exact sound
  · have there : run.executor.script.isGone = false := by simpa using gone
    refine ⟨?_, fun active => ?_, sound.scriptFacts waits there undisturbed,
      sound.scriptHeld waits undisturbed, sound.scriptAsked waits, sound.scriptRan waits undisturbed,
      ?_, fun status writes => ?_, sound.scriptKept waits undisturbed⟩
    · rw [executor]
      exact sound.orderly.scriptStep waits
    · rw [executor] at active ⊢
      exact .inr (sound.scriptActive there waits active).1
    · rw [executor]
      exact Executor.scriptStep_inPause waits sound.lined
    · rw [executor] at writes
      exact Executor.scriptStep_ends waits status writes

end Promises

section Runs

variable {R World : Type} [ScriptNumber R] {host : Host R World} {run : DebugRun R World}

theorem DebugRun.Sound.begin (sound : run.Sound) (call : ExecutorCall R World) :
    DebugRun.Sound { run with executor := run.executor.begin call } := by
  have orderly := sound.orderly.begin call
  unfold Executor.begin at orderly ⊢
  by_cases free : run.executor.ui = .idle
  · have settled : run.Settled := by
      have facts := sound.facts
      unfold DebugRun.Facts at facts
      dsimp only at facts
      rw [free] at facts
      exact facts
    have unannounced : run.executor.ui.isAnnouncing = true → False := fun announcing => by
      rw [free] at announcing
      cases announcing
    rw [if_neg (not_not.mpr free)] at orderly ⊢
    cases call with
    | start | stop =>
      exact sound.quiet orderly ⟨rfl, rfl, rfl⟩ rfl
        (sound.stillActive ⟨rfl, rfl⟩ fun announcing => (unannounced announcing).elim)
        (settled.move ⟨rfl, rfl⟩ id id)
    | pause | resume | step =>
      dsimp only at orderly ⊢
      split_ifs at orderly ⊢
      · exact sound.quiet orderly ⟨rfl, rfl, rfl⟩ rfl
          (sound.stillActive ⟨rfl, rfl⟩ fun announcing => (unannounced announcing).elim)
          (settled.move ⟨rfl, rfl⟩ id id)
      · exact sound
  · rw [if_pos free] at orderly ⊢
    exact sound

theorem DebugRun.Sound.step (sound : run.Sound) (op : ExecutorOp R World)
    (undisturbed : run.Undisturbed op) : (run.step host op).Sound := by
  cases op with
  | call call => exact sound.begin call
  | ui =>
    cases kind : run.executor.ui.callKind with
    | none =>
      have idle : run.executor.ui = .idle := by
        revert kind
        cases run.executor.ui <;> simp [UiPhase.callKind]
      have same : run.uiStep = run := by
        unfold DebugRun.uiStep Executor.uiStep
        rw [idle]
        rfl
      show run.uiStep.Sound
      rw [same]
      exact sound
    | start => exact sound.start kind
    | stop => exact sound.stop kind
    | debug => exact sound.debug kind undisturbed
  | script waits => exact sound.script waits undisturbed

theorem DebugRun.Sound.promises (sound : run.Sound) : run.Kept host where
  held := sound.kept.1
  stayed := sound.kept.2.1
  goes asked waits := by
    refine (sound.asked asked).reaches waits ?_
    unfold accessesToExecute
    cases run.executor.script <;> simp [ScriptPhase.toExecute]
  freed resumed := fun ⟨_, paused⟩ => by
    rw [(sound.disarmed resumed).unpaused] at paused
    cases paused
  alive paused together := by
    rcases sound.active (by rw [paused]; rfl) with announcing | there
    · have alone : run.executor.ui.isAlone = true := by
        revert announcing
        cases run.executor.ui <;> simp [UiPhase.isAnnouncing, UiPhase.isAlone]
      rw [together] at alone
      cases alone
    · exact there.1
  waits := sound.kept.2.2

/-- In every run in which the accesses of the two threads to the flags of a pause do not come between
each other's, and in which the machine tells another line from the one that was executed last, pause,
step and resume do what the status says. -/
theorem debugging_kept (host : Host R World) (code : Code R) (world : World)
    (ops : List (ExecutorOp R World))
    (undisturbed : EachStep (DebugRun.step host) DebugRun.Undisturbed (DebugRun.start code world)
      ops) :
    Always (DebugRun.step host) (DebugRun.Kept host) (DebugRun.start code world) ops :=
  (always_of_eachStep (fun _ op sound each => DebugRun.Sound.step sound op each) undisturbed
    (DebugRun.start_sound code world)).imp fun _ sound => sound.promises

end Runs

section Examples

/-- An endless loop of two lines. -/
def twoLines : List (AstStmt Int) :=
  [.label 1 (text "L"), .command 2 (.assignment (text "X") (.number 2 (literal 1))),
    .goto 3 (text "L")]

/-- A script is started for debugging, and its thread makes so many accesses. -/
def startDebug (code : Code Int) (accesses : Nat) : List (ExecutorOp Int Unit) :=
  .call (.start ⟨some (code, ()), true, true⟩) :: List.replicate 13 .ui ++
    List.replicate accesses (.script false)

/-- A call that goes on to its end. -/
def callToEnd (call : ExecutorCall Int Unit) : List (ExecutorOp Int Unit) :=
  .call call :: List.replicate 6 .ui

/-- A resume that comes between the test for a pause and the write that begins it is lost. -/
theorem resumeInPause_lost :
    ∃ code, c64scriptCompile twoLines [] = .ok code ∧
      ¬ Always (DebugRun.step quietHost) (DebugRun.Kept quietHost) (DebugRun.start code ())
        (startDebug code 3 ++ callToEnd .resume ++ List.replicate 3 (.script false)) := by
  refine ⟨_, rfl, fun always => ?_⟩
  refine always.last.freed ?_ ?_
  all_goals decide +kernel

/-- A script is stepped through, resumed and paused again. -/
theorem debugging_kept_twoLines :
    ∃ code, c64scriptCompile twoLines [] = .ok code ∧
      Always (DebugRun.step quietHost) (DebugRun.Kept quietHost) (DebugRun.start code ())
        (startDebug code 9 ++ callToEnd .step ++ List.replicate 30 (.script false) ++
          callToEnd .resume ++ List.replicate 4 (.script false) ++ callToEnd .pause) := by
  refine ⟨_, rfl, debugging_kept quietHost _ () _ ?_⟩
  decide +kernel

end Examples

end C64Stream
