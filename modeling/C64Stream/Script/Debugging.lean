import C64Stream.Script.Bytecode
import C64Stream.Script.ExecutorLaws

/-! What pause, step and resume promise, and what they need not to disturb each other. -/

namespace C64Stream

section Machine

variable {R World : Type} [ScriptNumber R]

/-- The line of the instruction at hand. -/
def Executor.lineAtHand (executor : Executor R World) : Int :=
  executor.code.lineAt executor.runtime.ip

/-- The machine waits in the loop of a pause. -/
def Executor.waitsInLoop (executor : Executor R World) : Bool :=
  match executor.script with
  | .testPaused | .testPausedStop | .testStepMode =>
    executor.runtime.flags.isPaused && !executor.runtime.flags.shouldStop
  | _ => false

/-- The machine leaves a pause for a step, and is about to ask for the next pause. -/
def Executor.rearms (executor : Executor R World) : Bool :=
  match executor.script with
  | .clearStepMode | .setSkipWaits | .clearPaused | .setPause => true
  | .testPausedStop | .testStepMode => executor.runtime.flags.stepMode
  | _ => false

/-- The status says that the script is paused, and no resume is about to change it. -/
def Executor.saysPaused (executor : Executor R World) : Prop :=
  executor.status = .paused ∧ executor.ui ≠ .resumeShouldPause ∧ executor.ui ≠ .resumeStatus

instance Executor.decidableSaysPaused (executor : Executor R World) :
    Decidable executor.saysPaused :=
  inferInstanceAs (Decidable (_ ∧ _ ∧ _))

end Machine

section Observer

/-- What became of the latest step that found the machine waiting. -/
inductive StepProgress where
  | none
  | asked
  | ran (line : Int)
  deriving DecidableEq

/-- An executor beside what its calls promised, and whether the machine broke it. -/
structure DebugRun (R World : Type) [ScriptNumber R] where
  executor : Executor R World
  /-- The line of the latest instruction that has one, zero before the first. -/
  line : Int
  /-- The run was begun paused, and there was no step or resume since. -/
  heldBack : Bool
  /-- A resume that found the script paused has returned, and no pause was asked for since. -/
  resumed : Bool
  stepped : StepProgress
  /-- An instruction was executed before the first step or resume. -/
  early : Bool
  /-- A step executed an instruction of another line, or ended on its own line. -/
  strayed : Bool
  /-- While the script was said to be paused, the machine passed on to another line. -/
  passed : Bool

variable {R World : Type} [ScriptNumber R]

/-- Nothing has happened yet. -/
def DebugRun.start (code : Code R) (world : World) : DebugRun R World :=
  ⟨executorCreate code world, 0, false, false, .none, false, false, false⟩

/-- An access of the user interface, and what it promises. -/
def DebugRun.uiStep (run : DebugRun R World) : DebugRun R World :=
  let next := { run with executor := run.executor.uiStep }
  match run.executor.ui with
  | .startCompile => { next with heldBack := false, resumed := false, stepped := .none }
  | .startCreate =>
    { next with
      line := 0
      heldBack := run.executor.starting.paused && run.executor.starting.threadCreated }
  | .stopShouldStop => { next with stepped := .none }
  | .pauseLock => { next with resumed := false }
  | .resumeIsPaused => { next with heldBack := false, stepped := .none }
  | .resumeUnlock true => { next with resumed := true }
  | .stepStepMode =>
    { next with
      heldBack := false
      stepped := if run.executor.waitsInLoop then .asked else run.stepped }
  | _ => next

/-- An access of the script thread, and what it makes of the promises. -/
def DebugRun.scriptStep (host : Host R World) (waits : Bool) (run : DebugRun R World) :
    DebugRun R World :=
  let executor := run.executor.scriptStep host waits
  let line := run.executor.lineAtHand
  let next := { run with executor := executor }
  match run.executor.script with
  | .testPause =>
    { next with
      passed := run.passed ||
        decide (run.executor.saysPaused ∧ executor.script = .execute ∧ 0 < line ∧
          line ≠ run.line) }
  | .testPaused =>
    -- The machine waits again.
    match run.stepped with
    | .ran first =>
      if run.executor.runtime.flags.isPaused then
        { next with stepped := .none, strayed := run.strayed || decide (line = first) }
      else next
    | _ => next
  | .execute =>
    if executor.script = .execute then next
    else
      { next with
        line := if 0 < line then line else run.line
        early := run.early || run.heldBack
        stepped :=
          match run.stepped with
          | .asked => .ran line
          | other => other
        strayed := run.strayed ||
          match run.stepped with
          | .ran first => decide (0 < line ∧ line ≠ first)
          | _ => false }
  | _ => next

/-- What happens next happens, and is observed. -/
def DebugRun.step (host : Host R World) (run : DebugRun R World) :
    ExecutorOp R World → DebugRun R World
  | .call call => { run with executor := run.executor.begin call }
  | .ui => run.uiStep
  | .script waits => run.scriptStep host waits

end Observer

section Promise

variable {R World : Type} [ScriptNumber R] (host : Host R World)

def accessesToExecute : Nat := 8

/-- Pause, step and resume do what the status says. -/
structure DebugRun.Kept (run : DebugRun R World) : Prop where
  /-- A run that is begun paused executes nothing before the first step or resume. -/
  held : run.early = false
  /-- A step executes what is left of a line, and the machine waits again at another one. -/
  stayed : run.strayed = false
  /-- A step that finds the machine waiting lets it execute. -/
  goes : run.stepped = .asked → ∀ waits, ∃ n ≤ accessesToExecute,
    ((Executor.scriptStep host waits)^[n] run.executor).script = .execute
  /-- The machine does not go on waiting after a resume. -/
  freed : run.resumed = true →
    ¬ (run.executor.script = .testPaused ∧ run.executor.runtime.flags.isPaused = true)
  /-- While a script is said to be paused, and none is being started, its thread is there. -/
  alive : run.executor.status = .paused → run.executor.ui.isAlone = false →
    run.executor.script.isGone = false
  /-- The machine waits before it passes on to another line while the script is paused. -/
  waits : run.passed = false

/-- The accesses of the two threads to the flags of a pause do not come between each other's, and
the line that the machine compares with tells the same as the line that was executed last. -/
def DebugRun.Undisturbed (run : DebugRun R World) (op : ExecutorOp R World) : Prop :=
  match op with
  | .call _ => True
  | .ui =>
    (run.executor.ui = .resumeIsPaused → run.executor.script ≠ .setPaused) ∧
    (run.executor.ui = .resumeShouldPause → run.executor.rearms = false) ∧
    (run.executor.ui = .pauseShouldPause → run.executor.script ≠ .takePause)
  | .script _ =>
    run.executor.script = .testPause →
      (run.executor.ui = .resumeShouldPause → run.executor.pausesHere = false) ∧
      (run.executor.runtime.flags.shouldPause = true →
        (run.executor.lineAtHand = run.executor.runtime.lastExecutedLine ↔
          run.executor.lineAtHand = run.line)) ∧
      (run.heldBack = true → 0 < run.executor.lineAtHand)

instance DebugRun.decidableUndisturbed (run : DebugRun R World) :
    ∀ op, Decidable (run.Undisturbed op)
  | .call _ => inferInstanceAs (Decidable True)
  | .ui => inferInstanceAs (Decidable ((_ → _) ∧ (_ → _) ∧ (_ → _)))
  | .script _ => inferInstanceAs (Decidable (_ → (_ → _) ∧ (_ → (_ ↔ _)) ∧ (_ → _)))

end Promise

end C64Stream
