import C64Stream.Script.Vm

/-! The executor: the calls of the user interface and the script thread, one access at a time. -/

namespace C64Stream

section Phases

/-- What is said about a script. -/
inductive ScriptStatus where
  | idle
  | running
  | paused
  | completed
  | error
  deriving DecidableEq

/-- Who holds the mutex of the executor. -/
inductive ExecutorThread where
  | ui
  | script
  deriving DecidableEq

/-- The next access of the thread of the user interface; several of a call have their own numbers. -/
inductive UiPhase where
  | idle
  -- A start looks for a running script, and compiles the new one.
  | startLock
  | startReadRunning
  | startUnlock (running : Bool)
  | startCompile
  | startErrorLock
  | startErrorStatus
  | startErrorUnlock
  | startShouldPause
  | startIsPaused
  | startStepMode
  | startReadyLock
  | startStatus
  | startRunning
  | startStopRequested
  | startReadyUnlock
  | startCreate
  | startFailedLock
  | startFailedRunning
  | startFailedStatus
  | startFailedUnlock
  -- A stop asks for the end of the script, and waits for it.
  | stopLock
  | stopReadRunning
  | stopRequest (running : Bool)
  | stopUnlock (running : Bool)
  | stopShouldStop
  | stopJoin
  | stopEndedLock
  | stopRunning
  | stopStatus
  | stopEndedUnlock
  | pauseLock
  | pauseReadStatus
  | pauseShouldPause
  | pauseStatus
  | pauseUnlock
  | resumeLock
  | resumeReadStatus
  | resumeIsPaused
  | resumeShouldPause
  | resumeStatus
  | resumeUnlock (found : Bool)
  | stepLock
  | stepReadStatus
  | stepStepMode
  | stepSkipWaits
  | stepUnlock (accepted : Bool)
  deriving DecidableEq

/-- The next access of the script thread; the status that it writes was chosen before. -/
inductive ScriptPhase where
  | absent
  | created
  | testStop
  | limited
  | testPause
  | setPaused
  | takePause
  | testSkipWaits
  | clearSkipWaits
  -- The loop of a pause, and how a step leaves it.
  | testPaused
  | testPausedStop
  | testStepMode
  | clearStepMode
  | setSkipWaits
  | clearPaused
  | setPause
  | leavePause
  | execute
  | lock (succeeded : Bool)
  | clearRunning (succeeded : Bool)
  | readStopRequested (succeeded : Bool)
  | writeStatus (status : ScriptStatus)
  | unlock
  | ended
  deriving DecidableEq

end Phases

section State

variable (R World : Type) [ScriptNumber R]

/-- What a start is given: what the file of the script compiles to, if it does, whether the script
is to wait at once, and whether a thread can be created. -/
structure ScriptStart where
  script : Option (Code R × World)
  paused : Bool
  threadCreated : Bool

/-- The executor of a source with its latest script. -/
structure Executor where
  status : ScriptStatus
  threadRunning : Bool
  stopRequested : Bool
  mutex : Option ExecutorThread
  /-- Whether there is a runtime. -/
  hasRuntime : Bool
  code : Code R
  runtime : Runtime R World
  starting : ScriptStart R World
  ui : UiPhase
  script : ScriptPhase

/-- A call of the user interface. -/
inductive ExecutorCall where
  | start (start : ScriptStart R World)
  | stop
  | pause
  | resume
  | step

/-- What happens next: a call begins, or one of the threads makes an access; whether an instruction
that waits goes on waiting is up to the time and to what it waits for. -/
inductive ExecutorOp where
  | call (call : ExecutorCall R World)
  | ui
  | script (waits : Bool)

end State

section Accesses

variable {R World : Type} [ScriptNumber R]

/-- Change the flags of the runtime. -/
def Executor.setFlags (executor : Executor R World) (change : Flags → Flags) :
    Executor R World :=
  { executor with runtime := { executor.runtime with flags := change executor.runtime.flags } }

/-- Go on at another access of the user interface. -/
def Executor.uiAt (executor : Executor R World) (phase : UiPhase) : Executor R World :=
  { executor with ui := phase }

/-- Go on at another access of the script thread. -/
def Executor.scriptAt (executor : Executor R World) (phase : ScriptPhase) : Executor R World :=
  { executor with script := phase }

/-- Take the mutex and go on, or wait for it. -/
def Executor.uiLock (executor : Executor R World) (phase : UiPhase) : Executor R World :=
  if executor.mutex = none then { executor with mutex := some .ui, ui := phase } else executor

/-- Give the mutex back and go on. -/
def Executor.uiUnlock (executor : Executor R World) (phase : UiPhase) : Executor R World :=
  { executor with mutex := none, ui := phase }

/-- A call begins when there is no other; some need a runtime. -/
def Executor.begin (executor : Executor R World) (call : ExecutorCall R World) :
    Executor R World :=
  if executor.ui ≠ .idle then executor
  else
    match call with
    | .start start => { executor with starting := start, ui := .startLock }
    | .stop => executor.uiAt .stopLock
    | .pause => if executor.hasRuntime then executor.uiAt .pauseLock else executor
    | .resume => if executor.hasRuntime then executor.uiAt .resumeLock else executor
    | .step => if executor.hasRuntime then executor.uiAt .stepLock else executor

/-- The next access of `c64_script_executor_start`. -/
def Executor.startStep (executor : Executor R World) : UiPhase → Executor R World
  | .startLock => executor.uiLock .startReadRunning
  | .startReadRunning => executor.uiAt (.startUnlock executor.threadRunning)
  | .startUnlock running => executor.uiUnlock (if running then .idle else .startCompile)
  | .startCompile =>
    match executor.starting.script with
    | none => { executor with hasRuntime := false, ui := .startErrorLock }
    | some (code, world) =>
      { executor with
        hasRuntime := true
        code := code
        runtime := runtimeCreate world
        ui := if executor.starting.paused then .startShouldPause else .startReadyLock }
  | .startErrorLock => executor.uiLock .startErrorStatus
  | .startErrorStatus => { executor with status := .error, ui := .startErrorUnlock }
  | .startErrorUnlock => executor.uiUnlock .idle
  | .startShouldPause =>
    (executor.setFlags fun flags => { flags with shouldPause := true }).uiAt .startIsPaused
  | .startIsPaused =>
    (executor.setFlags fun flags => { flags with isPaused := false }).uiAt .startStepMode
  | .startStepMode =>
    (executor.setFlags fun flags => { flags with stepMode := false }).uiAt .startReadyLock
  | .startReadyLock => executor.uiLock .startStatus
  | .startStatus =>
    { executor with
      status := if executor.starting.paused then .paused else .running
      ui := .startRunning }
  | .startRunning => { executor with threadRunning := true, ui := .startStopRequested }
  | .startStopRequested => { executor with stopRequested := false, ui := .startReadyUnlock }
  | .startReadyUnlock => executor.uiUnlock .startCreate
  | .startCreate =>
    if executor.starting.threadCreated then { executor with script := .created, ui := .idle }
    else executor.uiAt .startFailedLock
  | .startFailedLock => executor.uiLock .startFailedRunning
  | .startFailedRunning => { executor with threadRunning := false, ui := .startFailedStatus }
  | .startFailedStatus => { executor with status := .error, ui := .startFailedUnlock }
  | .startFailedUnlock => { executor.uiUnlock .idle with hasRuntime := false }
  | _ => executor

/-- The next access of `c64_script_executor_stop`. -/
def Executor.stopStep (executor : Executor R World) : UiPhase → Executor R World
  | .stopLock => executor.uiLock .stopReadRunning
  | .stopReadRunning => executor.uiAt (.stopRequest executor.threadRunning)
  | .stopRequest running => { executor with stopRequested := running, ui := .stopUnlock running }
  | .stopUnlock running =>
    executor.uiUnlock
      (if running then if executor.hasRuntime then .stopShouldStop else .stopJoin else .idle)
  | .stopShouldStop =>
    (executor.setFlags fun flags => { flags with shouldStop := true }).uiAt .stopJoin
  | .stopJoin => if executor.script = .ended then executor.uiAt .stopEndedLock else executor
  | .stopEndedLock => executor.uiLock .stopRunning
  | .stopRunning => { executor with threadRunning := false, ui := .stopStatus }
  | .stopStatus =>
    { executor with
      status := if executor.status = .running then .idle else executor.status
      ui := .stopEndedUnlock }
  | .stopEndedUnlock => executor.uiUnlock .idle
  | _ => executor

/-- The next access of `c64_script_executor_pause`, `_resume` or `_step`. -/
def Executor.debugStep (executor : Executor R World) : UiPhase → Executor R World
  | .pauseLock => executor.uiLock .pauseReadStatus
  | .pauseReadStatus =>
    executor.uiAt (if executor.status = .running then .pauseShouldPause else .pauseUnlock)
  | .pauseShouldPause =>
    (executor.setFlags fun flags => { flags with shouldPause := true }).uiAt .pauseStatus
  | .pauseStatus => { executor with status := .paused, ui := .pauseUnlock }
  | .pauseUnlock => executor.uiUnlock .idle
  | .resumeLock => executor.uiLock .resumeReadStatus
  | .resumeReadStatus =>
    executor.uiAt (if executor.status = .paused then .resumeIsPaused else .resumeUnlock false)
  | .resumeIsPaused =>
    (executor.setFlags fun flags => { flags with isPaused := false }).uiAt .resumeShouldPause
  | .resumeShouldPause =>
    (executor.setFlags fun flags => { flags with shouldPause := false }).uiAt .resumeStatus
  | .resumeStatus => { executor with status := .running, ui := .resumeUnlock true }
  | .resumeUnlock _ => executor.uiUnlock .idle
  | .stepLock => executor.uiLock .stepReadStatus
  | .stepReadStatus =>
    executor.uiAt (if executor.status = .paused then .stepStepMode else .stepUnlock false)
  | .stepStepMode =>
    (executor.setFlags fun flags => { flags with stepMode := true }).uiAt .stepSkipWaits
  | .stepSkipWaits =>
    (executor.setFlags fun flags => { flags with stepSkipWaits := true }).uiAt (.stepUnlock true)
  | .stepUnlock _ => executor.uiUnlock .idle
  | _ => executor

/-- The call that an access belongs to. -/
inductive UiPhase.CallKind where
  | none
  | start
  | stop
  | debug
  deriving DecidableEq

/-- Which call an access is made by. -/
def UiPhase.callKind : UiPhase → UiPhase.CallKind
  | .idle => .none
  | .startLock | .startReadRunning | .startUnlock _ | .startCompile | .startErrorLock
  | .startErrorStatus | .startErrorUnlock | .startShouldPause | .startIsPaused | .startStepMode
  | .startReadyLock | .startStatus | .startRunning | .startStopRequested | .startReadyUnlock
  | .startCreate | .startFailedLock | .startFailedRunning | .startFailedStatus
  | .startFailedUnlock => .start
  | .stopLock | .stopReadRunning | .stopRequest _ | .stopUnlock _ | .stopShouldStop | .stopJoin
  | .stopEndedLock | .stopRunning | .stopStatus | .stopEndedUnlock => .stop
  | .pauseLock | .pauseReadStatus | .pauseShouldPause | .pauseStatus | .pauseUnlock | .resumeLock
  | .resumeReadStatus | .resumeIsPaused | .resumeShouldPause | .resumeStatus | .resumeUnlock _
  | .stepLock | .stepReadStatus | .stepStepMode | .stepSkipWaits | .stepUnlock _ => .debug

/-- The next access of the user interface. -/
def Executor.uiStep (executor : Executor R World) : Executor R World :=
  match executor.ui.callKind with
  | .none => executor
  | .start => executor.startStep executor.ui
  | .stop => executor.stopStep executor.ui
  | .debug => executor.debugStep executor.ui

end Accesses

section Script

variable {R World : Type} [ScriptNumber R]

/-- The instructions that wait look at the stop flag while they do. -/
def Opcode.waits : Opcode → Bool
  | .wait | .waitMem | .waitUntil => true
  | _ => false

/-- The test of the loop, and the count of the instructions. -/
def Executor.testStop (executor : Executor R World) : Executor R World :=
  match executor.code.bytecode[executor.runtime.ip]? with
  | none => executor.scriptAt (.lock true)
  | some _ =>
    if executor.runtime.flags.shouldStop then executor.scriptAt (.lock true)
    else if executor.runtime.atIterationLimit then
      { executor with
        runtime :=
          { executor.runtime.withError (iterationLimitMessage executor.runtime.maxIterations) with
            iterationCount := executor.runtime.iterationCount + 1 }
        script := .limited }
    else
      { executor with
        runtime :=
          if 0 < executor.runtime.maxIterations then
            { executor.runtime with iterationCount := executor.runtime.iterationCount + 1 }
          else executor.runtime
        script := .testPause }

/-- A pause was asked for, and the instruction at hand is the first of another line. -/
def Executor.pausesHere (executor : Executor R World) : Bool :=
  let line := executor.code.lineAt executor.runtime.ip
  executor.runtime.flags.shouldPause &&
    decide (line ≠ executor.runtime.lastExecutedLine ∧ 0 < line)

/-- Execute the instruction at hand, or go on waiting in it. -/
def Executor.execute (host : Host R World) (waits : Bool) (executor : Executor R World) :
    Executor R World :=
  match executor.code.bytecode[executor.runtime.ip]? with
  -- There is an instruction at hand, for the test of the loop found it.
  | none => executor.scriptAt (.lock true)
  | some instruction =>
    if waits && instruction.opcode.waits && !executor.runtime.flags.shouldStop then executor
    else
      match vmDispatch host executor.code instruction executor.runtime with
      | .running runtime => { executor with runtime := runtime, script := .testStop }
      | .finished runtime => { executor with runtime := runtime, script := .lock true }
      | .failed runtime => { executor with runtime := runtime, script := .lock false }

/-- The status that the end of a script leads to. -/
def endStatus (stopRequested succeeded : Bool) : ScriptStatus :=
  if stopRequested then .idle else if succeeded then .completed else .error

/-- The next access of the script thread. -/
def Executor.scriptStep (host : Host R World) (waits : Bool) (executor : Executor R World) :
    Executor R World :=
  let flags := executor.runtime.flags
  match executor.script with
  | .absent | .ended => executor
  | .created =>
    if executor.code.bytecode = [] then executor.scriptAt (.lock false)
    else { executor with runtime := vmStart executor.code executor.runtime, script := .testStop }
  | .testStop => executor.testStop
  | .limited =>
    (executor.setFlags fun flags => { flags with shouldStop := true }).scriptAt (.lock false)
  | .testPause => executor.scriptAt (if executor.pausesHere then .setPaused else .execute)
  | .setPaused => (executor.setFlags fun flags => { flags with isPaused := true }).scriptAt .takePause
  | .takePause =>
    (executor.setFlags fun flags => { flags with shouldPause := false }).scriptAt .testSkipWaits
  | .testSkipWaits =>
    executor.scriptAt (if flags.stepSkipWaits then .clearSkipWaits else .testPaused)
  | .clearSkipWaits =>
    (executor.setFlags fun flags => { flags with stepSkipWaits := false }).scriptAt .testPaused
  | .testPaused => executor.scriptAt (if flags.isPaused then .testPausedStop else .leavePause)
  | .testPausedStop => executor.scriptAt (if flags.shouldStop then .leavePause else .testStepMode)
  | .testStepMode => executor.scriptAt (if flags.stepMode then .clearStepMode else .testPaused)
  | .clearStepMode =>
    (executor.setFlags fun flags => { flags with stepMode := false }).scriptAt .setSkipWaits
  | .setSkipWaits =>
    (executor.setFlags fun flags => { flags with stepSkipWaits := true }).scriptAt .clearPaused
  | .clearPaused => (executor.setFlags fun flags => { flags with isPaused := false }).scriptAt .setPause
  | .setPause => (executor.setFlags fun flags => { flags with shouldPause := true }).scriptAt .leavePause
  | .leavePause => executor.scriptAt (if flags.shouldStop then .lock true else .execute)
  | .execute => executor.execute host waits
  | .lock succeeded =>
    if executor.mutex = none then
      { executor with mutex := some .script, script := .clearRunning succeeded }
    else executor
  | .clearRunning succeeded =>
    { executor with threadRunning := false, script := .readStopRequested succeeded }
  | .readStopRequested succeeded =>
    executor.scriptAt (.writeStatus (endStatus executor.stopRequested succeeded))
  | .writeStatus status => { executor with status := status, script := .unlock }
  | .unlock => { executor with mutex := none, script := .ended }

/-- What happens next happens. -/
def Executor.step (host : Host R World) (executor : Executor R World) :
    ExecutorOp R World → Executor R World
  | .call call => executor.begin call
  | .ui => executor.uiStep
  | .script waits => executor.scriptStep host waits

/-- An executor that was just created; the code and the runtime stand for none. -/
def executorCreate (code : Code R) (world : World) : Executor R World where
  status := .idle
  threadRunning := false
  stopRequested := false
  mutex := none
  hasRuntime := false
  code := code
  runtime := runtimeCreate world
  starting := ⟨none, false, false⟩
  ui := .idle
  script := .absent

end Script

end C64Stream
