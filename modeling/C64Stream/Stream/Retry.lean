import C64Stream.Lib.Run

/-! The retry worker and the calls that schedule it: the atomic steps they share three flags in. -/

namespace C64Stream

section Constants

def c64StartRetryMinMs : Nat := 1000

def c64StartRetryMaxMs : Nat := 5000

def c64StartRetrySliceMs : Nat := 100

end Constants

section Threads

/-- Where a call of `c64_schedule_retry` is: the access it makes next. -/
inductive CallPc where
  | loadInProgress
  | loadActive
  | setRequested
  | casActive
  | casInProgress
  /-- Gives the slot back after `retry_in_progress` was found set. -/
  | undoActive
  | lock
  | join
  | create
  | done
  deriving DecidableEq

/-- A call that has begun. -/
structure Call where
  pc : CallPc
  /-- A retry task has started after the call had begun. -/
  served : Bool
  deriving DecidableEq

/-- Where the worker is: the access it makes next. -/
inductive WorkerPc where
  /-- Clears the request in front of a task. -/
  | clearRequested
  | startTask
  /-- The task is running; its last access clears `retry_in_progress`. -/
  | task
  /-- Stops the devices that were switched away from, without a task. -/
  | stops
  /-- Looks at the requests after the task or the stops. -/
  | loadRequested
  | wait (waited waitMs : Nat) (handover : Bool)
  | handBack
  /-- Looks once more after the slot was handed back. -/
  | recheck
  | reclaim
  | casInProgress
  /-- Leaves the loop with the slot. -/
  | leave
  | returned
  deriving DecidableEq

/-- A worker thread. -/
structure Worker where
  pc : WorkerPc
  backoffMs : Nat
  deriving DecidableEq

def newWorker : Worker := ⟨.clearRequested, c64StartRetryMinMs⟩

/-- The flags, and the threads that share them. -/
structure RetryContext where
  retryInProgress : Nat
  retryThreadActive : Nat
  retryRequested : Nat
  /-- A caller holds `retry_thread_mutex`. -/
  retryThreadMutex : Bool
  /-- There is a thread to join: the last one that was created. -/
  retryThreadValid : Bool
  calls : List Call
  workers : List Worker
  deriving DecidableEq

/-- What the worker finds elsewhere in the source when it looks. -/
structure Findings where
  /-- Neither streaming nor stopped by a port conflict. -/
  needStart : Bool
  needStops : Bool
  /-- Streaming, and a handover peer is set. -/
  handover : Bool
  /-- The last start command is as old as the time after which it is repeated. -/
  restartDue : Bool
  deriving DecidableEq

end Threads

section Steps

/-- The next access of a call of `c64_schedule_retry`, and where the call is then. -/
def c64ScheduleRetry (context : RetryContext) : CallPc → RetryContext × CallPc
  | .loadInProgress =>
    (context, if context.retryInProgress ≠ 0 then .setRequested else .loadActive)
  | .loadActive => (context, if context.retryThreadActive ≠ 0 then .setRequested else .casActive)
  | .setRequested => ({ context with retryRequested := 1 }, .done)
  | .casActive =>
    if context.retryThreadActive = 0 then
      ({ context with retryThreadActive := 1 }, .casInProgress)
    else (context, .done)
  | .casInProgress =>
    if context.retryInProgress = 0 then ({ context with retryInProgress := 1 }, .lock)
    else (context, .undoActive)
  | .undoActive => ({ context with retryThreadActive := 0 }, .done)
  | .lock =>
    -- The caller waits here while another one holds the mutex.
    if context.retryThreadMutex then (context, .lock)
    else
      ({ context with retryThreadMutex := true },
        if context.retryThreadValid then .join else .create)
  | .join =>
    -- The caller waits here until the thread that was created last has returned.
    if context.workers.getLast?.all fun worker => worker.pc = .returned then
      ({ context with retryThreadValid := false }, .create)
    else (context, .join)
  | .create =>
    ({ context with
      workers := context.workers ++ [newWorker]
      retryThreadValid := true
      retryThreadMutex := false }, .done)
  | .done => (context, .done)

/-- How the worker goes on once it knows what there is to do. -/
def decideNext (worker : Worker) (requested needStart needStops resend : Bool) : Worker :=
  let backoffMs := if requested then c64StartRetryMinMs else worker.backoffMs
  let runTask := requested || needStart || resend
  ⟨if !runTask && !needStops then .handBack else if runTask then .casInProgress else .stops,
    backoffMs⟩

/-- The next access of a worker thread, and the thread afterwards. -/
def c64RetryThreadMain (context : RetryContext) (worker : Worker) (found : Findings) :
    RetryContext × Worker :=
  match worker.pc with
  | .clearRequested =>
    ({ context with retryRequested := 0 }, { worker with pc := .startTask })
  | .startTask =>
    ({ context with calls := context.calls.map fun call => { call with served := true } },
      { worker with pc := .task })
  | .task =>
    ({ context with retryInProgress := 0 }, { worker with pc := .loadRequested })
  | .stops => (context, { worker with pc := .loadRequested })
  | .loadRequested =>
    let requested : Bool := context.retryRequested ≠ 0
    if !requested && (found.needStart || found.needStops) then
      let handover := found.needStops && found.handover
      (context,
        { worker with
          pc := .wait 0 (if handover then c64StartRetrySliceMs else worker.backoffMs) handover })
    else (context, decideNext worker requested found.needStart found.needStops false)
  | .wait waited waitMs handover =>
    let requested : Bool := context.retryRequested ≠ 0
    let waited := waited + c64StartRetrySliceMs
    if waited < waitMs && !requested then
      (context, { worker with pc := .wait waited waitMs handover })
    else
      let backoffMs :=
        if handover then worker.backoffMs
        else if worker.backoffMs * 2 > c64StartRetryMaxMs then c64StartRetryMaxMs
        else worker.backoffMs * 2
      let resend := handover && found.handover && found.restartDue
      (context,
        decideNext { worker with backoffMs := backoffMs } requested found.needStart found.needStops
          resend)
  | .handBack =>
    ({ context with retryThreadActive := 0 }, { worker with pc := .recheck })
  | .recheck =>
    (context, { worker with pc := if context.retryRequested ≠ 0 then .reclaim else .returned })
  | .reclaim =>
    if context.retryThreadActive = 0 then
      ({ context with retryThreadActive := 1 }, { worker with pc := .casInProgress })
    else (context, { worker with pc := .returned })
  | .casInProgress =>
    if context.retryInProgress = 0 then
      ({ context with retryInProgress := 1 }, { worker with pc := .clearRequested })
    else (context, { worker with pc := .leave })
  | .leave => ({ context with retryThreadActive := 0 }, { worker with pc := .returned })
  | .returned => (context, worker)

/-- A step of one of the threads. -/
inductive RetryOp where
  /-- Another thread calls `c64_schedule_retry`. -/
  | begin
  | call (i : Nat)
  | worker (i : Nat) (found : Findings)
  deriving DecidableEq

/-- One step of the calls and the worker threads; a thread that is not there makes none. -/
def retryStep (context : RetryContext) : RetryOp → RetryContext
  | .begin => { context with calls := context.calls ++ [⟨.loadInProgress, false⟩] }
  | .call i =>
    match context.calls[i]? with
    | some call =>
      let (context, pc) := c64ScheduleRetry context call.pc
      { context with calls := context.calls.set i { call with pc := pc } }
    | none => context
  | .worker i found =>
    match context.workers[i]? with
    | some worker =>
      let (context, worker) := c64RetryThreadMain context worker found
      { context with workers := context.workers.set i worker }
    | none => context

def initialRetry : RetryContext := ⟨0, 0, 0, false, false, [], []⟩

end Steps

section Property

/-- Some call has not returned. -/
def CallInProgress (context : RetryContext) : Prop :=
  0 < context.calls.countP fun call => call.pc ≠ .done

/-- A worker has handed the slot back and looks at the requests once more. -/
def LooksAgain (context : RetryContext) : Prop :=
  0 < context.workers.countP fun worker => worker.pc = .recheck || worker.pc = .reclaim

/-- Some worker thread has not returned. -/
def WorkerLeft (context : RetryContext) : Prop :=
  0 < context.workers.countP fun worker => worker.pc ≠ .returned

instance (context : RetryContext) : Decidable (CallInProgress context) :=
  inferInstanceAs (Decidable (_ < _))

instance (context : RetryContext) : Decidable (LooksAgain context) :=
  inferInstanceAs (Decidable (_ < _))

instance (context : RetryContext) : Decidable (WorkerLeft context) :=
  inferInstanceAs (Decidable (_ < _))

/-- Tasks do not overlap, and no request is lost. -/
structure RequestsKept (context : RetryContext) : Prop where
  /-- At most one task is running. -/
  exclusive : (context.workers.countP fun worker => worker.pc = .task) ≤ 1
  /-- Once all calls and all workers have returned, a task has started after each call began. -/
  served : ¬ CallInProgress context → ¬ WorkerLeft context → ∀ call ∈ context.calls, call.served
  /-- A request is not left behind with nobody to look at it. -/
  noticed : context.retryRequested ≠ 0 → context.retryThreadActive = 0 → CallInProgress context ∨
    LooksAgain context

instance (context : RetryContext) : Decidable (RequestsKept context) :=
  decidable_of_iff
    ((context.workers.countP fun worker => worker.pc = .task) ≤ 1 ∧
      (¬ CallInProgress context → ¬ WorkerLeft context → ∀ call ∈ context.calls, call.served) ∧
      (context.retryRequested ≠ 0 → context.retryThreadActive = 0 → CallInProgress context ∨
        LooksAgain context))
    ⟨fun ⟨exclusive, served, noticed⟩ => ⟨exclusive, served, noticed⟩,
      fun ⟨exclusive, served, noticed⟩ => ⟨exclusive, served, noticed⟩⟩

/-- A call that leaves its request finds the slot held, a worker that looks again, or another call
that has not returned. -/
def RequestIsNoticed (context : RetryContext) : RetryOp → Prop
  | .call i =>
    (context.calls[i]?.map (·.pc)) = some .setRequested → context.retryThreadActive ≠ 0 ∨
      LooksAgain context ∨ 1 < context.calls.countP fun call => call.pc ≠ .done
  | .begin | .worker _ _ => True

end Property

end C64Stream
