import C64Stream.Lib.Tally
import C64Stream.Stream.Retry

/-! The retry slot has one owner at a time, and a request is lost in exactly one way. -/

namespace C64Stream

section Tests

def Call.reserves (call : Call) : Bool := call.pc = .casInProgress

/-- A call holds the slot and the attempt, and is about to create the worker. -/
def Call.claims (call : Call) : Bool :=
  match call.pc with
  | .lock | .join | .create => true
  | _ => false

def Call.undoes (call : Call) : Bool := call.pc = .undoActive

def Call.runs (call : Call) : Bool := call.pc ≠ .done

def Call.unserved (call : Call) : Bool := !call.served

def Call.takes (call : Call) : Bool := !call.served && call.pc = .casActive

def Call.relies (call : Call) : Bool := !call.served && call.pc = .done

/-- A worker holds the slot without the attempt. -/
def Worker.reserves (worker : Worker) : Bool :=
  match worker.pc with
  | .stops | .loadRequested | .wait _ _ _ | .handBack | .casInProgress | .leave => true
  | _ => false

/-- A worker holds the slot and the attempt. -/
def Worker.claims (worker : Worker) : Bool :=
  match worker.pc with
  | .clearRequested | .startTask | .task => true
  | _ => false

/-- A worker holds the slot between two tasks. -/
def Worker.pauses (worker : Worker) : Bool :=
  match worker.pc with
  | .stops | .loadRequested | .wait _ _ _ | .handBack => true
  | _ => false

/-- A worker is about to start a task. -/
def Worker.starts (worker : Worker) : Bool :=
  match worker.pc with
  | .casInProgress | .clearRequested | .startTask => true
  | _ => false

def Worker.leaves (worker : Worker) : Bool := worker.pc = .leave

def Worker.rechecks (worker : Worker) : Bool := worker.pc = .recheck

def Worker.reclaims (worker : Worker) : Bool := worker.pc = .reclaim

end Tests

section Invariant

/-- Who holds the slot and the attempt, and who will serve the calls that are not served yet. -/
structure RetrySound (context : RetryContext) : Prop where
  binary : context.retryThreadActive ≤ 1
  slot : context.calls.countP Call.reserves + context.calls.countP Call.claims +
    context.workers.countP Worker.reserves + context.workers.countP Worker.claims =
      context.retryThreadActive
  attempt : context.calls.countP Call.claims + context.workers.countP Worker.claims =
    context.retryInProgress
  noUndo : context.calls.countP Call.undoes = 0
  noLeave : context.workers.countP Worker.leaves = 0
  /-- While the slot is held and no task is coming, calls that rely on the worker left a request. -/
  held : context.retryThreadActive ≠ 0 →
    context.calls.countP Call.reserves + context.calls.countP Call.claims +
      context.workers.countP Worker.starts = 0 →
    context.calls.countP Call.takes = 0 ∧
      (0 < context.calls.countP Call.relies → context.retryRequested ≠ 0)
  /-- While the slot is free, somebody is about to see that a call is not served. -/
  free : context.retryThreadActive = 0 → 0 < context.calls.countP Call.unserved →
    0 < context.calls.countP Call.runs ∨ 0 < context.workers.countP Worker.reclaims ∨
      (context.retryRequested ≠ 0 ∧ 0 < context.workers.countP Worker.rechecks)
  noticed : context.retryThreadActive = 0 → context.retryRequested ≠ 0 →
    0 < context.calls.countP Call.runs ∨ 0 < context.workers.countP Worker.reclaims ∨
      0 < context.workers.countP Worker.rechecks

variable {context : RetryContext} {i : Nat}

end Invariant

section Calls

variable {context : RetryContext} {i : Nat} {served : Bool}

theorem RetrySound.callSame (sound : RetrySound context) {pc : CallPc}
    (present : context.calls[i]? = some ⟨pc, served⟩) (next : CallPc)
    (same : ∀ served, ∀ test ∈ [Call.reserves, Call.claims, Call.undoes, Call.runs, Call.unserved,
      Call.takes, Call.relies], test ⟨next, served⟩ = test ⟨pc, served⟩) :
    RetrySound { context with calls := context.calls.set i ⟨next, served⟩ } := by
  have unchanged : ∀ test ∈ [Call.reserves, Call.claims, Call.undoes, Call.runs, Call.unserved,
      Call.takes, Call.relies],
      (context.calls.set i ⟨next, served⟩).countP test = context.calls.countP test := by
    intro test member
    have moved := tally_set test present ⟨next, served⟩
    rw [same served test member] at moved
    omega
  simp only [List.forall_mem_cons] at unchanged
  obtain ⟨reserves, claims, undoes, runs, unserved, takes, relies, _⟩ := unchanged
  refine ⟨sound.binary, ?_, ?_, ?_, sound.noLeave, ?_, ?_, ?_⟩
  · rw [reserves, claims]
    exact sound.slot
  · rw [claims]
    exact sound.attempt
  · rw [undoes]
    exact sound.noUndo
  · rw [reserves, claims, takes, relies]
    exact sound.held
  · rw [unserved, runs]
    exact sound.free
  · rw [runs]
    exact sound.noticed

theorem call_moved {call : Call} (present : context.calls[i]? = some call) (next : Call) :
    ∀ test ∈ [Call.reserves, Call.claims, Call.undoes, Call.runs, Call.unserved, Call.takes,
      Call.relies], (context.calls.set i next).countP test + (test call).toNat =
        context.calls.countP test + (test next).toNat :=
  fun test _ => tally_set test present next

theorem RetrySound.callSeesFree (sound : RetrySound context)
    (present : context.calls[i]? = some ⟨.loadActive, served⟩)
    (isFree : context.retryThreadActive = 0) :
    RetrySound { context with calls := context.calls.set i ⟨.casActive, served⟩ } := by
  obtain ⟨binary, slot, attempt, noUndo, noLeave, held, free, noticed⟩ := sound
  have moved := call_moved present ⟨.casActive, served⟩
  simp [Call.reserves, Call.claims, Call.undoes, Call.runs, Call.unserved, Call.takes,
    Call.relies] at moved
  obtain ⟨reserves, claims, undoes, runs, unserved, takes, relies⟩ := moved
  refine ⟨binary, ?_, ?_, ?_, noLeave, ?_, ?_, ?_⟩ <;> dsimp only
  · omega
  · omega
  · omega
  · intro active
    exact absurd isFree active
  · rw [unserved, runs]
    exact free
  · rw [runs]
    exact noticed

theorem RetrySound.callRequests (sound : RetrySound context)
    (present : context.calls[i]? = some ⟨.setRequested, served⟩)
    (isNoticed : context.retryThreadActive ≠ 0 ∨ 0 < context.workers.countP Worker.reclaims ∨
      0 < context.workers.countP Worker.rechecks ∨ 1 < context.calls.countP Call.runs) :
    RetrySound { context with 
      retryRequested := 1
      calls := context.calls.set i ⟨.done, served⟩ } := by
  obtain ⟨binary, slot, attempt, noUndo, noLeave, held, free, noticed⟩ := sound
  have moved := call_moved present ⟨.done, served⟩
  simp [Call.reserves, Call.claims, Call.undoes, Call.runs, Call.unserved, Call.takes,
    Call.relies] at moved
  obtain ⟨reserves, claims, undoes, runs, unserved, takes, relies⟩ := moved
  refine ⟨binary, ?_, ?_, ?_, noLeave, ?_, ?_, ?_⟩ <;> dsimp only
  · omega
  · omega
  · omega
  · intro active idle
    have := (held active (by omega)).1
    exact ⟨by omega, fun _ => by decide⟩
  · intro isFree _
    omega
  · intro isFree _
    omega

theorem RetrySound.callTakes (sound : RetrySound context)
    (present : context.calls[i]? = some ⟨.casActive, served⟩)
    (isFree : context.retryThreadActive = 0) :
    RetrySound { context with 
      retryThreadActive := 1
      calls := context.calls.set i ⟨.casInProgress, served⟩ } := by
  obtain ⟨binary, slot, attempt, noUndo, noLeave, held, free, noticed⟩ := sound
  have moved := call_moved present ⟨.casInProgress, served⟩
  simp [Call.reserves, Call.claims, Call.undoes, Call.runs, Call.unserved, Call.takes,
    Call.relies] at moved
  obtain ⟨reserves, claims, undoes, runs, unserved, takes, relies⟩ := moved
  refine ⟨Nat.le_refl 1, ?_, ?_, ?_, noLeave, ?_, ?_, ?_⟩ <;> dsimp only
  · omega
  · omega
  · omega
  · intro _ idle
    omega
  · exact nofun
  · exact nofun

theorem RetrySound.callFindsTaken (sound : RetrySound context)
    (present : context.calls[i]? = some ⟨.casActive, served⟩)
    (isTaken : context.retryThreadActive ≠ 0) :
    RetrySound { context with calls := context.calls.set i ⟨.done, served⟩ } := by
  obtain ⟨binary, slot, attempt, noUndo, noLeave, held, free, noticed⟩ := sound
  have moved := call_moved present ⟨.done, served⟩
  simp [Call.reserves, Call.claims, Call.undoes, Call.runs, Call.unserved, Call.takes,
    Call.relies] at moved
  obtain ⟨reserves, claims, undoes, runs, unserved, takes, relies⟩ := moved
  have counted := tally_pos Call.takes present
  refine ⟨binary, ?_, ?_, ?_, noLeave, ?_, ?_, ?_⟩ <;> dsimp only
  · omega
  · omega
  · omega
  · intro active idle
    have before := held active (by omega)
    -- An unserved call about to take the slot would contradict the invariant.
    cases served with
    | true => simp at relies takes; rw [relies, takes]; exact before
    | false => exact absurd (counted rfl) (by omega)
  · intro isFree
    exact absurd isFree isTaken
  · intro isFree
    exact absurd isFree isTaken

theorem RetrySound.callClaims (sound : RetrySound context)
    (present : context.calls[i]? = some ⟨.casInProgress, served⟩)
    (isFree : context.retryInProgress = 0) :
    RetrySound { context with 
      retryInProgress := 1
      calls := context.calls.set i ⟨.lock, served⟩ } := by
  obtain ⟨binary, slot, attempt, noUndo, noLeave, held, free, noticed⟩ := sound
  have moved := call_moved present ⟨.lock, served⟩
  simp [Call.reserves, Call.claims, Call.undoes, Call.runs, Call.unserved, Call.takes,
    Call.relies] at moved
  obtain ⟨reserves, claims, undoes, runs, unserved, takes, relies⟩ := moved
  refine ⟨binary, ?_, ?_, ?_, noLeave, ?_, ?_, ?_⟩ <;> dsimp only
  · omega
  · omega
  · omega
  · intro _ idle
    omega
  · rw [unserved, runs]
    exact free
  · rw [runs]
    exact noticed

theorem RetrySound.callAttemptFree (sound : RetrySound context)
    (present : context.calls[i]? = some ⟨.casInProgress, served⟩) :
    context.retryInProgress = 0 := by
  have counted := tally_pos Call.reserves present rfl
  have := sound.binary
  have := sound.slot
  have := sound.attempt
  omega

theorem RetrySound.callCreates (sound : RetrySound context)
    (present : context.calls[i]? = some ⟨.create, served⟩) :
    RetrySound { context with 
      workers := context.workers ++ [newWorker]
      retryThreadValid := true
      retryThreadMutex := false
      calls := context.calls.set i ⟨.done, served⟩ } := by
  obtain ⟨binary, slot, attempt, noUndo, noLeave, held, free, noticed⟩ := sound
  have moved := call_moved present ⟨.done, served⟩
  simp [Call.reserves, Call.claims, Call.undoes, Call.runs, Call.unserved, Call.takes,
    Call.relies] at moved
  obtain ⟨reserves, claims, undoes, runs, unserved, takes, relies⟩ := moved
  have added : ∀ test : Worker → Bool, (context.workers ++ [newWorker]).countP test =
      context.workers.countP test + (test newWorker).toNat := by
    intro test
    rw [List.countP_append, List.countP_singleton]
    cases test newWorker <;> rfl
  have counted := tally_pos Call.claims present rfl
  have active : context.retryThreadActive ≠ 0 := by omega
  refine ⟨binary, ?_, ?_, ?_, ?_, ?_, ?_, ?_⟩ <;> dsimp only
  · rw [added, added]
    simp only [newWorker, Worker.reserves, Worker.claims, Bool.toNat_true, Bool.toNat_false]
    omega
  · rw [added]
    simp only [newWorker, Worker.claims, Bool.toNat_true]
    omega
  · omega
  · rw [added, noLeave]
    rfl
  · intro _ idle
    rw [added] at idle
    simp only [newWorker, Worker.starts, Bool.toNat_true] at idle
    omega
  · intro isFree
    exact absurd isFree active
  · intro isFree
    exact absurd isFree active

theorem RetrySound.withThread (sound : RetrySound context) (mutex valid : Bool) :
    RetrySound { context with retryThreadMutex := mutex, retryThreadValid := valid } :=
  ⟨sound.binary, sound.slot, sound.attempt, sound.noUndo, sound.noLeave, sound.held, sound.free,
    sound.noticed⟩

theorem RetrySound.call (sound : RetrySound context) {call : Call}
    (present : context.calls[i]? = some call)
    (noticed : call.pc = .setRequested → context.retryThreadActive ≠ 0 ∨
      0 < context.workers.countP Worker.reclaims ∨ 0 < context.workers.countP Worker.rechecks ∨
      1 < context.calls.countP Call.runs) :
    RetrySound
      { (c64ScheduleRetry context call.pc).1 with
        calls := (c64ScheduleRetry context call.pc).1.calls.set i
          { call with pc := (c64ScheduleRetry context call.pc).2 } } := by
  obtain ⟨pc, served⟩ := call
  cases pc with
  | loadInProgress =>
    by_cases claimed : context.retryInProgress ≠ 0
    · simp only [c64ScheduleRetry, if_pos claimed]
      exact sound.callSame present .setRequested (by decide)
    · simp only [c64ScheduleRetry, if_neg claimed]
      exact sound.callSame present .loadActive (by decide)
  | loadActive =>
    by_cases taken : context.retryThreadActive ≠ 0
    · simp only [c64ScheduleRetry, if_pos taken]
      exact sound.callSame present .setRequested (by decide)
    · simp only [c64ScheduleRetry, if_neg taken]
      exact sound.callSeesFree present (not_not.mp taken)
  | setRequested => exact sound.callRequests present (noticed rfl)
  | casActive =>
    by_cases isFree : context.retryThreadActive = 0
    · simp only [c64ScheduleRetry, if_pos isFree]
      exact sound.callTakes present isFree
    · simp only [c64ScheduleRetry, if_neg isFree]
      exact sound.callFindsTaken present isFree
  | casInProgress =>
    have isFree := sound.callAttemptFree present
    simp only [c64ScheduleRetry, if_pos isFree]
    exact sound.callClaims present isFree
  | undoActive =>
    -- The attempt was free for whoever held the slot, so no call gives the slot back.
    have := tally_zero sound.noUndo (List.mem_of_getElem? present)
    exact absurd this (by simp [Call.undoes])
  | lock =>
    by_cases locked : context.retryThreadMutex = true
    · simp only [c64ScheduleRetry, if_pos locked]
      exact sound.callSame present .lock (by decide)
    · simp only [c64ScheduleRetry, if_neg locked]
      have sound := sound.withThread true context.retryThreadValid
      by_cases valid : context.retryThreadValid = true
      · simp only [if_pos valid]
        exact sound.callSame present .join (by decide)
      · simp only [if_neg valid]
        exact sound.callSame present .create (by decide)
  | join =>
    simp only [c64ScheduleRetry]
    split
    · have sound := sound.withThread context.retryThreadMutex false
      exact sound.callSame present .create (by decide)
    · exact sound.callSame present .join (by decide)
  | create => exact sound.callCreates present
  | done => exact sound.callSame present .done (by decide)

end Calls

section Workers

variable {context : RetryContext} {i : Nat} {backoffMs backoffMs' : Nat}

theorem Worker.pauses_tests {worker : Worker} (pauses : worker.pauses = true) :
    worker.reserves = true ∧ worker.claims = false ∧ worker.starts = false ∧
      worker.leaves = false ∧ worker.rechecks = false ∧ worker.reclaims = false := by
  obtain ⟨pc, _⟩ := worker
  cases pc <;> first | exact ⟨rfl, rfl, rfl, rfl, rfl, rfl⟩ | exact absurd pauses Bool.false_ne_true

theorem RetrySound.workerPauses (sound : RetrySound context) {worker next : Worker}
    (present : context.workers[i]? = some worker) (paused : worker.pauses = true)
    (pauses : next.pauses = true) :
    RetrySound { context with workers := context.workers.set i next } := by
  have moved := fun test => tally_set test present next
  obtain ⟨reserves, claims, starts, leaves, rechecks, reclaims⟩ := Worker.pauses_tests paused
  obtain ⟨reserves', claims', starts', leaves', rechecks', reclaims'⟩ := Worker.pauses_tests pauses
  have unchanged : ∀ test : Worker → Bool, test worker = test next →
      (context.workers.set i next).countP test = context.workers.countP test := by
    intro test same
    have := moved test
    rw [same] at this
    omega
  refine ⟨sound.binary, ?_, ?_, sound.noUndo, ?_, ?_, ?_, ?_⟩ <;> dsimp only
  · rw [unchanged _ (reserves.trans reserves'.symm), unchanged _ (claims.trans claims'.symm)]
    exact sound.slot
  · rw [unchanged _ (claims.trans claims'.symm)]
    exact sound.attempt
  · rw [unchanged _ (leaves.trans leaves'.symm)]
    exact sound.noLeave
  · rw [unchanged _ (starts.trans starts'.symm)]
    exact sound.held
  · rw [unchanged _ (reclaims.trans reclaims'.symm), unchanged _ (rechecks.trans rechecks'.symm)]
    exact sound.free
  · rw [unchanged _ (reclaims.trans reclaims'.symm), unchanged _ (rechecks.trans rechecks'.symm)]
    exact sound.noticed

theorem RetrySound.workerGoesOn (sound : RetrySound context) {worker : Worker}
    (present : context.workers[i]? = some worker) (paused : worker.pauses = true) :
    RetrySound { context with
      workers := context.workers.set i ⟨.casInProgress, backoffMs'⟩ } := by
  obtain ⟨binary, slot, attempt, noUndo, noLeave, held, free, noticed⟩ := sound
  have moved := fun test => tally_set test present ⟨.casInProgress, backoffMs'⟩
  have reserves := moved Worker.reserves
  have claims := moved Worker.claims
  have starts := moved Worker.starts
  have leaves := moved Worker.leaves
  have rechecks := moved Worker.rechecks
  have reclaims := moved Worker.reclaims
  obtain ⟨holds, one, two, three, four, five⟩ := Worker.pauses_tests paused
  simp only [holds, one, two, three, four, five] at reserves claims starts leaves rechecks reclaims
  simp [Worker.reserves, Worker.claims, Worker.starts, Worker.leaves, Worker.rechecks,
    Worker.reclaims] at reserves claims starts leaves rechecks reclaims
  refine ⟨binary, ?_, ?_, noUndo, ?_, ?_, ?_, ?_⟩ <;> dsimp only
  · omega
  · omega
  · omega
  · intro _ idle
    omega
  · rw [reclaims, rechecks]
    exact free
  · rw [reclaims, rechecks]
    exact noticed

theorem RetrySound.noStart (sound : RetrySound context) {worker : Worker}
    (present : context.workers[i]? = some worker) (paused : worker.pauses = true) :
    context.calls.countP Call.reserves + context.calls.countP Call.claims +
      context.workers.countP Worker.starts = 0 := by
  have counted := tally_pos Worker.pauses present paused
  -- A worker that is about to start a task holds the slot, and so does one between two tasks.
  have split := @tally_sum_le Worker Worker.starts Worker.pauses Worker.reserves Worker.claims (by
    rintro ⟨pc, _⟩
    cases pc <;> simp [Worker.starts, Worker.pauses, Worker.reserves, Worker.claims])
    context.workers
  have := sound.binary
  have := sound.slot
  omega

theorem worker_moved {worker : Worker} (present : context.workers[i]? = some worker)
    (next : Worker) :
    ∀ test ∈ [Worker.reserves, Worker.claims, Worker.starts, Worker.leaves,
      Worker.rechecks, Worker.reclaims], (context.workers.set i next).countP test + (test worker).toNat =
        context.workers.countP test + (test next).toNat :=
  fun test _ => tally_set test present next

theorem RetrySound.workerClears (sound : RetrySound context)
    (present : context.workers[i]? = some ⟨.clearRequested, backoffMs⟩) :
    RetrySound { context with 
      retryRequested := 0
      workers := context.workers.set i ⟨.startTask, backoffMs'⟩ } := by
  obtain ⟨binary, slot, attempt, noUndo, noLeave, held, free, noticed⟩ := sound
  have moved := worker_moved present ⟨.startTask, backoffMs'⟩
  simp [Worker.reserves, Worker.claims, Worker.starts, Worker.leaves, Worker.rechecks,
    Worker.reclaims] at moved
  obtain ⟨reserves, claims, starts, leaves, rechecks, reclaims⟩ := moved
  have counted := tally_pos Worker.claims present rfl
  have starting := tally_pos Worker.starts present rfl
  refine ⟨binary, ?_, ?_, noUndo, ?_, ?_, ?_, ?_⟩ <;> dsimp only
  · omega
  · omega
  · omega
  · intro _ idle
    omega
  · intro isFree
    omega
  · intro isFree
    omega

theorem RetrySound.workerFinishes (sound : RetrySound context)
    (present : context.workers[i]? = some ⟨.task, backoffMs⟩) :
    RetrySound { context with 
      retryInProgress := 0
      workers := context.workers.set i ⟨.loadRequested, backoffMs'⟩ } := by
  obtain ⟨binary, slot, attempt, noUndo, noLeave, held, free, noticed⟩ := sound
  have moved := worker_moved present ⟨.loadRequested, backoffMs'⟩
  simp [Worker.reserves, Worker.claims, Worker.starts, Worker.leaves, Worker.rechecks,
    Worker.reclaims] at moved
  obtain ⟨reserves, claims, starts, leaves, rechecks, reclaims⟩ := moved
  have counted := tally_pos Worker.claims present rfl
  refine ⟨binary, ?_, ?_, noUndo, ?_, ?_, ?_, ?_⟩ <;> dsimp only
  · omega
  · omega
  · omega
  · rw [starts]
    exact held
  · rw [reclaims, rechecks]
    exact free
  · rw [reclaims, rechecks]
    exact noticed

theorem RetrySound.workerHandsBack (sound : RetrySound context)
    (present : context.workers[i]? = some ⟨.handBack, backoffMs⟩) :
    RetrySound { context with 
      retryThreadActive := 0
      workers := context.workers.set i ⟨.recheck, backoffMs'⟩ } := by
  have idle := sound.noStart present rfl
  obtain ⟨binary, slot, attempt, noUndo, noLeave, held, free, noticed⟩ := sound
  have moved := worker_moved present ⟨.recheck, backoffMs'⟩
  simp [Worker.reserves, Worker.claims, Worker.starts, Worker.leaves, Worker.rechecks,
    Worker.reclaims] at moved
  obtain ⟨reserves, claims, starts, leaves, rechecks, reclaims⟩ := moved
  have counted := tally_pos Worker.reserves present rfl
  refine ⟨Nat.zero_le 1, ?_, ?_, noUndo, ?_, ?_, ?_, ?_⟩ <;> dsimp only
  · omega
  · omega
  · omega
  · intro active
    exact absurd rfl active
  · intro _ unserved
    -- A call that is not served is still running, or it relies on its request.
    have := @tally_sum_le Call Call.unserved (fun _ => false) Call.runs Call.relies (by
      rintro ⟨pc, served⟩
      cases pc <;> cases served <;> decide) context.calls
    have relied := (held (by omega) idle).2
    by_cases running : 0 < context.calls.countP Call.runs
    · exact .inl running
    · exact .inr (.inr ⟨relied (by omega), by omega⟩)
  · intro _ _
    omega

theorem RetrySound.workerReturns (sound : RetrySound context)
    (present : context.workers[i]? = some ⟨.recheck, backoffMs⟩)
    (none : context.retryRequested = 0) :
    RetrySound { context with workers := context.workers.set i ⟨.returned, backoffMs'⟩ } := by
  obtain ⟨binary, slot, attempt, noUndo, noLeave, held, free, noticed⟩ := sound
  have moved := worker_moved present ⟨.returned, backoffMs'⟩
  simp [Worker.reserves, Worker.claims, Worker.starts, Worker.leaves, Worker.rechecks,
    Worker.reclaims] at moved
  obtain ⟨reserves, claims, starts, leaves, rechecks, reclaims⟩ := moved
  refine ⟨binary, ?_, ?_, noUndo, ?_, ?_, ?_, ?_⟩ <;> dsimp only
  · omega
  · omega
  · omega
  · rw [starts]
    exact held
  · rw [reclaims]
    intro isFree unserved
    have := free isFree unserved
    omega
  · intro _ requested
    exact absurd none requested

theorem RetrySound.workerSeesRequest (sound : RetrySound context)
    (present : context.workers[i]? = some ⟨.recheck, backoffMs⟩) :
    RetrySound { context with workers := context.workers.set i ⟨.reclaim, backoffMs'⟩ } := by
  obtain ⟨binary, slot, attempt, noUndo, noLeave, held, free, noticed⟩ := sound
  have moved := worker_moved present ⟨.reclaim, backoffMs'⟩
  simp [Worker.reserves, Worker.claims, Worker.starts, Worker.leaves, Worker.rechecks,
    Worker.reclaims] at moved
  obtain ⟨reserves, claims, starts, leaves, rechecks, reclaims⟩ := moved
  refine ⟨binary, ?_, ?_, noUndo, ?_, ?_, ?_, ?_⟩ <;> dsimp only
  · omega
  · omega
  · omega
  · rw [starts]
    exact held
  · intro _ _
    omega
  · intro _ _
    omega

theorem RetrySound.workerReclaims (sound : RetrySound context)
    (present : context.workers[i]? = some ⟨.reclaim, backoffMs⟩)
    (isFree : context.retryThreadActive = 0) :
    RetrySound { context with 
      retryThreadActive := 1
      workers := context.workers.set i ⟨.casInProgress, backoffMs'⟩ } := by
  obtain ⟨binary, slot, attempt, noUndo, noLeave, held, free, noticed⟩ := sound
  have moved := worker_moved present ⟨.casInProgress, backoffMs'⟩
  simp [Worker.reserves, Worker.claims, Worker.starts, Worker.leaves, Worker.rechecks,
    Worker.reclaims] at moved
  obtain ⟨reserves, claims, starts, leaves, rechecks, reclaims⟩ := moved
  refine ⟨Nat.le_refl 1, ?_, ?_, noUndo, ?_, ?_, ?_, ?_⟩ <;> dsimp only
  · omega
  · omega
  · omega
  · intro _ idle
    omega
  · exact nofun
  · exact nofun

theorem RetrySound.workerFindsTaken (sound : RetrySound context)
    (present : context.workers[i]? = some ⟨.reclaim, backoffMs⟩)
    (isTaken : context.retryThreadActive ≠ 0) :
    RetrySound { context with workers := context.workers.set i ⟨.returned, backoffMs'⟩ } := by
  obtain ⟨binary, slot, attempt, noUndo, noLeave, held, free, noticed⟩ := sound
  have moved := worker_moved present ⟨.returned, backoffMs'⟩
  simp [Worker.reserves, Worker.claims, Worker.starts, Worker.leaves, Worker.rechecks,
    Worker.reclaims] at moved
  obtain ⟨reserves, claims, starts, leaves, rechecks, reclaims⟩ := moved
  refine ⟨binary, ?_, ?_, noUndo, ?_, ?_, ?_, ?_⟩ <;> dsimp only
  · omega
  · omega
  · omega
  · rw [starts]
    exact held
  · intro isFree
    exact absurd isFree isTaken
  · intro isFree
    exact absurd isFree isTaken

theorem RetrySound.workerClaims (sound : RetrySound context)
    (present : context.workers[i]? = some ⟨.casInProgress, backoffMs⟩)
    (isFree : context.retryInProgress = 0) :
    RetrySound { context with 
      retryInProgress := 1
      workers := context.workers.set i ⟨.clearRequested, backoffMs'⟩ } := by
  obtain ⟨binary, slot, attempt, noUndo, noLeave, held, free, noticed⟩ := sound
  have moved := worker_moved present ⟨.clearRequested, backoffMs'⟩
  simp [Worker.reserves, Worker.claims, Worker.starts, Worker.leaves, Worker.rechecks,
    Worker.reclaims] at moved
  obtain ⟨reserves, claims, starts, leaves, rechecks, reclaims⟩ := moved
  refine ⟨binary, ?_, ?_, noUndo, ?_, ?_, ?_, ?_⟩ <;> dsimp only
  · omega
  · omega
  · omega
  · rw [starts]
    exact held
  · rw [reclaims, rechecks]
    exact free
  · rw [reclaims, rechecks]
    exact noticed

theorem RetrySound.workerStarts (sound : RetrySound context)
    (present : context.workers[i]? = some ⟨.startTask, backoffMs⟩) :
    RetrySound { context with
      calls := context.calls.map fun call => { call with served := true }
      workers := context.workers.set i ⟨.task, backoffMs'⟩ } := by
  obtain ⟨binary, slot, attempt, noUndo, noLeave, held, free, noticed⟩ := sound
  have moved := worker_moved present ⟨.task, backoffMs'⟩
  simp [Worker.reserves, Worker.claims, Worker.starts, Worker.leaves, Worker.rechecks,
    Worker.reclaims] at moved
  obtain ⟨reserves, claims, starts, leaves, rechecks, reclaims⟩ := moved
  have counted := tally_pos Worker.claims present rfl
  -- Serving the calls changes what they wait for and nothing else.
  have same : ∀ test ∈ [Call.reserves, Call.claims, Call.undoes, Call.runs],
      (context.calls.map fun call => { call with served := true }).countP test =
        context.calls.countP test := by
    intro test member
    rw [List.countP_map]
    simp only [List.mem_cons, List.not_mem_nil, or_false] at member
    obtain rfl | rfl | rfl | rfl := member <;> rfl
  have none : ∀ test ∈ [Call.unserved, Call.takes, Call.relies],
      (context.calls.map fun call => { call with served := true }).countP test = 0 := by
    intro test member
    rw [List.countP_map, List.countP_eq_zero]
    simp only [List.mem_cons, List.not_mem_nil, or_false] at member
    obtain rfl | rfl | rfl := member <;> exact fun _ _ => Bool.false_ne_true
  simp only [List.forall_mem_cons] at same none
  obtain ⟨callReserves, callClaims, undoes, runs, _⟩ := same
  obtain ⟨unserved, takes, relies, _⟩ := none
  refine ⟨binary, ?_, ?_, ?_, ?_, ?_, ?_, ?_⟩ <;> dsimp only
  · omega
  · omega
  · omega
  · omega
  · intro _ _
    rw [takes, relies]
    exact ⟨rfl, fun absent => absurd absent (Nat.lt_irrefl 0)⟩
  · rw [unserved]
    exact fun _ absent => absurd absent (Nat.lt_irrefl 0)
  · rw [runs, reclaims, rechecks]
    exact noticed

theorem RetrySound.workerAttemptFree (sound : RetrySound context)
    (present : context.workers[i]? = some ⟨.casInProgress, backoffMs⟩) :
    context.retryInProgress = 0 := by
  have counted := tally_pos Worker.reserves present rfl
  have := sound.binary
  have := sound.slot
  have := sound.attempt
  omega

theorem RetrySound.workerDecides (sound : RetrySound context) {worker : Worker}
    (present : context.workers[i]? = some worker) (paused : worker.pauses = true)
    (decider : Worker) (requested needStart needStops resend : Bool) :
    RetrySound { context with
      workers :=
        context.workers.set i (decideNext decider requested needStart needStops resend) } := by
  unfold decideNext
  dsimp only
  generalize (if requested = true then c64StartRetryMinMs else decider.backoffMs) = backoffMs
  split
  · exact sound.workerPauses present paused rfl
  · split
    · exact sound.workerGoesOn present paused
    · exact sound.workerPauses present paused rfl

theorem RetrySound.worker (sound : RetrySound context) {worker : Worker}
    (present : context.workers[i]? = some worker) (found : Findings) :
    RetrySound
      { (c64RetryThreadMain context worker found).1 with
        workers := (c64RetryThreadMain context worker found).1.workers.set i
          (c64RetryThreadMain context worker found).2 } := by
  obtain ⟨pc, backoffMs⟩ := worker
  cases pc with
  | clearRequested => exact sound.workerClears present
  | startTask => exact sound.workerStarts present
  | task => exact sound.workerFinishes present
  | stops => exact sound.workerPauses present rfl rfl
  | loadRequested =>
    unfold c64RetryThreadMain
    dsimp only
    split
    · exact sound.workerPauses present rfl rfl
    · exact sound.workerDecides present rfl _ _ _ _ _
  | wait waited waitMs handover =>
    unfold c64RetryThreadMain
    dsimp only
    split
    · exact sound.workerPauses present rfl rfl
    · exact sound.workerDecides present rfl _ _ _ _ _
  | handBack => exact sound.workerHandsBack present
  | recheck =>
    by_cases requested : context.retryRequested ≠ 0
    · simp only [c64RetryThreadMain, if_pos requested]
      exact sound.workerSeesRequest present
    · simp only [c64RetryThreadMain, if_neg requested]
      exact sound.workerReturns present (not_not.mp requested)
  | reclaim =>
    by_cases isFree : context.retryThreadActive = 0
    · simp only [c64RetryThreadMain, if_pos isFree]
      exact sound.workerReclaims present isFree
    · simp only [c64RetryThreadMain, if_neg isFree]
      exact sound.workerFindsTaken present isFree
  | casInProgress =>
    have isFree := sound.workerAttemptFree present
    simp only [c64RetryThreadMain, if_pos isFree]
    exact sound.workerClaims present isFree
  | leave =>
    -- The attempt was free for the worker with the slot, so no worker leaves the loop with it.
    have := tally_zero sound.noLeave (List.mem_of_getElem? present)
    exact absurd this (by simp [Worker.leaves])
  | returned =>
    have unmoved : context.workers.set i ⟨.returned, backoffMs⟩ = context.workers := by
      obtain ⟨within, same⟩ := List.getElem?_eq_some_iff.mp present
      rw [← same, List.set_getElem_self]
    unfold c64RetryThreadMain
    dsimp only
    rw [unmoved]
    exact sound

end Workers

section Runs

variable {context : RetryContext}

theorem RetrySound.begin (sound : RetrySound context) :
    RetrySound { context with calls := context.calls ++ [⟨.loadInProgress, false⟩] } := by
  obtain ⟨binary, slot, attempt, noUndo, noLeave, held, free, noticed⟩ := sound
  have added := fun test =>
    @List.countP_append Call test context.calls [(⟨.loadInProgress, false⟩ : Call)]
  have same : ∀ test ∈ [Call.reserves, Call.claims, Call.undoes, Call.takes, Call.relies],
      (context.calls ++ [(⟨.loadInProgress, false⟩ : Call)]).countP test = context.calls.countP test := by
    intro test member
    rw [added]
    simp only [List.mem_cons, List.not_mem_nil, or_false] at member
    obtain rfl | rfl | rfl | rfl | rfl := member <;> rfl
  have running : (context.calls ++ [(⟨.loadInProgress, false⟩ : Call)]).countP Call.runs =
      context.calls.countP Call.runs + 1 := added Call.runs
  simp only [List.forall_mem_cons] at same
  obtain ⟨reserves, claims, undoes, takes, relies, _⟩ := same
  refine ⟨binary, ?_, ?_, ?_, noLeave, ?_, ?_, ?_⟩ <;> dsimp only
  · rw [reserves, claims]
    exact slot
  · rw [claims]
    exact attempt
  · rw [undoes]
    exact noUndo
  · rw [reserves, claims, takes, relies]
    exact held
  · exact fun _ _ => .inl (by omega)
  · exact fun _ _ => .inl (by omega)

theorem callInProgress_iff : CallInProgress context ↔ 0 < context.calls.countP Call.runs := Iff.rfl

theorem looksAgain_iff : LooksAgain context ↔ 0 < context.workers.countP Worker.reclaims ∨
    0 < context.workers.countP Worker.rechecks := by
  unfold LooksAgain
  simp only [List.countP_pos_iff, Worker.reclaims, Worker.rechecks, Bool.or_eq_true]
  constructor
  · rintro ⟨worker, member, rechecks | reclaims⟩
    · exact .inr ⟨worker, member, rechecks⟩
    · exact .inl ⟨worker, member, reclaims⟩
  · rintro (⟨worker, member, reclaims⟩ | ⟨worker, member, rechecks⟩)
    · exact ⟨worker, member, .inr reclaims⟩
    · exact ⟨worker, member, .inl rechecks⟩

theorem retryStep_sound (sound : RetrySound context) {op : RetryOp}
    (noticed : RequestIsNoticed context op) : RetrySound (retryStep context op) := by
  cases op with
  | begin => exact sound.begin
  | call i =>
    cases present : context.calls[i]? with
    | none =>
      simp only [retryStep, present]
      exact sound
    | some call =>
      simp only [retryStep, present]
      refine sound.call present fun requests => ?_
      have := noticed (by rw [present, Option.map_some, requests])
      rw [looksAgain_iff] at this
      rcases this with held | (reclaims | rechecks) | others
      · exact .inl held
      · exact .inr (.inl reclaims)
      · exact .inr (.inr (.inl rechecks))
      · exact .inr (.inr (.inr others))
  | worker i found =>
    cases present : context.workers[i]? with
    | none =>
      simp only [retryStep, present]
      exact sound
    | some worker =>
      simp only [retryStep, present]
      exact sound.worker present found

theorem initialRetry_sound : RetrySound initialRetry :=
  ⟨Nat.zero_le 1, rfl, rfl, rfl, rfl, fun active => absurd rfl active, nofun, nofun⟩

theorem RetrySound.allReturned (sound : RetrySound context) (noCall : ¬ CallInProgress context)
    (noWorker : ¬ WorkerLeft context) :
    context.retryThreadActive = 0 ∧ context.workers.countP Worker.reclaims = 0 ∧
      context.workers.countP Worker.rechecks = 0 := by
  have calls := @tally_sum_le Call Call.reserves Call.claims Call.runs (fun _ => false) (by
    rintro ⟨pc, _⟩
    cases pc <;> simp [Call.reserves, Call.claims, Call.runs]) context.calls
  have workers := @tally_sum_le Worker Worker.reserves Worker.claims
    (fun worker => worker.pc ≠ .returned) (fun _ => false) (by
      rintro ⟨pc, _⟩
      cases pc <;> simp [Worker.reserves, Worker.claims]) context.workers
  have looks := @tally_sum_le Worker Worker.reclaims Worker.rechecks
    (fun worker => worker.pc ≠ .returned) (fun _ => false) (by
      rintro ⟨pc, _⟩
      cases pc <;> simp [Worker.reclaims, Worker.rechecks]) context.workers
  have slot := sound.slot
  rw [callInProgress_iff] at noCall
  unfold WorkerLeft at noWorker
  simp only [List.countP_false, Function.const_apply] at calls workers looks
  omega

theorem RetrySound.requestsKept (sound : RetrySound context) : RequestsKept context := by
  refine ⟨?_, fun noCall noWorker => ?_, fun requested isFree => ?_⟩
  · -- A running task is one way to hold the slot.
    have bound := @tally_sum_le Worker (fun worker => worker.pc = .task) (fun _ => false)
      Worker.claims (fun _ => false) (by
        rintro ⟨pc, _⟩
        cases pc <;> simp [Worker.claims]) context.workers
    have := sound.binary
    have := sound.slot
    simp only [List.countP_false, Function.const_apply] at bound
    omega
  · -- With nobody left, a call that is not served would contradict the invariant.
    obtain ⟨isFree, noReclaim, noRecheck⟩ := sound.allReturned noCall noWorker
    have served : context.calls.countP Call.unserved = 0 := by
      have := sound.free isFree
      rw [callInProgress_iff] at noCall
      omega
    intro call present
    have := tally_zero served present
    simpa [Call.unserved] using this
  · rw [callInProgress_iff, looksAgain_iff]
    exact sound.noticed isFree requested

theorem RequestsKept.noticedBefore {op : RetryOp} (kept : RequestsKept (retryStep context op)) :
    RequestIsNoticed context op := by
  cases op with
  | begin => trivial
  | worker i found => trivial
  | call i =>
    intro requests
    cases present : context.calls[i]? with
    | none =>
      rw [present] at requests
      cases requests
    | some call =>
      obtain ⟨pc, served⟩ := call
      rw [present, Option.map_some] at requests
      obtain rfl := Option.some.inj requests
      by_contra unnoticed
      have free : context.retryThreadActive = 0 := by
        by_contra held
        exact unnoticed (.inl held)
      have moved := tally_set Call.runs present ⟨.done, served⟩
      simp only [retryStep, present, c64ScheduleRetry] at kept
      rcases kept.noticed Nat.one_ne_zero free with running | looks
      · rw [callInProgress_iff] at running
        refine unnoticed (.inr (.inr ?_))
        have runs : Call.runs ⟨.setRequested, served⟩ = true := rfl
        have done : Call.runs ⟨.done, served⟩ = false := rfl
        rw [runs, done] at moved
        simp only [Bool.toNat_true, Bool.toNat_false] at moved
        dsimp only at running
        have : context.calls.countP Call.runs =
            context.calls.countP fun call => call.pc ≠ .done := rfl
        omega
      · exact unnoticed (.inr (.inl looks))

/-- Along a run no request is lost and no two tasks overlap, exactly when each call that leaves a
request finds the slot held, a worker that looks again, or another call on its way. -/
theorem retry_requestsKept_iff (ops : List RetryOp) :
    Always retryStep RequestsKept initialRetry ops ↔
      EachStep retryStep RequestIsNoticed initialRetry ops :=
  @always_iff_of_invariant _ _ _ RetrySound _ _
    (fun _ _ sound noticed => retryStep_sound sound noticed)
    (fun _ sound => sound.requestsKept) (fun _ _ _ kept => kept.noticedBefore) _
    initialRetry_sound ops

def nothingFound : Findings := ⟨false, false, false, false⟩

/-- A call sees a task running; the worker finishes it and returns before the call leaves its
request. -/
def lateRequest : List RetryOp :=
  [.begin] ++ List.replicate 6 (.call 0) ++ List.replicate 2 (.worker 0 nothingFound) ++
    [.begin, .call 1] ++ List.replicate 4 (.worker 0 nothingFound) ++ [.call 1]

/-- The request of a call that is late is lost: nobody is left, and no task has started. -/
theorem lateRequest_not_requestsKept :
    ¬ Always retryStep RequestsKept initialRetry lateRequest ∧
      ¬ CallInProgress (lateRequest.foldl retryStep initialRetry) ∧
      ¬ WorkerLeft (lateRequest.foldl retryStep initialRetry) ∧
      ∃ call ∈ (lateRequest.foldl retryStep initialRetry).calls, call.served = false := by
  decide +kernel

end Runs

end C64Stream
