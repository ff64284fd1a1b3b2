import C64Stream.Lib.Run

/-! The playlist worker, and the requests that other threads make of it. -/

namespace C64Stream

section State

/-- Where the worker is: the access it makes next. -/
inductive PlayerPc where
  /-- Reads the item to begin with. -/
  | init
  /-- Tests for the end of the playlist and for a stop. -/
  | head
  /-- Makes the item the current one and starts it. -/
  | publish
  | play
  | wait (songlengthMsOverride elapsedMs : Int)
  /-- Behind the wait, before the item is counted up. -/
  | afterWait
  /-- Has left the loop. -/
  | finish
  | ended
  deriving DecidableEq

/-- What the requests made since the last item started ask for. -/
inductive Promise where
  | nothing
  /-- The item after the last one that was started. -/
  | after (item : Int)
  /-- The item of a jump that was accepted. -/
  | jump (item : Int)
  deriving DecidableEq

/-- An item that was started, with what was asked for. -/
structure Start where
  promise : Promise
  item : Int
  deriving DecidableEq

/-- What the worker and the callers share, with the worker's own index. -/
structure Automation where
  numFiles : Nat
  currentIndex : Int
  skipRequested : Bool
  shouldStop : Bool
  running : Bool
  pc : PlayerPc
  i : Int
  promise : Promise
  starts : List Start
  deriving DecidableEq

def sleepIntervalMs : Int := 100

end State

section Requests

/-- The playlist as a start leaves it for the worker. -/
def c64AutomationStart (numFiles : Nat) (startIndex : Int) : Automation :=
  { numFiles
    currentIndex := if startIndex < 0 ∨ startIndex ≥ numFiles then 0 else startIndex
    skipRequested := false
    shouldStop := false
    running := true
    pc := .init
    i := 0
    promise := .nothing
    starts := [] }

/-- Sets the current index and, for a jump, asks the worker to skip; whether it changed. -/
def c64AutomationUpdateCurrentIndex (automation : Automation) (targetIndex : Int)
    (requestSkip : Bool) : Automation × Bool :=
  if targetIndex < 0 ∨ targetIndex ≥ automation.numFiles then (automation, false)
  else
    let changed : Bool := automation.currentIndex ≠ targetIndex
    ({ automation with
      currentIndex := targetIndex
      skipRequested :=
        automation.skipRequested || (requestSkip && changed && automation.running) }, changed)

def c64AutomationSetCurrentIndex (automation : Automation) (targetIndex : Int) :
    Automation × Bool :=
  c64AutomationUpdateCurrentIndex automation targetIndex false

def c64AutomationJumpToIndex (automation : Automation) (targetIndex : Int) :
    Automation × Bool :=
  c64AutomationUpdateCurrentIndex automation targetIndex true

def c64AutomationSkipNext (automation : Automation) : Automation × Bool :=
  if automation.running then ({ automation with skipRequested := true }, true)
  else (automation, false)

/-- Asks the worker to stop; the caller then waits for it to end. -/
def c64AutomationStop (automation : Automation) : Automation :=
  if automation.running then { automation with shouldStop := true } else automation

end Requests

section Worker

/-- What the worker meets in a step. -/
structure Meets where
  /-- The file of the item could be read, or is a path on the device. -/
  loaded : Bool
  /-- The length of the song, if it is known. -/
  songlengthMsOverride : Int
  durationSeconds : Int
  deriving DecidableEq

/-- Milliseconds the item plays. -/
def durationMs (songlengthMsOverride durationSeconds : Int) : Int :=
  if songlengthMsOverride > 0 then songlengthMsOverride
  else (if durationSeconds < 1 then 1 else durationSeconds) * 1000

/-- A step of the worker: everything it does under one lock. -/
def automationWorker (automation : Automation) (meets : Meets) : Automation :=
  match automation.pc with
  | .init =>
    { automation with
      i := if automation.currentIndex ≥ 0 then automation.currentIndex else 0
      pc := .head }
  | .head =>
    if automation.i ≥ automation.numFiles || automation.shouldStop then
      { automation with pc := .finish }
    else { automation with pc := .publish }
  | .publish =>
    { automation with
      currentIndex := automation.i
      starts := automation.starts ++ [⟨automation.promise, automation.i⟩]
      promise := .after automation.i
      pc := .play }
  | .play =>
    -- A file that cannot be read is tried again: the index is not counted up.
    if meets.loaded then { automation with pc := .wait meets.songlengthMsOverride 0 }
    else { automation with pc := .head }
  | .wait songlengthMsOverride elapsedMs =>
    let skip := automation.skipRequested
    let jumpTarget := automation.currentIndex
    let automation := { automation with skipRequested := false }
    if automation.shouldStop ∨ elapsedMs ≥ durationMs songlengthMsOverride meets.durationSeconds
    then { automation with pc := .afterWait }
    else if skip then
      { automation with
        i :=
          if jumpTarget ≥ 0 ∧ jumpTarget < automation.numFiles ∧ jumpTarget ≠ automation.i then
            jumpTarget
          else automation.i + 1
        pc := .head }
    else { automation with pc := .wait songlengthMsOverride (elapsedMs + sleepIntervalMs) }
  | .afterWait => { automation with i := automation.i + 1, pc := .head }
  | .finish => { automation with running := false, pc := .ended }
  | .ended => automation

/-- A step of the worker, or a request of another thread. -/
inductive PlaylistOp where
  | worker (meets : Meets)
  | jump (targetIndex : Int)
  | setCurrent (targetIndex : Int)
  | skip
  | stop
  deriving DecidableEq

/-- A promise that a later request takes back, if it was a jump. -/
def Promise.withdraw : Promise → Promise
  | .jump _ => .nothing
  | promise => promise

/-- One step; the promise follows from what the requests return. -/
def playlistStep (automation : Automation) : PlaylistOp → Automation
  | .worker meets => automationWorker automation meets
  | .jump targetIndex =>
    let (next, returned) := c64AutomationJumpToIndex automation targetIndex
    if returned && automation.running then { next with promise := .jump targetIndex } else next
  | .setCurrent targetIndex =>
    let (next, returned) := c64AutomationSetCurrentIndex automation targetIndex
    if returned then { next with promise := automation.promise.withdraw } else next
  | .skip => (c64AutomationSkipNext automation).1
  | .stop =>
    { c64AutomationStop automation with promise := automation.promise.withdraw }

end Worker

section Property

/-- What was asked for allows an item to be started. -/
def Promise.Allows (item : Int) : Promise → Prop
  | .nothing => True
  | .after last => item = last + 1
  | .jump target => item = target

instance (item : Int) (promise : Promise) : Decidable (promise.Allows item) := by
  cases promise <;> unfold Promise.Allows <;> infer_instance

/-- What was asked for allows the worker to end: no jump is open, and the playlist is through
unless there was a stop. -/
def Promise.AllowsEnd (numFiles : Nat) (stopped : Bool) : Promise → Prop
  | .nothing => True
  | .after last => stopped = true ∨ numFiles ≤ last + 1
  | .jump _ => False

instance (numFiles : Nat) (stopped : Bool) (promise : Promise) :
    Decidable (promise.AllowsEnd numFiles stopped) := by
  cases promise <;> unfold Promise.AllowsEnd <;> infer_instance

/-- Every item that was started is the one that was asked for, and none is left out at the end. -/
structure RequestsHonoured (automation : Automation) : Prop where
  starts : ∀ start ∈ automation.starts, start.promise.Allows start.item
  ended : automation.pc = .ended →
    automation.promise.AllowsEnd automation.numFiles automation.shouldStop

instance (automation : Automation) : Decidable (RequestsHonoured automation) :=
  decidable_of_iff
    ((∀ start ∈ automation.starts, start.promise.Allows start.item) ∧
      (automation.pc = .ended →
        automation.promise.AllowsEnd automation.numFiles automation.shouldStop))
    ⟨fun ⟨starts, ended⟩ => ⟨starts, ended⟩, fun ⟨starts, ended⟩ => ⟨starts, ended⟩⟩

/-- The worker plays an item or waits for its end. -/
def Playing : PlayerPc → Prop
  | .play | .wait _ _ => True
  | _ => False

instance (pc : PlayerPc) : Decidable (Playing pc) := by
  cases pc <;> unfold Playing <;> infer_instance

/-- Where a jump that is accepted reaches the worker in time. -/
def JumpArrives (automation : Automation) (target : Int) : Prop :=
  match automation.pc with
  | .init => automation.shouldStop = false
  | .head => automation.shouldStop = false ∧ target = automation.i
  | .publish => target = automation.i
  | .play | .wait _ _ => automation.shouldStop = false ∧ target ≠ automation.i
  | .afterWait => automation.shouldStop = false ∧ target = automation.i + 1
  | .finish | .ended => False

instance (automation : Automation) (target : Int) : Decidable (JumpArrives automation target) := by
  unfold JumpArrives
  cases automation.pc <;> infer_instance

/-- What keeps a step from losing a request. -/
def RequestSurvives (automation : Automation) : PlaylistOp → Prop
  | .worker meets =>
    match automation.pc with
    | .play => meets.loaded = true ∨ automation.promise = .nothing
    | .wait songlengthMsOverride elapsedMs =>
      elapsedMs ≥ durationMs songlengthMsOverride meets.durationSeconds →
        automation.promise.Allows (automation.i + 1)
    | _ => True
  | .jump target =>
    (c64AutomationJumpToIndex automation target).2 = true → automation.running = true →
      JumpArrives automation target
  | .setCurrent target =>
    Playing automation.pc → automation.promise = .after automation.i →
      automation.skipRequested = true → 0 ≤ target → target < automation.numFiles →
        target = automation.i
  | .skip =>
    Playing automation.pc → automation.promise = .after automation.i →
      automation.currentIndex = automation.i
  | .stop => True

instance (automation : Automation) (op : PlaylistOp) :
    Decidable (RequestSurvives automation op) := by
  unfold RequestSurvives
  cases op with
  | worker meets =>
    dsimp only
    cases automation.pc <;> infer_instance
  | _ =>
    dsimp only
    infer_instance

end Property

end C64Stream
