import C64Stream.Lib.Run

/-! The pops of a test picture and its sound, and how they are paired to measure the A/V offset. -/

namespace C64Stream

section Events

def c64AvSyncDebounceNs : UInt64 := 100000000

def c64AvSyncMatchWindowNs : UInt64 := 200000000

def c64AvSyncExpireUnmatchedNs : UInt64 := 2000000000

def c64AvSyncEventQueueSize : Nat := 8

/-- A pop that was counted, with its number among the pops of its kind. -/
structure AvSyncEvent where
  ts : UInt64
  seq : Nat
  frameNum : UInt16
  used : Bool
  deriving DecidableEq

/-- A pair of pops. -/
structure AvSyncMatch where
  videoTs : UInt64
  audioTs : UInt64
  videoSeq : Nat
  audioSeq : Nat
  videoFrameNum : UInt16
  deriving DecidableEq

/-- How far two times are apart, in either order. -/
def absDelta (first second : UInt64) : UInt64 :=
  if first > second then first - second else second - first

/-- Whether a pop is too old at a time; one that is newer than the time is not. -/
def AvSyncEvent.expired (event : AvSyncEvent) (now : UInt64) : Bool :=
  now > event.ts && now - event.ts > c64AvSyncExpireUnmatchedNs

/-- Keep the pops that wait for a partner. -/
def pruneUsedOrExpired (events : List AvSyncEvent) (now : UInt64) : List AvSyncEvent :=
  events.filter fun event => !event.used && !event.expired now

/-- Append a pop; in a full queue the oldest one makes room. -/
def pushEvent (events : List AvSyncEvent) (event : AvSyncEvent) : List AvSyncEvent :=
  if events.length < c64AvSyncEventQueueSize then events ++ [event]
  else events.drop 1 ++ [event]

/-- Whether a pop can be paired with one at a time. -/
def AvSyncEvent.canMatch (event : AvSyncEvent) (ts : UInt64) : Bool :=
  !event.used && absDelta event.ts ts ≤ c64AvSyncMatchWindowNs

/-- Go on through the queue at an index, with the best index so far and its distance. -/
def findBestMatchFrom (ts : UInt64) (i : Nat) (best : Option (Nat × UInt64)) :
    List AvSyncEvent → Option (Nat × UInt64)
  | [] => best
  | event :: events =>
    let closer := best.all fun found => absDelta event.ts ts < found.2
    findBestMatchFrom ts (i + 1)
      (if event.canMatch ts && closer then some (i, absDelta event.ts ts) else best) events

/-- The index of the nearest pop that can be paired, the first one of several. -/
def findBestMatch (events : List AvSyncEvent) (ts : UInt64) : Option (Nat × UInt64) :=
  findBestMatchFrom ts 0 none events

/-- The pair of two pops. -/
def c64AvSyncStoreMatch (video audio : AvSyncEvent) : AvSyncMatch :=
  ⟨video.ts, audio.ts, video.seq, audio.seq, video.frameNum⟩

end Events

section Pops

/-- What is kept about the pops of one kind. -/
structure AvSyncPops where
  events : List AvSyncEvent
  popCount : Nat
  lastPopTs : UInt64
  lastPopDetectionTs : UInt64
  deriving DecidableEq

/-- The two kinds of pops. -/
inductive PopKind where
  | video
  | audio
  deriving DecidableEq

/-- The other kind. -/
def PopKind.other (kind : PopKind) : PopKind :=
  match kind with
  | .video => .audio
  | .audio => .video

/-- The state of one origin; a match is there once one is valid. -/
structure AvSyncState where
  video : AvSyncPops
  audio : AvSyncPops
  lastMatch : Option AvSyncMatch
  deriving DecidableEq

/-- The pops of a kind. -/
def AvSyncState.pops (state : AvSyncState) (kind : PopKind) : AvSyncPops :=
  match kind with
  | .video => state.video
  | .audio => state.audio

/-- The pair of a pop of a kind with one of the other kind. -/
def matchOf (kind : PopKind) (event partner : AvSyncEvent) : AvSyncMatch :=
  match kind with
  | .video => c64AvSyncStoreMatch event partner
  | .audio => c64AvSyncStoreMatch partner event

/-- Nothing has been counted yet. -/
def c64AvSyncInit : AvSyncState where
  video := ⟨[], 0, 0, 0⟩
  audio := ⟨[], 0, 0, 0⟩
  lastMatch := none

/-- Whether a pop is taken for the one before; the time 0 stands for no pop before. -/
def AvSyncPops.debounces (pops : AvSyncPops) (ts : UInt64) : Bool :=
  pops.lastPopDetectionTs != 0 && ts - pops.lastPopDetectionTs < c64AvSyncDebounceNs

/-- What is counted for a pop: the pop itself and the pair it makes. -/
structure CountedPop where
  kind : PopKind
  event : AvSyncEvent
  stored : Option AvSyncMatch
  deriving DecidableEq

/-- The pop that is counted next. -/
def AvSyncPops.nextEvent (pops : AvSyncPops) (frameNum : UInt16) (ts : UInt64) (used : Bool) :
    AvSyncEvent :=
  ⟨ts, pops.popCount + 1, frameNum, used⟩

/-- The pops of a kind after one more. -/
def AvSyncPops.count (pops : AvSyncPops) (event : AvSyncEvent) : AvSyncPops where
  events := pruneUsedOrExpired (pushEvent pops.events event) event.ts
  popCount := event.seq
  lastPopTs := event.ts
  lastPopDetectionTs := event.ts

/-- The pops of a kind after one of the other kind took the one at an index. -/
def AvSyncPops.lend (pops : AvSyncPops) (taken : Option (Nat × UInt64)) (now : UInt64) :
    AvSyncPops :=
  let events := match taken with
    | some (i, _) => pops.events.modify i fun event => { event with used := true }
    | none => pops.events
  { pops with events := pruneUsedOrExpired events now }

/-- Both functions on pops: the pops of the kind and of the other one afterwards, and what was
counted unless the pop was taken for the one before. -/
def onPop (kind : PopKind) (own other : AvSyncPops) (frameNum : UInt16) (ts : UInt64) :
    Option (AvSyncPops × AvSyncPops × CountedPop) :=
  if own.debounces ts then none
  else
    let found := findBestMatch other.events ts
    let event := own.nextEvent frameNum ts found.isSome
    let stored := (found.bind fun best => other.events[best.1]?).map (matchOf kind event)
    some (own.count event, other.lend found ts, ⟨kind, event, stored⟩)

/-- A pop of the picture; nothing happens unless it is recorded or logged. -/
def c64AvSyncOnVideoPop (recordAvSync debugLogging : Bool) (frameNum : UInt16) (ts : UInt64)
    (state : AvSyncState) : AvSyncState × Option CountedPop :=
  if !recordAvSync && !debugLogging then (state, none)
  else
    match onPop .video state.video state.audio frameNum ts with
    | none => (state, none)
    | some (video, audio, counted) =>
      (⟨video, audio, counted.stored <|> state.lastMatch⟩, some counted)

/-- A pop of the sound, which belongs to no frame. -/
def c64AvSyncOnAudioPop (recordAvSync debugLogging : Bool) (ts : UInt64)
    (state : AvSyncState) : AvSyncState × Option CountedPop :=
  if !recordAvSync && !debugLogging then (state, none)
  else
    match onPop .audio state.audio state.video 0 ts with
    | none => (state, none)
    | some (audio, video, counted) =>
      (⟨video, audio, counted.stored <|> state.lastMatch⟩, some counted)

end Pops

end C64Stream
