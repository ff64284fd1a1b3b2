import C64Stream.Stream.AvSync

/-! The pairs of pops are a matching, over all sequences of calls. -/

namespace C64Stream

section Runs

/-- A call of one of the functions on pops; a pop of the sound has no frame. -/
structure AvSyncCall where
  kind : PopKind
  recordAvSync : Bool
  debugLogging : Bool
  frameNum : UInt16
  ts : UInt64
  deriving DecidableEq

/-- What a call does. -/
def AvSyncCall.perform (call : AvSyncCall) (state : AvSyncState) :
    AvSyncState × Option CountedPop :=
  match call.kind with
  | .video => c64AvSyncOnVideoPop call.recordAvSync call.debugLogging call.frameNum call.ts state
  | .audio => c64AvSyncOnAudioPop call.recordAvSync call.debugLogging call.ts state

/-- The state of an origin with everything that was counted, the newest pop first. -/
structure AvSyncRun where
  state : AvSyncState
  log : List CountedPop

/-- Nothing has been counted yet. -/
def AvSyncRun.start : AvSyncRun :=
  ⟨c64AvSyncInit, []⟩

/-- Perform a call and write down what it counts. -/
def AvSyncRun.step (run : AvSyncRun) (call : AvSyncCall) : AvSyncRun :=
  let after := call.perform run.state
  ⟨after.1, after.2.toList ++ run.log⟩

/-- The counted pops of a kind, the newest one first. -/
def eventsOf (kind : PopKind) (log : List CountedPop) : List AvSyncEvent :=
  (log.filter fun counted => counted.kind = kind).map CountedPop.event

/-- The pairs that were stored, the newest one first. -/
def matchesOf (log : List CountedPop) : List AvSyncMatch :=
  log.filterMap CountedPop.stored

/-- The number of the pop of a kind in a pair. -/
def AvSyncMatch.seq (pair : AvSyncMatch) (kind : PopKind) : Nat :=
  match kind with
  | .video => pair.videoSeq
  | .audio => pair.audioSeq

/-- A pop is in no pair. -/
def Unmatched (log : List CountedPop) (kind : PopKind) (event : AvSyncEvent) : Prop :=
  ∀ pair ∈ matchesOf log, pair.seq kind ≠ event.seq

/-- What was counted after a pop. -/
def countedSince (log : List CountedPop) (kind : PopKind) (event : AvSyncEvent) :
    List CountedPop :=
  log.takeWhile fun counted => !(counted.kind = kind && counted.event.seq = event.seq)

/-- No pop that was counted later was late enough to let a pop expire. -/
def Unexpired (log : List CountedPop) (kind : PopKind) (event : AvSyncEvent) : Prop :=
  ∀ counted ∈ countedSince log kind event, event.expired counted.event.ts = false

/-- A counted pop that waits for a partner and is near enough to a time. -/
def CanPair (log : List CountedPop) (kind : PopKind) (ts : UInt64) (event : AvSyncEvent) : Prop :=
  Unmatched log kind event ∧ Unexpired log kind event ∧
    absDelta event.ts ts ≤ c64AvSyncMatchWindowNs

instance (log : List CountedPop) (kind : PopKind) (event : AvSyncEvent) :
    Decidable (Unmatched log kind event) :=
  inferInstanceAs (Decidable (∀ pair ∈ matchesOf log, _))

instance (log : List CountedPop) (kind : PopKind) (event : AvSyncEvent) :
    Decidable (Unexpired log kind event) :=
  inferInstanceAs (Decidable (∀ counted ∈ countedSince log kind event, _))

instance (log : List CountedPop) (kind : PopKind) (ts : UInt64) (event : AvSyncEvent) :
    Decidable (CanPair log kind ts event) :=
  inferInstanceAs (Decidable (_ ∧ _ ∧ _))

/-- The pairs are a matching of counted pops of both kinds that are near each other. -/
structure AvSyncRun.Matching (run : AvSyncRun) : Prop where
  last : run.state.lastMatch = (matchesOf run.log).head?
  numbered : ∀ kind, ((eventsOf kind run.log).map AvSyncEvent.seq).Nodup
  near : ∀ pair ∈ matchesOf run.log, ∃ video ∈ eventsOf .video run.log,
    ∃ audio ∈ eventsOf .audio run.log, pair = c64AvSyncStoreMatch video audio ∧
      absDelta video.ts audio.ts ≤ c64AvSyncMatchWindowNs
  once : ∀ kind, ((matchesOf run.log).map (AvSyncMatch.seq · kind)).Nodup

/-- No two counted pops of one kind are near each other. -/
def AvSyncRun.Spaced (run : AvSyncRun) : Prop :=
  ∀ kind, (eventsOf kind run.log).Pairwise fun later earlier =>
    c64AvSyncDebounceNs ≤ absDelta later.ts earlier.ts

/-- The pops among some that can be paired with a call. -/
def AvSyncRun.waiting (run : AvSyncRun) (call : AvSyncCall) (events : List AvSyncEvent) :
    List AvSyncEvent :=
  events.filter fun event => CanPair run.log call.kind.other call.ts event

/-- The last pops of the other kind, as many as can wait for a partner. -/
def AvSyncRun.lastOthers (run : AvSyncRun) (call : AvSyncCall) : List AvSyncEvent :=
  (eventsOf call.kind.other run.log).take c64AvSyncEventQueueSize

/-- If one of the last pops can be paired with a counted one, it is paired with one of the partners,
and none of those last pops is nearer. -/
def CountedPop.PairsWith (counted : CountedPop) (partners last : List AvSyncEvent) : Prop :=
  last ≠ [] → ∃ partner ∈ partners,
    counted.stored = some (matchOf counted.kind counted.event partner) ∧
      ∀ event ∈ last, absDelta partner.ts counted.event.ts ≤ absDelta event.ts counted.event.ts

/-- A counted pop is paired with one of the last pops, and with a nearest of them. -/
def AvSyncRun.PairsWithLast (run : AvSyncRun) (call : AvSyncCall) : Prop :=
  ∀ counted ∈ (call.perform run.state).2,
    counted.PairsWith (run.waiting call (run.lastOthers call))
      (run.waiting call (run.lastOthers call))

/-- A counted pop is paired with some pop that can be paired with it, and none of the last pops is
nearer. -/
def AvSyncRun.PairsNearest (run : AvSyncRun) (call : AvSyncCall) : Prop :=
  ∀ counted ∈ (call.perform run.state).2,
    counted.PairsWith (run.waiting call (eventsOf call.kind.other run.log))
      (run.waiting call (run.lastOthers call))

instance (counted : CountedPop) (partners last : List AvSyncEvent) :
    Decidable (counted.PairsWith partners last) :=
  inferInstanceAs (Decidable (_ → _))

instance (run : AvSyncRun) (call : AvSyncCall) : Decidable (run.PairsWithLast call) :=
  inferInstanceAs (Decidable (∀ counted ∈ (call.perform run.state).2, _))

/-- A call is not from before the last counted pop of its kind, and if that one was at time 0, then
from well behind it. -/
def AvSyncRun.Orderly (run : AvSyncRun) (call : AvSyncCall) : Prop :=
  let pops := run.state.pops call.kind
  pops.popCount = 0 ∨ (pops.lastPopDetectionTs ≤ call.ts ∧
    (pops.lastPopDetectionTs = 0 → c64AvSyncDebounceNs ≤ call.ts))

instance (run : AvSyncRun) (call : AvSyncCall) : Decidable (run.Orderly call) :=
  inferInstanceAs (Decidable (_ ∨ _))

end Runs

section Kinds

theorem PopKind.eq_or_other (kind kind' : PopKind) : kind' = kind ∨ kind' = kind.other := by
  cases kind <;> cases kind' <;> simp [PopKind.other]

@[simp] theorem PopKind.other_ne (kind : PopKind) : kind.other ≠ kind := by
  cases kind <;> simp [PopKind.other]

@[simp] theorem PopKind.ne_other (kind : PopKind) : kind ≠ kind.other :=
  (PopKind.other_ne kind).symm

@[simp] theorem matchOf_seq (kind : PopKind) (event partner : AvSyncEvent) :
    (matchOf kind event partner).seq kind = event.seq := by
  cases kind <;> rfl

@[simp] theorem matchOf_seq_other (kind : PopKind) (event partner : AvSyncEvent) :
    (matchOf kind event partner).seq kind.other = partner.seq := by
  cases kind <;> rfl

theorem eventsOf_own (counted : CountedPop) (log : List CountedPop) :
    eventsOf counted.kind (counted :: log) = counted.event :: eventsOf counted.kind log := by
  simp [eventsOf]

theorem eventsOf_other (counted : CountedPop) (log : List CountedPop) :
    eventsOf counted.kind.other (counted :: log) = eventsOf counted.kind.other log := by
  simp [eventsOf]

theorem matchesOf_cons (counted : CountedPop) (log : List CountedPop) :
    matchesOf (counted :: log) = counted.stored.toList ++ matchesOf log := by
  cases stored : counted.stored <;> simp [matchesOf, stored]

theorem AvSyncCall.perform_cases (call : AvSyncCall) (state : AvSyncState) :
    call.perform state = (state, none) ∨
      ∃ frameNum own other counted, onPop call.kind (state.pops call.kind)
          (state.pops call.kind.other) frameNum call.ts = some (own, other, counted) ∧
        (call.perform state).2 = some counted ∧
        (call.perform state).1.pops call.kind = own ∧
        (call.perform state).1.pops call.kind.other = other ∧
        (call.perform state).1.lastMatch = (counted.stored <|> state.lastMatch) := by
  -- Both functions do the same with the kinds swapped.
  cases kind : call.kind with
  | video =>
    simp only [AvSyncCall.perform, kind, c64AvSyncOnVideoPop]
    split_ifs
    · exact .inl rfl
    · cases popped : onPop .video state.video state.audio call.frameNum call.ts with
      | none => exact .inl rfl
      | some result => exact .inr ⟨call.frameNum, _, _, _, popped, rfl, rfl, rfl, rfl⟩
  | audio =>
    simp only [AvSyncCall.perform, kind, c64AvSyncOnAudioPop]
    split_ifs
    · exact .inl rfl
    · cases popped : onPop .audio state.audio state.video 0 call.ts with
      | none => exact .inl rfl
      | some result => exact .inr ⟨0, _, _, _, popped, rfl, rfl, rfl, rfl⟩

end Kinds

section Search

/-- What the search knows once it has been through some pops. -/
def BestOf (ts : UInt64) (events : List AvSyncEvent) (best : Option (Nat × UInt64)) : Prop :=
  match best with
  | none => ∀ event ∈ events, event.canMatch ts = false
  | some (i, delta) => ∃ partner, events[i]? = some partner ∧ partner.canMatch ts = true ∧
      delta = absDelta partner.ts ts ∧
      ∀ event ∈ events, event.canMatch ts = true → delta ≤ absDelta event.ts ts

theorem BestOf.next {ts : UInt64} {events : List AvSyncEvent} {best : Option (Nat × UInt64)}
    (known : BestOf ts events best) (event : AvSyncEvent) :
    BestOf ts (events ++ [event])
      (if event.canMatch ts && best.all fun found => absDelta event.ts ts < found.2
        then some (events.length, absDelta event.ts ts) else best) := by
  have last : (events ++ [event])[events.length]? = some event := by simp
  cases best with
  | none =>
    by_cases can : event.canMatch ts = true
    · -- The first pop that can be paired is the best one so far.
      rw [if_pos (by simp [can])]
      refine ⟨event, last, can, rfl, fun other among canOther => ?_⟩
      rcases List.mem_append.mp among with before | here
      · exact absurd canOther (by simp [known other before])
      · rw [List.mem_singleton.mp here]
        exact UInt64.le_refl _
    · rw [if_neg (by simp [can])]
      intro other among
      rcases List.mem_append.mp among with before | here
      · exact known other before
      · rw [List.mem_singleton.mp here]
        exact Bool.eq_false_iff.mpr can
  | some found =>
    obtain ⟨partner, there, canPartner, same, nearest⟩ := known
    by_cases closer : event.canMatch ts = true ∧ absDelta event.ts ts < found.2
    · rw [if_pos (by simp [closer.1, closer.2])]
      refine ⟨event, last, closer.1, rfl, fun other among canOther => ?_⟩
      rcases List.mem_append.mp among with before | here
      · exact UInt64.le_trans (UInt64.le_of_lt closer.2) (nearest other before canOther)
      · rw [List.mem_singleton.mp here]
        exact UInt64.le_refl _
    · rw [if_neg (by simpa using closer)]
      refine ⟨partner, ?_, canPartner, same, fun other among canOther => ?_⟩
      · rw [List.getElem?_append_left (List.getElem?_eq_some_iff.mp there).1]
        exact there
      · rcases List.mem_append.mp among with before | here
        · exact nearest other before canOther
        · rw [List.mem_singleton.mp here] at canOther ⊢
          exact UInt64.not_lt.mp fun less => closer ⟨canOther, less⟩

theorem findBestMatchFrom_best {ts : UInt64} (rest : List AvSyncEvent) :
    ∀ {searched best}, BestOf ts searched best →
      BestOf ts (searched ++ rest) (findBestMatchFrom ts searched.length best rest) := by
  induction rest with
  | nil =>
    intro searched best known
    rw [List.append_nil]
    exact known
  | cons event rest ih =>
    intro searched best known
    have next := ih (known.next event)
    rw [List.length_append, List.length_singleton, List.append_assoc,
      List.singleton_append] at next
    exact next

theorem findBestMatch_best (events : List AvSyncEvent) (ts : UInt64) :
    BestOf ts events (findBestMatch events ts) :=
  @findBestMatchFrom_best ts events [] none fun _ among => by cases among

end Search

section Numbers

/-- Pops are numbered from one, the newest one first. -/
def NumberedFrom : List AvSyncEvent → Prop
  | [] => True
  | event :: events => event.seq = events.length + 1 ∧ NumberedFrom events

variable {events : List AvSyncEvent} {event : AvSyncEvent}

theorem NumberedFrom.seq_le (numbered : NumberedFrom events) (among : event ∈ events) :
    event.seq ≤ events.length := by
  induction events with
  | nil => cases among
  | cons first events ih =>
    obtain ⟨newest, others⟩ := numbered
    rw [List.length_cons]
    rcases List.mem_cons.mp among with rfl | before
    · omega
    · have := ih others before
      omega

theorem NumberedFrom.nodup (numbered : NumberedFrom events) :
    (events.map AvSyncEvent.seq).Nodup := by
  induction events with
  | nil => exact List.nodup_nil
  | cons first events ih =>
    obtain ⟨newest, others⟩ := numbered
    refine List.nodup_cons.mpr ⟨fun again => ?_, ih others⟩
    obtain ⟨event, before, same⟩ := List.mem_map.mp again
    have := others.seq_le before
    omega

theorem NumberedFrom.mem_take (numbered : NumberedFrom events) (size : Nat) :
    event ∈ events.take size ↔ event ∈ events ∧ events.length < event.seq + size := by
  induction events generalizing size with
  | nil => simp
  | cons first events ih =>
    obtain ⟨newest, others⟩ := numbered
    cases size with
    | zero =>
      refine iff_of_false List.not_mem_nil fun ⟨among, less⟩ => ?_
      have all : NumberedFrom (first :: events) := ⟨newest, others⟩
      have := all.seq_le among
      omega
    | succ size =>
      rw [List.take_succ_cons, List.mem_cons, ih others size, List.mem_cons, List.length_cons]
      constructor
      · rintro (rfl | ⟨before, less⟩)
        · exact ⟨.inl rfl, by omega⟩
        · exact ⟨.inr before, by omega⟩
      · rintro ⟨rfl | before, less⟩
        · exact .inl rfl
        · exact .inr ⟨before, by omega⟩

end Numbers

section Queue

variable {events : List AvSyncEvent} {event : AvSyncEvent}

theorem mem_pruneUsedOrExpired {now : UInt64} :
    event ∈ pruneUsedOrExpired events now ↔
      event ∈ events ∧ event.used = false ∧ event.expired now = false := by
  simp [pruneUsedOrExpired]

theorem prune_modify (events : List AvSyncEvent) (i : Nat) (now : UInt64) :
    pruneUsedOrExpired (events.modify i fun event => { event with used := true }) now =
      pruneUsedOrExpired (events.eraseIdx i) now := by
  rw [List.eraseIdx_eq_take_drop_succ]
  by_cases inside : i < events.length
  · rw [List.modify_eq_take_cons_drop inside]
    simp [pruneUsedOrExpired]
  · -- Behind the end there is neither a pop to use nor one to erase.
    rw [List.modify_eq_self (by omega), List.take_of_length_le (by omega),
      List.drop_of_length_le (by omega), List.append_nil]

theorem pushEvent_sublist (events : List AvSyncEvent) (event : AvSyncEvent) :
    (pushEvent events event).Sublist (events ++ [event]) := by
  rw [pushEvent]
  split_ifs
  · exact List.Sublist.refl _
  · exact (List.drop_sublist 1 events).append_right _

theorem pushEvent_length (bounded : events.length ≤ c64AvSyncEventQueueSize) :
    (pushEvent events event).length ≤ c64AvSyncEventQueueSize := by
  rw [pushEvent]
  split_ifs with room
  · rw [List.length_append, List.length_singleton]
    omega
  · rw [List.length_append, List.length_singleton, List.length_drop]
    have : 0 < c64AvSyncEventQueueSize := by decide
    omega

theorem mem_pushEvent_self : event ∈ pushEvent events event := by
  rw [pushEvent]
  split_ifs <;> exact List.mem_append_right _ List.mem_cons_self

theorem seq_add_length_le {first : AvSyncEvent}
    (sorted : (first :: events).Pairwise fun left right => left.seq < right.seq) {bound : Nat}
    (within : ∀ event ∈ first :: events, event.seq ≤ bound) :
    first.seq + events.length ≤ bound := by
  induction events generalizing first with
  | nil => exact within first List.mem_cons_self
  | cons second events ih =>
    have rest := ih (List.pairwise_cons.mp sorted).2 fun event among =>
      within event (List.mem_cons_of_mem _ among)
    have less := (List.pairwise_cons.mp sorted).1 second List.mem_cons_self
    rw [List.length_cons]
    omega

theorem mem_pushEvent_of_last (sorted : events.Pairwise fun left right => left.seq < right.seq)
    {bound : Nat} (within : ∀ event ∈ events, event.seq ≤ bound) {old : AvSyncEvent}
    (among : old ∈ events) (last : bound + 1 < old.seq + c64AvSyncEventQueueSize) :
    old ∈ pushEvent events event := by
  rw [pushEvent]
  split_ifs with room
  · exact List.mem_append_left _ among
  · refine List.mem_append_left _ ?_
    cases events with
    | nil => cases among
    | cons first rest =>
      rcases List.mem_cons.mp among with rfl | behind
      · -- The first one of a full queue has too many behind it.
        have := seq_add_length_le sorted within
        rw [List.length_cons] at room
        omega
      · exact behind

theorem mem_eraseIdx_iff_ne {i : Nat} {taken : AvSyncEvent}
    (sorted : events.Pairwise fun left right => left.seq < right.seq)
    (there : events[i]? = some taken) :
    event ∈ events.eraseIdx i ↔ event ∈ events ∧ event.seq ≠ taken.seq := by
  have distinct : events.Pairwise fun left right => left.seq ≠ right.seq :=
    sorted.imp fun less => ne_of_lt less
  rw [List.mem_eraseIdx_iff_getElem?]
  constructor
  · rintro ⟨j, apart, here⟩
    refine ⟨List.mem_of_getElem? here, fun same => ?_⟩
    obtain ⟨inside, rfl⟩ := List.getElem?_eq_some_iff.mp there
    obtain ⟨inside', rfl⟩ := List.getElem?_eq_some_iff.mp here
    rcases lt_or_gt_of_ne apart with less | more
    · exact List.pairwise_iff_getElem.mp distinct j i inside' inside less same
    · exact List.pairwise_iff_getElem.mp distinct i j inside inside' more same.symm
  · rintro ⟨among, apart⟩
    obtain ⟨j, here⟩ := List.mem_iff_getElem?.mp among
    refine ⟨j, fun same => apart ?_, here⟩
    rw [same, there] at here
    rw [Option.some.inj here]

end Queue

section Waiting

variable {log : List CountedPop} {counted : CountedPop} {kind : PopKind} {event : AvSyncEvent}

theorem unmatched_cons : Unmatched (counted :: log) kind event ↔
    (∀ pair ∈ counted.stored, pair.seq kind ≠ event.seq) ∧ Unmatched log kind event := by
  simp only [Unmatched, matchesOf_cons, List.mem_append, Option.mem_toList, or_imp, forall_and,
    Option.mem_def]

theorem unexpired_cons (apart : ¬(counted.kind = kind ∧ counted.event.seq = event.seq)) :
    Unexpired (counted :: log) kind event ↔
      event.expired counted.event.ts = false ∧ Unexpired log kind event := by
  have later : (!(counted.kind = kind && counted.event.seq = event.seq)) = true := by
    rw [← Bool.decide_and, decide_eq_false apart]
    rfl
  simp only [Unexpired, countedSince, List.takeWhile_cons, later, if_true, List.forall_mem_cons]

theorem unexpired_newest : Unexpired (counted :: log) counted.kind counted.event := by
  simp [Unexpired, countedSince]

/-- What is known of the pops of one kind: the queue holds such as wait for a partner, and all of
those among the last ones. -/
structure QueueHolds (log : List CountedPop) (kind : PopKind) (pops : AvSyncPops) : Prop where
  count : pops.popCount = (eventsOf kind log).length
  bounded : pops.events.length ≤ c64AvSyncEventQueueSize
  sorted : pops.events.Pairwise fun left right => left.seq < right.seq
  counted : ∀ event ∈ pops.events, event ∈ eventsOf kind log
  unused : ∀ event ∈ pops.events, event.used = false
  unmatched : ∀ event ∈ pops.events, Unmatched log kind event
  unexpired : ∀ event ∈ pops.events, Unexpired log kind event
  kept : ∀ event ∈ (eventsOf kind log).take c64AvSyncEventQueueSize,
    Unmatched log kind event → Unexpired log kind event → event ∈ pops.events

/-- What a counted pop is paired with, and what the pops of the other kind become. -/
inductive Pairing (kind : PopKind) (other : AvSyncPops) (ts : UInt64) (counted : CountedPop) :
    AvSyncPops → Prop where
  | alone (unused : counted.event.used = false) (unpaired : counted.stored = none)
      (far : ∀ event ∈ other.events, event.canMatch ts = false) :
      Pairing kind other ts counted (other.lend none ts)
  | paired (i : Nat) (delta : UInt64) (partner : AvSyncEvent)
      (there : other.events[i]? = some partner) (can : partner.canMatch ts = true)
      (nearest : ∀ event ∈ other.events, event.canMatch ts = true →
        absDelta partner.ts ts ≤ absDelta event.ts ts)
      (stored : counted.stored = some (matchOf kind counted.event partner))
      (used : counted.event.used = true) :
      Pairing kind other ts counted (other.lend (some (i, delta)) ts)

theorem Pairing.unused_of_none {kind : PopKind} {other other' : AvSyncPops} {ts : UInt64}
    (pairing : Pairing kind other ts counted other') (unpaired : ∀ pair, pair ∉ counted.stored) :
    counted.event.used = false := by
  cases pairing with
  | alone unused _ _ => exact unused
  | paired _ _ _ _ _ _ stored _ => exact absurd (Option.mem_def.mpr stored) (unpaired _)

theorem Pairing.stored_none {kind : PopKind} {other other' : AvSyncPops} {ts : UInt64}
    (pairing : Pairing kind other ts counted other') (unused : counted.event.used = false) :
    counted.stored = none := by
  cases pairing with
  | alone _ unpaired _ => exact unpaired
  | paired _ _ _ _ _ _ _ used => exact absurd (used.symm.trans unused) (by decide)

theorem onPop_cases {own other own' other' : AvSyncPops} {frameNum : UInt16} {ts : UInt64}
    (popped : onPop kind own other frameNum ts = some (own', other', counted)) :
    own.debounces ts = false ∧ counted.kind = kind ∧ counted.event.ts = ts ∧
      counted.event.seq = own.popCount + 1 ∧ own' = own.count counted.event ∧
        Pairing kind other ts counted other' := by
  have best := findBestMatch_best other.events ts
  rw [onPop] at popped
  split_ifs at popped with debounced
  cases found : findBestMatch other.events ts with
  | none =>
    rw [found] at popped best
    obtain ⟨rfl, rfl, rfl⟩ := popped
    exact ⟨by simpa using debounced, rfl, rfl, rfl, rfl, .alone rfl rfl best⟩
  | some result =>
    obtain ⟨i, delta⟩ := result
    rw [found] at popped best
    obtain ⟨partner, there, can, same, nearest⟩ := best
    obtain ⟨rfl, rfl, rfl⟩ := popped
    refine ⟨by simpa using debounced, rfl, rfl, rfl, rfl,
      .paired i delta partner there can ?_ ?_ rfl⟩
    · rw [← same]
      exact nearest
    · simp only [Option.bind_some, there, Option.map_some]

end Waiting

section Step

variable {log : List CountedPop} {counted : CountedPop} {event : AvSyncEvent}

theorem not_expired_self (event : AvSyncEvent) : event.expired event.ts = false := by
  simp [AvSyncEvent.expired]

/-- The pops of the kind that was counted still wait as they should. -/
theorem QueueHolds.own {own other other' : AvSyncPops} (waits : QueueHolds log counted.kind own)
    (numbered : NumberedFrom (eventsOf counted.kind log))
    (known : ∀ pair ∈ matchesOf log, pair.seq counted.kind ≤ (eventsOf counted.kind log).length)
    (next : counted.event.seq = own.popCount + 1)
    (pairing : Pairing counted.kind other counted.event.ts counted other') :
    QueueHolds (counted :: log) counted.kind (own.count counted.event) := by
  have within : ∀ event ∈ own.events, event.seq ≤ (eventsOf counted.kind log).length :=
    fun event among => numbered.seq_le (waits.counted event among)
  -- An earlier pop has a smaller number than the new one.
  have earlier : ∀ event ∈ eventsOf counted.kind log, event.seq < counted.event.seq := by
    intro event among
    have := numbered.seq_le among
    have := waits.count
    omega
  have pushed : ∀ event ∈ pushEvent own.events counted.event,
      event ∈ own.events ∨ event = counted.event := by
    intro event among
    rcases List.mem_append.mp ((pushEvent_sublist _ _).subset among) with before | new
    · exact .inl before
    · exact .inr (List.mem_singleton.mp new)
  have ownPair : ∀ pair ∈ counted.stored, pair.seq counted.kind = counted.event.seq := by
    intro pair stored
    cases pairing with
    | alone _ unpaired _ => rw [unpaired] at stored; cases stored
    | paired _ _ _ _ _ _ same _ =>
      rw [same] at stored
      rw [← Option.some.inj stored, matchOf_seq]
  refine ⟨?_, ?_, ?_, ?_, ?_, ?_, ?_, ?_⟩
  · rw [eventsOf_own, List.length_cons, ← waits.count]
    exact next
  · exact (List.length_filter_le _ _).trans (pushEvent_length waits.bounded)
  · -- The new pop has the largest number.
    refine List.Pairwise.sublist (List.filter_sublist.trans (pushEvent_sublist _ _)) ?_
    refine List.pairwise_append.mpr ⟨waits.sorted, List.pairwise_singleton _ _, ?_⟩
    intro old among new same
    rw [List.mem_singleton.mp same]
    exact earlier old (waits.counted old among)
  · intro event among
    rw [eventsOf_own]
    rcases pushed event (mem_pruneUsedOrExpired.mp among).1 with before | rfl
    · exact List.mem_cons_of_mem _ (waits.counted event before)
    · exact List.mem_cons_self
  · intro event among
    exact (mem_pruneUsedOrExpired.mp among).2.1
  · intro event among
    obtain ⟨there, unused, -⟩ := mem_pruneUsedOrExpired.mp among
    rcases pushed event there with before | rfl
    · refine unmatched_cons.mpr ⟨fun pair stored same => ?_, waits.unmatched event before⟩
      have := earlier event (waits.counted event before)
      rw [ownPair pair stored] at same
      omega
    · -- A pop that was paired at once is used.
      refine unmatched_cons.mpr ⟨fun pair stored => ?_, fun pair stored same => ?_⟩
      · rw [pairing.stored_none unused] at stored
        cases stored
      · have := known pair stored
        have := waits.count
        omega
  · intro event among
    obtain ⟨there, -, young⟩ := mem_pruneUsedOrExpired.mp among
    rcases pushed event there with before | rfl
    · have := earlier event (waits.counted event before)
      exact (unexpired_cons fun same => by omega).mpr ⟨young, waits.unexpired event before⟩
    · exact unexpired_newest
  · intro event last unmatched unexpired
    obtain ⟨unpaired, waiting⟩ := unmatched_cons.mp unmatched
    -- What is among the last pops now was among fewer of them before, or is new.
    have size : c64AvSyncEventQueueSize = 7 + 1 := rfl
    rw [eventsOf_own, size, List.take_succ_cons] at last
    rcases List.mem_cons.mp last with rfl | before
    · refine mem_pruneUsedOrExpired.mpr ⟨mem_pushEvent_self, ?_, not_expired_self _⟩
      exact pairing.unused_of_none fun pair stored => unpaired pair stored (ownPair pair stored)
    · obtain ⟨among, large⟩ := (numbered.mem_take 7).mp before
      have := earlier event among
      obtain ⟨young, unexpired⟩ := (unexpired_cons fun same => by omega).mp unexpired
      have there := waits.kept event ((numbered.mem_take _).mpr ⟨among, by omega⟩) waiting unexpired
      exact mem_pruneUsedOrExpired.mpr
        ⟨mem_pushEvent_of_last waits.sorted within there (by omega), waits.unused event there,
          young⟩

theorem QueueHolds.other {other other' : AvSyncPops}
    (waits : QueueHolds log counted.kind.other other)
    (pairing : Pairing counted.kind other counted.event.ts counted other') :
    QueueHolds (counted :: log) counted.kind.other other' := by
  -- Whatever the pairing is, the queue is pruned behind it, and only the partner is missing.
  obtain ⟨left, rfl, sublist, mem_left⟩ : ∃ left : List AvSyncEvent,
      other' = { other with events := pruneUsedOrExpired left counted.event.ts } ∧
        left.Sublist other.events ∧ ∀ event, event ∈ left ↔ event ∈ other.events ∧
          ∀ pair ∈ counted.stored, pair.seq counted.kind.other ≠ event.seq := by
    cases pairing with
    | alone _ unpaired _ =>
      refine ⟨other.events, rfl, List.Sublist.refl _, fun event => ?_⟩
      rw [unpaired]
      exact ⟨fun among => ⟨among, fun pair stored => by cases stored⟩, And.left⟩
    | paired i _ partner there _ _ stored _ =>
      refine ⟨other.events.eraseIdx i, ?_, List.eraseIdx_sublist _ _, fun event => ?_⟩
      · rw [AvSyncPops.lend]
        simp only [prune_modify]
      · rw [mem_eraseIdx_iff_ne waits.sorted there, stored]
        simp only [Option.mem_some_iff, forall_eq', matchOf_seq_other, ne_comm]
  have apart : ∀ event : AvSyncEvent, ¬(counted.kind = counted.kind.other ∧
      counted.event.seq = event.seq) := fun event same => counted.kind.ne_other same.1
  have inside : ∀ event ∈ pruneUsedOrExpired left counted.event.ts, event ∈ other.events :=
    fun event among => sublist.subset (mem_pruneUsedOrExpired.mp among).1
  refine ⟨?_, ?_, ?_, ?_, ?_, ?_, ?_, ?_⟩
  · rw [eventsOf_other]
    exact waits.count
  · exact ((List.filter_sublist).trans sublist).length_le.trans waits.bounded
  · exact waits.sorted.sublist ((List.filter_sublist).trans sublist)
  · intro event among
    rw [eventsOf_other]
    exact waits.counted event (inside event among)
  · intro event among
    exact waits.unused event (inside event among)
  · intro event among
    obtain ⟨kept, -, -⟩ := mem_pruneUsedOrExpired.mp among
    exact unmatched_cons.mpr
      ⟨((mem_left event).mp kept).2, waits.unmatched event (inside event among)⟩
  · intro event among
    obtain ⟨-, -, young⟩ := mem_pruneUsedOrExpired.mp among
    exact (unexpired_cons (apart event)).mpr ⟨young, waits.unexpired event (inside event among)⟩
  · intro event last unmatched unexpired
    rw [eventsOf_other] at last
    obtain ⟨unpaired, waiting⟩ := unmatched_cons.mp unmatched
    obtain ⟨young, unexpired⟩ := (unexpired_cons (apart event)).mp unexpired
    have there := waits.kept event last waiting unexpired
    exact mem_pruneUsedOrExpired.mpr
      ⟨(mem_left event).mpr ⟨there, unpaired⟩, waits.unused event there, young⟩

theorem mem_eventsOf_cons {kind : PopKind} (among : event ∈ eventsOf kind log) :
    event ∈ eventsOf kind (counted :: log) := by
  rcases counted.kind.eq_or_other kind with rfl | rfl
  · rw [eventsOf_own]
    exact List.mem_cons_of_mem _ among
  · rw [eventsOf_other]
    exact among

theorem absDelta_comm (first second : UInt64) : absDelta first second = absDelta second first := by
  simp only [absDelta]
  split_ifs with less more
  · exact absurd (UInt64.lt_trans less more) (UInt64.lt_irrefl _)
  · rfl
  · rfl
  · rename_i more
    rw [UInt64.le_antisymm (UInt64.not_lt.mp less) (UInt64.not_lt.mp more)]

theorem Pairing.near {other other' : AvSyncPops} {pair : AvSyncMatch}
    (pairing : Pairing counted.kind other counted.event.ts counted other')
    (waits : QueueHolds log counted.kind.other other) (stored : pair ∈ counted.stored) :
    ∃ video ∈ eventsOf .video (counted :: log), ∃ audio ∈ eventsOf .audio (counted :: log),
      pair = c64AvSyncStoreMatch video audio ∧
        absDelta video.ts audio.ts ≤ c64AvSyncMatchWindowNs := by
  cases pairing with
  | alone _ unpaired _ => rw [unpaired] at stored; cases stored
  | paired i _ partner there can _ same _ =>
    rw [same] at stored
    obtain rfl := Option.some.inj stored
    have close : absDelta partner.ts counted.event.ts ≤ c64AvSyncMatchWindowNs := by
      simp only [AvSyncEvent.canMatch, Bool.and_eq_true, decide_eq_true_eq] at can
      exact can.2
    have new : counted.event ∈ eventsOf counted.kind (counted :: log) := by
      rw [eventsOf_own]
      exact List.mem_cons_self
    have before : partner ∈ eventsOf counted.kind.other (counted :: log) :=
      mem_eventsOf_cons (waits.counted partner (List.mem_of_getElem? there))
    cases kind : counted.kind with
    | video =>
      rw [kind] at new before
      exact ⟨_, new, _, before, rfl, (absDelta_comm _ _) ▸ close⟩
    | audio =>
      rw [kind] at new before
      exact ⟨_, before, _, new, rfl, close⟩

theorem Pairing.fresh {own other other' : AvSyncPops} {pair : AvSyncMatch}
    (pairing : Pairing counted.kind other counted.event.ts counted other')
    (ownWaits : QueueHolds log counted.kind own) (waits : QueueHolds log counted.kind.other other)
    (known : ∀ pair ∈ matchesOf log, pair.seq counted.kind ≤ (eventsOf counted.kind log).length)
    (next : counted.event.seq = own.popCount + 1) (stored : pair ∈ counted.stored)
    {earlier : AvSyncMatch} (among : earlier ∈ matchesOf log) (kind : PopKind) :
    pair.seq kind ≠ earlier.seq kind := by
  cases pairing with
  | alone _ unpaired _ => rw [unpaired] at stored; cases stored
  | paired i _ partner there _ _ same _ =>
    rw [same] at stored
    obtain rfl := Option.some.inj stored
    rcases counted.kind.eq_or_other kind with rfl | rfl
    · -- The new pop has a number that no pop had before.
      have := known earlier among
      have := ownWaits.count
      rw [matchOf_seq]
      omega
    · rw [matchOf_seq_other]
      exact (waits.unmatched partner (List.mem_of_getElem? there) earlier among).symm

end Step

section Invariant

/-- What is known of a run. -/
structure AvSyncRun.Tracked (run : AvSyncRun) : Prop where
  numbered : ∀ kind, NumberedFrom (eventsOf kind run.log)
  waits : ∀ kind, QueueHolds run.log kind (run.state.pops kind)
  matching : run.Matching

theorem AvSyncRun.Tracked.seq_le {run : AvSyncRun} (tracked : run.Tracked) (kind : PopKind) :
    ∀ pair ∈ matchesOf run.log, pair.seq kind ≤ (eventsOf kind run.log).length := by
  intro pair stored
  obtain ⟨video, isVideo, audio, isAudio, rfl, -⟩ := tracked.matching.near pair stored
  cases kind with
  | video => exact (tracked.numbered .video).seq_le isVideo
  | audio => exact (tracked.numbered .audio).seq_le isAudio

theorem AvSyncRun.tracked_start : AvSyncRun.start.Tracked where
  numbered kind := trivial
  waits kind := by
    cases kind <;>
      exact ⟨rfl, by decide, .nil, fun _ among => (by cases among), fun _ among => (by cases among),
        fun _ among => (by cases among), fun _ among => (by cases among),
        fun _ last => (by cases last)⟩
  matching := ⟨rfl, fun _ => List.nodup_nil, fun _ among => (by cases among),
    fun _ => List.nodup_nil⟩

theorem AvSyncRun.step_cases (run : AvSyncRun) (call : AvSyncCall) :
    run.step call = run ∧ (call.perform run.state).2 = none ∨
      ∃ counted other', (call.perform run.state).2 = some counted ∧
        (run.step call).log = counted :: run.log ∧ counted.kind = call.kind ∧
        counted.event.ts = call.ts ∧ (run.state.pops call.kind).debounces call.ts = false ∧
        counted.event.seq = (run.state.pops call.kind).popCount + 1 ∧
        (run.step call).state.pops call.kind = (run.state.pops call.kind).count counted.event ∧
        (run.step call).state.pops call.kind.other = other' ∧
        (run.step call).state.lastMatch = (counted.stored <|> run.state.lastMatch) ∧
        Pairing call.kind (run.state.pops call.kind.other) call.ts counted other' := by
  rcases call.perform_cases run.state with idle | ⟨frameNum, own', other', counted, popped, made,
    own, other, last⟩
  · refine .inl ⟨?_, by rw [idle]⟩
    rw [AvSyncRun.step, idle]
    rfl
  · obtain ⟨debounced, kind, ts, seq, counts, pairing⟩ := onPop_cases popped
    refine .inr ⟨counted, other', made, ?_, kind, ts, debounced, seq, own.trans counts, other, last,
      pairing⟩
    rw [AvSyncRun.step, made]
    rfl

theorem AvSyncRun.Tracked.step {run : AvSyncRun} (tracked : run.Tracked) (call : AvSyncCall) :
    (run.step call).Tracked := by
  rcases run.step_cases call with ⟨idle, -⟩ | ⟨counted, other', -, log, kind, ts, -, next, own,
    other, last, pairing⟩
  · rw [idle]
    exact tracked
  rw [← kind] at next own other pairing
  rw [← ts] at pairing
  have known := tracked.seq_le
  have numbered : ∀ kind', NumberedFrom (eventsOf kind' (run.step call).log) := by
    intro kind'
    rw [log]
    rcases counted.kind.eq_or_other kind' with rfl | rfl
    · rw [eventsOf_own]
      exact ⟨by rw [next, (tracked.waits _).count], tracked.numbered _⟩
    · rw [eventsOf_other]
      exact tracked.numbered _
  refine ⟨numbered, ?_, ⟨?_, fun kind' => (numbered kind').nodup, ?_, ?_⟩⟩
  · intro kind'
    rw [log]
    rcases counted.kind.eq_or_other kind' with rfl | rfl
    · rw [own]
      exact (tracked.waits _).own (tracked.numbered _) (known _) next pairing
    · rw [other]
      exact (tracked.waits _).other pairing
  · rw [last, log, matchesOf_cons, tracked.matching.last]
    cases counted.stored <;> rfl
  · rw [log, matchesOf_cons]
    intro pair stored
    rcases List.mem_append.mp stored with new | before
    · -- The pair that was stored now is near as the search says.
      exact pairing.near (tracked.waits _) (Option.mem_toList.mp new)
    · obtain ⟨video, isVideo, audio, isAudio, same, near⟩ := tracked.matching.near pair before
      exact ⟨video, mem_eventsOf_cons isVideo, audio, mem_eventsOf_cons isAudio, same, near⟩
  · intro kind'
    rw [log, matchesOf_cons, List.map_append]
    refine List.nodup_append.mpr ⟨?_, tracked.matching.once kind', ?_⟩
    · cases counted.stored <;> simp
    · intro seq new seq' before same
      obtain ⟨pair, stored, rfl⟩ := List.mem_map.mp new
      obtain ⟨earlier, among, rfl⟩ := List.mem_map.mp before
      exact pairing.fresh (tracked.waits _) (tracked.waits _) (known _) next
        (Option.mem_toList.mp stored) among kind' same

end Invariant

section Results

theorem AvSyncRun.Tracked.pairsNearest {run : AvSyncRun} (tracked : run.Tracked)
    (call : AvSyncCall) : run.PairsNearest call := by
  rcases run.step_cases call with ⟨-, idle⟩ | ⟨counted, other', made, -, kind, ts, -, -, -, -, -,
    pairing⟩
  · intro counted made
    rw [idle] at made
    cases made
  · intro counted' made'
    rw [made] at made'
    obtain rfl := Option.some.inj made'
    have waits := tracked.waits call.kind.other
    -- What is counted with the last pops of the other kind stands in the queue.
    have queued : ∀ event ∈ run.waiting call (run.lastOthers call),
        event ∈ (run.state.pops call.kind.other).events ∧ event.canMatch call.ts = true := by
      intro event among
      obtain ⟨last, can⟩ := List.mem_filter.mp among
      obtain ⟨unmatched, unexpired, close⟩ := of_decide_eq_true can
      have there := waits.kept event last unmatched unexpired
      refine ⟨there, ?_⟩
      simp only [AvSyncEvent.canMatch, waits.unused event there, Bool.not_false, Bool.true_and,
        decide_eq_true_eq]
      exact close
    intro some
    obtain ⟨first, among⟩ := List.exists_mem_of_ne_nil _ some
    rw [kind, ts]
    cases pairing with
    | alone _ _ far =>
      obtain ⟨there, can⟩ := queued first among
      rw [far first there] at can
      cases can
    | paired i _ partner there can nearest stored _ =>
      have inside := List.mem_of_getElem? there
      refine ⟨partner, List.mem_filter.mpr ⟨waits.counted partner inside, decide_eq_true ?_⟩,
        stored, fun event last => ?_⟩
      · simp only [AvSyncEvent.canMatch, Bool.and_eq_true, decide_eq_true_eq] at can
        exact ⟨waits.unmatched partner inside, waits.unexpired partner inside, can.2⟩
      · obtain ⟨there, can⟩ := queued event last
        exact nearest event there can

/-- The pops of a kind lie behind each other, and a new pop is compared with the last one. -/
def AvSyncRun.Forward (run : AvSyncRun) : Prop :=
  ∀ kind, (eventsOf kind run.log).Pairwise (fun later earlier =>
      earlier.ts.toNat + c64AvSyncDebounceNs.toNat ≤ later.ts.toNat) ∧
    (∀ last ∈ (eventsOf kind run.log).head?,
      (run.state.pops kind).lastPopDetectionTs = last.ts)

theorem AvSyncRun.Forward.spaced {run : AvSyncRun} (forward : run.Forward) : run.Spaced := by
  intro kind
  refine (forward kind).1.imp fun {later earlier} behind => ?_
  have less : earlier.ts.toNat < later.ts.toNat := by
    have : 0 < c64AvSyncDebounceNs.toNat := by decide
    omega
  rw [absDelta, if_pos (UInt64.lt_iff_toNat_lt.mpr less), UInt64.le_iff_toNat_le,
    UInt64.toNat_sub_of_le _ _ (UInt64.le_iff_toNat_le.mpr less.le)]
  omega

theorem AvSyncPops.behind_last {pops : AvSyncPops} {ts : UInt64}
    (debounced : pops.debounces ts = false) (behind : pops.lastPopDetectionTs ≤ ts)
    (zero : pops.lastPopDetectionTs = 0 → c64AvSyncDebounceNs ≤ ts) :
    pops.lastPopDetectionTs.toNat + c64AvSyncDebounceNs.toNat ≤ ts.toNat := by
  by_cases none : pops.lastPopDetectionTs = 0
  · rw [none]
    have := UInt64.le_iff_toNat_le.mp (zero none)
    simpa using this
  · have far : c64AvSyncDebounceNs ≤ ts - pops.lastPopDetectionTs := by
      simpa [AvSyncPops.debounces, none] using debounced
    rw [UInt64.le_iff_toNat_le, UInt64.toNat_sub_of_le _ _ behind] at far
    rw [UInt64.le_iff_toNat_le] at behind
    omega

theorem AvSyncRun.Forward.step {run : AvSyncRun} (forward : run.Forward) (tracked : run.Tracked)
    {call : AvSyncCall} (orderly : run.Orderly call) : (run.step call).Forward := by
  rcases run.step_cases call with ⟨idle, -⟩ | ⟨counted, other', -, log, kind, ts, debounced, -, own,
    other, -, pairing⟩
  · rw [idle]
    exact forward
  rw [← kind] at own other debounced pairing
  rw [← ts] at debounced
  have ordered : (run.state.pops counted.kind).popCount = 0 ∨
      ((run.state.pops counted.kind).lastPopDetectionTs ≤ counted.event.ts ∧
        ((run.state.pops counted.kind).lastPopDetectionTs = 0 →
          c64AvSyncDebounceNs ≤ counted.event.ts)) := by
    rw [kind, ts]
    exact orderly
  intro kind'
  rw [log]
  rcases counted.kind.eq_or_other kind' with rfl | rfl
  · obtain ⟨pairs, last⟩ := forward counted.kind
    have count := (tracked.waits counted.kind).count
    rw [eventsOf_own, own]
    refine ⟨List.pairwise_cons.mpr ⟨?_, pairs⟩, fun event newest => ?_⟩
    · cases events : eventsOf counted.kind run.log with
      | nil => exact fun _ among => by cases among
      | cons newest older =>
        rw [events] at pairs last count
        rcases ordered with none | ⟨behind, zero⟩
        · rw [none] at count
          cases count
        -- The new pop lies behind the newest one, and that one behind all others.
        have far := AvSyncPops.behind_last debounced behind zero
        rw [last newest rfl] at far
        intro earlier among
        rcases List.mem_cons.mp among with rfl | before
        · exact far
        · have := (List.pairwise_cons.mp pairs).1 earlier before
          omega
    · rw [← Option.some.inj newest]
      rfl
  · rw [eventsOf_other, other]
    refine ⟨(forward _).1, fun event newest => ?_⟩
    rw [← (forward _).2 event newest]
    cases pairing <;> rfl

/-- Over all sequences of calls the stored pairs are a matching of counted pops near each other, a
counted pop is paired with one that is no farther than any of the last ones that wait for it, and if
the calls are orderly, no two counted pops of one kind are near each other. -/
theorem avSync_matching (calls : List AvSyncCall) :
    Always AvSyncRun.step AvSyncRun.Matching .start calls ∧
      EachStep AvSyncRun.step AvSyncRun.PairsNearest .start calls ∧
      (EachStep AvSyncRun.step AvSyncRun.Orderly .start calls →
        Always AvSyncRun.step AvSyncRun.Spaced .start calls) := by
  have tracked : Always AvSyncRun.step AvSyncRun.Tracked .start calls :=
    always_of_step (fun _ call known => known.step call) AvSyncRun.tracked_start calls
  refine ⟨tracked.imp fun _ known => known.matching,
    tracked.eachStep fun _ call known => known.pairsNearest call, fun orderly => ?_⟩
  -- The two invariants are carried along together.
  have both : Always AvSyncRun.step (fun run => run.Tracked ∧ run.Forward) .start calls :=
    always_of_eachStep
      (fun _ call known meets => ⟨known.1.step call, known.2.step known.1 meets⟩) orderly
    ⟨AvSyncRun.tracked_start, fun kind => ⟨.nil, fun _ newest => by cases newest⟩⟩
  exact both.imp fun _ known => known.2.spaced

/-- A recorded pop at a time in milliseconds. -/
def popAt (kind : PopKind) (milliseconds : UInt64) : AvSyncCall :=
  ⟨kind, true, false, 0, milliseconds * 1000000⟩

/-- Two pops of the picture, the second of which is paired, and one of the sound. -/
def pairedPops : List AvSyncCall :=
  [popAt .video 1000, popAt .audio 1051, popAt .video 1040, popAt .video 1100]

/-- The calls of that run are orderly, so the pops that it counts are not near each other; the first
one of the picture is paired, the second one is not counted, and the third one waits. -/
theorem pairedPops_matched :
    EachStep AvSyncRun.step AvSyncRun.Orderly .start pairedPops ∧
      Always AvSyncRun.step AvSyncRun.Spaced .start pairedPops ∧
      (let run := pairedPops.foldl AvSyncRun.step .start
      matchesOf run.log = [⟨1000000000, 1051000000, 1, 1, 0⟩] ∧
        run.state.video.events = [⟨1100000000, 2, 0, false⟩]) :=
  have orderly : EachStep AvSyncRun.step AvSyncRun.Orderly .start pairedPops := by decide +kernel
  ⟨orderly, (avSync_matching pairedPops).2.2 orderly, by decide +kernel⟩

/-- Nine pops of the picture, only the second of which is paired while they come in, and two of the
sound. -/
def crowdedPops : List AvSyncCall :=
  [popAt .video 1000, popAt .video 1100, popAt .audio 1051, popAt .video 1310, popAt .video 1410,
    popAt .video 1510, popAt .video 1610, popAt .video 1710, popAt .video 1810, popAt .video 1910,
    popAt .audio 1151]

/-- The second pop of the sound is near the third one of the picture, which is among the last eight,
but it is paired with the first one, which still waits and is nearer. -/
theorem crowdedPops_older :
    ¬ ∀ calls, Always AvSyncRun.step (fun run => run.Matching ∧ run.Spaced) .start calls ∧
      EachStep AvSyncRun.step AvSyncRun.PairsWithLast .start calls := by
  intro claimed
  exact absurd (claimed crowdedPops).2 (by decide +kernel)

end Results

end C64Stream
