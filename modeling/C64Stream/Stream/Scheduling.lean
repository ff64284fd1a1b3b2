import C64Stream.Stream.Switching
import C64Stream.Lib.Run

/-! The retry worker does not rest before a recorded transition was taken and its stops were made. -/

namespace C64Stream

section Property

/-- The worker is idle and nothing is requested. -/
def Idle (context : SwitchContext) : Prop :=
  context.worker = .loop .returned ∧ context.update = .returned ∧
    context.retryThreadActive = false ∧ context.retryRequested = false

instance (context : SwitchContext) : Decidable (Idle context) :=
  inferInstanceAs (Decidable (_ ∧ _))

end Property

section Invariant

/-- The worker looks at the pending transition before it comes to rest. -/
def beforeTake : SwitchWorkerPc → Bool
  | .loop .clearRequested | .task .readName | .task (.resolve _) | .task .checkRebuild
  | .task .take => true
  | .task (.rebuildRead taken) | .task (.retarget taken _ _) => !taken
  | _ => false

/-- The worker is in a retry task. -/
def inTask : SwitchWorkerPc → Bool
  | .loop .clearRequested | .loop .finish | .task _ | .start _ => true
  | .stops inTask _ => inTask
  | _ => false

/-- The worker has the slot of the retry thread. -/
def holdsSlot : SwitchWorkerPc → Bool
  | .loop .returned | .loop .recheck => false
  | _ => true

/-- The worker has found nothing left to stop. -/
def resting : SwitchWorkerPc → Bool
  | .loop .release | .loop .recheck | .loop .returned => true
  | _ => false

/-- An update that recorded a transition, or found one, will ask for the worker. -/
def announcing : UpdatePc → Bool
  | .write _ _ transition | .flag _ _ transition => transition
  | .schedule old new => portsChanged old new || hostChanged old new
  | .request | .reserve | .spawn => true
  | _ => false

/-- An update that is to record a transition changes the ports or the host. -/
def transitionNeeded : UpdatePc → Bool
  | .write old new transition | .flag old new transition =>
    !transition || portsChanged old new || hostChanged old new
  | _ => true

/-- The flags agree with where the two threads are, and nothing that is to be done is lost. -/
structure ScheduleSound (context : SwitchContext) : Prop where
  slot : holdsSlot context.worker → context.retryThreadActive
  task : context.retryInProgress = (inTask context.worker || decide (context.update = .spawn))
  spawn : context.update = .spawn → context.retryThreadActive ∧ ¬ holdsSlot context.worker
  needed : transitionNeeded context.update
  /-- A pending transition will be looked at. -/
  served : context.deviceTransition.isSome → context.retryRequested ∨ beforeTake context.worker ∨
    (announcing context.update ∧ (context.update = .reserve → context.retryThreadActive = false))
  rested : resting context.worker → context.pendingStops = []

/-- The flags of the retry thread, the update and the transition are the same. -/
structure SameSchedule (before after : SwitchContext) : Prop where
  requested : after.retryRequested = before.retryRequested
  active : after.retryThreadActive = before.retryThreadActive
  inProgress : after.retryInProgress = before.retryInProgress
  update : after.update = before.update
  transition : after.deviceTransition = before.deviceTransition

/-- What the stopping of the previous devices leaves alone. -/
structure Undisturbed (before after : SwitchContext) : Prop extends SameSchedule before after where
  config : after.config = before.config
  client : after.restClient = before.restClient
  resolved : after.resolved = before.resolved
  rebuild : after.restRebuildPending = before.restRebuildPending
  streaming : after.streaming = before.streaming
  inFlight : after.streamStartInFlight = before.streamStartInFlight

theorem Undisturbed.of (before : SwitchContext) (stops : List StopEntry)
    (events : List DeviceEvent) (worker : SwitchWorkerPc) :
    Undisturbed before
      { before with pendingStops := stops, events := events, worker := worker } :=
  ⟨⟨rfl, rfl, rfl, rfl, rfl⟩, rfl, rfl, rfl, rfl, rfl, rfl⟩

variable {context : SwitchContext} {found : WorkerFindings}

theorem ScheduleSound.ofWorker {after : SwitchContext} (sound : ScheduleSound context)
    (same : SameSchedule context after) (held : holdsSlot context.worker)
    (stays : inTask after.worker = inTask context.worker)
    (takes : beforeTake context.worker → beforeTake after.worker) (works : ¬ resting after.worker) :
    ScheduleSound after := by
  obtain ⟨requested, active, inProgress, update, transition⟩ := same
  refine ⟨fun _ => active ▸ sound.slot held, ?_, ?_, update ▸ sound.needed, ?_,
    fun rests => absurd rests works⟩
  · rw [inProgress, stays, update]
    exact sound.task
  · rw [update]
    exact fun spawns => absurd held (sound.spawn spawns).2
  · rw [requested, active, update, transition]
    exact fun pending => (sound.served pending).imp_right (.imp_left takes)

theorem start_sameSchedule (pc : StartPc) :
    SameSchedule context (c64StartStreaming context found pc) := by
  cases pc with
  | raise | read | disconnect | destination | sockets | video | threads | abort | lower =>
    exact ⟨rfl, rfl, rfl, rfl, rfl⟩
  | reach endpoint switching =>
    simp only [c64StartStreaming]
    split
    · exact ⟨rfl, rfl, rfl, rfl, rfl⟩
    · split <;> exact ⟨rfl, rfl, rfl, rfl, rfl⟩
  | switchVideo | create | audio =>
    simp only [c64StartStreaming]
    split <;> exact ⟨rfl, rfl, rfl, rfl, rfl⟩

theorem start_worker (pc : StartPc) :
    (c64StartStreaming context found pc).worker = .stops true .enter ∨
      ∃ after, (c64StartStreaming context found pc).worker = .start after := by
  cases pc with
  | lower => exact .inl rfl
  | raise | read | disconnect | destination | sockets | video | threads | abort =>
    exact .inr ⟨_, rfl⟩
  | reach endpoint switching =>
    simp only [c64StartStreaming]
    split
    · exact .inr ⟨_, rfl⟩
    · split <;> exact .inr ⟨_, rfl⟩
  | switchVideo | create | audio =>
    simp only [c64StartStreaming]
    split <;> exact .inr ⟨_, rfl⟩

theorem start_scheduleSound {pc : StartPc} (sound : ScheduleSound context)
    (here : context.worker = .start pc) :
    ScheduleSound (c64StartStreaming context found pc) := by
  have same := @start_sameSchedule context found pc
  rcases @start_worker context found pc with done | ⟨after, on⟩
  · exact sound.ofWorker same (by simp [here, holdsSlot]) (by simp [here, done, inTask])
      (by simp [here, beforeTake]) (by simp [done, resting])
  · exact sound.ofWorker same (by simp [here, holdsSlot]) (by simp [here, on, inTask])
      (by simp [here, beforeTake]) (by simp [on, resting])

theorem task_scheduleSound {pc : TaskPc} (sound : ScheduleSound context)
    (here : context.worker = .task pc) :
    ScheduleSound (c64AsyncRetryTask context found pc) := by
  have held : holdsSlot context.worker := by simp [here, holdsSlot]
  have working : inTask context.worker = true := by simp [here, inTask]
  have on {after : SwitchContext} (same : SameSchedule context after)
      (stays : inTask after.worker = true)
      (takes : beforeTake (.task pc) → beforeTake after.worker) (works : ¬ resting after.worker) :
      ScheduleSound after :=
    sound.ofWorker same held (stays.trans working.symm) (here ▸ takes) works
  cases pc with
  | readName =>
    simp only [c64AsyncRetryTask]
    split <;> exact on ⟨rfl, rfl, rfl, rfl, rfl⟩ rfl id (by simp [resting])
  | resolve name =>
    simp only [c64AsyncRetryTask]
    split <;> exact on ⟨rfl, rfl, rfl, rfl, rfl⟩ rfl id (by simp [resting])
  | checkRebuild =>
    simp only [c64AsyncRetryTask]
    split <;> exact on ⟨rfl, rfl, rfl, rfl, rfl⟩ rfl id (by simp [resting])
  | rebuildRead taken => exact on ⟨rfl, rfl, rfl, rfl, rfl⟩ rfl id (by simp [c64AsyncRetryTask, resting])
  | retarget taken host password =>
    simp only [c64AsyncRetryTask]
    cases taken with
    | true => exact on ⟨rfl, rfl, rfl, rfl, rfl⟩ rfl nofun (by simp [resting])
    | false => exact on ⟨rfl, rfl, rfl, rfl, rfl⟩ rfl id (by simp [resting])
  | take =>
    simp only [c64AsyncRetryTask]
    split
    · rename_i absent
      -- Nothing is pending, so nothing has to be served.
      exact ⟨fun _ => sound.slot held, sound.task.trans (by rw [working]; rfl),
        fun spawns => absurd held (sound.spawn spawns).2, sound.needed, by simp [absent],
        by simp [resting]⟩
    · exact ⟨fun _ => sound.slot held, sound.task.trans (by rw [working]; rfl),
        fun spawns => absurd held (sound.spawn spawns).2, sound.needed,
        by simp [takeTransition], by simp [takeTransition, resting]⟩
  | cancel =>
    exact on ⟨rfl, rfl, rfl, rfl, rfl⟩ rfl nofun (by simp [c64AsyncRetryTask, resting])
  | readHost switching =>
    simp only [c64AsyncRetryTask]
    split <;> exact on ⟨rfl, rfl, rfl, rfl, rfl⟩ rfl nofun (by simp [resting])
  | connectivity endpoint =>
    simp only [c64AsyncRetryTask]
    split <;> exact on ⟨rfl, rfl, rfl, rfl, rfl⟩ rfl nofun (by simp [resting])
  | restart endpoint stream =>
    simp only [c64AsyncRetryTask]
    split <;> exact on ⟨rfl, rfl, rfl, rfl, rfl⟩ rfl nofun (by simp [resting])

theorem recordStopFailure_undisturbed (inTask : Bool) (index : Nat) :
    Undisturbed context (recordStopFailure context inTask index) := by
  unfold recordStopFailure
  dsimp only
  split <;> exact .of ..

theorem sendStop_undisturbed (index : Nat) (transport : StreamTransport) (hasClient : Bool)
    (stream : AvStream) (worker : SwitchWorkerPc) :
    Undisturbed context
      { (sendStop context index transport hasClient stream found).1 with worker := worker } := by
  unfold sendStop
  split <;> exact .of ..

theorem stops_undisturbed (inTask : Bool) (pc : StopsPc) :
    Undisturbed context (c64ProcessPreviousDeviceStops context found inTask pc) := by
  cases pc with
  | enter | next | compare =>
    simp only [c64ProcessPreviousDeviceStops]
    split <;> exact .of ..
  | reach index =>
    simp only [c64ProcessPreviousDeviceStops]
    split
    · exact .of ..
    · exact recordStopFailure_undisturbed inTask index
  | video | audio =>
    simp only [c64ProcessPreviousDeviceStops]
    split
    · exact .of ..
    · exact sendStop_undisturbed _ _ _ _ _
  | settle index videoStopped audioStopped =>
    simp only [c64ProcessPreviousDeviceStops]
    split
    · exact .of ..
    · split
      · exact .of ..
      · exact recordStopFailure_undisturbed inTask index

theorem stops_worker (inTask : Bool) (pc : StopsPc) :
    (c64ProcessPreviousDeviceStops context found inTask pc).worker = afterStops inTask ∨
      ∃ after, (c64ProcessPreviousDeviceStops context found inTask pc).worker =
        .stops inTask after := by
  have failure (index : Nat) :
      ∃ after, (recordStopFailure context inTask index).worker = .stops inTask after := by
    unfold recordStopFailure
    dsimp only
    split <;> exact ⟨_, rfl⟩
  cases pc with
  | enter | next | compare =>
    simp only [c64ProcessPreviousDeviceStops]
    split
    · first | exact .inl rfl | exact .inr ⟨_, rfl⟩
    · first | exact .inl rfl | exact .inr ⟨_, rfl⟩
  | reach index =>
    simp only [c64ProcessPreviousDeviceStops]
    split
    · exact .inr ⟨_, rfl⟩
    · exact .inr (failure index)
  | video | audio =>
    simp only [c64ProcessPreviousDeviceStops]
    split <;> exact .inr ⟨_, rfl⟩
  | settle index videoStopped audioStopped =>
    simp only [c64ProcessPreviousDeviceStops]
    split
    · exact .inl rfl
    · split
      · exact .inr ⟨_, rfl⟩
      · exact .inr (failure index)

theorem stops_scheduleSound {duringTask : Bool} {pc : StopsPc} (sound : ScheduleSound context)
    (here : context.worker = .stops duringTask pc) :
    ScheduleSound (c64ProcessPreviousDeviceStops context found duringTask pc) := by
  have same := (@stops_undisturbed context found duringTask pc).toSameSchedule
  rcases @stops_worker context found duringTask pc with done | ⟨after, on⟩
  · cases duringTask <;>
      exact sound.ofWorker same (by simp [here, holdsSlot])
        (by simp [here, done, afterStops, inTask]) (by simp [here, beforeTake])
        (by simp [done, afterStops, resting])
  · exact sound.ofWorker same (by simp [here, holdsSlot]) (by simp [here, on, inTask])
      (by simp [here, beforeTake]) (by simp [on, resting])

theorem loopNext_scheduleSound (sound : ScheduleSound context) (held : holdsSlot context.worker)
    (rests : inTask context.worker = false) (waits : beforeTake context.worker = false)
    (requested start resend : Bool) :
    ScheduleSound
      { context with worker := loopNext requested start (needStops context) resend } := by
  obtain ⟨slot, task, spawn, needed, served, -⟩ := sound
  have idle : context.retryInProgress = decide (context.update = .spawn) := by
    rw [task, rests, Bool.false_or]
  have pending : context.deviceTransition.isSome → context.retryRequested ∨
      (announcing context.update ∧
        (context.update = .reserve → context.retryThreadActive = false)) := by
    simpa [waits] using served
  unfold loopNext
  dsimp only
  split
  · rename_i nothing
    refine ⟨fun _ => slot held, by simp [inTask, idle],
      fun spawns => absurd held (spawn spawns).2, needed, fun some => (pending some).imp_right .inr,
      fun _ => ?_⟩
    simp only [needStops, Bool.and_eq_true, Bool.not_eq_true', Bool.not_not] at nothing
    exact List.isEmpty_iff.mp (by simpa using nothing.2)
  · split
    all_goals
      exact ⟨fun _ => slot held, by simp [inTask, idle],
        fun spawns => absurd held (spawn spawns).2, needed,
        fun some => (pending some).imp_right .inr, by simp [resting]⟩

theorem loop_scheduleSound {pc : LoopPc} (sound : ScheduleSound context)
    (here : context.worker = .loop pc) : ScheduleSound (retryLoop context found pc) := by
  obtain ⟨slot, task, spawn, needed, served, rested⟩ := id sound
  rw [here] at slot task spawn served rested
  cases pc with
  | returned => exact sound
  | begin =>
    -- No other task is running while the worker has the slot.
    have unspawned : context.update ≠ .spawn := fun spawns => (spawn spawns).2 rfl
    have idle : context.retryInProgress = false := by simpa [inTask, unspawned] using task
    simp only [retryLoop, idle]
    exact ⟨fun _ => slot rfl, by simp [inTask], fun spawns => absurd spawns unspawned, needed,
      fun pending => (served pending).imp_right fun _ => .inl rfl, by simp [resting]⟩
  | clearRequested =>
    have unspawned : context.update ≠ .spawn := fun spawns => (spawn spawns).2 rfl
    exact ⟨fun _ => slot rfl, task, fun spawns => absurd spawns unspawned, needed,
      fun _ => .inr (.inl rfl), by simp [retryLoop, resting]⟩
  | finish =>
    have unspawned : context.update ≠ .spawn := fun spawns => (spawn spawns).2 rfl
    exact ⟨fun _ => slot rfl, by simp [retryLoop, inTask, unspawned],
      fun spawns => absurd spawns unspawned, needed,
      fun pending => (served pending).imp_right (.imp_left nofun), by simp [retryLoop, resting]⟩
  | decide =>
    simp only [retryLoop]
    split
    · exact ⟨fun _ => slot rfl, task, spawn, needed, served, by simp [resting]⟩
    · exact loopNext_scheduleSound sound (by simp [here, holdsSlot]) (by simp [here, inTask])
        (by simp [here, beforeTake]) _ _ _
  | waiting handover =>
    simp only [retryLoop]
    split
    · exact sound
    · exact loopNext_scheduleSound sound (by simp [here, holdsSlot]) (by simp [here, inTask])
        (by simp [here, beforeTake]) _ _ _
  | release =>
    have unspawned : context.update ≠ .spawn := fun spawns => (spawn spawns).2 rfl
    refine ⟨nofun, task, fun spawns => absurd spawns unspawned, needed, fun pending => ?_,
      fun _ => rested rfl⟩
    rcases served pending with requested | early | ⟨announced, -⟩
    · exact .inl requested
    · cases early
    · exact .inr (.inr ⟨announced, fun _ => rfl⟩)
  | recheck =>
    simp only [retryLoop]
    split
    · exact ⟨nofun, task, fun spawns => ⟨(spawn spawns).1, by simp [holdsSlot]⟩, needed, served,
        fun _ => rested rfl⟩
    · rename_i again
      simp only [Bool.or_eq_true, Bool.not_eq_true', not_or, Bool.not_eq_false,
        Bool.not_eq_true] at again
      have unspawned : context.update ≠ .spawn := fun spawns => by
        simp [(spawn spawns).1] at again
      exact ⟨fun _ => rfl, task, fun spawns => absurd spawns unspawned, needed,
        fun _ => .inl again.1, by simp [resting]⟩

/-- A step of an update keeps the schedule sound. -/
theorem update_scheduleSound (sound : ScheduleSound context) :
    ScheduleSound (c64Update context context.update) := by
  obtain ⟨slot, task, spawn, needed, served, rested⟩ := id sound
  -- Most steps only go on with the update.
  have goesOn {after : SwitchContext} (worker : after.worker = context.worker)
      (requested : after.retryRequested = context.retryRequested)
      (active : after.retryThreadActive = context.retryThreadActive)
      (inProgress : after.retryInProgress = context.retryInProgress)
      (stops : after.pendingStops = context.pendingStops)
      (unspawned : context.update ≠ .spawn) (unspawnedAfter : after.update ≠ .spawn)
      (neededAfter : transitionNeeded after.update)
      (servedAfter : after.deviceTransition.isSome → after.retryRequested ∨
        beforeTake after.worker ∨ (announcing after.update ∧
          (after.update = .reserve → after.retryThreadActive = false))) :
      ScheduleSound after := by
    refine ⟨by rwa [worker, active], ?_, fun spawns => absurd spawns unspawnedAfter, neededAfter,
      servedAfter, by rwa [worker, stops]⟩
    rw [inProgress, worker, task]
    simp [unspawned, unspawnedAfter]
  cases here : context.update with
  | returned => exact sound
  | readOld new =>
    refine goesOn rfl rfl rfl rfl rfl (by simp [here]) (by simp [c64Update]) rfl fun pending => ?_
    refine (served pending).imp_right (.imp_right fun ⟨announced, _⟩ => ?_)
    simp [here, announcing] at announced
  | record old new =>
    refine goesOn rfl rfl rfl rfl rfl (by simp [here]) (by simp [c64Update, recordTransition]) ?_ ?_
    · simp only [c64Update, recordTransition, transitionNeeded]
      grind
    · simp only [c64Update, recordTransition]
      intro pending
      by_cases already : context.deviceTransition.isSome
      · refine (served already).imp_right (.imp_right fun ⟨announced, _⟩ => ?_)
        simp [here, announcing] at announced
      · -- A transition that was not pending before is announced by this update.
        refine .inr (.inr ⟨?_, by simp⟩)
        by_contra silent
        simp only [announcing, Bool.not_eq_true] at silent
        simp [silent, already] at pending
  | write old new transition =>
    rw [here] at needed served
    refine goesOn rfl rfl rfl rfl rfl (by simp [here]) (by simp [c64Update]) needed
      fun pending => ?_
    exact (served pending).imp_right (.imp_right fun ⟨announced, _⟩ =>
      ⟨announced, by simp [c64Update]⟩)
  | flag old new transition =>
    refine goesOn ?_ ?_ ?_ ?_ ?_ (by simp [here]) (by simp [c64Update]) rfl ?_
    all_goals simp only [c64Update]
    · split <;> rfl
    · split <;> rfl
    · split <;> rfl
    · split <;> rfl
    · split <;> rfl
    · intro pending
      have before : context.deviceTransition.isSome := by
        split at pending <;> exact pending
      rw [here] at needed served
      split <;> refine (served before).imp_right (.imp_right fun ⟨announced, _⟩ => ⟨?_, by simp⟩)
      all_goals
        simp only [announcing] at announced ⊢
        simpa [transitionNeeded, announced] using needed
  | schedule old new =>
    refine goesOn rfl rfl rfl rfl rfl (by simp [here]) ?_ ?_ ?_
    all_goals simp only [c64Update]
    · split
      · simp
      · split <;> simp
    · split
      · rfl
      · split <;> rfl
    · intro pending
      refine (served pending).imp_right (.imp_right fun ⟨announced, _⟩ => ?_)
      simp only [here, announcing] at announced
      rw [if_neg (by simp only [Bool.or_eq_true] at announced; grind)]
      split
      · exact ⟨rfl, by simp⟩
      · rename_i unused
        simp only [Bool.or_eq_true, not_or, Bool.not_eq_true] at unused
        exact ⟨rfl, fun _ => unused.2⟩
  | request =>
    exact ⟨slot, by simpa [here, c64Update] using task, by simp [c64Update], rfl,
      fun _ => .inl rfl, rested⟩
  | reserve =>
    rw [here] at served
    simp only [c64Update]
    split
    · rename_i taken
      -- The worker took its slot back because of the request, and looks at the transition.
      refine goesOn rfl rfl rfl rfl rfl (by simp [here]) (by simp) rfl fun pending => ?_
      refine (served pending).imp_right (.imp_right fun ⟨_, vacant⟩ => ?_)
      simp [vacant rfl] at taken
    · rename_i vacant
      have unheld : ¬ holdsSlot context.worker := fun held => vacant (slot held)
      have outside : inTask context.worker = false := by
        cases at_worker : context.worker with
        | loop pc => cases pc <;> simp_all [holdsSlot, inTask]
        | task | start | stops => simp [at_worker, holdsSlot] at unheld
      rw [if_neg (by simp [task, outside, here])]
      exact ⟨fun _ => rfl, by simp, fun _ => ⟨rfl, unheld⟩, rfl,
        fun _ => .inr (.inr ⟨rfl, by simp⟩), rested⟩
  | spawn =>
    simp only [c64Update]
    split
    · exact ⟨fun _ => (spawn here).1, by simpa [here, inTask] using task, by simp, rfl,
        fun _ => .inr (.inl rfl), by simp [resting]⟩
    · exact sound

theorem switchStep_scheduleSound (sound : ScheduleSound context) (op : SwitchOp) :
    ScheduleSound (switchStep context op) := by
  cases op with
  | change new =>
    simp only [switchStep]
    split
    · rename_i returned
      obtain ⟨slot, task, -, -, served, rested⟩ := sound
      refine ⟨slot, by simpa [returned] using task, by simp, rfl, fun pending => ?_, rested⟩
      refine (served pending).imp_right (.imp_right fun ⟨announced, _⟩ => ?_)
      simp [returned, announcing] at announced
    · exact sound
  | update => exact update_scheduleSound sound
  | worker found =>
    simp only [switchStep, retryWorkerStep]
    split
    · rename_i pc here
      exact loop_scheduleSound sound here
    · rename_i pc here
      exact task_scheduleSound sound here
    · rename_i pc here
      exact start_scheduleSound sound here
    · rename_i inTask pc here
      exact stops_scheduleSound sound here

theorem createdSource_scheduleSound (settings : UpdateSettings) (clientCreated : Bool) :
    ScheduleSound (createdSource settings clientCreated) :=
  ⟨fun _ => rfl, rfl, by simp [createdSource], rfl, by simp [createdSource],
    by simp [createdSource, resting]⟩

theorem switching_scheduleSound (settings : UpdateSettings) (clientCreated : Bool)
    (ops : List SwitchOp) :
    Always switchStep ScheduleSound (createdSource settings clientCreated) ops :=
  @always_of_step _ _ _ ScheduleSound (fun _ op sound => switchStep_scheduleSound sound op) _
    (createdSource_scheduleSound settings clientCreated) ops

theorem ScheduleSound.settled (sound : ScheduleSound context) (idle : Idle context) :
    context.deviceTransition = none ∧ context.pendingStops = [] := by
  obtain ⟨returned, finished, inactive, unrequested⟩ := idle
  refine ⟨?_, sound.rested (by simp [returned, resting])⟩
  by_contra pending
  rcases sound.served (Option.isSome_iff_ne_none.mpr pending) with requested | early | announced
  · simp [unrequested] at requested
  · simp [returned, beforeTake] at early
  · simp [finished, announcing] at announced

end Invariant

end C64Stream
