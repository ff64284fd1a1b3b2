import C64Stream.Automation.Playlist

/-! Which requests of the playlist worker are honoured, over every order of steps. -/

namespace C64Stream

section Invariant

/-- While an item plays: nothing was asked for, or the item behind it, or the current index. -/
def PlaysAsAsked (automation : Automation) : Prop :=
  automation.promise = .nothing ∨
    (automation.promise = .after automation.i ∧
      (automation.skipRequested = true → automation.currentIndex = automation.i)) ∨
    (automation.promise = .jump automation.currentIndex ∧ automation.skipRequested = true ∧
      automation.currentIndex ≠ automation.i)

/-- What was asked for agrees with where the worker goes next. -/
def PromiseInPlace (automation : Automation) : Prop :=
  match automation.pc with
  | .init => automation.promise = .nothing ∨ automation.promise = .jump automation.currentIndex
  | .head | .publish => automation.promise.Allows automation.i
  | .play | .wait _ _ => PlaysAsAsked automation
  | .afterWait => automation.promise.Allows (automation.i + 1)
  | .finish | .ended => automation.promise.AllowsEnd automation.numFiles automation.shouldStop

/-- The items that were started were asked for, and what is asked for now can still be honoured. -/
structure PlaylistSound (automation : Automation) : Prop where
  starts : ∀ start ∈ automation.starts, start.promise.Allows start.item
  jumps : ∀ target, automation.promise = .jump target → 0 ≤ target ∧
    target < automation.numFiles ∧ (automation.shouldStop = false ∨ automation.pc = .publish)
  place : PromiseInPlace automation
  runs : automation.running = false → automation.pc = .ended

variable {automation : Automation}

theorem PlaylistSound.requestsHonoured (sound : PlaylistSound automation) :
    RequestsHonoured automation := by
  refine ⟨sound.starts, fun ended => ?_⟩
  have place := sound.place
  unfold PromiseInPlace at place
  rw [ended] at place
  exact place

theorem c64AutomationStart_sound (numFiles : Nat) (startIndex : Int) :
    PlaylistSound (c64AutomationStart numFiles startIndex) :=
  ⟨nofun, nofun, .inl rfl, nofun⟩

theorem Promise.Allows.allowsEnd {promise : Promise} {item : Int} {numFiles : Nat} {stopped : Bool}
    (allows : promise.Allows item)
    (jumps : ∀ target, promise = .jump target → target < numFiles ∧ stopped = false)
    (through : item ≥ numFiles ∨ stopped = true) : promise.AllowsEnd numFiles stopped := by
  cases promise with
  | nothing => trivial
  | after last =>
    have : item = last + 1 := allows
    rcases through with through | stopped
    · exact .inr (by omega)
    · exact .inl stopped
  | jump target =>
    obtain ⟨within, running⟩ := jumps target rfl
    have : item = target := allows
    rcases through with through | stopped
    · exact absurd through (by omega)
    · rw [running] at stopped
      cases stopped

theorem PlaylistSound.pending (sound : PlaylistSound automation)
    (elsewhere : automation.pc ≠ .publish) (target : Int)
    (asked : automation.promise = .jump target) :
    0 ≤ target ∧ target < automation.numFiles ∧ automation.shouldStop = false := by
  obtain ⟨nonneg, within, stopped⟩ := sound.jumps target asked
  exact ⟨nonneg, within, stopped.resolve_right elsewhere⟩

theorem PlaylistSound.runsElsewhere (sound : PlaylistSound automation)
    (elsewhere : automation.pc ≠ .ended) (pc : PlayerPc) (stopped : automation.running = false) :
    pc = .ended :=
  absurd (sound.runs stopped) elsewhere

theorem PlaylistSound.init (sound : PlaylistSound automation) (here : automation.pc = .init) :
    PlaylistSound { automation with
      i := if automation.currentIndex ≥ 0 then automation.currentIndex else 0
      pc := .head } := by
  have pending := sound.pending (by rw [here]; nofun)
  have place := sound.place
  simp only [PromiseInPlace, here] at place
  refine ⟨sound.starts, fun target asked => ?_, ?_, sound.runsElsewhere (by rw [here]; nofun) _⟩
  · obtain ⟨nonneg, within, running⟩ := pending target asked
    exact ⟨nonneg, within, .inl running⟩
  · unfold PromiseInPlace
    dsimp only
    rcases place with none | jump
    · rw [none]
      trivial
    · rw [jump, if_pos (pending _ jump).1]
      rfl

theorem PlaylistSound.head (sound : PlaylistSound automation) (here : automation.pc = .head) :
    PlaylistSound
      (if automation.i ≥ automation.numFiles || automation.shouldStop then
        { automation with pc := .finish }
      else { automation with pc := .publish }) := by
  have runs := sound.runsElsewhere (by rw [here]; nofun)
  have pending := sound.pending (by rw [here]; nofun)
  have place := sound.place
  simp only [PromiseInPlace, here] at place
  split
  · rename_i leaves
    refine ⟨sound.starts, fun target asked => ?_, ?_, runs _⟩
    · obtain ⟨nonneg, within, running⟩ := pending target asked
      exact ⟨nonneg, within, .inl running⟩
    · exact place.allowsEnd (fun target asked => (pending target asked).2) (by simpa using leaves)
  · refine ⟨sound.starts, fun target asked => ?_, place, runs _⟩
    obtain ⟨nonneg, within, _⟩ := pending target asked
    exact ⟨nonneg, within, .inr rfl⟩

theorem PlaylistSound.publish (sound : PlaylistSound automation)
    (here : automation.pc = .publish) :
    PlaylistSound { automation with
      currentIndex := automation.i
      starts := automation.starts ++ [⟨automation.promise, automation.i⟩]
      promise := .after automation.i
      pc := .play } := by
  have place := sound.place
  simp only [PromiseInPlace, here] at place
  refine ⟨fun start member => ?_, nofun, .inr (.inl ⟨rfl, fun _ => rfl⟩),
    sound.runsElsewhere (by rw [here]; nofun) _⟩
  rcases List.mem_append.mp member with before | now
  · exact sound.starts start before
  · rw [List.mem_singleton.mp now]
    exact place

theorem PlaylistSound.playsAsAsked (sound : PlaylistSound automation)
    (here : Playing automation.pc) : PlaysAsAsked automation := by
  have place := sound.place
  unfold PromiseInPlace at place
  cases pc : automation.pc <;> rw [pc] at place here <;> first | exact place | exact here.elim

theorem PlaylistSound.playingJumps (sound : PlaylistSound automation)
    (here : Playing automation.pc) (pc : PlayerPc) (target : Int)
    (asked : automation.promise = .jump target) :
    0 ≤ target ∧ target < automation.numFiles ∧
      (automation.shouldStop = false ∨ pc = .publish) := by
  have elsewhere : automation.pc ≠ .publish := by
    intro publish
    rw [publish] at here
    exact here
  obtain ⟨nonneg, within, running⟩ := sound.pending elsewhere target asked
  exact ⟨nonneg, within, .inl running⟩

theorem PlaylistSound.look (sound : PlaylistSound automation) {songlengthMsOverride elapsedMs : Int}
    (here : automation.pc = .wait songlengthMsOverride elapsedMs) (duration : Int)
    (survives : elapsedMs ≥ duration → automation.promise.Allows (automation.i + 1)) :
    PlaylistSound
      (if automation.shouldStop ∨ elapsedMs ≥ duration then
        { automation with skipRequested := false, pc := .afterWait }
      else if automation.skipRequested then
        { automation with
          skipRequested := false
          i :=
            if automation.currentIndex ≥ 0 ∧ automation.currentIndex < automation.numFiles ∧
                automation.currentIndex ≠ automation.i then
              automation.currentIndex
            else automation.i + 1
          pc := .head }
      else
        { automation with
          skipRequested := false
          pc := .wait songlengthMsOverride (elapsedMs + sleepIntervalMs) }) := by
  have playing : Playing automation.pc := by
    rw [here]
    trivial
  have jumps := sound.playingJumps playing
  have runs := sound.runsElsewhere (by rw [here]; nofun)
  have asked := sound.playsAsAsked playing
  split
  · rename_i leaves
    refine ⟨sound.starts, jumps .afterWait, ?_, runs _⟩
    -- Only a jump can ask for something else than the next item, and it was not stopped.
    rcases leaves with stopped | through
    · rcases asked with nothing | ⟨after, _⟩ | ⟨jump, _, _⟩
      · simp only [PromiseInPlace, nothing, Promise.Allows]
      · simp only [PromiseInPlace, after, Promise.Allows]
      · have running := (jumps .afterWait _ jump).2.2.resolve_right nofun
        rw [running] at stopped
        cases stopped
    · exact survives through
  · split
    · rename_i skips
      refine ⟨sound.starts, jumps .head, ?_, runs _⟩
      unfold PromiseInPlace
      dsimp only
      rcases asked with nothing | ⟨after, current⟩ | ⟨jump, _, other⟩
      · rw [nothing]
        trivial
      · -- The current index is the item that plays, so the skip goes to the one behind it.
        rw [after, if_neg (fun jumps => jumps.2.2 (current skips))]
        rfl
      · obtain ⟨nonneg, within, _⟩ := jumps .head _ jump
        rw [jump, if_pos ⟨nonneg, within, other⟩]
        rfl
    · rename_i unskipped
      refine ⟨sound.starts, jumps (.wait _ _), ?_, runs _⟩
      rcases asked with nothing | ⟨after, current⟩ | ⟨_, skips, _⟩
      · exact .inl nothing
      · exact .inr (.inl ⟨after, nofun⟩)
      · exact absurd skips unskipped

theorem automationWorker_sound (sound : PlaylistSound automation) {meets : Meets}
    (survives : RequestSurvives automation (.worker meets)) :
    PlaylistSound (automationWorker automation meets) := by
  unfold automationWorker
  unfold RequestSurvives at survives
  cases here : automation.pc with
  | init => exact sound.init here
  | head => exact sound.head here
  | publish => exact sound.publish here
  | play =>
    rw [here] at survives
    have runs := sound.runsElsewhere (by rw [here]; nofun)
    have playing : Playing automation.pc := by
      rw [here]
      trivial
    dsimp only
    split
    · exact ⟨sound.starts, sound.playingJumps playing _, sound.playsAsAsked playing, runs _⟩
    · rename_i failed
      have nothing : automation.promise = .nothing := survives.resolve_left failed
      refine ⟨sound.starts, sound.playingJumps playing _, ?_, runs _⟩
      simp only [PromiseInPlace, nothing, Promise.Allows]
  | wait songlengthMsOverride elapsedMs =>
    rw [here] at survives
    exact sound.look here _ survives
  | afterWait =>
    have place := sound.place
    simp only [PromiseInPlace, here] at place
    refine ⟨sound.starts, fun target asked => ?_, place,
      sound.runsElsewhere (by rw [here]; nofun) _⟩
    obtain ⟨nonneg, within, running⟩ := sound.pending (by rw [here]; nofun) target asked
    exact ⟨nonneg, within, .inl running⟩
  | finish =>
    have place := sound.place
    simp only [PromiseInPlace, here] at place
    refine ⟨sound.starts, fun target asked => ?_, place, fun _ => rfl⟩
    obtain ⟨nonneg, within, running⟩ := sound.pending (by rw [here]; nofun) target asked
    exact ⟨nonneg, within, .inl running⟩
  | ended => exact sound

end Invariant

section Requests

variable {automation : Automation} {target : Int}

theorem updateCurrentIndex_changed {requestSkip : Bool}
    (changed : (c64AutomationUpdateCurrentIndex automation target requestSkip).2 = true) :
    0 ≤ target ∧ target < automation.numFiles ∧ automation.currentIndex ≠ target ∧
      (c64AutomationUpdateCurrentIndex automation target requestSkip).1 =
        { automation with
          currentIndex := target
          skipRequested := automation.skipRequested || (requestSkip && automation.running) } := by
  unfold c64AutomationUpdateCurrentIndex at changed ⊢
  by_cases outside : target < 0 ∨ target ≥ automation.numFiles
  · rw [if_pos outside] at changed
    cases changed
  · rw [if_neg outside] at changed ⊢
    have moves : automation.currentIndex ≠ target := of_decide_eq_true changed
    refine ⟨by omega, by omega, moves, ?_⟩
    simp [moves]

theorem updateCurrentIndex_unchanged {requestSkip : Bool}
    (unchanged : (c64AutomationUpdateCurrentIndex automation target requestSkip).2 ≠ true) :
    (c64AutomationUpdateCurrentIndex automation target requestSkip).1 = automation := by
  unfold c64AutomationUpdateCurrentIndex at unchanged ⊢
  by_cases outside : target < 0 ∨ target ≥ automation.numFiles
  · rw [if_pos outside]
  · rw [if_neg outside] at unchanged ⊢
    have same : automation.currentIndex = target := by
      by_contra moves
      exact unchanged (decide_eq_true moves)
    subst same
    simp

theorem Promise.withdraw_ne_jump (promise : Promise) (target : Int) :
    promise.withdraw ≠ .jump target := by
  cases promise <;> nofun

theorem Promise.Allows.withdraw {promise : Promise} {item : Int} (allows : promise.Allows item) :
    promise.withdraw.Allows item := by
  cases promise <;> first | exact allows | trivial

theorem Promise.AllowsEnd.withdraw {promise : Promise} {numFiles : Nat} {stopped later : Bool}
    (allows : promise.AllowsEnd numFiles stopped) (stays : stopped = true → later = true) :
    promise.withdraw.AllowsEnd numFiles later := by
  cases promise with
  | nothing => trivial
  | after last => exact Or.imp stays id allows
  | jump target => trivial

theorem PlaylistSound.acceptsJump (sound : PlaylistSound automation) (nonneg : 0 ≤ target)
    (within : target < automation.numFiles) (arrives : JumpArrives automation target) :
    PlaylistSound { automation with
      currentIndex := target
      skipRequested := true
      promise := .jump target } := by
  unfold JumpArrives at arrives
  refine ⟨sound.starts, ?_, ?_, sound.runs⟩
  · rintro _ ⟨⟩
    refine ⟨nonneg, within, ?_⟩
    cases pc : automation.pc <;> rw [pc] at arrives <;>
      first | exact .inl arrives | exact .inl arrives.1 | exact .inr rfl | exact arrives.elim
  · unfold PromiseInPlace
    -- Each place asks for what the condition says there.
    cases pc : automation.pc with
    | init => exact .inr rfl
    | head =>
      rw [pc] at arrives
      exact arrives.2.symm
    | publish =>
      rw [pc] at arrives
      exact arrives.symm
    | play =>
      rw [pc] at arrives
      exact .inr (.inr ⟨rfl, rfl, arrives.2⟩)
    | wait _ _ =>
      rw [pc] at arrives
      exact .inr (.inr ⟨rfl, rfl, arrives.2⟩)
    | afterWait =>
      rw [pc] at arrives
      exact arrives.2.symm
    | finish =>
      rw [pc] at arrives
      exact arrives.elim
    | ended =>
      rw [pc] at arrives
      exact arrives.elim

theorem PlaylistSound.movesIndex (sound : PlaylistSound automation)
    (survives : Playing automation.pc → automation.promise = .after automation.i →
      automation.skipRequested = true → target = automation.i) :
    PlaylistSound { automation with
      currentIndex := target
      promise := automation.promise.withdraw } := by
  refine ⟨sound.starts, fun asked same => absurd same (Promise.withdraw_ne_jump _ _), ?_,
    sound.runs⟩
  have place := sound.place
  have playing := sound.playsAsAsked
  unfold PromiseInPlace at place ⊢
  have plays : Playing automation.pc → PlaysAsAsked { automation with
      currentIndex := target
      promise := automation.promise.withdraw } := by
    intro here
    rcases playing here with nothing | ⟨after, _⟩ | ⟨jump, _, _⟩
    · exact .inl (by rw [nothing]; rfl)
    · exact .inr (.inl ⟨by rw [after]; rfl, survives here after⟩)
    · exact .inl (by rw [jump]; rfl)
  cases pc : automation.pc with
  | init =>
    rw [pc] at place
    rcases place with nothing | jump
    · exact .inl (by rw [nothing]; rfl)
    · exact .inl (by rw [jump]; rfl)
  | head =>
    rw [pc] at place
    exact Promise.Allows.withdraw place
  | publish =>
    rw [pc] at place
    exact Promise.Allows.withdraw place
  | play =>
    rw [pc] at plays
    exact plays trivial
  | wait _ _ =>
    rw [pc] at plays
    exact plays trivial
  | afterWait =>
    rw [pc] at place
    exact Promise.Allows.withdraw place
  | finish =>
    rw [pc] at place
    exact Promise.AllowsEnd.withdraw place id
  | ended =>
    rw [pc] at place
    exact Promise.AllowsEnd.withdraw place id

theorem PlaylistSound.skips (sound : PlaylistSound automation)
    (survives : RequestSurvives automation .skip) :
    PlaylistSound { automation with skipRequested := true } := by
  refine ⟨sound.starts, sound.jumps, ?_, sound.runs⟩
  have place := sound.place
  have playing := sound.playsAsAsked
  unfold PromiseInPlace at place ⊢
  have plays : Playing automation.pc →
      PlaysAsAsked { automation with skipRequested := true } := by
    intro here
    rcases playing here with nothing | ⟨after, _⟩ | ⟨jump, _, other⟩
    · exact .inl nothing
    · exact .inr (.inl ⟨after, fun _ => survives here after⟩)
    · exact .inr (.inr ⟨jump, rfl, other⟩)
  cases pc : automation.pc with
  | play =>
    rw [pc] at plays
    exact plays trivial
  | wait _ _ =>
    rw [pc] at plays
    exact plays trivial
  | init | head | publish | afterWait | finish | ended =>
    rw [pc] at place
    exact place

theorem PlaylistSound.stops (sound : PlaylistSound automation) {later : Bool}
    (stays : automation.shouldStop = true → later = true) :
    PlaylistSound { automation with
      shouldStop := later
      promise := automation.promise.withdraw } := by
  refine ⟨sound.starts, fun asked same => absurd same (Promise.withdraw_ne_jump _ _), ?_,
    sound.runs⟩
  have place := sound.place
  have playing := sound.playsAsAsked
  unfold PromiseInPlace at place ⊢
  have plays : Playing automation.pc → PlaysAsAsked { automation with
      shouldStop := later
      promise := automation.promise.withdraw } := by
    intro here
    rcases playing here with nothing | ⟨after, current⟩ | ⟨jump, _, _⟩
    · exact .inl (by rw [nothing]; rfl)
    · exact .inr (.inl ⟨by rw [after]; rfl, current⟩)
    · exact .inl (by rw [jump]; rfl)
  cases pc : automation.pc with
  | init =>
    rw [pc] at place
    rcases place with nothing | jump
    · exact .inl (by rw [nothing]; rfl)
    · exact .inl (by rw [jump]; rfl)
  | head | publish | afterWait =>
    rw [pc] at place
    exact Promise.Allows.withdraw place
  | play =>
    rw [pc] at plays
    exact plays trivial
  | wait _ _ =>
    rw [pc] at plays
    exact plays trivial
  | finish | ended =>
    rw [pc] at place
    exact Promise.AllowsEnd.withdraw place stays

theorem playlistStep_sound (sound : PlaylistSound automation) {op : PlaylistOp}
    (survives : RequestSurvives automation op) : PlaylistSound (playlistStep automation op) := by
  cases op with
  | worker meets => exact automationWorker_sound sound survives
  | jump target =>
    unfold playlistStep
    unfold RequestSurvives c64AutomationJumpToIndex at survives
    unfold c64AutomationJumpToIndex
    dsimp only
    by_cases changed : (c64AutomationUpdateCurrentIndex automation target true).2 = true
    · obtain ⟨nonneg, within, _, updated⟩ := updateCurrentIndex_changed changed
      cases running : automation.running with
      | true =>
        rw [changed, updated]
        simp only [running, Bool.and_self, if_true, Bool.or_true]
        have accepted := sound.acceptsJump nonneg within (survives changed running)
        rw [running] at accepted
        exact accepted
      | false =>
        -- Without a worker the index is only selected.
        have ended := sound.runs running
        have place := sound.place
        rw [updated]
        simp only [running, Bool.and_false, Bool.false_eq_true, if_false, Bool.or_false]
        unfold PromiseInPlace at place
        rw [ended] at place
        refine ⟨sound.starts, fun asked same => ?_, ?_, fun _ => ended⟩
        · rw [same] at place
          exact place.elim
        · unfold PromiseInPlace
          rw [ended]
          exact place
    · rw [updateCurrentIndex_unchanged changed]
      simp only [changed, Bool.false_and, Bool.false_eq_true, if_false]
      exact sound
  | setCurrent target =>
    unfold playlistStep c64AutomationSetCurrentIndex
    dsimp only
    by_cases changed : (c64AutomationUpdateCurrentIndex automation target false).2 = true
    · obtain ⟨nonneg, within, _, updated⟩ := updateCurrentIndex_changed changed
      rw [changed, updated]
      simp only [if_true, Bool.false_and, Bool.or_false]
      exact sound.movesIndex fun playing after skips => survives playing after skips nonneg within
    · rw [updateCurrentIndex_unchanged changed]
      simp only [changed, Bool.false_eq_true, if_false]
      exact sound
  | skip =>
    simp only [playlistStep, c64AutomationSkipNext]
    by_cases running : automation.running = true
    · rw [if_pos running]
      exact sound.skips survives
    · rw [if_neg running]
      exact sound
  | stop =>
    simp only [playlistStep, c64AutomationStop]
    by_cases running : automation.running = true
    · rw [if_pos running]
      exact sound.stops fun _ => rfl
    · rw [if_neg running]
      exact sound.stops id

/-- In every run whose steps lose no request, each item that starts is the one that was asked for:
the item of the last jump, and after it or after a skip the next one. -/
theorem playlist_requestsHonoured (numFiles : Nat) (startIndex : Int) (ops : List PlaylistOp)
    (survives : EachStep playlistStep RequestSurvives (c64AutomationStart numFiles startIndex)
      ops) :
    Always playlistStep RequestsHonoured (c64AutomationStart numFiles startIndex) ops :=
  (always_of_eachStep (fun _ _ sound survives => playlistStep_sound sound survives) survives
    (c64AutomationStart_sound numFiles startIndex)).imp fun _ sound => sound.requestsHonoured

def playsOneSecond : PlaylistOp := .worker ⟨true, 0, 1⟩

/-- A jump and a skip while items play, then the last item to its end. -/
def jumpAndSkip : List PlaylistOp :=
  List.replicate 5 playsOneSecond ++ [.jump 3] ++ List.replicate 5 playsOneSecond ++ [.skip] ++
    List.replicate 20 playsOneSecond

/-- A jump and a skip that reach the worker while items play are honoured. -/
theorem jumpAndSkip_requestsHonoured :
    Always playlistStep RequestsHonoured (c64AutomationStart 5 0) jumpAndSkip ∧
      (jumpAndSkip.foldl playlistStep (c64AutomationStart 5 0)).starts.map (·.item) = [0, 3, 4] :=
  ⟨playlist_requestsHonoured 5 0 jumpAndSkip (by decide +kernel), by decide +kernel⟩

/-- A jump that comes between the end of an item and the start of the next one. -/
def jumpBetweenItems : List PlaylistOp :=
  List.replicate 15 playsOneSecond ++ [.jump 3] ++ List.replicate 3 playsOneSecond

/-- The worker overwrites the index of a jump between two items, though the jump was accepted. -/
theorem jumpBetweenItems_not_requestsHonoured :
    ¬ Always playlistStep RequestsHonoured (c64AutomationStart 5 0) jumpBetweenItems ∧
      (jumpBetweenItems.foldl playlistStep (c64AutomationStart 5 0)).starts =
        [⟨.nothing, 0⟩, ⟨.jump 3, 1⟩] := by
  decide +kernel

end Requests

section Stops

variable {automation : Automation}

/-- The worker keeps to the files of the playlist. -/
structure InPlaylist (automation : Automation) : Prop where
  current : 0 ≤ automation.currentIndex ∧
    (automation.currentIndex < automation.numFiles ∨ automation.numFiles = 0)
  item : 0 ≤ automation.i
  taken : automation.pc = .publish ∨ Playing automation.pc → automation.i < automation.numFiles
  starts : ∀ start ∈ automation.starts, 0 ≤ start.item ∧ start.item < automation.numFiles
  ended : automation.pc = .ended → automation.running = false

/-- Steps that the worker has left to its end once it is to stop. -/
def PlayerPc.stepsToEnd : PlayerPc → Nat
  | .publish => 6
  | .play => 5
  | .wait _ _ => 4
  | .afterWait | .init => 3
  | .head => 2
  | .finish => 1
  | .ended => 0

/-- The items that were started, and the one that the worker is about to start. -/
def Automation.opened (automation : Automation) : Nat :=
  automation.starts.length + if automation.pc = .publish then 1 else 0

def PlaylistOp.workerSteps : PlaylistOp → Nat
  | .worker _ => 1
  | .jump _ | .setCurrent _ | .skip | .stop => 0

theorem c64AutomationStart_inPlaylist (numFiles : Nat) (startIndex : Int) :
    InPlaylist (c64AutomationStart numFiles startIndex) := by
  refine ⟨?_, Int.le_refl 0, by simp [c64AutomationStart, Playing], by simp [c64AutomationStart],
    by simp [c64AutomationStart]⟩
  simp only [c64AutomationStart]
  split_ifs <;> omega

theorem automationWorker_inPlaylist (inside : InPlaylist automation) (meets : Meets) :
    InPlaylist (automationWorker automation meets) := by
  obtain ⟨current, item, taken, starts, ended⟩ := inside
  unfold automationWorker
  cases pc : automation.pc with
  | init =>
    refine ⟨current, ?_, by simp [Playing], starts, by simp⟩
    dsimp only
    split_ifs <;> omega
  | head =>
    dsimp only
    split_ifs with leaves
    · exact ⟨current, item, by simp [Playing], starts, by simp⟩
    · simp only [Bool.or_eq_true, decide_eq_true_eq, not_or] at leaves
      exact ⟨current, item, fun _ => Int.not_le.mp leaves.1, starts, by simp⟩
  | publish =>
    have within := taken (.inl pc)
    refine ⟨⟨item, .inl within⟩, item, fun _ => within, ?_, by simp⟩
    intro start member
    rcases List.mem_append.mp member with before | new
    · exact starts start before
    · rw [List.mem_singleton.mp new]
      exact ⟨item, within⟩
  | play =>
    have within := taken (.inr (by rw [pc]; trivial))
    dsimp only
    split_ifs
    · exact ⟨current, item, fun _ => within, starts, by simp⟩
    · exact ⟨current, item, fun _ => within, starts, by simp⟩
  | wait songlengthMsOverride elapsedMs =>
    have within := taken (.inr (by rw [pc]; trivial))
    dsimp only
    split_ifs
    · exact ⟨current, item, fun _ => within, starts, by simp⟩
    · exact ⟨current, by simp only; omega, by simp [Playing], starts, by simp⟩
    · exact ⟨current, by simp only; omega, by simp [Playing], starts, by simp⟩
    · exact ⟨current, item, fun _ => within, starts, by simp⟩
  | afterWait => exact ⟨current, by dsimp only; omega, by simp [Playing], starts, by simp⟩
  | finish => exact ⟨current, item, by simp [Playing], starts, fun _ => rfl⟩
  | ended => exact ⟨current, item, taken, starts, ended⟩

theorem playlistStep_inPlaylist (inside : InPlaylist automation) (op : PlaylistOp) :
    InPlaylist (playlistStep automation op) := by
  cases op with
  | worker meets => exact automationWorker_inPlaylist inside meets
  | jump target | setCurrent target =>
    simp only [playlistStep, c64AutomationJumpToIndex, c64AutomationSetCurrentIndex,
      c64AutomationUpdateCurrentIndex]
    obtain ⟨current, item, taken, starts, ended⟩ := inside
    split_ifs <;> exact ⟨by dsimp only; omega, item, taken, starts, ended⟩
  | skip | stop =>
    simp only [playlistStep, c64AutomationSkipNext, c64AutomationStop]
    obtain ⟨current, item, taken, starts, ended⟩ := inside
    split_ifs <;> exact ⟨current, item, taken, starts, ended⟩

theorem playlistStep_stopping (stops : automation.shouldStop = true) (op : PlaylistOp) :
    (playlistStep automation op).shouldStop = true ∧
      (playlistStep automation op).pc.stepsToEnd + op.workerSteps ≤
        max automation.pc.stepsToEnd op.workerSteps ∧
      (playlistStep automation op).opened ≤ automation.opened := by
  cases op with
  | worker meets =>
    simp only [playlistStep, automationWorker, PlaylistOp.workerSteps, Automation.opened]
    cases pc : automation.pc with
    | head => simp [stops, PlayerPc.stepsToEnd]
    | play =>
      dsimp only
      split_ifs <;> simp [stops, PlayerPc.stepsToEnd]
    | wait songlengthMsOverride elapsedMs => simp [stops, PlayerPc.stepsToEnd]
    | _ => simp [stops, pc, PlayerPc.stepsToEnd]
  | jump target | setCurrent target =>
    simp only [playlistStep, c64AutomationJumpToIndex, c64AutomationSetCurrentIndex,
      c64AutomationUpdateCurrentIndex]
    split_ifs <;> exact ⟨stops, Nat.le_max_left _ _, Nat.le_refl _⟩
  | skip | stop =>
    simp only [playlistStep, c64AutomationSkipNext, c64AutomationStop]
    split_ifs <;> exact ⟨by simp [stops], Nat.le_max_left _ _, Nat.le_refl _⟩

theorem playlistRun_stopping (stops : automation.shouldStop = true) (ops : List PlaylistOp) :
    (ops.foldl playlistStep automation).pc.stepsToEnd ≤
        automation.pc.stepsToEnd - (ops.map PlaylistOp.workerSteps).sum ∧
      (ops.foldl playlistStep automation).opened ≤ automation.opened := by
  -- The induction is on the steps: those of the worker lead towards its end.
  induction ops generalizing automation with
  | nil => exact ⟨Nat.le_refl _, Nat.le_refl _⟩
  | cons op rest ih =>
    obtain ⟨still, nearer, opened⟩ := playlistStep_stopping stops op
    obtain ⟨ends, starts⟩ := ih still
    rw [List.foldl_cons, List.map_cons, List.sum_cons]
    exact ⟨by omega, Nat.le_trans starts opened⟩

theorem PlayerPc.stepsToEnd_le (pc : PlayerPc) :
    pc.stepsToEnd ≤ 6 ∧ (pc.stepsToEnd = 0 → pc = .ended) := by
  cases pc <;> simp [PlayerPc.stepsToEnd]

/-- Whatever is asked and whichever files fail, every item that is started is one of the playlist.
Once a stop is made, at most one more is started, and six steps of the worker lead to its end. -/
theorem playlist_stops (numFiles : Nat) (startIndex : Int) (before behind : List PlaylistOp)
    (running : (before.foldl playlistStep (c64AutomationStart numFiles startIndex)).running = true) :
    let asked := before.foldl playlistStep (c64AutomationStart numFiles startIndex)
    let last := (.stop :: behind).foldl playlistStep asked
    InPlaylist last ∧ last.starts.length ≤ asked.starts.length + 1 ∧
      (6 ≤ (behind.map PlaylistOp.workerSteps).sum → last.pc = .ended ∧ last.running = false) := by
  intro asked last
  have inside : InPlaylist last := by
    have always := @always_of_step _ _ playlistStep InPlaylist
      (fun _ op inside => playlistStep_inPlaylist inside op) _
      (c64AutomationStart_inPlaylist numFiles startIndex) (before ++ .stop :: behind)
    have along := always.last
    rwa [List.foldl_append] at along
  have stops : (playlistStep asked .stop).shouldStop = true := by
    simp [playlistStep, c64AutomationStop, asked, running]
  obtain ⟨ends, opened⟩ := playlistRun_stopping stops behind
  have same : (playlistStep asked .stop).opened = asked.opened := by
    simp [playlistStep, c64AutomationStop, asked, running, Automation.opened]
  refine ⟨inside, ?_, fun enough => ?_⟩
  · have bound : asked.opened ≤ asked.starts.length + 1 := by
      unfold Automation.opened
      split_ifs <;> omega
    exact Nat.le_trans (Nat.le_add_right _ _) (Nat.le_trans opened (same ▸ bound))
  · have far := (playlistStep asked .stop).pc.stepsToEnd_le.1
    have none : last.pc.stepsToEnd = 0 := by
      have bound : last.pc.stepsToEnd ≤ _ := ends
      omega
    have atEnd := last.pc.stepsToEnd_le.2 none
    exact ⟨atEnd, inside.ended atEnd⟩

/-- A stop between the test of the loop and the publishing of the item still starts that item. -/
theorem playlist_stops_publish :
    let asked := (List.replicate 2 playsOneSecond).foldl playlistStep (c64AutomationStart 5 0)
    let last := (.stop :: List.replicate 6 playsOneSecond).foldl playlistStep asked
    asked.starts = [] ∧ last.starts.length = 1 ∧ InPlaylist last ∧
      last.pc = .ended ∧ last.running = false := by
  have stopped := playlist_stops 5 0 (List.replicate 2 playsOneSecond)
    (List.replicate 6 playsOneSecond) (by decide)
  exact ⟨by decide, by decide, stopped.1, stopped.2.2 (by decide)⟩

end Stops

end C64Stream
