import C64Stream.Lib.Effects

/-! A type system for programs: levels at which operations may be performed, and that they lead to. -/

namespace C64Stream

namespace Effectful

variable {Op : Type} {Reply : Op → Type} {α β σ Level : Type}

/-- From one level on, whatever the operations answer, each may be performed, and the program ends at
another level if it does. -/
def Typed (may : Op → Level → Prop) (after : Op → Level → Level) :
    Effectful Op Reply α → Level → Level → Prop
  | done _, level, last => level = last
  | perform op next, level, last =>
    may op level ∧ ∀ reply, (next reply).Typed may after (after op level) last

variable {may : Op → Level → Prop} {after : Op → Level → Level}

/-- A continued program is typed by its parts. -/
theorem Typed.bind {program : Effectful Op Reply α} {next : α → Effectful Op Reply β}
    {level middle last : Level} (first : program.Typed may after level middle)
    (second : ∀ result, (next result).Typed may after middle last) :
    (program.bind next).Typed may after level last := by
  -- The induction follows the program, one operation at a time.
  induction program generalizing level with
  | done result =>
    obtain rfl : level = middle := first
    exact second result
  | perform op rest ih => exact ⟨first.1, fun reply => ih reply (first.2 reply)⟩

/-- Where another type system follows a type system level by level, what one accepts the other
accepts. -/
theorem Typed.image {Level' : Type} {may' : Op → Level' → Prop} {after' : Op → Level' → Level'}
    (image : Level → Level')
    (follows : ∀ op level, may op level →
      may' op (image level) ∧ image (after op level) = after' op (image level))
    {program : Effectful Op Reply α} {level last : Level}
    (typed : program.Typed may after level last) :
    program.Typed may' after' (image level) (image last) := by
  induction program generalizing level with
  | done result => exact congrArg image typed
  | perform op rest ih =>
    obtain ⟨allowed, same⟩ := follows op level typed.1
    refine ⟨allowed, fun reply => ?_⟩
    rw [← same]
    exact ih reply (typed.2 reply)

variable {handle : (op : Op) → σ → Option (Reply op) × σ} {holds : Level → σ → Prop}

/-- Where each operation leads from a level to the next one, so does a whole run. -/
theorem Typed.run
    (sound : ∀ op level state reply next, may op level → holds level state →
      handle op state = (some reply, next) → holds (after op level) next)
    {program : Effectful Op Reply α} {level last : Level}
    (typed : program.Typed may after level last) {state final : σ} (start : holds level state)
    {result : α} (ran : program.run handle state = (some result, final)) : holds last final := by
  induction program generalizing level state with
  | done value =>
    obtain rfl : level = last := typed
    simp only [Effectful.run, Prod.mk.injEq] at ran
    exact ran.2 ▸ start
  | perform op rest ih =>
    simp only [Effectful.run] at ran
    cases replied : handle op state with
    | mk reply next =>
      rw [replied] at ran
      cases reply with
      | none => cases ran
      | some reply =>
        exact ih reply (typed.2 reply) (sound op level state reply next typed.1 start replied) ran

/-- Every operation that a run performs may be performed at the level of its state. -/
theorem Typed.performed
    (sound : ∀ op level state reply next, may op level → holds level state →
      handle op state = (some reply, next) → holds (after op level) next)
    {program : Effectful Op Reply α} {level last : Level}
    (typed : program.Typed may after level last) {state : σ} (start : holds level state) :
    ∀ entry ∈ program.performed handle state, ∃ level, may entry.1 level ∧ holds level entry.2 := by
  induction program generalizing level state with
  | done value => exact fun entry member => nomatch member
  | perform op rest ih =>
    intro entry member
    simp only [Effectful.performed, List.mem_cons] at member
    rcases member with rfl | later
    · exact ⟨level, typed.1, start⟩
    · cases replied : handle op state with
      | mk reply next =>
        rw [replied] at later
        cases reply with
        | none => cases later
        | some reply =>
          exact ih reply (typed.2 reply) (sound op level state reply next typed.1 start replied)
            entry later

/-- What two type systems accept on their own they accept together. -/
theorem Typed.and {Level' : Type} {may' : Op → Level' → Prop} {after' : Op → Level' → Level'}
    {program : Effectful Op Reply α} {level last : Level} {level' last' : Level'}
    (first : program.Typed may after level last) (second : program.Typed may' after' level' last') :
    program.Typed (fun op both => may op both.1 ∧ may' op both.2)
      (fun op both => (after op both.1, after' op both.2)) (level, level') (last, last') := by
  induction program generalizing level level' with
  | done result => exact Prod.ext first second
  | perform op next ih =>
    exact ⟨⟨first.1, second.1⟩, fun reply => ih reply (first.2 reply) (second.2 reply)⟩

/-- Where each operation answers alike states alike and leads to alike states, so does a whole run
from them, as long as none of them fails. -/
theorem Typed.run_alike {alike : Level → σ → σ → Prop}
    (sound : ∀ op level state state' reply reply' next next', may op level →
      alike level state state' → handle op state = (some reply, next) →
        handle op state' = (some reply', next') → reply = reply' ∧ alike (after op level) next next')
    {program : Effectful Op Reply α} {level last : Level}
    (typed : program.Typed may after level last) {state state' final final' : σ}
    (start : alike level state state') {result result' : α}
    (ran : program.run handle state = (some result, final))
    (ran' : program.run handle state' = (some result', final')) :
    result = result' ∧ alike last final final' := by
  -- Equal replies lead both runs to the same rest of the program.
  induction program generalizing level state state' with
  | done value =>
    obtain rfl : level = last := typed
    simp only [Effectful.run, Prod.mk.injEq, Option.some.injEq] at ran ran'
    obtain ⟨rfl, rfl⟩ := ran
    obtain ⟨rfl, rfl⟩ := ran'
    exact ⟨rfl, start⟩
  | perform op rest ih =>
    simp only [Effectful.run] at ran ran'
    cases replied : handle op state with
    | mk reply next =>
      cases replied' : handle op state' with
      | mk reply' next' =>
        rw [replied] at ran
        rw [replied'] at ran'
        cases reply with
        | none => cases ran
        | some reply =>
          cases reply' with
          | none => cases ran'
          | some reply' =>
            obtain ⟨rfl, on⟩ := sound op level _ _ _ _ _ _ typed.1 start replied replied'
            exact ih reply (typed.2 reply) on ran ran'

end Effectful

end C64Stream
