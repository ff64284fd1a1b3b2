import C64Stream.Lib.Effects

/-! Programs that stop at a bad reply: what such a reply says about a whole run. -/

namespace C64Stream

namespace Effectful

variable {Op : Type} {Reply : Op → Type} {α β σ : Type}

/-- Whatever the operations answer, the next operation behind a bad reply is one that stops. -/
def Heeds (bad : (op : Op) → Reply op → Prop) (stops : Op → Prop) :
    Effectful Op Reply α → Prop
  | done _ => True
  | perform op next =>
    ∀ reply, (bad op reply → ∃ last rest, next reply = perform last rest ∧ stops last) ∧
      (¬bad op reply → (next reply).Heeds bad stops)

variable {bad : (op : Op) → Reply op → Prop} {stops : Op → Prop}

theorem Heeds.single {op : Op} (good : ∀ reply, ¬bad op reply) :
    (perform op (done : Reply op → Effectful Op Reply (Reply op))).Heeds bad stops :=
  fun reply => ⟨fun wrong => absurd wrong (good reply), fun _ => trivial⟩

/-- A continued program heeds the replies if its parts do. -/
theorem Heeds.bind {program : Effectful Op Reply α} {next : α → Effectful Op Reply β}
    (first : program.Heeds bad stops) (second : ∀ result, (next result).Heeds bad stops) :
    (program.bind next).Heeds bad stops := by
  -- The induction follows the program, one operation at a time.
  induction program with
  | done result => exact second result
  | perform op rest ih =>
    intro reply
    constructor
    · intro wrong
      obtain ⟨last, others, same, stop⟩ := (first reply).1 wrong
      refine ⟨last, fun answer => (others answer).bind next, ?_, stop⟩
      show (rest reply).bind next = _
      rw [same]
      rfl
    · intro good
      exact ih reply ((first reply).2 good)

variable {handle : (op : Op) → σ → Option (Reply op) × σ}

/-- After a bad reply a run ends without a result, in the state that the reply left. -/
theorem Heeds.run (still : ∀ op state, stops op → handle op state = (none, state))
    {program : Effectful Op Reply α} (heeds : program.Heeds bad stops) {state : σ} {op : Op}
    {before after : σ} (member : (op, before) ∈ program.performed handle state) {reply : Reply op}
    (replied : handle op before = (some reply, after)) (wrong : bad op reply) :
    program.run handle state = (none, after) := by
  induction program generalizing state with
  | done result => cases member
  | perform first rest ih =>
    simp only [performed, List.mem_cons, Prod.mk.injEq] at member
    rcases member with ⟨rfl, rfl⟩ | later
    · -- The next operation stops, and leaves the state as it is.
      obtain ⟨last, others, same, stop⟩ := (heeds reply).1 wrong
      simp only [Effectful.run, replied, same, still last after stop]
    · cases answered : handle first state with
      | mk answer middle =>
        rw [answered] at later
        cases answer with
        | none => cases later
        | some answer =>
          simp only [Effectful.run, answered]
          by_cases good : bad first answer
          · -- Behind an earlier bad reply, only the operation that stops is performed.
            obtain ⟨last, others, same, stop⟩ := (heeds answer).1 good
            simp only [same, performed, still last middle stop, List.mem_cons, Prod.mk.injEq,
              List.not_mem_nil, or_false] at later
            obtain ⟨rfl, rfl⟩ := later
            rw [still op before stop] at replied
            cases replied
          · exact ih answer ((heeds answer).2 good) later

end Effectful

end C64Stream
