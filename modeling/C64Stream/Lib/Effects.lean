import Mathlib.Tactic

/-! Programs over a set of operations, and the rules for what running one preserves. -/

namespace C64Stream

/-- A program performs operations one after another and ends with a result. -/
inductive Effectful (Op : Type) (Reply : Op → Type) (α : Type) where
  | done (result : α)
  | perform (op : Op) (next : Reply op → Effectful Op Reply α)

namespace Effectful

variable {Op : Type} {Reply : Op → Type} {α β σ : Type}

/-- Continue a program with one that depends on its result. -/
def bind : Effectful Op Reply α → (α → Effectful Op Reply β) → Effectful Op Reply β
  | done result, next => next result
  | perform op rest, next => perform op fun reply => (rest reply).bind next

instance : Monad (Effectful Op Reply) where
  pure := done
  bind := bind

/-- Run a program; an operation without a reply ends it early. -/
def run (handle : (op : Op) → σ → Option (Reply op) × σ) :
    Effectful Op Reply α → σ → Option α × σ
  | done result, state => (some result, state)
  | perform op next, state =>
    match handle op state with
    | (some reply, after) => (next reply).run handle after
    | (none, after) => (none, after)

/-- The operations that a run performs, each with the state it starts from. -/
def performed (handle : (op : Op) → σ → Option (Reply op) × σ) :
    Effectful Op Reply α → σ → List (Op × σ)
  | done _, _ => []
  | perform op next, state =>
    (op, state) ::
      match handle op state with
      | (some reply, after) => (next reply).performed handle after
      | (none, _) => []

variable {handle : (op : Op) → σ → Option (Reply op) × σ}

@[simp] theorem pure_eq_done (result : α) :
    (pure result : Effectful Op Reply α) = done result := rfl

@[simp] theorem bind_eq (program : Effectful Op Reply α) (next : α → Effectful Op Reply β) :
    (program >>= next) = program.bind next := rfl

/-- Running a continued program runs its parts in turn. -/
theorem run_bind (program : Effectful Op Reply α) (next : α → Effectful Op Reply β) (state : σ) :
    (program.bind next).run handle state =
      match program.run handle state with
      | (some result, after) => (next result).run handle after
      | (none, after) => (none, after) := by
  -- The induction follows the program, one operation at a time.
  induction program generalizing state with
  | done result => rfl
  | perform op rest ih =>
    simp only [bind, run]
    cases replied : handle op state with
    | mk reply after =>
      cases reply with
      | none => rfl
      | some reply => exact ih reply after

/-- A continued program performs the operations of its parts in turn. -/
theorem performed_bind (program : Effectful Op Reply α) (next : α → Effectful Op Reply β)
    (state : σ) :
    (program.bind next).performed handle state =
      program.performed handle state ++
        match program.run handle state with
        | (some result, after) => (next result).performed handle after
        | (none, _) => [] := by
  induction program generalizing state with
  | done result => rfl
  | perform op rest ih =>
    simp only [bind, performed, run, List.cons_append]
    cases replied : handle op state with
    | mk reply after =>
      cases reply with
      | none => rfl
      | some reply => simp only [ih reply after]

/-- What every performed operation respects, the whole run respects. -/
theorem run_relates (rel : σ → σ → Prop) (refl : ∀ state, rel state state)
    (trans : ∀ a b c, rel a b → rel b c → rel a c) (program : Effectful Op Reply α) (state : σ)
    (each : ∀ entry ∈ program.performed handle state, rel entry.2 (handle entry.1 entry.2).2) :
    rel state (program.run handle state).2 := by
  -- The relation is composed along the performed operations.
  induction program generalizing state with
  | done result => exact refl state
  | perform op next ih =>
    simp only [performed] at each
    simp only [run]
    have first : rel state (handle op state).2 := each (op, state) (by simp)
    cases replied : handle op state with
    | mk reply after =>
      simp only [replied] at each first ⊢
      cases reply with
      | none => exact first
      | some reply =>
        refine trans _ _ _ first (ih reply after fun entry member => ?_)
        exact each entry (List.mem_cons_of_mem _ member)

/-- What commutes with every operation commutes with every run. -/
theorem run_commutes {change : σ → σ}
    (each : ∀ op state, handle op (change state) =
      ((handle op state).1, change (handle op state).2))
    (program : Effectful Op Reply α) (state : σ) :
    program.run handle (change state) =
      ((program.run handle state).1, change (program.run handle state).2) := by
  -- The changed run gets the same replies, and so goes the same way.
  induction program generalizing state with
  | done result => rfl
  | perform op next ih =>
    simp only [run, each]
    cases replied : handle op state with
    | mk reply after =>
      cases reply with
      | none => rfl
      | some reply => exact ih reply after

/-- What every operation preserves, every run preserves. -/
theorem run_preserves (holds : σ → Prop)
    (each : ∀ op state, holds state → holds (handle op state).2)
    (program : Effectful Op Reply α) {state : σ} (start : holds state) :
    holds (program.run handle state).2 :=
  run_relates (fun before after => holds before → holds after)
    (fun _ same => same) (fun _ _ _ first second => second ∘ first) program state
    (fun entry _ => each entry.1 entry.2) start

end Effectful

end C64Stream
