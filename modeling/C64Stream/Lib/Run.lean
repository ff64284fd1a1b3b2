import Mathlib.Tactic

/-! Runs of a deterministic machine over a list of operations, and the rules that reason about them. -/

namespace C64Stream

section Run

variable {State Op : Type*} (step : State → Op → State)

/-- A property holds in every state of a run, the first and the last included. -/
def Always (holds : State → Prop) (state : State) : List Op → Prop
  | [] => holds state
  | op :: rest => holds state ∧ Always holds (step state op) rest

/-- Every step of a run meets a condition on its operation and the state before it. -/
def EachStep (meets : State → Op → Prop) (state : State) : List Op → Prop
  | [] => True
  | op :: rest => meets state op ∧ EachStep meets (step state op) rest

variable {step}

instance decidableAlways {holds : State → Prop} [DecidablePred holds] :
    ∀ (state : State) (ops : List Op), Decidable (Always step holds state ops)
  | state, [] => inferInstanceAs (Decidable (holds state))
  | state, op :: rest =>
    have : Decidable (Always step holds (step state op) rest) := decidableAlways _ rest
    inferInstanceAs (Decidable (holds state ∧ Always step holds (step state op) rest))

instance decidableEachStep {meets : State → Op → Prop}
    [∀ state op, Decidable (meets state op)] :
    ∀ (state : State) (ops : List Op), Decidable (EachStep step meets state ops)
  | _, [] => inferInstanceAs (Decidable True)
  | state, op :: rest =>
    have : Decidable (EachStep step meets (step state op) rest) := decidableEachStep _ rest
    inferInstanceAs (Decidable (meets state op ∧ EachStep step meets (step state op) rest))

theorem Always.start {holds : State → Prop} {state : State} {ops : List Op}
    (always : Always step holds state ops) : holds state := by
  cases ops with
  | nil => exact always
  | cons op rest => exact always.1

theorem Always.last {holds : State → Prop} {state : State} {ops : List Op}
    (always : Always step holds state ops) : holds (ops.foldl step state) := by
  induction ops generalizing state with
  | nil => exact always
  | cons op rest ih => exact ih always.2

/-- A weaker property holds wherever a stronger one does. -/
theorem Always.imp {holds weaker : State → Prop} (weaken : ∀ state, holds state → weaker state)
    {state : State} {ops : List Op} (always : Always step holds state ops) :
    Always step weaker state ops := by
  induction ops generalizing state with
  | nil => exact weaken state always
  | cons op rest ih => exact ⟨weaken state always.1, ih always.2⟩

/-- Two properties that hold along a run hold together along it. -/
theorem Always.and {left right : State → Prop} {state : State} {ops : List Op}
    (first : Always step left state ops) (second : Always step right state ops) :
    Always step (fun state => left state ∧ right state) state ops := by
  induction ops generalizing state with
  | nil => exact ⟨first, second⟩
  | cons op rest ih => exact ⟨⟨first.1, second.1⟩, ih first.2 second.2⟩

/-- Two conditions that every step meets are met together. -/
theorem EachStep.and {left right : State → Op → Prop} {state : State} {ops : List Op}
    (first : EachStep step left state ops) (second : EachStep step right state ops) :
    EachStep step (fun state op => left state op ∧ right state op) state ops := by
  induction ops generalizing state with
  | nil => trivial
  | cons op rest ih => exact ⟨⟨first.1, second.1⟩, ih first.2 second.2⟩

/-- Where a property and a condition give another condition, every step of such a run meets it. -/
theorem EachStep.imp_of_always {holds : State → Prop} {meets gives : State → Op → Prop}
    (give : ∀ state op, holds state → meets state op → gives state op) {state : State}
    {ops : List Op} (each : EachStep step meets state ops) (always : Always step holds state ops) :
    EachStep step gives state ops := by
  induction ops generalizing state with
  | nil => trivial
  | cons op rest ih => exact ⟨give state op always.1 each.1, ih each.2 always.2⟩

/-- Where a property gives a condition, every step of a run that always has it meets the condition. -/
theorem Always.eachStep {holds : State → Prop} {meets : State → Op → Prop}
    (give : ∀ state op, holds state → meets state op) {state : State} {ops : List Op}
    (always : Always step holds state ops) : EachStep step meets state ops := by
  induction ops generalizing state with
  | nil => trivial
  | cons op rest ih => exact ⟨give state op always.1, ih always.2⟩

/-- What every step preserves holds along every run that starts with it. -/
theorem always_of_step {holds : State → Prop}
    (preserved : ∀ state op, holds state → holds (step state op)) {state : State}
    (start : holds state) (ops : List Op) : Always step holds state ops := by
  -- The induction is on the operations, and the step hypothesis carries the property.
  induction ops generalizing state with
  | nil => exact start
  | cons op rest ih => exact ⟨start, ih (preserved state op start)⟩

/-- What the steps that meet a condition preserve holds along every run of such steps. -/
theorem always_of_eachStep {holds : State → Prop} {meets : State → Op → Prop}
    (preserved : ∀ state op, holds state → meets state op → holds (step state op)) {state : State}
    {ops : List Op} (each : EachStep step meets state ops) (start : holds state) :
    Always step holds state ops := by
  induction ops generalizing state with
  | nil => exact start
  | cons op rest ih => exact ⟨start, ih each.2 (preserved state op start each.1)⟩

/-- A property holds along a run exactly when its steps meet the condition that decides it. -/
theorem always_iff_eachStep (context : State → Prop) {holds : State → Prop}
    {meets : State → Op → Prop}
    (decides : ∀ state op, context state → context (step state op) → holds state →
      (holds (step state op) ↔ meets state op))
    {state : State} {ops : List Op} (bound : Always step context state ops)
    (start : holds state) :
    Always step holds state ops ↔ EachStep step meets state ops := by
  -- One step settles the next state, and the rest of the run starts from it.
  induction ops generalizing state with
  | nil => exact ⟨fun _ => trivial, fun _ => start⟩
  | cons op rest ih =>
    have settled := decides state op bound.1 bound.2.start start
    constructor
    · intro always
      have next := always.2.start
      exact ⟨settled.mp next, (ih bound.2 next).mp always.2⟩
    · intro each
      have next := settled.mpr each.1
      exact ⟨start, (ih bound.2 next).mpr each.2⟩

/-- A property that an invariant gives holds along a run exactly when the steps meet the condition
that keeps the invariant, if the property itself forces the condition. -/
theorem always_iff_of_invariant {sound holds : State → Prop} {meets : State → Op → Prop}
    (preserved : ∀ state op, sound state → meets state op → sound (step state op))
    (gives : ∀ state, sound state → holds state)
    (forces : ∀ state op, sound state → holds (step state op) → meets state op)
    {state : State} (start : sound state) (ops : List Op) :
    Always step holds state ops ↔ EachStep step meets state ops := by
  constructor
  · intro always
    induction ops generalizing state with
    | nil => trivial
    | cons op rest ih =>
      -- The property behind the first step forces the condition, which keeps the invariant.
      have met := forces state op start always.2.start
      exact ⟨met, ih (preserved state op start met) always.2⟩
  · intro each
    exact (always_of_eachStep preserved each start).imp gives

end Run

section Reaches

variable {σ : Type*} (step : σ → Option σ)

/-- The states that steps lead to, as long as every state that is left meets a condition. -/
inductive Reaches (meets : σ → Prop) (start : σ) : σ → Prop where
  | start : Reaches meets start start
  | step {state next : σ} (reached : Reaches meets start state) (met : meets state)
      (stepped : step state = some next) : Reaches meets start next

/-- So many steps from a state, if it has them. -/
def stepTimes : Nat → σ → Option σ
  | 0, state => some state
  | n + 1, state => (step state).bind (stepTimes n)

variable {step}

/-- What every step preserves where the condition is met holds in every state reached. -/
theorem Reaches.invariant (holds : σ → Prop) {meets : σ → Prop} {start : σ}
    (preserved : ∀ state next, holds state → meets state → step state = some next → holds next)
    (initial : holds start) {state : σ} (reached : Reaches step meets start state) :
    holds state := by
  induction reached with
  | start => exact initial
  | step _ met stepped ih => exact preserved _ _ ih met stepped

/-- A step in front of a path makes a longer path. -/
theorem Reaches.head {meets : σ → Prop} {start middle state : σ} (met : meets start)
    (stepped : step start = some middle) (reached : Reaches step meets middle state) :
    Reaches step meets start state := by
  induction reached with
  | start => exact .step .start met stepped
  | step _ met stepped ih => exact .step ih met stepped

/-- What some number of steps leads to is reached. -/
theorem reaches_of_stepTimes {n : Nat} {start state : σ}
    (stepped : stepTimes step n start = some state) :
    Reaches step (fun _ => True) start state := by
  induction n generalizing start with
  | zero =>
    rw [← Option.some.inj stepped]
    exact .start
  | succ n ih =>
    simp only [stepTimes, Option.bind_eq_some_iff] at stepped
    obtain ⟨middle, first, others⟩ := stepped
    exact .head trivial first (ih others)

end Reaches

section Inside

variable {σ γ : Type*} (step : σ → Option σ) (inside : σ → Bool)

/-- Step as long as the state is inside, at most so many times: the states that were left, and the
first one outside. -/
def stepsWhile : Nat → σ → Option (List σ × σ)
  | 0, state => if inside state then none else some ([], state)
  | n + 1, state =>
    if inside state then
      (step state).bind fun next =>
        (stepsWhile n next).map fun rest => (state :: rest.1, rest.2)
    else some ([], state)

variable {step inside} {n : Nat} {state last : σ} {states : List σ}

/-- A state outside is not left. -/
theorem stepsWhile_outside (outside : inside state = false)
    (ran : stepsWhile step inside n state = some (states, last)) : states = [] ∧ last = state := by
  -- Neither with steps left nor without is another step taken.
  cases n with
  | zero =>
    rw [stepsWhile, if_neg (by simp [outside])] at ran
    cases ran
    exact ⟨rfl, rfl⟩
  | succ n =>
    rw [stepsWhile, if_neg (by simp [outside])] at ran
    cases ran
    exact ⟨rfl, rfl⟩

/-- A state inside is left for the next one, from which the others follow. -/
theorem stepsWhile_inside (here : inside state = true)
    (ran : stepsWhile step inside n state = some (states, last)) :
    ∃ next others fewer, step state = some next ∧ states = state :: others ∧
      stepsWhile step inside fewer next = some (others, last) := by
  cases n with
  | zero =>
    -- Without a step left there is no state outside to end with.
    rw [stepsWhile, if_pos here] at ran
    cases ran
  | succ n =>
    rw [stepsWhile, if_pos here] at ran
    obtain ⟨next, stepped, ran⟩ := Option.bind_eq_some_iff.mp ran
    obtain ⟨⟨others, final⟩, rest, same⟩ := Option.map_eq_some_iff.mp ran
    obtain ⟨rfl, rfl⟩ := Prod.mk.inj same
    exact ⟨next, others, n, stepped, rfl, rest⟩

/-- What every step from inside preserves holds of the first state outside. -/
theorem stepsWhile_preserves {holds : σ → Prop}
    (preserved : ∀ state next, holds state → inside state = true → step state = some next →
      holds next)
    (start : holds state) (ran : stepsWhile step inside n state = some (states, last)) :
    holds last ∧ inside last = false := by
  -- The induction is on the states that were left.
  induction states generalizing n state with
  | nil =>
    cases here : inside state with
    | false =>
      obtain ⟨-, rfl⟩ := stepsWhile_outside here ran
      exact ⟨start, here⟩
    | true =>
      -- A state inside would have been left.
      obtain ⟨_, _, _, _, left, _⟩ := stepsWhile_inside here ran
      cases left
  | cons first others ih =>
    cases here : inside state with
    | false =>
      obtain ⟨none, -⟩ := stepsWhile_outside here ran
      cases none
    | true =>
      obtain ⟨next, rest, fewer, stepped, left, ran⟩ := stepsWhile_inside here ran
      obtain ⟨-, rfl⟩ := List.cons.inj left
      exact ih (preserved state next start here stepped) ran

/-- One of two lists goes on where the other one ends. -/
def AgreeSoFar (first second : List γ) : Prop :=
  first <+: second ∨ second <+: first

instance decidableAgreeSoFar [DecidableEq γ] (first second : List γ) :
    Decidable (AgreeSoFar first second) :=
  inferInstanceAs (Decidable (_ ∨ _))

/-- Lists that agree have the same head, and their tails agree. -/
theorem agreeSoFar_cons {a b : γ} {first second : List γ}
    (agree : AgreeSoFar (a :: first) (b :: second)) : a = b ∧ AgreeSoFar first second := by
  rcases agree with shorter | longer
  · obtain ⟨same, rest⟩ := List.cons_prefix_cons.mp shorter
    exact ⟨same, .inl rest⟩
  · obtain ⟨same, rest⟩ := List.cons_prefix_cons.mp longer
    exact ⟨same.symm, .inr rest⟩

/-- Two runs that stay alike as long as they are shown the same get outside together. -/
theorem stepsWhile_alike {inside' : σ → Bool} {shown : σ → γ} {meets : σ → Prop}
    {alike same : σ → σ → Prop}
    (both : ∀ first second, alike first second → inside first = true ∧ inside' second = true)
    (apart : ∀ first second, same first second → inside first = false ∧ inside' second = false)
    (stepped : ∀ first second next next', alike first second → meets first →
      shown first = shown second → step first = some next → step second = some next' →
        alike next next' ∨ same next next')
    {n' : Nat} {state' last' : σ} {states' : List σ} (start : alike state state')
    (ran : stepsWhile step inside n state = some (states, last))
    (ran' : stepsWhile step inside' n' state' = some (states', last'))
    (met : ∀ state ∈ states, meets state)
    (agree : AgreeSoFar (states.map shown) (states'.map shown)) : same last last' := by
  -- The induction is on the states that the first run leaves; the second run keeps up with it.
  induction states generalizing n n' state state' states' with
  | nil =>
    obtain ⟨_, _, _, _, left, _⟩ := stepsWhile_inside (both _ _ start).1 ran
    cases left
  | cons first others ih =>
    obtain ⟨next, rest, fewer, step₁, left, ran⟩ := stepsWhile_inside (both _ _ start).1 ran
    obtain ⟨next', rest', fewer', step₂, left', others'⟩ :=
      stepsWhile_inside (both _ _ start).2 ran'
    obtain ⟨rfl, rfl⟩ := List.cons.inj left
    subst left'
    obtain ⟨here, agree⟩ := agreeSoFar_cons agree
    rcases stepped _ _ _ _ start (met _ (List.mem_cons_self ..)) here step₁ step₂ with on | out
    · -- Both are still inside, and the rest of the runs is alike.
      exact ih on ran others' (fun state member => met state (List.mem_cons_of_mem _ member)) agree
    · -- Both are outside, where they stay.
      obtain ⟨-, rfl⟩ := stepsWhile_outside (apart _ _ out).1 ran
      obtain ⟨-, rfl⟩ := stepsWhile_outside (apart _ _ out).2 others'
      exact out

end Inside

end C64Stream
