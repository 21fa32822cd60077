import Mathlib.Data.List.Induction

/-!
# Executable step systems

A system is a partial step function over its states: `none` means that the
action is not possible in the state, or that performing it goes wrong.  An
`allowed` relation restricts which actions the environment offers in a state.
The states of the allowed runs are `Reachable`; an invariant is proved for one
step and holds of every reachable state by the rule `Reachable.invariant`.
-/

namespace StepSystem

variable {State Action : Type}

/-- Execute a finite list of actions, stopping at the first impossible one. -/
def run?
    (step? : State → Action → Option State) :
    State → List Action → Option State
  | state, [] =>
      some state
  | state, action :: rest =>
      match step? state action with
      | none =>
          none
      | some next =>
          run? step? next rest

/-- A run is performed in two parts. -/
theorem run?_append
    (step? : State → Action → Option State)
    (state : State)
    (first later : List Action) :
    run? step? state (first ++ later) =
      (run? step? state first).bind fun middle =>
        run? step? middle later := by
  induction first generalizing state with
  | nil =>
      rfl
  | cons action rest inductionHypothesis =>
      simp only [List.cons_append, run?]
      cases step? state action with
      | none =>
          rfl
      | some next =>
          exact inductionHypothesis next

/--
A property of a state and of the actions that led to it, which every further
step keeps, holds at the end of a run.
-/
theorem run?_invariant
    {step? : State → Action → Option State}
    {property : List Action → State → Prop}
    {initial : State}
    (holds : property [] initial)
    (preserved :
      ∀ actions state action next,
        property actions state →
        step? state action = some next →
        property (actions ++ [action]) next)
    {actions : List Action}
    {final : State}
    (accepted : run? step? initial actions = some final) :
    property actions final := by
  induction actions using List.reverseRecOn generalizing final with
  | nil =>
      rw [← Option.some.inj accepted]
      exact holds
  | append_singleton first action inductionHypothesis =>
      rw [run?_append] at accepted
      obtain ⟨middle, isMiddle, isNext⟩ :=
        Option.bind_eq_some_iff.mp accepted
      rw [run?] at isNext
      split at isNext
      · cases isNext
      · rename_i next isStep
        rw [← Option.some.inj isNext]
        exact
          preserved first middle action next (inductionHypothesis isMiddle)
            isStep

/-- Every action of a run is allowed in the state it is performed in. -/
def AllowedRun
    (step? : State → Action → Option State)
    (allowed : State → Action → Prop) :
    State → List Action → Prop
  | _, [] =>
      True
  | state, action :: rest =>
      allowed state action ∧
        match step? state action with
        | none =>
            True
        | some next =>
            AllowedRun step? allowed next rest

/-- Whether a run is allowed is decided by executing it. -/
instance decidableAllowedRun
    (step? : State → Action → Option State)
    (allowed : State → Action → Prop)
    [∀ state action, Decidable (allowed state action)] :
    ∀ state actions,
      Decidable (AllowedRun step? allowed state actions)
  | _, [] =>
      isTrue trivial
  | state, action :: rest =>
      have :
          Decidable
            (match step? state action with
            | none =>
                True
            | some next =>
                AllowedRun step? allowed next rest) :=
        match step? state action with
        | none =>
            isTrue trivial
        | some next =>
            decidableAllowedRun step? allowed next rest
      inferInstanceAs (Decidable (_ ∧ _))

/-- A run is allowed when every action of the system is. -/
theorem allowedRun_of_forall
    {step? : State → Action → Option State}
    {allowed : State → Action → Prop}
    (always : ∀ state action, allowed state action)
    (initial : State)
    (actions : List Action) :
    AllowedRun step? allowed initial actions := by
  induction actions generalizing initial with
  | nil =>
      trivial
  | cons action rest inductionHypothesis =>
      refine ⟨always initial action, ?_⟩
      cases stepped : step? initial action with
      | none =>
          trivial
      | some next =>
          exact inductionHypothesis next

/-- The states that allowed runs from the initial state arrive in. -/
inductive Reachable
    (step? : State → Action → Option State)
    (allowed : State → Action → Prop)
    (initial : State) : State → Prop where
  | initial :
      Reachable step? allowed initial initial
  | step
      {middle final : State}
      {action : Action} :
      Reachable step? allowed initial middle →
      allowed middle action →
      step? middle action = some final →
      Reachable step? allowed initial final

namespace Reachable

variable
  {step? : State → Action → Option State}
  {allowed : State → Action → Prop}
  {initial : State}

/-- A property of the initial state that every allowed step keeps is invariant. -/
@[elab_as_elim] theorem invariant
    {property : State → Prop}
    (holds : property initial)
    (preserved :
      ∀ state action next,
        property state →
        allowed state action →
        step? state action = some next →
        property next)
    {state : State}
    (reachable : Reachable step? allowed initial state) :
    property state := by
  induction reachable with
  | initial =>
      exact holds
  | step _ permitted stepped inductionHypothesis =>
      exact preserved _ _ _ inductionHypothesis permitted stepped

/-- Reachability composes. -/
theorem trans
    {middle final : State}
    (first : Reachable step? allowed initial middle)
    (later : Reachable step? allowed middle final) :
    Reachable step? allowed initial final := by
  induction later with
  | initial =>
      exact first
  | step _ permitted stepped inductionHypothesis =>
      exact .step inductionHypothesis permitted stepped

/-- The final state of an executed allowed run is reachable. -/
theorem of_run?
    {actions : List Action}
    {final : State}
    (permitted : AllowedRun step? allowed initial actions)
    (accepted : run? step? initial actions = some final) :
    Reachable step? allowed initial final := by
  induction actions generalizing initial with
  | nil =>
      simp only [run?, Option.some.injEq] at accepted
      subst final
      exact .initial
  | cons action rest inductionHypothesis =>
      simp only [run?] at accepted
      cases stepped : step? initial action with
      | none =>
          simp [stepped] at accepted
      | some next =>
          simp only [stepped] at accepted
          obtain ⟨allowedFirst, allowedRest⟩ := permitted
          simp only [stepped] at allowedRest
          have first :
              Reachable step? allowed initial next :=
            .step .initial allowedFirst stepped
          exact first.trans
            (inductionHypothesis allowedRest accepted)

/--
Where each step of a system is a run of another one, what the system reaches
is reached there.
-/
theorem of_simulation
    {Other OtherAction : Type}
    {otherStep? : Other → OtherAction → Option Other}
    {otherAllowed : Other → OtherAction → Prop}
    (view : State → Other)
    (simulates :
      ∀ state action next,
        allowed state action →
        step? state action = some next →
        ∃ actions,
          AllowedRun otherStep? otherAllowed (view state) actions ∧
            run? otherStep? (view state) actions = some (view next))
    {state : State}
    (reachable : Reachable step? allowed initial state) :
    Reachable otherStep? otherAllowed (view initial) (view state) := by
  induction reachable with
  | initial =>
      exact .initial
  | step _ permitted stepped inductionHypothesis =>
      obtain ⟨actions, allowedRun, accepted⟩ :=
        simulates _ _ _ permitted stepped
      exact inductionHypothesis.trans (of_run? allowedRun accepted)

end Reachable

end StepSystem
