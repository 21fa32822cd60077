import Mathlib.Data.Option.Basic

/-!
# Pre- and postconditions of partial programs

A program that may go wrong returns an option.  `Spec mayFail result holds`
says that the result satisfies `holds`, and that there is a result unless
`mayFail`.  With `mayFail := False` this is total correctness, with
`mayFail := True` partial correctness; a proof that leaves `mayFail` open
serves both.
-/

namespace PartialProgram

variable {α β : Type} {mayFail : Prop}

/-- The result satisfies a postcondition. -/
def Spec
    (mayFail : Prop)
    (result : Option α)
    (holds : α → Prop) : Prop :=
  match result with
  | none => mayFail
  | some final => holds final

namespace Spec

variable {result : Option α} {holds : α → Prop}

@[simp] theorem some_iff
    {final : α} :
    Spec mayFail (some final) holds ↔ holds final := by
  rfl

@[simp] theorem none_iff :
    Spec mayFail (none : Option α) holds ↔ mayFail := by
  rfl

/-- The postcondition holds of every result. -/
theorem of_result
    {final : α}
    (spec : Spec mayFail result holds)
    (isResult : result = some final) :
    holds final := by
  rw [isResult] at spec
  exact spec

/-- Without permission to fail there is a result. -/
theorem exists_result
    (spec : Spec mayFail result holds)
    (mustNotFail : ¬ mayFail) :
    ∃ final, result = some final ∧ holds final := by
  cases result with
  | none =>
      exact absurd spec mustNotFail
  | some final =>
      exact ⟨final, rfl, spec⟩

/-- Weaken the postcondition. -/
theorem mono
    {weaker : α → Prop}
    (spec : Spec mayFail result holds)
    (implies : ∀ final, holds final → weaker final) :
    Spec mayFail result weaker := by
  cases result with
  | none =>
      exact spec
  | some final =>
      exact implies final spec

/-- Permit failure. -/
theorem orFail
    (spec : Spec mayFail result holds) :
    Spec True result holds := by
  cases result with
  | none =>
      trivial
  | some final =>
      exact spec

/-- What follows may be told which result it continues. -/
theorem withResult
    (spec : Spec mayFail result holds) :
    Spec mayFail result fun final => result = some final ∧ holds final := by
  cases result with
  | none =>
      exact spec
  | some final =>
      exact ⟨rfl, spec⟩

/-- One program after the other. -/
theorem bind
    {next : α → Option β}
    {atEnd : β → Prop}
    (spec : Spec mayFail result holds)
    (later :
      ∀ middle,
        holds middle →
        Spec mayFail (next middle) atEnd) :
    Spec mayFail (result >>= next) atEnd := by
  cases result with
  | none =>
      exact spec
  | some middle =>
      exact later middle spec

/-- One of two programs, and then another one. -/
theorem bind_ite
    {condition : Prop}
    [Decidable condition]
    {first second : Option α}
    {next : α → Option β}
    {atEnd : β → Prop}
    (ifTrue : condition → Spec mayFail first holds)
    (ifFalse : ¬ condition → Spec mayFail second holds)
    (later :
      ∀ middle,
        holds middle →
        Spec mayFail (next middle) atEnd) :
    Spec mayFail
      (if condition then first >>= next else second >>= next)
      atEnd := by
  split
  · rename_i isTrue
    exact (ifTrue isTrue).bind later
  · rename_i isFalse
    exact (ifFalse isFalse).bind later

/-- A choice of two programs, and then another one. -/
theorem ite_bind
    {condition : Prop}
    [Decidable condition]
    {first second : Option α}
    {next : α → Option β}
    {atEnd : β → Prop}
    (spec :
      Spec mayFail (if condition then first else second) holds)
    (later :
      ∀ middle,
        holds middle →
        Spec mayFail (next middle) atEnd) :
    Spec mayFail
      (if condition then first >>= next else second >>= next)
      atEnd := by
  refine bind_ite (fun isTrue => ?_) (fun isFalse => ?_) later
  · rw [if_pos isTrue] at spec
    exact spec
  · rw [if_neg isFalse] at spec
    exact spec

/-- A pointer that is only known not to be null in the total reading. -/
theorem bind_known
    {next : α → Option β}
    {atEnd : β → Prop}
    (known : ¬ mayFail → result.isSome = true)
    (later :
      ∀ middle,
        result = some middle →
        Spec mayFail (next middle) atEnd) :
    Spec mayFail (result >>= next) atEnd := by
  cases result with
  | none =>
      by_contra mustNotFail
      exact absurd (known mustNotFail) (by simp)
  | some middle =>
      exact later middle rfl

/-- A pointer of which nothing is known, where failure is permitted. -/
theorem bind_any
    {next : α → Option β}
    {atEnd : β → Prop}
    (later : ∀ middle, Spec True (next middle) atEnd) :
    Spec True (result >>= next) atEnd := by
  cases result with
  | none =>
      trivial
  | some middle =>
      exact later middle

/-- The result of a program is changed at the end. -/
theorem map
    {change : α → β}
    {atEnd : β → Prop}
    (spec : Spec mayFail result holds)
    (implies : ∀ final, holds final → atEnd (change final)) :
    Spec mayFail (result.map change) atEnd := by
  cases result with
  | none =>
      exact spec
  | some final =>
      exact implies final spec

end Spec

end PartialProgram
