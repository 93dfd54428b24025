import Mathlib.Data.List.Basic

namespace Foundation

/-!
# Steps under exception filters

A step that may raise stands in front of the rest of a program.  The filter
beside it says which exceptions its handler takes; any other one leaves the
program.  The rules below turn a program of such steps into one condition for
each step.
-/

variable {ε α β : Type}

/-- The program ends with a value. -/
def Returns (outcome : Except ε β) : Prop :=
  ∃ value, outcome = .ok value

/-- Run a step under a filter, then the rest of the program. -/
def guarded
    (admits : ε → Bool)
    (handle : ε → β)
    (step : Except ε α)
    (rest : α → Except ε β) : Except ε β :=
  match step with
  | .ok value => rest value
  | .error raised =>
      if admits raised then .ok (handle raised) else .error raised

/-- Without a filter the step must not raise. -/
theorem returns_bind_iff
    {step : Except ε α}
    {rest : α → Except ε β} :
    Returns (step.bind rest) ↔
      ∃ value, step = .ok value ∧ Returns (rest value) := by
  cases step with
  | ok value =>
      simp [Except.bind]
  | error raised =>
      simp [Except.bind, Returns]

/-- Under a filter the step may raise what the filter admits. -/
theorem returns_guarded_iff
    {admits : ε → Bool}
    {handle : ε → β}
    {step : Except ε α}
    {rest : α → Except ε β} :
    Returns (guarded admits handle step rest) ↔
      (∀ raised, step = .error raised → admits raised = true) ∧
        ∀ value, step = .ok value → Returns (rest value) := by
  cases step with
  | ok value =>
      simp [guarded]
  | error raised =>
      cases admitted : admits raised with
      | true =>
          simp [guarded, Returns, admitted]
      | false =>
          simp [guarded, Returns, admitted]

/-- A result comes from the handler or from the rest of the program. -/
theorem guarded_eq_ok
    {admits : ε → Bool}
    {handle : ε → β}
    {step : Except ε α}
    {rest : α → Except ε β}
    {result : β}
    (returned : guarded admits handle step rest = .ok result) :
    (∃ raised, step = .error raised ∧ handle raised = result) ∨
      ∃ value, step = .ok value ∧ rest value = .ok result := by
  cases step with
  | ok value =>
      exact Or.inr ⟨value, rfl, returned⟩
  | error raised =>
      simp only [guarded] at returned
      split at returned
      · exact Or.inl ⟨raised, rfl, Except.ok.inj returned⟩
      · cases returned

/-- A sequence has a result when both of its parts have one. -/
theorem bind_eq_ok_iff
    {step : Except ε α}
    {rest : α → Except ε β}
    {result : β} :
    step.bind rest = .ok result ↔
      ∃ value, step = .ok value ∧ rest value = .ok result := by
  cases step with
  | ok value =>
      simp [Except.bind]
  | error raised =>
      simp [Except.bind]

end Foundation
