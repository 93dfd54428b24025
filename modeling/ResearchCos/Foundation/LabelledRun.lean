import Mathlib.Data.List.Infix

namespace Foundation

/-!
# Finite runs of a partial labelled step function

A machine is a partial function from a state and a label to the next state.
`exec` follows a finite label list; `observe` concatenates what each step of
the run emits.  `AllSteps` is the shape of a condition that every step of a run
meets, read on the state *before* the step.
-/

variable {σ α β : Type}

/-- Follow a finite label list; `none` when some label is not enabled. -/
def exec (step : σ → α → Option σ) : σ → List α → Option σ
  | state, [] => some state
  | state, label :: rest => (step state label).bind (exec step · rest)

/-- Concatenate the observations of every step of a run. -/
def observe
    (step : σ → α → Option σ)
    (out : σ → α → List β) :
    σ → List α → List β
  | _, [] => []
  | state, label :: rest =>
      out state label ++
        match step state label with
        | none => []
        | some next => observe step out next rest

/-- A condition met by every step of the run that follows `labels`. -/
def AllSteps
    (step : σ → α → Option σ)
    (condition : σ → α → Prop)
    (initial : σ)
    (labels : List α) : Prop :=
  ∀ {earlier label later middle},
    labels = earlier ++ label :: later →
    exec step initial earlier = some middle →
    condition middle label

section Runs

variable {step : σ → α → Option σ}

@[simp] theorem exec_nil
    (state : σ) :
    exec step state [] = some state :=
  rfl

@[simp] theorem exec_cons
    (state : σ)
    (label : α)
    (rest : List α) :
    exec step state (label :: rest) =
      (step state label).bind (exec step · rest) :=
  rfl

/-- A run over a concatenation passes through the boundary state. -/
theorem exec_append
    (initial : σ)
    (first later : List α) :
    exec step initial (first ++ later) =
      (exec step initial first).bind (exec step · later) := by
  induction first generalizing initial with
  | nil =>
      rfl
  | cons label rest inductionHypothesis =>
      cases stepped : step initial label with
      | none =>
          simp [stepped]
      | some next =>
          simp [stepped, inductionHypothesis]

/-- A nonempty run splits into its first part and its last step. -/
theorem exec_snoc_eq_some
    {initial final : σ}
    {labels : List α}
    {label : α}
    (ran : exec step initial (labels ++ [label]) = some final) :
    ∃ middle,
      exec step initial labels = some middle ∧
        step middle label = some final := by
  rw [exec_append] at ran
  cases reached : exec step initial labels with
  | none =>
      simp [reached] at ran
  | some middle =>
      refine ⟨middle, rfl, ?_⟩
      cases stepped : step middle label with
      | none =>
          simp [reached, stepped] at ran
      | some next =>
          simpa [reached, stepped] using ran

/--
Run induction: a statement about the labels followed so far and the state
reached holds of every run once it holds of the empty run and survives a step.
-/
theorem exec_induction
    {initial : σ}
    {motive : List α → σ → Prop}
    (start : motive [] initial)
    (extend :
      ∀ {labels state label next},
        exec step initial labels = some state →
        motive labels state →
        step state label = some next →
        motive (labels ++ [label]) next)
    {labels : List α}
    {final : σ}
    (ran : exec step initial labels = some final) :
    motive labels final := by
  induction labels using List.reverseRecOn generalizing final with
  | nil =>
      simp only [exec_nil, Option.some.injEq] at ran
      exact ran ▸ start
  | append_singleton earlier label inductionHypothesis =>
      obtain ⟨middle, reached, stepped⟩ := exec_snoc_eq_some ran
      exact extend reached (inductionHypothesis reached) stepped

/-- A state predicate kept by every step holds along every run. -/
theorem exec_invariant
    {motive : σ → Prop}
    (kept :
      ∀ {state label next},
        motive state →
        step state label = some next →
        motive next)
    {initial final : σ}
    {labels : List α}
    (holds : motive initial)
    (ran : exec step initial labels = some final) :
    motive final :=
  exec_induction
    (motive := fun _ state => motive state)
    holds
    (fun _ before stepped => kept before stepped)
    ran

/-- The observations of a run extended by one step. -/
theorem observe_snoc
    (out : σ → α → List β)
    {initial middle : σ}
    {labels : List α}
    (ran : exec step initial labels = some middle)
    (label : α) :
    observe step out initial (labels ++ [label]) =
      observe step out initial labels ++ out middle label := by
  induction labels generalizing initial with
  | nil =>
      simp only [exec_nil, Option.some.injEq] at ran
      subst middle
      simp only [List.nil_append, observe, List.append_right_eq_self]
      cases step initial label <;> rfl
  | cons head rest inductionHypothesis =>
      cases stepped : step initial head with
      | none =>
          simp [stepped] at ran
      | some next =>
          simp only [exec_cons, stepped, Option.bind_some] at ran
          simp [observe, stepped, inductionHypothesis ran]

/-- A condition met by every step holds along every prefix. -/
theorem AllSteps.of_append
    {condition : σ → α → Prop}
    {initial : σ}
    {first later : List α}
    (met : AllSteps step condition initial (first ++ later)) :
    AllSteps step condition initial first := by
  intro earlier label rest middle shape reached
  exact met (by rw [shape, List.append_assoc, List.cons_append]) reached

/-- The last step of a run meets a condition that every step meets. -/
theorem AllSteps.last
    {condition : σ → α → Prop}
    {initial middle : σ}
    {labels : List α}
    {label : α}
    (met : AllSteps step condition initial (labels ++ [label]))
    (ran : exec step initial labels = some middle) :
    condition middle label :=
  met rfl ran

/-- A condition survives one more step that meets it. -/
theorem AllSteps.snoc
    {condition : σ → α → Prop}
    {initial middle : σ}
    {labels : List α}
    {label : α}
    (met : AllSteps step condition initial labels)
    (ran : exec step initial labels = some middle)
    (holds : condition middle label) :
    AllSteps step condition initial (labels ++ [label]) := by
  intro earlier other later reached shape execEarlier
  rcases List.eq_nil_or_concat later with isLast | ⟨before, final, notLast⟩
  · subst later
    obtain ⟨sameLabels, sameLabel⟩ :=
      List.append_inj' shape rfl
    subst sameLabels
    cases sameLabel
    cases ran.symm.trans execEarlier
    exact holds
  · subst later
    rw [List.concat_eq_append, ← List.cons_append, ← List.append_assoc]
      at shape
    exact met (List.append_inj' shape rfl).1 execEarlier

/-- A state predicate kept by every step that meets a condition. -/
theorem AllSteps.invariant
    {motive : σ → Prop}
    {condition : σ → α → Prop}
    (kept :
      ∀ {state label next},
        motive state →
        condition state label →
        step state label = some next →
        motive next)
    {initial final : σ}
    {labels : List α}
    (holds : motive initial)
    (met : AllSteps step condition initial labels)
    (ran : exec step initial labels = some final) :
    motive final := by
  induction labels using List.reverseRecOn generalizing final with
  | nil =>
      cases ran
      exact holds
  | append_singleton earlier label inductionHypothesis =>
      obtain ⟨middle, reached, stepped⟩ := exec_snoc_eq_some ran
      exact
        kept (inductionHypothesis met.of_append reached) (met.last reached)
          stepped

/--
What a run emits is good when every step emits only good things from a state
with an invariant that the steps of the run keep.
-/
theorem AllSteps.forall_mem_observe
    {motive : σ → Prop}
    {condition : σ → α → Prop}
    {out : σ → α → List β}
    {good : β → Prop}
    (kept :
      ∀ {state label next},
        motive state →
        condition state label →
        step state label = some next →
        motive next)
    (emits :
      ∀ {state label}, motive state → ∀ emitted ∈ out state label, good emitted)
    {initial final : σ}
    {labels : List α}
    (holds : motive initial)
    (met : AllSteps step condition initial labels)
    (ran : exec step initial labels = some final) :
    ∀ emitted ∈ observe step out initial labels, good emitted := by
  induction labels using List.reverseRecOn generalizing final with
  | nil =>
      intro emitted member
      cases member
  | append_singleton earlier label inductionHypothesis =>
      obtain ⟨middle, reached, stepped⟩ := exec_snoc_eq_some ran
      rw [observe_snoc out reached label]
      intro emitted member
      rcases List.mem_append.mp member with before | now
      · exact inductionHypothesis met.of_append reached emitted before
      · exact
          emits (AllSteps.invariant kept holds met.of_append reached) emitted
            now

/-- The empty run has no step that could miss a condition. -/
theorem allSteps_nil
    (condition : σ → α → Prop)
    (initial : σ) :
    AllSteps step condition initial [] := by
  intro earlier label later middle shape _
  simp at shape

/-- A condition on labels alone is met when all labels of the run meet it. -/
theorem allSteps_of_labels
    {condition : α → Prop}
    {labels : List α}
    (met : ∀ label ∈ labels, condition label)
    (initial : σ) :
    AllSteps step (fun _ label => condition label) initial labels := by
  intro earlier label later middle shape _
  exact met label (shape ▸ List.mem_append_right _ List.mem_cons_self)

/-- The first step meets the condition, and so do the steps after it. -/
theorem allSteps_cons
    {condition : σ → α → Prop}
    {initial : σ}
    {label : α}
    {rest : List α} :
    AllSteps step condition initial (label :: rest) ↔
      condition initial label ∧
        ∀ next ∈ step initial label, AllSteps step condition next rest := by
  constructor
  · intro met
    refine ⟨met (List.nil_append _).symm rfl, ?_⟩
    intro next stepped earlier other later middle shape ran
    have stepsTo : step initial label = some next := stepped
    have longer : label :: rest = (label :: earlier) ++ other :: later := by
      rw [shape, List.cons_append]
    exact met longer (by rw [exec_cons, stepsTo]; exact ran)
  · rintro ⟨first, others⟩ earlier other later middle shape ran
    cases earlier with
    | nil =>
        cases shape
        cases ran
        exact first
    | cons head tail =>
        obtain ⟨rfl, restShape⟩ := List.cons.inj shape
        obtain ⟨next, stepped, ranRest⟩ := Option.bind_eq_some_iff.mp ran
        exact others next stepped restShape ranRest

/--
Where every step keeps a property exactly under a condition, the property holds
in every state of a run exactly when every step of the run meets the condition.
-/
theorem everyState_iff_allSteps
    {motive : List α → σ → Prop}
    {condition : σ → α → Prop}
    {initial : σ}
    (start : motive [] initial)
    (kept :
      ∀ {labels state label next},
        exec step initial labels = some state →
        motive labels state →
        step state label = some next →
        (motive (labels ++ [label]) next ↔ condition state label))
    {labels : List α}
    {final : σ}
    (ran : exec step initial labels = some final) :
    (∀ earlier later state,
        labels = earlier ++ later →
        exec step initial earlier = some state →
        motive earlier state) ↔
      AllSteps step condition initial labels := by
  induction labels using List.reverseRecOn generalizing final with
  | nil =>
      refine iff_of_true ?_ (allSteps_nil condition initial)
      intro earlier later state shape reached
      obtain ⟨rfl, rfl⟩ := List.append_eq_nil_iff.mp shape.symm
      cases reached
      exact start
  | append_singleton before label inductionHypothesis =>
      obtain ⟨middle, reached, stepped⟩ := exec_snoc_eq_some ran
      constructor
      · intro everywhere
        have metBefore : AllSteps step condition initial before := by
          refine (inductionHypothesis reached).mp ?_
          intro earlier later state shape
          exact everywhere earlier (later ++ [label]) state
            (by rw [shape, List.append_assoc])
        have atMiddle := everywhere before [label] middle rfl reached
        have atFinal := everywhere _ [] final (List.append_nil _).symm ran
        have last : condition middle label :=
          (kept reached atMiddle stepped).mp atFinal
        intro earlier other later state shape ranEarlier
        exact AllSteps.snoc metBefore reached last shape ranEarlier
      · intro met earlier later state shape ranEarlier
        have everywhereBefore :=
          (inductionHypothesis reached).mpr met.of_append
        rcases List.eq_nil_or_concat later with isWhole | ⟨rest, final', isPart⟩
        · subst later
          rw [List.append_nil] at shape
          subst shape
          cases ran.symm.trans ranEarlier
          have atMiddle :=
            everywhereBefore before [] middle (List.append_nil _).symm reached
          exact (kept reached atMiddle stepped).mpr (met.last reached)
        · subst later
          rw [List.concat_eq_append, ← List.append_assoc] at shape
          exact
            everywhereBefore earlier rest state (List.append_inj' shape rfl).1
              ranEarlier

/-- Following the run decides whether every step meets the condition. -/
instance AllSteps.decidable
    {condition : σ → α → Prop}
    [∀ state label, Decidable (condition state label)] :
    ∀ (initial : σ) (labels : List α),
      Decidable (AllSteps step condition initial labels)
  | initial, [] => isTrue (allSteps_nil condition initial)
  | initial, label :: rest =>
      match stepped : step initial label with
      | none =>
          decidable_of_iff (condition initial label) (by
            rw [allSteps_cons, stepped]
            simp)
      | some next =>
          have : Decidable (AllSteps step condition next rest) :=
            AllSteps.decidable next rest
          decidable_of_iff
            (condition initial label ∧ AllSteps step condition next rest)
            (by
              rw [allSteps_cons, stepped]
              simp)

/-- A run emits nothing exactly when none of its steps does. -/
theorem observe_eq_nil_iff
    (out : σ → α → List β)
    {initial final : σ}
    {labels : List α}
    (ran : exec step initial labels = some final) :
    observe step out initial labels = [] ↔
      AllSteps step (fun state label => out state label = []) initial
        labels := by
  induction labels using List.reverseRecOn generalizing final with
  | nil =>
      exact
        iff_of_true rfl
          (allSteps_nil (fun state label => out state label = []) initial)
  | append_singleton earlier label inductionHypothesis =>
      obtain ⟨middle, reached, stepped⟩ := exec_snoc_eq_some ran
      rw [observe_snoc out reached label, List.append_eq_nil_iff,
        inductionHypothesis reached]
      constructor
      · rintro ⟨earlierEmpty, lastEmpty⟩
        exact AllSteps.snoc earlierEmpty reached lastEmpty
      · intro met
        exact ⟨met.of_append, met.last reached⟩

end Runs

end Foundation
