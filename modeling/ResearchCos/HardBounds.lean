import ResearchCos.Graph

namespace ResearchCos

open Foundation

/-!
# Where the hard bounds end a run

Once the router has seen a hard bound it sends the run to the deep audit.  The
run is over after that, unless the decision of the moment was to ask the human:
the deep audit then hands the run to the pull gate, which does not look at the
bounds before it asks.
-/

/-- The decision is about to be routed with the cap or the ceiling hit. -/
def AtHardBound (execution : Execution) (env : StepEnv) : Prop :=
  execution.control = .at .cosDecision ∧
    (RunCap.capHitNow env.cap = true ∨ ceilingHit execution.graph = true)

instance (execution : Execution) (env : StepEnv) :
    Decidable (AtHardBound execution env) :=
  inferInstanceAs (Decidable (_ ∧ (_ ∨ _)))

/-- The places of a run that wraps up. -/
def InWrapUp : Control → Prop
  | .at .deepAudit => True
  | .at .humanReview => True
  | .pausedAt .humanReview _ => True
  | .ended => True
  | .crashed => True
  | _ => False

/-- How many steps a run in the wrap-up has left at most. -/
def wrapUpSteps : Control → Nat
  | .at .deepAudit => 3
  | .at .humanReview => 2
  | .pausedAt _ _ => 1
  | _ => 0

section Runs

variable [PythonText]

/--
However the run continues, it stays in the wrap-up, it is over within three
steps, and it waits for nothing but an answer to the review.
-/
def WrapsUp (execution : Execution) : Prop :=
  ∀ labels final,
    exec step execution labels = some final →
    InWrapUp final.control ∧
      labels.length ≤ 3 ∧
      (final.control = .ended ∨
        final.control = .crashed ∨
        ∀ env, env.answer.isSome = true → (step final env).isSome = true)

/-- A run in the wrap-up that will not turn to the pull gate. -/
structure WrappingUp (execution : Execution) : Prop where
  inWrapUp : InWrapUp execution.control
  noPull :
    execution.control = .at .deepAudit →
      execution.graph.lastDecision ≠ some .pullHuman

omit [PythonText] in
/-- The deep audit writes the research state only. -/
theorem nodeDeepAudit_lastDecision
    {env : StepEnv}
    {state : GraphState}
    {update : Update}
    (audited : nodeDeepAudit env state = some update) :
    update.lastDecision = none := by
  unfold nodeDeepAudit at audited
  split at audited
  · exact Option.some.inj audited ▸ rfl
  · obtain ⟨audit, _, rfl⟩ := Option.map_eq_some_iff.mp audited
    rfl

omit [PythonText] in
/-- An optional update never pauses. -/
theorem ofOption_ne_interrupt
    {world after : World}
    {ask : Ask}
    {update : Option Update} :
    NodeResult.ofOption world update ≠ .interrupt ask after := by
  cases update <;> simp [NodeResult.ofOption]

/-- A review that has its answer does not pause. -/
theorem nodeHumanReview_answered
    {env : StepEnv}
    {state : GraphState}
    {world after : World}
    {ask : Ask}
    (answered : env.answer.isSome = true) :
    nodeHumanReview env state world ≠ .interrupt ask after := by
  obtain ⟨answer, isAnswer⟩ := Option.isSome_iff_exists.mp answered
  unfold nodeHumanReview
  rw [isAnswer]
  repeat' split
  all_goals simp_all

/-- A visit of the deep audit crashes or leads to the review. -/
theorem visit_deepAudit
    (env : StepEnv)
    {execution : Execution}
    (noPull : execution.graph.lastDecision ≠ some .pullHuman) :
    (visit env .deepAudit execution).control = .crashed ∨
      (visit env .deepAudit execution).control = .at .humanReview := by
  rcases visit_cases env .deepAudit execution with
      ⟨world, raised⟩ | ⟨ask, world, paused, _⟩ | ⟨update, world, ran, updated⟩
  · exact Or.inl (by rw [raised])
  · exact absurd paused ofOption_ne_interrupt
  · right
    have audited : nodeDeepAudit env execution.graph = some update := by
      cases result : nodeDeepAudit env execution.graph <;>
        simp_all [runNode, NodeResult.ofOption]
    have decisionKept :
        (execution.graph.apply update).lastDecision =
          execution.graph.lastDecision := by
      simp [GraphState.apply, nodeDeepAudit_lastDecision audited]
    have noPullNow :
        (execution.graph.lastDecision.getD .continueResearch) ≠
          .pullHuman := by
      cases decision : execution.graph.lastDecision with
      | none =>
          simp
      | some decided =>
          simpa [decision] using noPull
    rw [updated]
    simp [successor, routeAfterDeepAudit, decisionKept, noPullNow]

/-- A visit of the review pauses there, ends the run or crashes. -/
theorem visit_humanReview
    (env : StepEnv)
    (execution : Execution) :
    (visit env .humanReview execution).control = .crashed ∨
      (visit env .humanReview execution).control = .ended ∨
      (env.answer.isSome = false ∧
        ∃ ask,
          (visit env .humanReview execution).control =
            .pausedAt .humanReview ask) := by
  rcases visit_cases env .humanReview execution with
      ⟨world, raised⟩ | ⟨ask, world, paused, unchanged⟩ |
        ⟨update, world, _, updated⟩
  · exact Or.inl (by rw [raised])
  · right
    right
    refine ⟨?_, ask, by rw [unchanged]⟩
    by_contra answered
    rw [Bool.not_eq_false] at answered
    exact nodeHumanReview_answered answered paused
  · exact Or.inr (Or.inl (by rw [updated]; rfl))

/-- A run that is not over goes on once it has an answer. -/
theorem step_enabled
    (execution : Execution) :
    execution.control = .ended ∨
      execution.control = .crashed ∨
      ∀ env,
        env.answer.isSome = true → (step execution env).isSome = true := by
  cases standsAt : execution.control with
  | «at» node =>
      right
      right
      intro env _
      simp [step, standsAt]
  | pausedAt node ask =>
      right
      right
      intro env answered
      simp [step, standsAt, answered]
  | ended =>
      exact Or.inl rfl
  | crashed =>
      exact Or.inr (Or.inl rfl)

omit [PythonText] in
/-- A run that is past the deep audit wraps up. -/
theorem wrappingUp_past_audit
    {execution : Execution}
    {control : Control}
    (stands : execution.control = control)
    (inWrapUp : InWrapUp control)
    (audited : control ≠ .at .deepAudit) :
    WrappingUp execution :=
  ⟨stands ▸ inWrapUp, fun again => absurd (stands.symm.trans again) audited⟩

/-- Leaving the deep audit without a pull is a step of the wrap-up. -/
theorem wrappingUp_after_deepAudit
    (env : StepEnv)
    {execution : Execution}
    (noPull : execution.graph.lastDecision ≠ some .pullHuman) :
    WrappingUp (visit env .deepAudit execution) ∧
      wrapUpSteps (visit env .deepAudit execution).control < 3 := by
  rcases visit_deepAudit env noPull with crashed | reviews
  · exact ⟨wrappingUp_past_audit crashed trivial (by simp),
      by simp [crashed, wrapUpSteps]⟩
  · exact ⟨wrappingUp_past_audit reviews trivial (by simp),
      by simp [reviews, wrapUpSteps]⟩

/-- A review that pauses or is over is a step of the wrap-up. -/
theorem wrappingUp_after_humanReview
    (env : StepEnv)
    (execution : Execution) :
    WrappingUp (visit env .humanReview execution) ∧
      wrapUpSteps (visit env .humanReview execution).control ≤ 1 ∧
      (env.answer.isSome = true →
        wrapUpSteps (visit env .humanReview execution).control = 0) := by
  rcases visit_humanReview env execution with
      crashed | ended | ⟨unanswered, ask, paused⟩
  · exact ⟨wrappingUp_past_audit crashed trivial (by simp),
      by simp [crashed, wrapUpSteps], by simp [crashed, wrapUpSteps]⟩
  · exact ⟨wrappingUp_past_audit ended trivial (by simp),
      by simp [ended, wrapUpSteps], by simp [ended, wrapUpSteps]⟩
  · exact ⟨wrappingUp_past_audit paused trivial (by simp),
      by simp [paused, wrapUpSteps], by simp [unanswered]⟩

/-- Every step of the wrap-up stays in it and comes closer to its end. -/
theorem WrappingUp.step
    {execution next : Execution}
    {env : StepEnv}
    (wrapping : WrappingUp execution)
    (stepped : step execution env = some next) :
    WrappingUp next ∧
      wrapUpSteps next.control < wrapUpSteps execution.control := by
  rcases step_visits stepped with ⟨node, seen, visits, rfl⟩
  have inWrapUp := wrapping.inWrapUp
  cases visits with
  | entered standsAt =>
      rw [standsAt] at inWrapUp ⊢
      cases node with
      | deepAudit =>
          exact wrappingUp_after_deepAudit _ (wrapping.noPull standsAt)
      | humanReview =>
          rcases wrappingUp_after_humanReview _ execution with
              ⟨stillWrapping, closer, _⟩
          exact ⟨stillWrapping, Nat.lt_succ_of_le closer⟩
      | _ =>
          exact absurd inWrapUp (by simp [InWrapUp])
  | resumed standsAt answered =>
      rw [standsAt] at inWrapUp ⊢
      cases node with
      | humanReview =>
          rcases wrappingUp_after_humanReview env execution with
              ⟨stillWrapping, _, spent⟩
          exact ⟨stillWrapping, by rw [spent answered]; exact Nat.one_pos⟩
      | _ =>
          exact absurd inWrapUp (by simp [InWrapUp])

/-- A run in the wrap-up never leaves it and is over within its step bound. -/
theorem WrappingUp.run
    {execution final : Execution}
    {labels : List StepEnv}
    (wrapping : WrappingUp execution)
    (ran : exec ResearchCos.step execution labels = some final) :
    WrappingUp final ∧
      labels.length + wrapUpSteps final.control ≤
        wrapUpSteps execution.control := by
  apply exec_induction
    (motive := fun labels reached =>
      WrappingUp reached ∧
        labels.length + wrapUpSteps reached.control ≤
          wrapUpSteps execution.control)
    ⟨wrapping, by simp⟩ ?_ ran
  intro earlier state env next _ soFar stepped
  obtain ⟨stillWrapping, closer⟩ := soFar.1.step stepped
  refine ⟨stillWrapping, ?_⟩
  have bounded := soFar.2
  simp only [List.length_append, List.length_cons, List.length_nil]
  omega

omit [PythonText] in
/-- Deciding changes neither the iteration count nor the bounds. -/
theorem ceilingHit_decideCos
    (emitDespiteDegradedAudit : Bool)
    (state : GraphState) :
    ceilingHit (state.apply (decideCos emitDespiteDegradedAudit state)) =
      ceilingHit state := by
  have counted :
      (decideCos emitDespiteDegradedAudit
          state).researchState.iterationCount =
        state.researchState.iterationCount := by
    cases stage : cosStage state <;> simp only [decideCos, stage]
    unfold materializeCompetitor IssueMap.add
    split
    · simp only
      split <;> rfl
    · rfl
  unfold ceilingHit
  change decide (state.config.maxIterations ≤ _) = _
  rw [show (state.apply (decideCos emitDespiteDegradedAudit
      state)).researchState.iterationCount = _ from counted]

/-- At a hard bound the run moves to the deep audit and keeps its decision. -/
theorem step_at_hardBound
    {execution next : Execution}
    {env : StepEnv}
    (bound : AtHardBound execution env)
    (stepped : step execution env = some next) :
    next.control = .at .deepAudit ∧
      next.graph.lastDecision =
        (decideCos env.emitDespiteDegradedAudit
          execution.graph).lastDecision := by
  obtain ⟨standsAt, boundHit⟩ := bound
  simp only [ResearchCos.step, standsAt, Option.some.injEq] at stepped
  subst next
  have decidedSome :
      (decideCos env.emitDespiteDegradedAudit
        execution.graph).lastDecision.isSome = true := by
    cases stage : cosStage execution.graph <;> simp [decideCos, stage]
  obtain ⟨decision, decided⟩ := Option.isSome_iff_exists.mp decidedSome
  simp only [visit, runNode, conclude, nodeCosDecision, successor, route]
  rcases boundHit with capHit | ceiling
  · rw [if_pos capHit]
    simp [recordStopReason, GraphState.apply, decided]
  · by_cases capHit : RunCap.capHitNow env.cap = true
    · rw [if_pos capHit]
      simp [recordStopReason, GraphState.apply, decided]
    · rw [if_neg capHit, ceilingHit_decideCos, if_pos ceiling]
      simp [GraphState.apply, decided]

/--
In every run, each time the decision is routed with a hard bound hit, the rest
of the run wraps up exactly when there was nothing to ask the human.
-/
theorem hardBound_wrapsUp_iff
    {initial execution next : Execution}
    {labels : List StepEnv}
    {env : StepEnv}
    (_started : Started initial)
    (_reached : exec step initial labels = some execution)
    (bound : AtHardBound execution env)
    (stepped : step execution env = some next) :
    WrapsUp next ↔ asksForPull execution.graph.researchState = false := by
  obtain ⟨atDeepAudit, decision⟩ := step_at_hardBound bound stepped
  constructor
  · intro wrapsUp
    rw [← Bool.not_eq_true]
    intro asks
    have pulls : next.graph.lastDecision = some .pullHuman := by
      rw [decision]
      exact decideCos_pullHuman_iff.mpr asks
    let unaudited : StepEnv :=
      { env with brains := { env.brains with deepAuditor := none } }
    have toPull :
        ∃ final, step next unaudited = some final ∧
          final.control = .at .humanPull := by
      refine ⟨visit { unaudited with answer := none } .deepAudit next,
        by simp [step, atDeepAudit], ?_⟩
      simp [visit, runNode, nodeDeepAudit, unaudited, NodeResult.ofOption,
        conclude, successor, routeAfterDeepAudit, GraphState.apply,
        Update.ofState, pulls]
    obtain ⟨final, leads, atPull⟩ := toPull
    have leftWrapUp := (wrapsUp [unaudited] final (by simp [leads])).1
    rw [atPull] at leftWrapUp
    exact leftWrapUp
  · intro asksNot labels final ran
    have wrapping : WrappingUp next :=
      { inWrapUp := by rw [atDeepAudit]; trivial
        noPull := fun _ pulls => by
          rw [decision, decideCos_pullHuman_iff, asksNot] at pulls
          cases pulls }
    obtain ⟨stillWrapping, bounded⟩ := wrapping.run ran
    rw [atDeepAudit] at bounded
    exact ⟨stillWrapping.inWrapUp,
      le_trans (Nat.le_add_right _ _) bounded,
      step_enabled final⟩

end Runs

/-- An interactive run with a ceiling of one iteration. -/
private def oneIterationRun : Execution where
  graph :=
    { researchState := { runId := "run", originalQuestion := "question" }
      config :=
        { maxIterations := 1
          mode := some .interactive
          enableH6 := true
          assumeBrief := true } }
  control := .at .intake
  world := {}

/-- Surroundings in which the audit recommends an action. -/
private def recommending (action : Option Decision) : StepEnv :=
  StepEnv.calm
    { Brains.silent with
      auditor := fun _ =>
        some
          { verdict := .continue_
            recommendedNextAction := action
            rationale := "rationale" } }

/-- At its ceiling a run pauses in the pull gate when the audit asks for it. -/
theorem oneIterationRun_pauses_on_pull :
    letI := PythonText.ascii
    ∃ execution next final,
      exec step oneIterationRun
          (List.replicate 15 (recommending (some .pullHuman))) =
        some execution ∧
      AtHardBound execution (recommending (some .pullHuman)) ∧
      step execution (recommending (some .pullHuman)) = some next ∧
      exec step next (List.replicate 2 (recommending (some .pullHuman))) =
        some final ∧
      final.control =
        .pausedAt .humanPull
          (.pull (buildPullPayload final.graph.researchState)) := by
  let _ := PythonText.ascii
  let env := recommending (some .pullHuman)
  let execution :=
    (exec step oneIterationRun (List.replicate 15 env)).get
      (by decide +kernel)
  let next := (step execution env).get (by decide +kernel)
  let final :=
    (exec step next (List.replicate 2 env)).get (by decide +kernel)
  exact ⟨execution, next, final, (Option.some_get _).symm, by decide +kernel,
    (Option.some_get _).symm, (Option.some_get _).symm, by decide +kernel⟩

/-- With nothing to ask, the same run wraps up at its ceiling. -/
theorem hardBound_wrapsUp_withoutPull :
    letI := PythonText.ascii
    ∃ execution next,
      exec step oneIterationRun (List.replicate 15 (recommending none)) =
        some execution ∧
      step execution (recommending none) = some next ∧
      WrapsUp next := by
  let _ := PythonText.ascii
  let env := recommending none
  let execution :=
    (exec step oneIterationRun (List.replicate 15 env)).get
      (by decide +kernel)
  have ran :
      exec step oneIterationRun (List.replicate 15 env) = some execution :=
    (Option.some_get _).symm
  let next := (step execution env).get (by decide +kernel)
  have stepped : step execution env = some next :=
    (Option.some_get _).symm
  have started : Started oneIterationRun := rfl
  exact ⟨execution, next, ran, stepped,
    (hardBound_wrapsUp_iff started ran (by decide +kernel) stepped).mpr
      (by decide +kernel)⟩

end ResearchCos
