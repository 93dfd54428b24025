import ResearchCos.Graph

namespace ResearchCos

open Foundation

/-!
# No premature stop

What a stopping decision says about the state it was taken in.  The staged
decision is inverted once; each gate then contributes its own fact.
-/

/-- The audit, if any, neither asks for a human nor for rework. -/
def AuditAllowsStop (rs : ResearchState) : Prop :=
  ∀ audit, rs.lastAudit = some audit →
    audit.recommendedNextAction ≠ some .pullHuman ∧ audit.verdict ≠ .rework

/-- Every challenge of high confidence is resolved or handed to a human. -/
def HighChallengesSettled (rs : ResearchState) : Prop :=
  ∀ challenge ∈ rs.albertChallengeMap.values,
    4 ≤ challenge.confidence →
      Convergence.isResolved challenge.status = true ∨
        Convergence.isHumanBlocked challenge.status = true

/-- Every cell of high impact is covered, blocked or not applicable. -/
def HighCellsSettled (rs : ResearchState) : Prop :=
  ∀ grid, rs.taskGrid = some grid →
    ∀ cell ∈ grid.cells.values, 4 ≤ cell.impact →
      cell.status ≠ .open ∧ cell.status ≠ .partiallyCovered

/-- What has to hold before a run may stop. -/
structure StopAllowed
    (emitDespiteDegradedAudit : Bool)
    (state : GraphState) : Prop where
  noPendingPull :
    ∀ request, .requestPull request false ∉ state.researchState.steeringEvents
  auditAllows : AuditAllowsStop state.researchState
  flagsSet :
    state.flags.broadExpansion = true ∧ state.flags.albertAuditRan = true ∧
      state.flags.counterargumentPass = true ∧
      state.flags.sourceConfidenceChecked = true ∧
      state.flags.pendingQuestionsExtracted = true ∧
      state.flags.blockersClassified = true ∧
      state.flags.explicitContinueExplanation = true
  cleanAudit :
    emitDespiteDegradedAudit = false →
      ∃ audit, state.researchState.lastAudit = some audit ∧
        audit.degraded = false
  challengesSettled : HighChallengesSettled state.researchState

/-- What has to hold besides before a run may stop for good. -/
structure TerminalAllowed (rs : ResearchState) : Prop where
  nothingAddressable :
    ∀ node ∈ rs.issueMap.values, Exhaustion.isAddressable node.status = false
  targetsMet :
    ∃ score, rs.readinessScore = some score ∧ ∀ axis ∈ score.axes, 4 ≤ axis

/-- A pull request is waiting exactly when one is not consumed. -/
theorem pendingPull_eq_none_iff
    {events : List SteeringEvent} :
    pendingPull events = none ↔
      ∀ request, .requestPull request false ∉ events := by
  induction events with
  | nil =>
      simp [pendingPull]
  | cons event rest inductionHypothesis =>
      unfold pendingPull
      split
      · cases ‹_›
      · rename_i request later shape
        obtain ⟨rfl, rfl⟩ := List.cons.inj shape
        simp only [reduceCtorEq, false_iff, not_forall, not_not]
        exact ⟨request, List.mem_cons_self⟩
      · rename_i head later notPull shape
        obtain ⟨rfl, rfl⟩ := List.cons.inj shape
        rw [inductionHypothesis]
        apply forall_congr'
        intro request
        have different : SteeringEvent.requestPull request false ≠ event :=
          fun same => notPull request same.symm
        simp [different]

/-- The audit allows a stop when it trips neither of the two early stages. -/
theorem auditAllowsStop_of_stages
    {rs : ResearchState}
    (noPull : auditRecommends rs .pullHuman = false)
    (noRework : auditDemandsRework rs = false) :
    AuditAllowsStop rs := by
  intro audit last
  simp only [auditRecommends, last, decide_eq_false_iff_not] at noPull
  simp only [auditDemandsRework, last, decide_eq_false_iff_not] at noRework
  exact ⟨noPull, noRework⟩

/-- A grid without researchable cells has its high cells settled. -/
theorem highCellsSettled_of_not_researchable
    {rs : ResearchState}
    (done : gridResearchable rs = false) :
    HighCellsSettled rs := by
  intro grid isGrid cell member high
  simp only [gridResearchable, isGrid, Bool.not_eq_false',
    List.isEmpty_iff, TaskGrid.openHighImpactCells,
    List.filter_eq_nil_iff, Convergence.highImpactConf] at done
  apply not_or.mp
  intro researchable
  exact done cell member (decide_eq_true ⟨researchable, high⟩)

/-- A gated decision passes both emission gates only when both are satisfied. -/
theorem gatedDecision_passed
    {emitDespiteDegradedAudit : Bool}
    {rs : ResearchState}
    {decision : Decision}
    (passed :
      (gatedDecision emitDespiteDegradedAudit rs decision).isGated = true) :
    gatedDecision emitDespiteDegradedAudit rs decision = decision ∧
      (emitDespiteDegradedAudit = false →
        ∃ audit, rs.lastAudit = some audit ∧ audit.degraded = false) ∧
      Convergence.hasUnresolvedHighImpact rs = false := by
  unfold gatedDecision at passed ⊢
  obtain ⟨keptByConvergence, noneOpen⟩ := gateEmission_gated passed
  rw [keptByConvergence] at passed
  obtain ⟨keptByAudit, cleanAudit⟩ := assertAuditRan_gated passed
  exact ⟨keptByConvergence.trans keptByAudit, cleanAudit, noneOpen⟩

/-- The stages before the exhaustion check were passed. -/
theorem cosStage_late
    {state : GraphState}
    (late : cosStage state = .exhausted ∨ cosStage state = .saturated) :
    asksForPull state.researchState = false ∧
      auditDemandsRework state.researchState = false ∧
      state.flags.allDone = true ∧
      (cosStage state = .exhausted →
        Exhaustion.terminalEligible state.researchState state.flags =
          true) := by
  simp only [cosStage] at late ⊢
  split at late
  · simp at late
  · rename_i noPull
    split at late
    · simp at late
    · rename_i noRework
      split at late
      · simp at late
      · rename_i flagsDone
        rw [Bool.not_eq_true] at noPull noRework
        rw [Bool.not_eq_true', Bool.not_eq_false] at flagsDone
        refine ⟨noPull, noRework, flagsDone, fun stage => ?_⟩
        simp only [noPull, noRework, flagsDone, Bool.false_eq_true,
          Bool.not_true, ↓reduceIte] at stage
        by_contra notEligible
        rw [if_neg notEligible] at stage
        repeat' split at stage
        all_goals cases stage

/-- A stopping decision comes from the exhausted or the saturated stage. -/
theorem decideCos_stop_cases
    {emitDespiteDegradedAudit : Bool}
    {state : GraphState}
    {decision : Decision}
    (decided :
      (decideCos emitDespiteDegradedAudit state).lastDecision = some decision)
    (stops : decision.isGated = true) :
    cosStage state = .exhausted ∧
        gatedDecision emitDespiteDegradedAudit state.researchState
          .terminalStop = decision ∨
      cosStage state = .saturated ∧
        gatedDecision emitDespiteDegradedAudit state.researchState
          .synthesize = decision := by
  cases stage : cosStage state <;>
    simp only [decideCos, stage, Option.some.injEq] at decided
  case exhausted => exact Or.inl ⟨rfl, decided⟩
  case saturated => exact Or.inr ⟨rfl, decided⟩
  all_goals
    rw [← decided] at stops
    cases stops

/-- Every stage and every gate before a stopping decision was passed. -/
theorem decideCos_stop_stages
    {emitDespiteDegradedAudit : Bool}
    {state : GraphState}
    {decision : Decision}
    (decided :
      (decideCos emitDespiteDegradedAudit state).lastDecision = some decision)
    (stops : decision.isGated = true) :
    asksForPull state.researchState = false ∧
      auditDemandsRework state.researchState = false ∧
      state.flags.allDone = true ∧
      (emitDespiteDegradedAudit = false →
        ∃ audit, state.researchState.lastAudit = some audit ∧
          audit.degraded = false) ∧
      Convergence.hasUnresolvedHighImpact state.researchState = false ∧
      (decision = .terminalStop →
        Exhaustion.terminalEligible state.researchState state.flags = true) := by
  rcases decideCos_stop_cases decided stops with
      ⟨exhausted, isDecision⟩ | ⟨saturated, isDecision⟩
  · rw [← isDecision] at stops
    obtain ⟨noPull, noRework, flagsDone, eligible⟩ :=
      cosStage_late (Or.inl exhausted)
    obtain ⟨_, cleanAudit, noneOpen⟩ := gatedDecision_passed stops
    exact ⟨noPull, noRework, flagsDone, cleanAudit, noneOpen,
      fun _ => eligible exhausted⟩
  · rw [← isDecision] at stops
    obtain ⟨noPull, noRework, flagsDone, _⟩ :=
      cosStage_late (Or.inr saturated)
    obtain ⟨kept, cleanAudit, noneOpen⟩ := gatedDecision_passed stops
    refine ⟨noPull, noRework, flagsDone, cleanAudit, noneOpen,
      fun isTerminal => ?_⟩
    rw [← isDecision, kept] at isTerminal
    cases isTerminal

/-- A route to the wrap-up within the bounds leaves no high cell to research. -/
theorem route_deepAudit_settled
    {cap : Option ActiveCap}
    {state : GraphState}
    {decision : Decision}
    (decided : state.lastDecision = some decision)
    (stops : decision.isGated = true)
    (withinCap : RunCap.capHitNow cap = false)
    (belowCeiling :
      state.researchState.iterationCount < state.config.maxIterations)
    (wrapsUp : (route cap state).1 = .deepAudit) :
    HighCellsSettled state.researchState := by
  have noCeiling : ceilingHit state = false := by
    simpa [ceilingHit] using belowCeiling
  simp only [route, withinCap, noCeiling, decided, Option.getD_some,
    isSoftStop, stops, Bool.false_eq_true, ↓reduceIte] at wrapsUp
  split at wrapsUp
  · cases wrapsUp
  · rename_i noResearch
    apply highCellsSettled_of_not_researchable
    cases researchable : gridResearchable state.researchState with
    | false =>
        rfl
    | true =>
        have converged :
            Convergence.gridConverged state.researchState = false := by
          unfold gridResearchable at researchable
          unfold Convergence.gridConverged
          cases isGrid : state.researchState.taskGrid with
          | none =>
              rfl
          | some grid =>
              simpa [isGrid] using researchable
        simp [researchable, converged] at noResearch

/--
A decision to stop was taken in a state that allows it, and within the bounds
it leads to the wrap-up only when no high-impact cell is left to research.
-/
theorem decideCos_stop_allowed
    {emitDespiteDegradedAudit : Bool}
    {state : GraphState}
    {decision : Decision}
    (stops : decision = .terminalStop ∨ decision = .synthesize)
    (decided :
      (decideCos emitDespiteDegradedAudit state).lastDecision =
        some decision) :
    StopAllowed emitDespiteDegradedAudit state ∧
      (decision = .terminalStop → TerminalAllowed state.researchState) ∧
      ∀ cap routed,
        routed = state.apply (decideCos emitDespiteDegradedAudit state) →
        RunCap.capHitNow cap = false →
        routed.researchState.iterationCount < routed.config.maxIterations →
        (route cap routed).1 = .deepAudit →
        HighCellsSettled routed.researchState := by
  have gated : decision.isGated = true := by
    rcases stops with rfl | rfl <;> rfl
  obtain ⟨noPull, noRework, flagsDone, cleanAudit, noneOpen, eligible⟩ :=
    decideCos_stop_stages decided gated
  rw [asksForPull, Bool.or_eq_false_iff, Option.isSome_eq_false_iff,
    Option.isNone_iff_eq_none] at noPull
  refine ⟨?_, ?_, ?_⟩
  · exact
      { noPendingPull := pendingPull_eq_none_iff.mp noPull.1
        auditAllows := auditAllowsStop_of_stages noPull.2 noRework
        flagsSet := allDone_iff.mp flagsDone
        cleanAudit := cleanAudit
        challengesSettled := hasUnresolvedHighImpact_eq_false_iff.mp noneOpen }
  · intro isTerminal
    have eligibleNow := eligible isTerminal
    simp only [Exhaustion.terminalEligible, Bool.and_eq_true,
      Bool.not_eq_true', Exhaustion.hasAddressable,
      List.any_eq_false] at eligibleNow
    obtain ⟨⟨nothingLeft, onTarget⟩, _⟩ := eligibleNow
    exact
      { nothingAddressable := fun node member =>
          Bool.eq_false_iff.mpr (nothingLeft node member)
        targetsMet := targetsMet_iff.mp onTarget }
  · intro cap routed isRouted withinCap belowCeiling wrapsUp
    have routedDecision : routed.lastDecision = some decision := by
      rw [isRouted]
      simp [GraphState.apply, decided]
    exact route_deepAudit_settled routedDecision gated withinCap belowCeiling
      wrapsUp

/-- A run with nothing left to do: everything is answered and covered. -/
private def exhaustedRun : GraphState where
  researchState :=
    { runId := "run"
      originalQuestion := "question"
      issueMap :=
        (∅ : OrderedMap String IssueNode).insert "I-001"
          { id := "I-001"
            title := "lanes"
            description := "How many lanes?"
            issueType := .technical
            status := .answered
            impact := 5
            confidence := 5 }
      albertChallengeMap :=
        (∅ : OrderedMap String AlbertChallenge).insert "C-001"
          { id := "C-001"
            challenge := "Who measured it?"
            status := .resolved
            confidence := 5 }
      taskGrid :=
        some
          { cells :=
              (∅ : OrderedMap String TaskCell).insert "vendor|lanes"
                { id := "vendor|lanes"
                  vendor := "vendor"
                  specGroup := "lanes"
                  objective := "lanes"
                  status := .covered
                  impact := 5 } }
      readinessScore :=
        some
          { albertChallengeReadiness := 4
            decisionReadiness := 4
            researchExhaustionReadiness := 4
            humanBottleneckClarity := 5 }
      lastAudit := some { verdict := .exhausted } }
  prereqs :=
    some
      { broadExpansion := true
        albertAuditRan := true
        counterargumentPass := true
        sourceConfidenceChecked := true
        pendingQuestionsExtracted := true
        blockersClassified := true
        explicitContinueExplanation := true }

/-- The exhausted run stops for good, is allowed to, and wraps up. -/
theorem decideCos_stop_allowed_exhaustedRun :
    StopAllowed false exhaustedRun ∧
      TerminalAllowed exhaustedRun.researchState ∧
      HighCellsSettled
        (exhaustedRun.apply (decideCos false exhaustedRun)).researchState := by
  have decided :
      (decideCos false exhaustedRun).lastDecision = some .terminalStop := by
    decide
  obtain ⟨allowed, terminal, settled⟩ :=
    decideCos_stop_allowed (Or.inl rfl) decided
  exact ⟨allowed, terminal rfl,
    settled none _ rfl (by decide) (by decide) (by decide)⟩

end ResearchCos
