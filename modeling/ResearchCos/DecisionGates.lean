import ResearchCos.Text
import ResearchCos.Models

namespace ResearchCos

open Foundation

/-!
# Decision gates

The pure predicates over the research state that the staged decision and the
routers consult.  Each one decides a single question; no gate changes the state.
-/

/-! ## Prerequisites of a stop -/

/-- The seven flags that the nodes of a run set. -/
structure Prereqs where
  broadExpansion : Bool := false
  albertAuditRan : Bool := false
  counterargumentPass : Bool := false
  sourceConfidenceChecked : Bool := false
  pendingQuestionsExtracted : Bool := false
  blockersClassified : Bool := false
  explicitContinueExplanation : Bool := false
  deriving Repr, DecidableEq

/-- All seven flags are set. -/
def Prereqs.allDone (flags : Prereqs) : Bool :=
  [flags.broadExpansion, flags.albertAuditRan, flags.counterargumentPass,
    flags.sourceConfidenceChecked, flags.pendingQuestionsExtracted,
    flags.blockersClassified, flags.explicitContinueExplanation].all id

/-! ## Branch budget -/

structure Budget where
  breadth : Int
  depth : Int
  deriving Repr, DecidableEq

/-- One branch halves the breadth, down to two, and uses one level of depth. -/
def Budget.spend (budget : Budget) : Budget where
  breadth := max 2 (budget.breadth / 2)
  depth := budget.depth - 1

def Budget.canBranch (budget : Budget) : Bool :=
  decide (0 < budget.depth)

/-! ## Exhaustion -/

namespace Exhaustion

/-- The rating every readiness axis has to reach. -/
def target : Int :=
  4

/-- An issue that more research can still answer. -/
def isAddressable : IssueStatus → Bool
  | .open
  | .researching
  | .partiallyAnswered
  | .lowConfidence => true
  | .answered
  | .blockedByHuman
  | .blockedByInternalData
  | .blockedByPermission
  | .blockedByDecision => false

def hasAddressable (state : ResearchState) : Bool :=
  state.issueMap.values.any fun node => isAddressable node.status

/-- All four readiness axes reach the target. -/
def targetsMet (state : ResearchState) : Bool :=
  match state.readinessScore with
  | none => false
  | some score => score.axes.all fun axis => decide (target ≤ axis)

/-- Nothing addressable is left, the targets are met and the flags are set. -/
def terminalEligible (state : ResearchState) (flags : Prereqs) : Bool :=
  !hasAddressable state && targetsMet state && flags.allDone

/-- The last `window + 1` readiness sums never increase. -/
def plateau (state : ResearchState) (window : Nat) : Bool :=
  let sums := state.readinessHistory.map ReadinessRecord.sum
  if sums.length < window + 1 then
    false
  else
    let tail := sums.drop (sums.length - (window + 1))
    (tail.zip tail.tail).all fun (earlier, later) => decide (later ≤ earlier)

end Exhaustion

/-! ## Emission gate on the last audit -/

/-- The decisions that end a run. -/
def Decision.isGated : Decision → Bool
  | .terminalStop
  | .synthesize => true
  | _ => false

namespace EmissionGate

/--
Refuse to end a run without a clean audit.  The environment may ask to emit
despite a degraded one.
-/
def assertAuditRan
    (emitDespiteDegradedAudit : Bool)
    (state : ResearchState)
    (decision : Decision) : Decision :=
  if !decision.isGated then
    decision
  else if emitDespiteDegradedAudit then
    decision
  else
    match state.lastAudit with
    | none => .continueResearch
    | some audit => if audit.degraded then .continueResearch else decision

end EmissionGate

/-! ## Convergence of the challenges -/

namespace Convergence

/-- The confidence and the impact from which on an item is high-impact. -/
def highImpactConf : Int :=
  4

def isResolved : ChallengeStatus → Bool
  | .resolved => true
  | _ => false

/-- A status that hands the challenge to a human. -/
def isHumanBlocked : ChallengeStatus → Bool
  | .escalatedToHuman
  | .needsInternalData
  | .needsAlbertDecision
  | .needsBuJudgment => true
  | _ => false

/-- Challenges neither resolved nor handed to a human. -/
def unresolvedChallenges (state : ResearchState) : List AlbertChallenge :=
  state.albertChallengeMap.values.filter fun challenge =>
    !isResolved challenge.status && !isHumanBlocked challenge.status

def openCount (state : ResearchState) : Nat :=
  (unresolvedChallenges state).length

def resolvedCount (state : ResearchState) : Nat :=
  state.albertChallengeMap.values.countP fun challenge =>
    isResolved challenge.status

def escalatedCount (state : ResearchState) : Nat :=
  state.albertChallengeMap.values.countP fun challenge =>
    isHumanBlocked challenge.status

/-- Record the number of unresolved challenges of this round. -/
def recordSignal (state : ResearchState) : ResearchState :=
  { state with
    convergenceHistory := state.convergenceHistory ++ [openCount state] }

/-- Readiness from the share of challenges that need no more research. -/
def albertChallengeReadiness (state : ResearchState) : Int :=
  let total := state.albertChallengeMap.size
  if total = 0 then
    5
  else
    roundHalfEven
      (5 * ((resolvedCount state + escalatedCount state : Nat) : ℚ) / total)

def hasUnresolvedHighImpact (state : ResearchState) : Bool :=
  (unresolvedChallenges state).any fun challenge =>
    decide (highImpactConf ≤ challenge.confidence)

/-- There is a grid, and no high-impact cell of it needs research. -/
def gridConverged (state : ResearchState) : Bool :=
  match state.taskGrid with
  | none => false
  | some grid => (grid.openHighImpactCells highImpactConf).isEmpty

/-- Refuse to end a run while a high-impact challenge is unresolved. -/
def gateEmission (state : ResearchState) (decision : Decision) : Decision :=
  if decision.isGated && hasUnresolvedHighImpact state then
    .continueResearch
  else
    decision

end Convergence

/-! ## Risk of a pull -/

namespace PullRisk

/-- The impact from which on an issue is high-impact. -/
def highImpact : Int :=
  4

/-- The unknown that marks an issue as waiting for the decision criterion. -/
def criterionToken : String :=
  "decision_criterion"

def highImpactOpen (state : ResearchState) : List IssueNode :=
  state.issueMap.values.filter fun node =>
    Exhaustion.isAddressable node.status && decide (highImpact ≤ node.impact)

def criterionUnknown (state : ResearchState) : Bool :=
  !isSet state.defaultResearchPriority

def allHighImpactOpenDependOnCriterion (state : ResearchState) : Bool :=
  match highImpactOpen state with
  | [] => false
  | nodes => nodes.all fun node => decide (criterionToken ∈ node.unknowns)

def noSafeDefault (state : ResearchState) : Bool :=
  !isSet state.fallbackBehaviorIfHumanUnavailable

/-- The last audit reports a high risk. -/
def auditHighRisk (state : ResearchState) : Bool :=
  match state.lastAudit with
  | none => false
  | some audit =>
      decide (audit.prematureEndRisk = .high ∨ audit.researchDriftRisk = .high)

/-- Whether a pull has to stop the run or may fall back on its default. -/
def classifyPull (state : ResearchState) : Risk :=
  if auditHighRisk state then
    .high
  else if criterionUnknown state &&
      allHighImpactOpenDependOnCriterion state then
    .high
  else
    let intents :=
      (highImpactOpen state).filter fun node => node.issueType = .intent
    if decide (2 ≤ intents.length) && noSafeDefault state then .high else .low

end PullRisk

/-! ## Clarification -/

namespace Clarify

/-- The criterion is pinned down by the brief. -/
def hasCriterion (state : ResearchState) : Criterion → Bool
  | .purpose => isSet state.decisionCriterion
  | .scope => isSet state.researchBrief
  | .success => isSet state.successForm
  | .constraints => isSet state.fallbackBehaviorIfHumanUnavailable

/-- The criteria that are not pinned down, in their fixed order. -/
def missingCriteria (state : ResearchState) : List Criterion :=
  [.purpose, .scope, .success, .constraints].filter fun criterion =>
    !hasCriterion state criterion

def clarifyConverged (state : ResearchState) : Bool :=
  (missingCriteria state).isEmpty

end Clarify

/-! ## Hard cap on cost and time -/

/-- The published cap: the metrics and the clock as read at this moment. -/
structure ActiveCap where
  totalUsd : ℚ
  maxCostUsd : Option ℚ
  maxWallS : Option ℚ
  started : ℚ
  clock : ℚ
  deriving Repr, DecidableEq

namespace RunCap

/-- The reason a cap is exceeded, cost before time; `none` within the caps. -/
def capExceeded
    (totalUsd : ℚ)
    (maxCostUsd maxWallS : Option ℚ)
    (elapsedS : ℚ) : Option String :=
  let costReason :=
    maxCostUsd.bind fun limit =>
      if limit ≤ totalUsd then
        some
          ("hard cost cap hit: $" ++ formatFixed 2 totalUsd ++ " >= $" ++
            formatFixed 2 limit)
      else
        none
  let wallReason :=
    maxWallS.bind fun limit =>
      if limit ≤ elapsedS then
        some
          ("hard wall cap hit: " ++ formatFixed 0 elapsedS ++ "s >= " ++
            formatFixed 0 limit ++ "s")
      else
        none
  costReason.or wallReason

/-- The reason the active cap is hit. -/
def hit (cap : ActiveCap) : Option String :=
  capExceeded cap.totalUsd cap.maxCostUsd cap.maxWallS
    (cap.clock - cap.started)

/-- Whether a cap is published and hit. -/
def capHitNow (cap : Option ActiveCap) : Bool :=
  (cap.bind hit).isSome

/-- The reason a published cap is hit, empty when it is not. -/
def capReasonNow (cap : Option ActiveCap) : String :=
  (cap.bind hit).getD ""

end RunCap

/-! ## What the gates guarantee -/

/-- A set of flags is complete exactly when each flag is set. -/
theorem allDone_iff
    {flags : Prereqs} :
    flags.allDone = true ↔
      flags.broadExpansion = true ∧ flags.albertAuditRan = true ∧
        flags.counterargumentPass = true ∧
        flags.sourceConfidenceChecked = true ∧
        flags.pendingQuestionsExtracted = true ∧
        flags.blockersClassified = true ∧
        flags.explicitContinueExplanation = true := by
  simp [Prereqs.allDone]

/-- The convergence gate, spelled out. -/
theorem hasUnresolvedHighImpact_eq_false_iff
    {state : ResearchState} :
    Convergence.hasUnresolvedHighImpact state = false ↔
      ∀ challenge ∈ state.albertChallengeMap.values,
        Convergence.highImpactConf ≤ challenge.confidence →
        Convergence.isResolved challenge.status = true ∨
          Convergence.isHumanBlocked challenge.status = true := by
  simp only [Convergence.hasUnresolvedHighImpact,
    Convergence.unresolvedChallenges, List.any_eq_false, List.mem_filter,
    Bool.and_eq_true, Bool.not_eq_true', decide_eq_true_eq, and_imp]
  constructor
  · intro lowOrSettled challenge member decisive
    by_contra unsettled
    rw [not_or, Bool.not_eq_true, Bool.not_eq_true] at unsettled
    exact lowOrSettled challenge member unsettled.1 unsettled.2 decisive
  · intro settled challenge member unresolved unblocked decisive
    rcases settled challenge member decisive with resolved | blocked
    · simp [unresolved] at resolved
    · simp [unblocked] at blocked

/-- The readiness gate, spelled out. -/
theorem targetsMet_iff
    {state : ResearchState} :
    Exhaustion.targetsMet state = true ↔
      ∃ score, state.readinessScore = some score ∧
        ∀ axis ∈ score.axes, Exhaustion.target ≤ axis := by
  unfold Exhaustion.targetsMet
  cases scored : state.readinessScore with
  | none =>
      simp
  | some score =>
      simp

/-- The audit gate lets a decision pass or turns it into more research. -/
theorem assertAuditRan_cases
    (emitDespiteDegradedAudit : Bool)
    (state : ResearchState)
    (decision : Decision) :
    EmissionGate.assertAuditRan emitDespiteDegradedAudit state decision =
        decision ∨
      EmissionGate.assertAuditRan emitDespiteDegradedAudit state decision =
        .continueResearch := by
  unfold EmissionGate.assertAuditRan
  repeat' split
  all_goals first
    | exact Or.inl rfl
    | exact Or.inr rfl

/-- The convergence gate lets a decision pass or turns it into more research. -/
theorem gateEmission_cases
    (state : ResearchState)
    (decision : Decision) :
    Convergence.gateEmission state decision = decision ∨
      Convergence.gateEmission state decision = .continueResearch := by
  unfold Convergence.gateEmission
  split
  · exact Or.inr rfl
  · exact Or.inl rfl

/-- A gated decision leaves the audit gate only past a clean audit. -/
theorem assertAuditRan_gated
    {emitDespiteDegradedAudit : Bool}
    {state : ResearchState}
    {decision : Decision}
    (passed :
      (EmissionGate.assertAuditRan emitDespiteDegradedAudit state
        decision).isGated = true) :
    EmissionGate.assertAuditRan emitDespiteDegradedAudit state decision =
        decision ∧
      (emitDespiteDegradedAudit = false →
        ∃ audit, state.lastAudit = some audit ∧ audit.degraded = false) := by
  unfold EmissionGate.assertAuditRan at passed ⊢
  split at passed
  · rename_i notGated
    rw [passed] at notGated
    cases notGated
  · split at passed
    · rename_i _ bypassed
      simp [bypassed]
    · split at passed
      · cases passed
      · rename_i audit last
        split at passed
        · cases passed
        · rename_i clean
          rw [Bool.not_eq_true] at clean
          simp [last, clean]

/-- A gated decision leaves the convergence gate only without a high challenge. -/
theorem gateEmission_gated
    {state : ResearchState}
    {decision : Decision}
    (passed : (Convergence.gateEmission state decision).isGated = true) :
    Convergence.gateEmission state decision = decision ∧
      Convergence.hasUnresolvedHighImpact state = false := by
  unfold Convergence.gateEmission at passed ⊢
  split at passed
  · cases passed
  · rename_i noneOpen
    rw [Bool.and_eq_true, passed, not_and] at noneOpen
    simp [passed, noneOpen rfl]

end ResearchCos
