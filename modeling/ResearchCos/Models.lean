import ResearchCos.Foundation.OrderedMap
import Mathlib.Data.Rat.Init

namespace ResearchCos

open Foundation

/-!
# Data model of a research run

Every enumeration and record of the state that the decision core reads or
writes.  Numbers are unbounded integers, as in the running program: the bounds
of a field are checked where a record is constructed, not where a field is
assigned, so `valid` predicates stand beside the records.
-/

/-! ## Enumerations -/

inductive Mode where
  | interactive
  | auto
  deriving Repr, DecidableEq

inductive IssueType where
  | rootQuestion
  | intent
  | roi
  | risk
  | competitor
  | internalData
  | technical
  | market
  deriving Repr, DecidableEq

inductive IssueStatus where
  | «open»
  | researching
  | partiallyAnswered
  | lowConfidence
  | answered
  | blockedByHuman
  | blockedByInternalData
  | blockedByPermission
  | blockedByDecision
  deriving Repr, DecidableEq

inductive ChallengeStatus where
  | «open»
  | answered
  | resolved
  | escalatedToHuman
  | needsInternalData
  | needsAlbertDecision
  | needsBuJudgment
  deriving Repr, DecidableEq

inductive HumanTaskStatus where
  | «open»
  | inProgress
  | done
  | cancelled
  deriving Repr, DecidableEq

inductive SourceType where
  | primary
  | secondary
  | standard
  | marketing
  | internal
  deriving Repr, DecidableEq

inductive SourceQuality where
  | high
  | medium
  | low
  | unknown
  deriving Repr, DecidableEq

inductive Decision where
  | continueResearch
  | branch
  | rerank
  | pullHuman
  | pushHuman
  | synthesize
  | pause
  | terminalStop
  deriving Repr, DecidableEq

inductive Classification where
  | addressable
  | residual
  deriving Repr, DecidableEq

inductive AuditVerdict where
  | continue_
  | exhausted
  | rework
  deriving Repr, DecidableEq

inductive Risk where
  | low
  | med
  | high
  deriving Repr, DecidableEq

inductive CellStatus where
  | «open»
  | partiallyCovered
  | covered
  | blocked
  | na
  deriving Repr, DecidableEq

inductive BlockerType where
  | research
  | internalData
  | permission
  | humanJudgment
  | buPreference
  | albertDecision
  deriving Repr, DecidableEq

/-- The four criteria of the clarification gate. -/
inductive Criterion where
  | purpose
  | scope
  | success
  | constraints
  deriving Repr, DecidableEq

def Criterion.value : Criterion → String
  | .purpose => "purpose"
  | .scope => "scope"
  | .success => "success"
  | .constraints => "constraints"

/-- Text of an enumeration value as it is printed. -/
def ChallengeStatus.value : ChallengeStatus → String
  | .open => "open"
  | .answered => "answered"
  | .resolved => "resolved"
  | .escalatedToHuman => "escalated_to_human"
  | .needsInternalData => "needs_internal_data"
  | .needsAlbertDecision => "needs_albert_decision"
  | .needsBuJudgment => "needs_bu_judgment"

def BlockerType.value : BlockerType → String
  | .research => "research"
  | .internalData => "internal_data"
  | .permission => "permission"
  | .humanJudgment => "human_judgment"
  | .buPreference => "bu_preference"
  | .albertDecision => "albert_decision"

def SourceType.value : SourceType → String
  | .primary => "primary"
  | .secondary => "secondary"
  | .standard => "standard"
  | .marketing => "marketing"
  | .internal => "internal"

def SourceQuality.value : SourceQuality → String
  | .high => "high"
  | .medium => "medium"
  | .low => "low"
  | .unknown => "unknown"

def CellStatus.value : CellStatus → String
  | .open => "open"
  | .partiallyCovered => "partial"
  | .covered => "covered"
  | .blocked => "blocked"
  | .na => "na"

/-! ## Records -/

/-- The range of every rated field. -/
def InRange (rating : Int) : Prop :=
  0 ≤ rating ∧ rating ≤ 5

instance (rating : Int) : Decidable (InRange rating) :=
  inferInstanceAs (Decidable (_ ∧ _))

structure IssueNode where
  id : String
  title : String
  description : String
  issueType : IssueType
  status : IssueStatus
  impact : Int
  confidence : Int
  evidenceRefs : List String := []
  unknowns : List String := []
  counterarguments : List String := []
  humanBlockers : List String := []
  lastUpdated : Option String := none
  lastAudited : Option String := none
  deriving Repr, DecidableEq

structure TaskCell where
  id : String
  vendor : String
  specGroup : String
  objective : String
  successCriteria : List String := []
  status : CellStatus := .open
  impact : Int := 3
  lastStatus : Option CellStatus := none
  lastFilled : Nat := 0
  stalledCycles : Int := 0
  deriving Repr, DecidableEq

structure TaskGrid where
  cells : OrderedMap String TaskCell := ∅
  deriving DecidableEq

structure AlbertChallenge where
  id : String
  challenge : String
  issueId : Option String := none
  whyAlbertWouldAsk : String := ""
  currentAnswer : String := ""
  status : ChallengeStatus := .open
  confidence : Int := 0
  evidenceRefs : List String := []
  blockingOwner : Option String := none
  classification : Option Classification := none
  roundsSeen : Int := 0
  deriving Repr, DecidableEq

structure HumanTask where
  id : String
  taskTitle : String
  owner : Option String := none
  requestedInput : String := ""
  whyNeeded : String := ""
  blockingQuestion : String := ""
  priority : Int := 3
  canContinueWithoutIt : Bool := true
  fallbackPlan : String := ""
  status : HumanTaskStatus := .open
  deriving Repr, DecidableEq

structure Source where
  id : String
  title : String
  url : Option String := none
  sourceType : SourceType := .secondary
  quality : SourceQuality := .unknown
  origin : String := "web"
  excerpt : String := ""
  deriving Repr, DecidableEq

structure Claim where
  claim : String
  sourceRefs : List String := []
  confidence : Int := 0
  notes : String := ""
  deriving Repr, DecidableEq

structure FieldObservation where
  field : String
  value : String
  sourceRef : String := ""
  quote : String := ""
  confidence : Int := 0
  deriving Repr, DecidableEq

structure EvidenceBundle where
  query : String
  issueId : Option String := none
  claims : List Claim := []
  sources : List Source := []
  contradictions : List String := []
  missingEvidence : List String := []
  suggestedFollowups : List String := []
  coverageGaps : List String := []
  observations : List FieldObservation := []
  publicExhausted : Bool := false
  deriving Repr, DecidableEq

structure ReadinessScore where
  albertChallengeReadiness : Int
  decisionReadiness : Int
  researchExhaustionReadiness : Int
  humanBottleneckClarity : Int
  deriving Repr, DecidableEq

structure AuditResult where
  verdict : AuditVerdict
  challenges : List AlbertChallenge := []
  prematureEndRisk : Risk := .low
  researchDriftRisk : Risk := .low
  recommendedNextAction : Option Decision := none
  rationale : String := ""
  questionsAlbertWouldAskNext : List String := []
  degraded : Bool := false
  deriving Repr, DecidableEq

/-- One point of the readiness trend. -/
structure ReadinessRecord where
  sum : Int
  iteration : Int
  deriving Repr, DecidableEq

/-- The answer a human sends to resume a paused run. -/
inductive Answer where
  | text (answer : String)
  | reply (choice : Option String) (answer : Option String)
  deriving Repr, DecidableEq

/-- A queued request to ask the human, with the fields it may leave out. -/
structure PullRequest where
  context : Option String := none
  why : Option String := none
  options : Option (List String) := none
  aiRecommendation : Option String := none
  impactPerOption : Option (List (String × String)) := none
  defaultIfNoResponse : Option String := none
  deriving Repr, DecidableEq

/-- Entries of the steering log, by kind. -/
inductive SteeringEvent where
  | clarifyAssumed (missing : List Criterion)
  | clarifyAsk (questions : List String) (missing : List Criterion)
  | clarifyAnswer (answer : Answer) (forMissing : List Criterion)
  | planAssumed (firstCycle : Bool) (cells : List String)
  | planApproval (firstCycle : Bool) (cells : List String)
  | planApprovalAnswer (answer : Answer)
  | steer (text : String) (at_ : String) (consumed reranked : Bool)
  | requestPull (request : PullRequest) (consumed : Bool)
  | pullAnswer (choice : Option String) (answer forContext : String)
  | autoDefault (choice answer forContext : String)
  | autoReviewPass (answer : String)
  | reviewDecision (answer : String)
  | notifySupplement (items : List String)
  | other (kind : String)
  deriving Repr, DecidableEq

structure ResearchState where
  runId : String
  originalQuestion : String
  mode : Mode := .interactive
  internalDocumentsAvailable : Option Bool := none
  availableSources : List String := []
  defaultResearchPriority : Option String := none
  fallbackBehaviorIfHumanUnavailable : Option String := none
  researchBrief : Option String := none
  decisionCriterion : Option String := none
  successForm : Option String := none
  clarifyConverged : Bool := false
  taskGrid : Option TaskGrid := none
  issueMap : OrderedMap String IssueNode := ∅
  albertChallengeMap : OrderedMap String AlbertChallenge := ∅
  evidence : List EvidenceBundle := []
  humanTasks : OrderedMap String HumanTask := ∅
  steeringEvents : List SteeringEvent := []
  readinessScore : Option ReadinessScore := none
  readinessHistory : List ReadinessRecord := []
  convergenceHistory : List Nat := []
  iterationCount : Int := 0
  lastAudit : Option AuditResult := none
  deepAuditCount : Int := 0
  researchedQueries : List String := []
  processedReferences : List String := []
  finalMemo : Option String := none
  updatedAt : Option String := none
  stopReason : Option String := none
  deriving DecidableEq

/-! ## Construction checks -/

/-- The bounds checked when an issue is constructed. -/
def IssueNode.Valid (node : IssueNode) : Prop :=
  InRange node.impact ∧ InRange node.confidence

instance (node : IssueNode) : Decidable node.Valid :=
  inferInstanceAs (Decidable (_ ∧ _))

/-- The bounds checked when a bundle is read back from its dump. -/
def EvidenceBundle.Valid (bundle : EvidenceBundle) : Prop :=
  (∀ claim ∈ bundle.claims, InRange claim.confidence) ∧
    ∀ observation ∈ bundle.observations, InRange observation.confidence

instance (bundle : EvidenceBundle) : Decidable bundle.Valid :=
  inferInstanceAs (Decidable (_ ∧ _))

/-- Reading a dumped bundle back; `none` is a validation error. -/
def EvidenceBundle.modelValidate (raw : EvidenceBundle) : Option EvidenceBundle :=
  if raw.Valid then some raw else none

/-- Cells that still deserve research and are worth it. -/
def TaskGrid.openHighImpactCells (grid : TaskGrid) (minImpact : Int) :
    List TaskCell :=
  grid.cells.values.filter fun cell =>
    (cell.status = .open ∨ cell.status = .partiallyCovered) ∧ minImpact ≤ cell.impact

/-- The four readiness axes. -/
def ReadinessScore.axes (score : ReadinessScore) : List Int :=
  [score.albertChallengeReadiness, score.decisionReadiness,
    score.researchExhaustionReadiness, score.humanBottleneckClarity]

/-- A validated bundle is the dumped one, within its bounds. -/
theorem EvidenceBundle.modelValidate_eq_some
    {raw bundle : EvidenceBundle}
    (validated : raw.modelValidate = some bundle) :
    bundle = raw ∧ raw.Valid := by
  unfold EvidenceBundle.modelValidate at validated
  split at validated
  · rename_i valid
    exact ⟨(Option.some.inj validated).symm, valid⟩
  · cases validated

end ResearchCos
