import ResearchCos.DecisionMemo
import ResearchCos.Ranking
import ResearchCos.ReferenceStore

namespace ResearchCos

open Foundation

/-!
# Channels, brains and surroundings of the graph

The channels that the nodes read and write, the brains that the nodes consult,
and what surrounds a run: the files on disk, the cap, the answer of a human.
Brains are functions of what they are shown, and `none` stands for an exception.
They are supplied anew for every step, so two calls need not agree.
-/

/-- An issue as the expander proposes it. -/
structure IssueDraft where
  title : String
  description : String
  issueType : IssueType
  impact : Int
  confidence : Int
  deriving Repr, DecidableEq

structure Brains where
  clarifyGate : ResearchState → Option Bool
  briefWriter : ResearchState → Option String
  issueExpander : ResearchState → Option (List IssueDraft)
  supervisor : ResearchState → Option (List String)
  researcher : ResearchState → String → Option EvidenceBundle
  sourceCritic : EvidenceBundle → Option EvidenceBundle
  curator : Ranking.Curator
  compressor : EvidenceBundle → Option EvidenceBundle
  skeptic : ResearchState → EvidenceBundle → Option (List String)
  auditor : ResearchState → Option AuditResult
  scorer : ResearchState → Option ReadinessScore
  deepAuditor : Option (ResearchState → Option AuditResult)
  synthesizer : Option (ResearchState → Option Prose)
  clarifier : Option (ResearchState → List Criterion → Option (List String))
  orchestrator : Option (ResearchState → Option TaskGrid)

/-- A file that a human puts into the reference folder. -/
structure DroppedFile where
  path : ReferencePath
  text : Option String
  mtime : Nat
  deriving Repr, DecidableEq

/-- Everything outside the channels that one step reads. -/
structure StepEnv where
  brains : Brains
  cap : Option ActiveCap
  answer : Option Answer
  emitDespiteDegradedAudit : Bool
  maxResearchPerIter : Nat
  converters : Converters
  noteWrites : Nat → ReferenceStore.NoteWrite
  snapshotSaved : Bool
  drops : List DroppedFile

/-- Brains with nothing to say, a basis for brains that say one thing. -/
def Brains.silent : Brains where
  clarifyGate := fun _ => some true
  briefWriter := fun _ => some "brief"
  issueExpander := fun _ => some []
  supervisor := fun state => some state.issueMap.keys
  researcher := fun _ _ => none
  sourceCritic := some
  curator := none
  compressor := some
  skeptic := fun _ _ => some []
  auditor := fun _ => some { verdict := .continue_, rationale := "continue" }
  scorer := fun _ =>
    some
      { albertChallengeReadiness := 0
        decisionReadiness := 0
        researchExhaustionReadiness := 0
        humanBottleneckClarity := 0 }
  deepAuditor := none
  synthesizer := none
  clarifier := none
  orchestrator := none

/-- Surroundings in which nothing happens besides the brains. -/
def StepEnv.calm (brains : Brains) : StepEnv where
  brains := brains
  cap := none
  answer := none
  emitDespiteDegradedAudit := false
  maxResearchPerIter := 3
  converters :=
    { homeFound := false
      pdf := fun _ _ => .unexpected
      office := fun _ _ => .unexpected
      html := fun _ _ => .unexpected }
  noteWrites := fun _ => .written 1
  snapshotSaved := true
  drops := []

/-- An email about tasks that need a human. -/
structure SupplementNotice where
  runId : String
  taskIds : List String
  deriving Repr, DecidableEq

/-- What outlives a step even when the step does not complete. -/
structure World where
  run : Nat := 0
  folder : ReferenceFolder := ∅
  snapshot : Option ResearchState := none
  notices : List SupplementNotice := []
  deriving DecidableEq

/-- The channels that a run is started with and no node writes. -/
structure RunConfig where
  now : String := "t"
  maxIterations : Int := 8
  mode : Option Mode := none
  enableH6 : Bool := false
  assumeBrief : Bool := false
  explicitEmit : Bool := false
  deriving Repr, DecidableEq

def defaultBreadth : Int :=
  4

def defaultDepth : Int :=
  2

structure GraphState where
  researchState : ResearchState
  lastDecision : Option Decision := none
  branchBudget : Option Budget := none
  prereqs : Option Prereqs := none
  workerResults : List EvidenceBundle := []
  lastPlanSig : Option String := none
  h7ApprovedN : Option Nat := none
  config : RunConfig := {}
  deriving DecidableEq

/--
What a node returns.  The research state is one object that nodes change in
place, so every update carries it; the other channels are left out or written.
-/
structure Update where
  researchState : ResearchState
  lastDecision : Option Decision := none
  branchBudget : Option Budget := none
  prereqs : Option Prereqs := none
  workerResults : Option (List EvidenceBundle) := none
  lastPlanSig : Option String := none
  h7ApprovedN : Option Nat := none
  deriving DecidableEq

/--
Write an update into the channels.  The channel of the worker results adds what
is returned; every other channel is replaced.
-/
def GraphState.apply (state : GraphState) (update : Update) : GraphState :=
  { state with
    researchState := update.researchState
    lastDecision := update.lastDecision.or state.lastDecision
    branchBudget := update.branchBudget.or state.branchBudget
    prereqs := update.prereqs.or state.prereqs
    workerResults := state.workerResults ++ update.workerResults.getD []
    lastPlanSig := update.lastPlanSig.or state.lastPlanSig
    h7ApprovedN := update.h7ApprovedN.or state.h7ApprovedN }

/-- The flags of the run so far. -/
def GraphState.flags (state : GraphState) : Prereqs :=
  state.prereqs.getD {}

/-- The mode of the run. -/
def GraphState.mode (state : GraphState) : Mode :=
  state.config.mode.getD state.researchState.mode

/-! ## What a pause asks -/

structure PullPayload where
  context : String
  why : String
  options : List String
  aiRecommendation : String
  impactPerOption : List (String × String)
  defaultIfNoResponse : String
  deriving Repr, DecidableEq

/-- The question with which a node pauses the run. -/
inductive Ask where
  | clarify (questions : List String) (missing : List Criterion)
  | planApproval (cells : List String) (firstCycle : Bool)
  | pull (payload : PullPayload)
  | review
  deriving Repr, DecidableEq

/-- How the execution of a node ends. -/
inductive NodeResult where
  | update (update : Update) (world : World)
  | interrupt (ask : Ask) (world : World)
  | raise (world : World)

/-- An update that leaves the surroundings alone, or an exception. -/
def NodeResult.ofOption (world : World) : Option Update → NodeResult
  | none => .raise world
  | some result => .update result world

/-- A node that may raise has returned what it updates. -/
theorem NodeResult.ofOption_eq_update
    {world after : World}
    {result : Option Update}
    {update : Update}
    (ended : NodeResult.ofOption world result = .update update after) :
    after = world ∧ result = some update := by
  cases result with
  | none =>
      cases ended
  | some written =>
      cases ended
      exact ⟨rfl, rfl⟩

/-- A node that may raise does not pause. -/
theorem NodeResult.ofOption_ne_interrupt
    {world after : World}
    {result : Option Update}
    {ask : Ask} :
    NodeResult.ofOption world result ≠ .interrupt ask after := by
  cases result <;> nofun

/-- An exception leaves the surroundings alone. -/
theorem NodeResult.ofOption_eq_raise
    {world after : World}
    {result : Option Update}
    (ended : NodeResult.ofOption world result = .raise after) :
    after = world := by
  cases result with
  | none =>
      cases ended
      rfl
  | some written =>
      cases ended

end ResearchCos
