import ResearchCos.Foundation.LabelledRun
import ResearchCos.GraphNodes

namespace ResearchCos

open Foundation

/-!
# The graph as a labelled machine

One step executes one node, writes its update into the channels and follows an
edge.  The label of a step is what the surroundings contribute to it.  A node
that pauses leaves the channels as they were, and is executed again with the
answer; a node that raises ends the run.
-/

inductive Node where
  | intake
  | scope
  | clarify
  | writeBrief
  | orchestratorPlan
  | planAudit
  | planApproval
  | issueExpansion
  | supervisor
  | researchFanout
  | collect
  | skeptic
  | albertAudit
  | artifactUpdate
  | readinessScoring
  | antiPremature
  | cosDecision
  | humanPull
  | humanPush
  | deepAudit
  | humanReview
  deriving Repr, DecidableEq

/-- Where a run stands. -/
inductive Control where
  | at (node : Node)
  | pausedAt (node : Node) (ask : Ask)
  | ended
  | crashed
  deriving Repr, DecidableEq

/-- The channels, the control point and the surroundings of a run. -/
structure Execution where
  graph : GraphState
  control : Control
  world : World
  deriving DecidableEq

/-! ## Edges -/

/-- Whether a decision ends the loop unless the grid needs more research. -/
def isSoftStop (decision : Decision) : Bool :=
  decision.isGated

/-- A high-impact cell still deserves research. -/
def gridResearchable (rs : ResearchState) : Bool :=
  match rs.taskGrid with
  | none => false
  | some grid =>
      !(grid.openHighImpactCells Convergence.highImpactConf).isEmpty

/-- Record why a cap ended the run. -/
def recordStopReason (cap : Option ActiveCap) (state : GraphState) :
    GraphState :=
  { state with
    researchState :=
      { state.researchState with
        stopReason := some (RunCap.capReasonNow cap) } }

/-- Whether the iteration ceiling is reached. -/
def ceilingHit (state : GraphState) : Bool :=
  decide (state.config.maxIterations ≤ state.researchState.iterationCount)

/-- The node after the decision; the bounds come before the decision itself. -/
def route (cap : Option ActiveCap) (state : GraphState) : Node × GraphState :=
  let rs := state.researchState
  let decision := state.lastDecision.getD .continueResearch
  if RunCap.capHitNow cap then
    (.deepAudit, recordStopReason cap state)
  else if ceilingHit state then
    (.deepAudit, state)
  else if isSoftStop decision then
    if gridResearchable rs && !Convergence.gridConverged rs then
      (.orchestratorPlan, state)
    else
      (.deepAudit, state)
  else
    match decision with
    | .pullHuman =>
        if PullRisk.classifyPull rs = .high then
          (.deepAudit, state)
        else
          (.humanPull, state)
    | .pushHuman => (.humanPush, state)
    | .branch
    | .rerank => (.issueExpansion, state)
    | _ => (.orchestratorPlan, state)

def routeAfterClarify (state : GraphState) : Node :=
  if state.researchState.clarifyConverged then .writeBrief else .clarify

def routeAfterDeepAudit (state : GraphState) : Node :=
  if state.lastDecision.getD .continueResearch = .pullHuman then
    .humanPull
  else
    .humanReview

def routeAfterPull (cap : Option ActiveCap) (state : GraphState) :
    Node × GraphState :=
  if RunCap.capHitNow cap then
    (.humanReview, recordStopReason cap state)
  else if ceilingHit state then
    (.humanReview, state)
  else
    (.orchestratorPlan, state)

/-- The node that follows, or `none` at the end of the graph. -/
def successor (cap : Option ActiveCap) (state : GraphState) :
    Node → Option Node × GraphState
  | .intake => (some .scope, state)
  | .scope => (some .clarify, state)
  | .clarify => (some (routeAfterClarify state), state)
  | .writeBrief => (some .orchestratorPlan, state)
  | .orchestratorPlan => (some .planAudit, state)
  | .planAudit => (some .planApproval, state)
  | .planApproval => (some .supervisor, state)
  | .issueExpansion => (some .supervisor, state)
  | .supervisor => (some .researchFanout, state)
  | .researchFanout => (some .collect, state)
  | .collect => (some .skeptic, state)
  | .skeptic => (some .albertAudit, state)
  | .albertAudit => (some .artifactUpdate, state)
  | .artifactUpdate => (some .readinessScoring, state)
  | .readinessScoring => (some .antiPremature, state)
  | .antiPremature => (some .cosDecision, state)
  | .cosDecision =>
      let (node, routed) := route cap state
      (some node, routed)
  | .humanPull =>
      let (node, routed) := routeAfterPull cap state
      (some node, routed)
  | .humanPush => (some .supervisor, state)
  | .deepAudit => (some (routeAfterDeepAudit state), state)
  | .humanReview => (none, state)

/-! ## Steps -/

/-- The files a human has put into the store before the step. -/
def receiveDrops (drops : List DroppedFile) (world : World) : World :=
  { world with
    folder :=
      drops.foldl
        (fun folder dropped =>
          folder.insert dropped.path
            { text := dropped.text
              mtime := dropped.mtime
              writer := .human })
        world.folder }

section Steps

variable [PythonText]

/-- Execute a node. -/
def runNode (env : StepEnv) (state : GraphState) (world : World) :
    Node → NodeResult
  | .intake => .update (nodeIntake state) world
  | .scope => .ofOption world (nodeScope env state)
  | .clarify => nodeClarify env state world
  | .writeBrief => .ofOption world (nodeWriteBrief env state)
  | .orchestratorPlan => .ofOption world (nodeOrchestratorPlan env state)
  | .planAudit => .ofOption world (nodePlanAudit env state)
  | .planApproval => nodePlanApproval env state world
  | .issueExpansion => .ofOption world (nodeIssueExpansion env state)
  | .supervisor => .update (nodeSupervisor state) world
  | .researchFanout => .ofOption world (nodeResearchFanout env state)
  | .collect => nodeCollect env state world
  | .skeptic => .ofOption world (nodeSkeptic env state)
  | .albertAudit => .ofOption world (nodeAlbertAudit env state)
  | .artifactUpdate => nodeArtifactUpdate env state world
  | .readinessScoring => .ofOption world (nodeReadinessScoring env state)
  | .antiPremature => .update (nodeAntiPremature state) world
  | .cosDecision => .update (nodeCosDecision env state) world
  | .humanPull => nodeHumanPull env state world
  | .humanPush => .ofOption world (nodeHumanPush state)
  | .deepAudit => .ofOption world (nodeDeepAudit env state)
  | .humanReview => nodeHumanReview env state world

omit [PythonText] in
/-- The execution after a node has ended in some way. -/
def conclude
    (cap : Option ActiveCap)
    (node : Node)
    (execution : Execution) : NodeResult → Execution
  | .raise world => { execution with control := .crashed, world := world }
  | .interrupt ask world =>
      { execution with control := .pausedAt node ask, world := world }
  | .update update world =>
      let (next, routed) := successor cap (execution.graph.apply update) node
      { graph := routed
        control := next.elim .ended .at
        world := world }

/-- Execute a node and follow its edge. -/
def visit (env : StepEnv) (node : Node) (execution : Execution) : Execution :=
  conclude env.cap node execution
    (runNode env execution.graph (receiveDrops env.drops execution.world) node)

/-- One step of a run; a paused node waits for its answer. -/
def step (execution : Execution) (env : StepEnv) : Option Execution :=
  match execution.control with
  | .at node => some (visit { env with answer := none } node execution)
  | .pausedAt node _ =>
      if env.answer.isSome then some (visit env node execution) else none
  | .ended => none
  | .crashed => none

/-- A run that enters the graph; the channels may be those of an earlier run. -/
def Started (execution : Execution) : Prop :=
  execution.control = .at .intake

/-! ## What a step can do -/

/-- A step executes one node, without an answer unless it was paused there. -/
inductive Visits (execution : Execution) (env : StepEnv) :
    Node → StepEnv → Prop where
  | entered {node : Node} :
      execution.control = .at node →
      Visits execution env node { env with answer := none }
  | resumed {node : Node} {ask : Ask} :
      execution.control = .pausedAt node ask →
      env.answer.isSome = true →
      Visits execution env node env

/-- Every step is the visit of a node. -/
theorem step_visits
    {execution next : Execution}
    {env : StepEnv}
    (stepped : step execution env = some next) :
    ∃ node seen,
      Visits execution env node seen ∧ next = visit seen node execution := by
  unfold step at stepped
  split at stepped
  · rename_i node standsAt
    exact ⟨node, _, .entered standsAt, (Option.some.inj stepped).symm⟩
  · rename_i node ask standsAt
    split at stepped
    · rename_i answered
      exact ⟨node, env, .resumed standsAt answered,
        (Option.some.inj stepped).symm⟩
    · cases stepped
  · cases stepped
  · cases stepped

omit [PythonText] in
/-- The surroundings that a visit sees differ in the answer only. -/
theorem Visits.seen_eq
    {execution : Execution}
    {env seen : StepEnv}
    {node : Node}
    (visits : Visits execution env node seen) :
    seen = { env with answer := seen.answer } := by
  cases visits <;> rfl

/-- A visit that raises, pauses, or updates and moves on. -/
theorem visit_cases
    (env : StepEnv)
    (node : Node)
    (execution : Execution) :
    (∃ world,
        visit env node execution =
          { execution with control := .crashed, world := world }) ∨
      (∃ ask world,
        runNode env execution.graph
              (receiveDrops env.drops execution.world) node =
            .interrupt ask world ∧
          visit env node execution =
            { execution with control := .pausedAt node ask, world := world }) ∨
      ∃ update world,
        runNode env execution.graph
              (receiveDrops env.drops execution.world) node =
            .update update world ∧
          visit env node execution =
            { graph :=
                (successor env.cap (execution.graph.apply update) node).2
              control :=
                (successor env.cap (execution.graph.apply update)
                  node).1.elim .ended .at
              world := world } := by
  unfold visit
  cases ran :
      runNode env execution.graph
        (receiveDrops env.drops execution.world) node with
  | raise world =>
      exact Or.inl ⟨world, rfl⟩
  | interrupt ask world =>
      exact Or.inr (Or.inl ⟨ask, world, rfl, rfl⟩)
  | update update world =>
      exact Or.inr (Or.inr ⟨update, world, rfl, rfl⟩)

omit [PythonText] in
/-- Following an edge changes at most the stop reason. -/
theorem successor_state
    (cap : Option ActiveCap)
    (state : GraphState)
    (node : Node) :
    (successor cap state node).2 = state ∨
      (successor cap state node).2 = recordStopReason cap state := by
  cases node with
  | cosDecision =>
      simp only [successor, route]
      repeat' split
      all_goals first
        | exact Or.inl rfl
        | exact Or.inr rfl
  | humanPull =>
      simp only [successor, routeAfterPull]
      repeat' split
      all_goals first
        | exact Or.inl rfl
        | exact Or.inr rfl
  | _ =>
      exact Or.inl rfl

end Steps

end ResearchCos
