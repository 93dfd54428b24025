import ResearchCos.LoopTermination

namespace ResearchCos

open Foundation

/-!
# The fixed recursion limit

The checkpointed entry points run under one fixed limit of node steps, whatever
the ceiling of iterations is.  A pass takes up to fourteen steps, so the limit
suffices up to a ceiling of thirteen passes and not beyond.
-/

/-- The recursion limit of every checkpointed entry point. -/
def checkpointedRecursionLimit : Nat :=
  200

/-- The start of an auto run. -/
def runAutoStart
    (initial : ResearchState)
    (now : String)
    (maxIterations : Int)
    (defaultPriority : Option String)
    (assumeBrief : Bool)
    (world : World) : Execution where
  graph :=
    { researchState :=
        { initial with
          mode := .auto
          defaultResearchPriority :=
            if isSet defaultPriority ∧
                ¬isSet initial.defaultResearchPriority then
              defaultPriority
            else
              initial.defaultResearchPriority }
      config :=
        { now := now
          maxIterations := maxIterations
          mode := some .auto
          enableH6 := false
          assumeBrief := assumeBrief } }
  control := .at .intake
  world := world

/-- The start of an interactive run, from a question or from a snapshot. -/
def cosRunStart
    (initial : ResearchState)
    (now : String)
    (maxIterations : Int)
    (assumeBrief : Bool)
    (world : World) : Execution where
  graph :=
    { researchState := { initial with mode := .interactive }
      config :=
        { now := now
          maxIterations := maxIterations
          mode := some .interactive
          enableH6 := true
          assumeBrief := assumeBrief } }
  control := .at .intake
  world := world

section Runs

variable [PythonText]

/--
A run that nothing stops while it is within the limit reaches its end within
the limit.
-/
def EndsWithin (limit : Nat) (start : Execution) : Prop :=
  ∀ envs : Nat → StepEnv,
    (∀ n ≤ limit, ∀ state,
      exec step start (firstLabels envs n) = some state →
      state.control.Running) →
    ∃ n ≤ limit, ∃ final,
      exec step start (firstLabels envs n) = some final ∧
        final.control = .ended

/-- With at most thirteen rounds left no run uses up the fixed limit. -/
theorem endsWithin_of_rounds
    {start : Execution}
    (started : Started start)
    (rounds : roundsLeft start.graph ≤ 13) :
    EndsWithin checkpointedRecursionLimit start := by
  intro envs running
  have atStart :
      boundAt stepsFrom start = 14 * (roundsLeft start.graph - 1) + 19 := by
    rw [boundAt, started]
    rfl
  have within : boundAt stepsFrom start ≤ checkpointedRecursionLimit := by
    simp only [checkpointedRecursionLimit]
    omega
  rcases ended_or_running started
      (fun k early => running k (early.trans within)) with
    ⟨n, final, early, ran, ended⟩ | ⟨state, node, ran, standsAt⟩
  · exact ⟨n, early.trans within, final, ran, ended⟩
  · exfalso
    have uninterrupted :
        Uninterrupted step start
          (firstLabels envs (boundAt stepsFrom start)) := by
      intro earlier later middle shape reached
      have lengths := congrArg List.length shape
      simp only [firstLabels, List.length_map, List.length_range,
        List.length_append] at lengths
      refine running earlier.length (by omega) middle ?_
      rw [← prefix_firstLabels shape]
      exact reached
    have steps := (spent_of_run uninterrupted ran).steps
    have stepLeft := boundAt_stepsFrom_pos standsAt
    simp only [firstLabels, List.length_map, List.length_range] at steps
    omega

/-! ## A run that asks in every round -/

/-- An audit that sees a high risk and recommends to ask the human. -/
def alarmedAudit : AuditResult where
  verdict := .continue_
  prematureEndRisk := .high
  recommendedNextAction := some .pullHuman
  rationale := "rationale"

/-- An audit that sees no risk. -/
def calmAudit : AuditResult where
  verdict := .continue_
  rationale := "rationale"

/-- Nothing is researched, the audit is alarmed, the deep audit is not. -/
def askingEnv : StepEnv :=
  .calm
    { Brains.silent with
      supervisor := fun _ => some []
      auditor := fun _ => some alarmedAudit
      deepAuditor := some fun _ => some calmAudit }

/-- The node after a node, when every decision is to ask the human. -/
def askingNext : Node → Node
  | .intake => .scope
  | .scope => .clarify
  | .clarify => .writeBrief
  | .writeBrief => .orchestratorPlan
  | .orchestratorPlan => .planAudit
  | .planAudit => .planApproval
  | .planApproval => .supervisor
  | .issueExpansion => .supervisor
  | .supervisor => .researchFanout
  | .researchFanout => .collect
  | .collect => .skeptic
  | .skeptic => .albertAudit
  | .albertAudit => .artifactUpdate
  | .artifactUpdate => .readinessScoring
  | .readinessScoring => .antiPremature
  | .antiPremature => .cosDecision
  | .cosDecision => .deepAudit
  | .humanPull => .orchestratorPlan
  | .humanPush => .supervisor
  | .deepAudit => .humanPull
  | .humanReview => .humanReview

/-- What holds at a node of a run that asks in every round. -/
structure AsksAt (node : Node) (state : GraphState) : Prop where
  onPath :
    node ≠ .issueExpansion ∧ node ≠ .humanPush ∧ node ≠ .humanReview
  mode : state.config.mode = some .auto
  assumed : state.config.assumeBrief = true
  gridless : state.researchState.taskGrid = none
  idle : state.workerResults = []
  priority : isSet state.researchState.defaultResearchPriority = true
  fallback :
    isSet state.researchState.fallbackBehaviorIfHumanUnavailable = true
  alarmed :
    node ∈ [.artifactUpdate, .readinessScoring, .antiPremature,
        .cosDecision] →
      state.researchState.lastAudit = some alarmedAudit
  asked :
    node ∈ [.deepAudit, .humanPull] → state.lastDecision = some .pullHuman
  calm :
    node = .humanPull → state.researchState.lastAudit = some calmAudit

/-- The research state keeps what lets a pull fall back on its default. -/
structure KeepsDefaults (before after : ResearchState) : Prop where
  taskGrid : after.taskGrid = before.taskGrid
  priority : after.defaultResearchPriority = before.defaultResearchPriority
  fallback :
    after.fallbackBehaviorIfHumanUnavailable =
      before.fallbackBehaviorIfHumanUnavailable

/-- A node that updates and follows its edge to the next node. -/
theorem AsksAt.moves
    {node : Node}
    {execution : Execution}
    {update : Update}
    {world : World}
    (asks : AsksAt node execution.graph)
    (ran :
      runNode askingEnv execution.graph execution.world node =
        .update update world)
    (edge :
      successor none (execution.graph.apply update) node =
        (some (askingNext node), execution.graph.apply update))
    (kept : KeepsDefaults execution.graph.researchState update.researchState)
    (nothing : update.workerResults.getD [] = [])
    (alarmed :
      askingNext node ∈ [.artifactUpdate, .readinessScoring, .antiPremature,
          .cosDecision] →
        update.researchState.lastAudit = some alarmedAudit)
    (asked :
      askingNext node ∈ [.deepAudit, .humanPull] →
        update.lastDecision.or execution.graph.lastDecision =
          some .pullHuman)
    (calm :
      askingNext node = .humanPull →
        update.researchState.lastAudit = some calmAudit) :
    (visit askingEnv node execution).control = .at (askingNext node) ∧
      AsksAt (askingNext node) (visit askingEnv node execution).graph := by
  have moved :
      visit askingEnv node execution =
        { graph := execution.graph.apply update
          control := .at (askingNext node)
          world := world } := by
    rw [visit]
    change conclude none node execution
        (runNode askingEnv execution.graph execution.world node) = _
    rw [ran, conclude, edge]
    rfl
  rw [moved]
  refine ⟨rfl, ?_, asks.mode, asks.assumed, kept.taskGrid.trans asks.gridless,
    ?_, ?_, ?_, alarmed, asked, calm⟩
  · cases node <;> simp [askingNext] at asks ⊢
    all_goals exact absurd rfl asks.onPath.2.2
  · simp [GraphState.apply, asks.idle, nothing]
  · exact (congrArg isSet kept.priority).trans asks.priority
  · exact (congrArg isSet kept.fallback).trans asks.fallback

/-- A node whose successor neither needs an audit nor a decision. -/
theorem AsksAt.moves_quietly
    {node : Node}
    {execution : Execution}
    {update : Update}
    {world : World}
    (asks : AsksAt node execution.graph)
    (ran :
      runNode askingEnv execution.graph execution.world node =
        .update update world)
    (edge :
      successor none (execution.graph.apply update) node =
        (some (askingNext node), execution.graph.apply update))
    (kept : KeepsDefaults execution.graph.researchState update.researchState)
    (nothing : update.workerResults.getD [] = [])
    (quiet :
      askingNext node ∉
        [.artifactUpdate, .readinessScoring, .antiPremature, .cosDecision,
          .deepAudit, .humanPull]) :
    (visit askingEnv node execution).control = .at (askingNext node) ∧
      AsksAt (askingNext node) (visit askingEnv node execution).graph := by
  simp only [List.mem_cons, List.not_mem_nil, or_false, not_or] at quiet
  obtain ⟨noUpdate, noScores, noCheck, noDecision, noAudit, noPull⟩ := quiet
  refine asks.moves ran edge kept nothing ?_ ?_ ?_
  · simp [noUpdate, noScores, noCheck, noDecision]
  · simp [noAudit, noPull]
  · simp [noPull]

/-- No question is open, so the clarification is over at once. -/
theorem AsksAt.clarifies
    {execution : Execution}
    (asks : AsksAt .clarify execution.graph) :
    ∃ log,
      runNode askingEnv execution.graph execution.world .clarify =
        .update
          (Update.ofState
            { execution.graph.researchState with
              steeringEvents := log
              clarifyConverged := true })
          execution.world := by
  simp only [runNode, nodeClarify, asks.assumed, ↓reduceIte]
  split
  · exact ⟨_, rfl⟩
  · exact ⟨_, rfl⟩

/-- Only the brief is written, if there is a change. -/
theorem runNode_writeBrief
    (execution : Execution) :
    ∃ brief,
      runNode askingEnv execution.graph execution.world .writeBrief =
        .update
          (Update.ofState
            { execution.graph.researchState with researchBrief := brief })
          execution.world := by
  simp only [runNode, nodeWriteBrief]
  split
  · exact ⟨_, rfl⟩
  · exact ⟨_, rfl⟩

/-- No issue is planned; the steer events are read. -/
theorem runNode_orchestratorPlan
    (execution : Execution) :
    runNode askingEnv execution.graph execution.world .orchestratorPlan =
      .update
        (Update.ofState (consumeSteerEvents execution.graph.researchState))
        execution.world := by
  simp [runNode, nodeOrchestratorPlan, expandIssues, addDrafts, askingEnv,
    StepEnv.calm, Brains.silent, NodeResult.ofOption]

/-- The audit of a plan without a grid raises the alarm. -/
theorem AsksAt.auditsPlan
    {execution : Execution}
    (asks : AsksAt .planAudit execution.graph) :
    runNode askingEnv execution.graph execution.world .planAudit =
      .update
        { researchState :=
            { execution.graph.researchState with
              lastAudit := some alarmedAudit }
          lastPlanSig := some "" }
        execution.world := by
  simp [runNode, nodePlanAudit, gridSignature, asks.gridless, askingEnv,
    StepEnv.calm, NodeResult.ofOption]

/-- The plan is approved by assumption. -/
theorem AsksAt.approvesPlan
    {execution : Execution}
    (asks : AsksAt .planApproval execution.graph) :
    ∃ log approved,
      runNode askingEnv execution.graph execution.world .planApproval =
        .update
          { researchState :=
              { execution.graph.researchState with steeringEvents := log }
            h7ApprovedN := approved }
          execution.world := by
  simp only [runNode, nodePlanApproval, asks.assumed, ↓reduceIte]
  exact ⟨_, _, rfl⟩

/-- There is nothing to collect but the references. -/
theorem AsksAt.collects
    {execution : Execution}
    (asks : AsksAt .collect execution.graph) :
    runNode askingEnv execution.graph execution.world .collect =
      .update
        { researchState :=
            CellGates.classifyGridCells
              (collectReferences askingEnv.converters execution.world.folder
                execution.graph.researchState)
          prereqs :=
            some
              { execution.graph.flags with sourceConfidenceChecked := true }
          workerResults := some [] }
        execution.world := by
  simp [runNode, nodeCollect, asks.idle, foldWorkerResults]

/-- The decision asks the human while the audit raises the alarm. -/
theorem AsksAt.decides
    {execution : Execution}
    (asks : AsksAt .cosDecision execution.graph) :
    runNode askingEnv execution.graph execution.world .cosDecision =
      .update
        { researchState := execution.graph.researchState
          lastDecision := some .pullHuman
          branchBudget :=
            some
              (execution.graph.branchBudget.getD
                { breadth := defaultBreadth, depth := defaultDepth }) }
        execution.world := by
  have audited := asks.alarmed (by simp)
  change NodeResult.update (decideCos false execution.graph) _ = _
  simp [decideCos, cosStage, asksForPull, auditRecommends, audited,
    alarmedAudit]

/-- The pull falls back on its default. -/
theorem AsksAt.pulls
    {execution : Execution}
    (asks : AsksAt .humanPull execution.graph) :
    ∃ log,
      runNode askingEnv execution.graph execution.world .humanPull =
        .update
          (Update.ofState
            { execution.graph.researchState with steeringEvents := log })
          execution.world := by
  have lowRisk :
      PullRisk.classifyPull execution.graph.researchState = .low := by
    simp [PullRisk.classifyPull, PullRisk.auditHighRisk, asks.calm rfl,
      calmAudit, PullRisk.criterionUnknown, PullRisk.noSafeDefault,
      asks.priority, asks.fallback]
  simp only [runNode, nodeHumanPull, GraphState.mode, asks.mode, lowRisk,
    Option.getD_some, and_self, ↓reduceIte]
  exact ⟨_, rfl⟩

/-- The run goes on after the pull, in the loop or to the review. -/
theorem AsksAt.leaves_pull
    {execution : Execution}
    (asks : AsksAt .humanPull execution.graph) :
    ∃ node, (visit askingEnv .humanPull execution).control = .at node := by
  obtain ⟨log, pulled⟩ := asks.pulls
  let after :=
    execution.graph.apply
      (Update.ofState
        { execution.graph.researchState with steeringEvents := log })
  refine ⟨(routeAfterPull none after).1, ?_⟩
  rw [visit]
  change
    (conclude none .humanPull execution
      (runNode askingEnv execution.graph execution.world
        .humanPull)).control = _
  rw [pulled]
  rfl

/-- One node of a run that asks in every round. -/
theorem AsksAt.visit
    {node : Node}
    {execution : Execution}
    (asks : AsksAt node execution.graph)
    (below : node = .humanPull → ceilingHit execution.graph = false) :
    (visit askingEnv node execution).control = .at (askingNext node) ∧
      AsksAt (askingNext node) (visit askingEnv node execution).graph := by
  cases node with
  | issueExpansion =>
      exact absurd rfl asks.onPath.1
  | humanPush =>
      exact absurd rfl asks.onPath.2.1
  | humanReview =>
      exact absurd rfl asks.onPath.2.2
  | intake
  | scope
  | supervisor
  | skeptic =>
      exact asks.moves_quietly rfl rfl ⟨rfl, rfl, rfl⟩ rfl (by decide)
  | clarify =>
      obtain ⟨log, ran⟩ := asks.clarifies
      exact asks.moves_quietly ran rfl ⟨rfl, rfl, rfl⟩ rfl (by decide)
  | writeBrief =>
      obtain ⟨brief, ran⟩ := runNode_writeBrief execution
      exact asks.moves_quietly ran rfl ⟨rfl, rfl, rfl⟩ rfl (by decide)
  | orchestratorPlan =>
      have ran := runNode_orchestratorPlan execution
      exact asks.moves_quietly ran rfl ⟨rfl, rfl, rfl⟩ rfl (by decide)
  | planAudit =>
      exact
        asks.moves_quietly asks.auditsPlan rfl ⟨rfl, rfl, rfl⟩ rfl (by decide)
  | planApproval =>
      obtain ⟨log, approved, ran⟩ := asks.approvesPlan
      exact asks.moves_quietly ran rfl ⟨rfl, rfl, rfl⟩ rfl (by decide)
  | researchFanout =>
      obtain ⟨queries, ran⟩ :
          ∃ queries,
            runNode askingEnv execution.graph execution.world
                .researchFanout =
              .update
                { researchState :=
                    { execution.graph.researchState with
                      researchedQueries := queries }
                  workerResults := some [] }
                execution.world :=
        ⟨_, rfl⟩
      exact asks.moves_quietly ran rfl ⟨rfl, rfl, rfl⟩ rfl (by decide)
  | collect =>
      have kept :
          KeepsDefaults execution.graph.researchState
            (CellGates.classifyGridCells
              (collectReferences askingEnv.converters
                execution.world.folder execution.graph.researchState)) :=
        ⟨by
            simp [CellGates.classifyGridCells, collectReferences,
              asks.gridless],
          rfl, rfl⟩
      exact asks.moves_quietly asks.collects rfl kept rfl (by decide)
  | albertAudit =>
      exact asks.moves rfl rfl ⟨rfl, rfl, rfl⟩ rfl (fun _ => rfl)
        (by simp [askingNext]) (by simp [askingNext])
  | artifactUpdate =>
      exact asks.moves rfl rfl ⟨rfl, rfl, rfl⟩ rfl
        (fun _ => asks.alarmed (by simp))
        (by simp [askingNext]) (by simp [askingNext])
  | readinessScoring =>
      exact asks.moves rfl rfl ⟨rfl, rfl, rfl⟩ rfl
        (fun _ => asks.alarmed (by simp))
        (by simp [askingNext]) (by simp [askingNext])
  | antiPremature =>
      exact asks.moves rfl rfl ⟨rfl, rfl, rfl⟩ rfl
        (fun _ => asks.alarmed (by simp))
        (by simp [askingNext]) (by simp [askingNext])
  | cosDecision =>
      have audited := asks.alarmed (by simp)
      refine asks.moves asks.decides ?_ ⟨rfl, rfl, rfl⟩ rfl
        (by simp [askingNext]) (fun _ => rfl) (by simp [askingNext])
      -- the deep audit comes next below the ceiling too: the risk is high
      simp [successor, route, GraphState.apply, RunCap.capHitNow,
        PullRisk.classifyPull, PullRisk.auditHighRisk, audited, alarmedAudit,
        isSoftStop, Decision.isGated, askingNext]
  | deepAudit =>
      have decided := asks.asked (by simp)
      refine asks.moves rfl ?_ ⟨rfl, rfl, rfl⟩ rfl (by simp [askingNext])
        (fun _ => decided) (fun _ => rfl)
      simp [successor, routeAfterDeepAudit, GraphState.apply, Update.ofState,
        decided, askingNext]
  | humanPull =>
      obtain ⟨log, ran⟩ := asks.pulls
      have notHit := below rfl
      refine asks.moves ran ?_ ⟨rfl, rfl, rfl⟩ rfl (by simp [askingNext])
        (by simp [askingNext]) (by simp [askingNext])
      simp only [ceilingHit, decide_eq_false_iff_not] at notHit
      simp [successor, routeAfterPull, RunCap.capHitNow, ceilingHit,
        GraphState.apply, Update.ofState, notHit, askingNext]

omit [PythonText] in
/-- Where a run that asks in every round stands, and the rounds it counted. -/
def askingPosition : Nat → Node × Nat
  | 0 => (.intake, 0)
  | n + 1 =>
      let (node, rounds) := askingPosition n
      (askingNext node, rounds + [node].count .readinessScoring)

omit [PythonText] in
/-- Before its last permitted step the run leaves the pull below the ceiling. -/
theorem askingPosition_rounds :
    ∀ n < 199,
      (askingPosition n).1 = .humanPull → (askingPosition n).2 ≤ 13 := by
  decide +kernel

/-- With fourteen rounds left the run goes on for all but one permitted steps. -/
theorem asking_run
    {start : Execution}
    (started : Started start)
    (asks : AsksAt .intake start.graph)
    (rounds :
      start.graph.researchState.iterationCount + 14 ≤
        start.graph.config.maxIterations)
    (n : Nat)
    (within : n ≤ 199) :
    ∃ state,
      exec step start (firstLabels (fun _ => askingEnv) n) = some state ∧
        state.control = .at (askingPosition n).1 ∧
        AsksAt (askingPosition n).1 state.graph ∧
        state.graph.config = start.graph.config ∧
        state.graph.researchState.iterationCount =
          start.graph.researchState.iterationCount + (askingPosition n).2 := by
  induction n with
  | zero =>
      exact ⟨start, rfl, started, asks, rfl, by simp [askingPosition]⟩
  | succ n inductionHypothesis =>
      obtain ⟨state, ran, standsAt, asksHere, config, counted⟩ :=
        inductionHypothesis (Nat.le_of_succ_le within)
      have below :
          (askingPosition n).1 = .humanPull →
            ceilingHit state.graph = false := by
        intro pulls
        have few := askingPosition_rounds n within pulls
        simp only [ceilingHit, config, decide_eq_false_iff_not]
        omega
      obtain ⟨movesTo, asksThere⟩ := asksHere.visit below
      have stepped :
          step state askingEnv =
            some (ResearchCos.visit askingEnv (askingPosition n).1 state) := by
        rw [step, standsAt]
        rfl
      obtain ⟨node, standsAtNode, progress⟩ :=
        step_progresses (by rw [standsAt]; trivial)
          (by rw [movesTo]; trivial) stepped
      have sameNode : (askingPosition n).1 = node :=
        Control.at.inj (standsAt.symm.trans standsAtNode)
      refine ⟨_, ?_, movesTo, asksThere, progress.config.trans config, ?_⟩
      · rw [firstLabels_succ, exec_append, ran]
        simp [stepped]
      · rw [progress.iterationCount, counted, ← sameNode]
        simp only [askingPosition]
        push_cast
        omega

/-- With fourteen rounds left a run can use up the limit. -/
theorem not_endsWithin_of_rounds
    {start : Execution}
    (started : Started start)
    (asks : AsksAt .intake start.graph)
    (rounds :
      start.graph.researchState.iterationCount + 14 ≤
        start.graph.config.maxIterations) :
    ¬EndsWithin checkpointedRecursionLimit start := by
  have goesOn (n : Nat) (within : n ≤ 200) :
      ∃ state node,
        exec step start (firstLabels (fun _ => askingEnv) n) = some state ∧
          state.control = .at node := by
    rcases Nat.lt_or_ge 199 n with last | earlier
    · -- the last permitted step leaves the pull
      obtain rfl : n = 199 + 1 := by omega
      obtain ⟨state, ran, standsAt, asksHere, _⟩ :=
        asking_run started asks rounds 199 le_rfl
      have position : (askingPosition 199).1 = .humanPull := by
        decide +kernel
      rw [position] at standsAt asksHere
      obtain ⟨node, movesTo⟩ := asksHere.leaves_pull
      refine ⟨visit askingEnv .humanPull state, node, ?_, movesTo⟩
      rw [firstLabels_succ, exec_append, ran]
      simp only [Option.bind_some, exec_cons, exec_nil, step, standsAt]
      rfl
    · obtain ⟨state, ran, standsAt, _⟩ :=
        asking_run started asks rounds n earlier
      exact ⟨state, _, ran, standsAt⟩
  intro ends
  obtain ⟨n, within, final, ranFinal, ended⟩ :=
    ends (fun _ => askingEnv) (by
      intro n within state ran
      obtain ⟨stands, node, ranThere, standsAt⟩ := goesOn n within
      cases ranThere.symm.trans ran
      rw [standsAt]
      trivial)
  obtain ⟨stands, node, ranThere, standsAt⟩ := goesOn n within
  cases ranThere.symm.trans ranFinal
  cases standsAt.symm.trans ended

/-! ## The ceilings that the fixed limit suffices for -/

omit [PythonText] in
/-- A question with defaults for a pull that nobody answers. -/
private def defaultedQuestion (iterationCount : Int) : ResearchState where
  runId := "run"
  originalQuestion := "question"
  defaultResearchPriority := some "priority"
  fallbackBehaviorIfHumanUnavailable := some "fallback"
  iterationCount := iterationCount

omit [PythonText] in
/-- An auto run on a question with defaults may ask in every round. -/
theorem defaultedQuestion_asks
    (maxIterations iterationCount : Int) :
    AsksAt .intake
      (runAutoStart (defaultedQuestion iterationCount) "t" maxIterations
        none true {}).graph := by
  refine ⟨by simp, rfl, rfl, rfl, rfl, ?_, ?_, by simp, by simp, by simp⟩
  · simp [runAutoStart, defaultedQuestion, isSet]
  · simp [runAutoStart, defaultedQuestion, isSet]

/--
Every checkpointed run ends within the fixed limit exactly when the ceiling is
at most thirteen passes away from the iterations counted at the start.
-/
theorem checkpointedRuns_end_iff
    (maxIterations iterationCount : Int) :
    (∀ (initial : ResearchState) now defaultPriority assumeBrief world,
        initial.iterationCount = iterationCount →
        EndsWithin checkpointedRecursionLimit
            (runAutoStart initial now maxIterations defaultPriority
              assumeBrief world) ∧
          EndsWithin checkpointedRecursionLimit
            (cosRunStart initial now maxIterations assumeBrief world)) ↔
      maxIterations - iterationCount ≤ 13 := by
  constructor
  · intro ends
    by_contra far
    have exhausts :
        ¬EndsWithin checkpointedRecursionLimit
          (runAutoStart (defaultedQuestion iterationCount) "t" maxIterations
            none true {}) := by
      refine
        not_endsWithin_of_rounds rfl
          (defaultedQuestion_asks maxIterations iterationCount) ?_
      simp only [runAutoStart, defaultedQuestion]
      omega
    exact exhausts
      (ends (defaultedQuestion iterationCount) "t" none true {} rfl).1
  · intro near initial now defaultPriority assumeBrief world counted
    constructor
    · refine endsWithin_of_rounds rfl ?_
      simp only [roundsLeft, runAutoStart, counted]
      omega
    · refine endsWithin_of_rounds rfl ?_
      simp only [roundsLeft, cosRunStart, counted]
      omega

end Runs

/-- A fresh auto run with a ceiling of fourteen passes exhausts the limit. -/
theorem fourteenPasses_exhaust_limit :
    letI := PythonText.ascii
    ∃ initial : ResearchState,
      initial.iterationCount = 0 ∧
        ¬EndsWithin checkpointedRecursionLimit
          (runAutoStart initial "t" 14 none true {}) :=
  let _ := PythonText.ascii
  ⟨defaultedQuestion 0, rfl,
    not_endsWithin_of_rounds rfl (defaultedQuestion_asks 14 0) (by decide)⟩

end ResearchCos
