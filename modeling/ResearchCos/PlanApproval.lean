import ResearchCos.MemoDelivery
import ResearchCos.Orchestrator

namespace ResearchCos

open Foundation

/-!
# The approval of the plan

The approval compares numbers of cells, not the cells.  That is enough because
both orchestrators leave the cells that are there in their places: the plan
that was approved last is always the beginning of the current one.
-/

/-- The identifiers of the planned cells, in the order of the grid. -/
def cellIds (rs : ResearchState) : List String :=
  (cellNames rs).map Prod.snd

/-- The approval has to ask: nothing was approved yet, or much is new. -/
def approvalAsks (state : GraphState) : Bool :=
  match state.h7ApprovedN with
  | none => true
  | some approved =>
      decide (approved + h7MajorDelta ≤ (cellIds state.researchState).length)

/-- The plan is settled without a question or with an answered one. -/
def approvalSettles (state : GraphState) : Bool :=
  state.config.assumeBrief || approvalAsks state

/-- Whether a command executes a node. -/
def Command.visits (command : Command) : Bool :=
  command.env?.isSome

/-- The brains of a command plan with one of the orchestrators. -/
def Command.Orchestrated (command : Command) : Prop :=
  ∀ env ∈ command.env?, IsOrchestrator env.brains.orchestrator

/--
A run with the plan that was last shown for approval or assumed, and the one
that was last approved or assumed.
-/
structure ApprovedRun where
  desk : Desk
  presented : Option (List String)
  settled : Option (List String)

/-- A run at its start: no plan was shown or approved in it. -/
structure ApprovedRun.Fresh (run : ApprovedRun) : Prop where
  started : Started run.desk.execution
  approvedNot : run.desk.execution.graph.h7ApprovedN = none
  presented : run.presented = none
  settled : run.settled = none
  named :
    ∀ name ∈ cellNames run.desk.execution.graph.researchState,
      name.1 = name.2

/-- The plan that an entry of the log shows. -/
def SteeringEvent.plan? : SteeringEvent → Option (List String)
  | .planAssumed _ cells => some cells
  | .planApproval _ cells => some cells
  | _ => none

/-- The plan that was logged last between two states. -/
def loggedPlan (before after : ResearchState) : Option (List String) :=
  ((after.steeringEvents.drop before.steeringEvents.length).filterMap
    SteeringEvent.plan?).getLast?

/-- The plan that a pause presents for approval. -/
def Control.askedPlan? : Control → Option (List String)
  | .pausedAt _ (.planApproval cells _) => some cells
  | _ => none

/--
Note which plan the approval has shown and which one is settled.  A plan is
shown when a pause asks about it or the node has logged it, and it is settled
when the node has logged it: an assumed one, or one with its answer.
-/
def ApprovedRun.note (run : ApprovedRun) (next : Desk) : ApprovedRun :=
  match run.desk.execution.control.node? with
  | some .planApproval =>
      let logged :=
        loggedPlan run.desk.execution.graph.researchState
          next.execution.graph.researchState
      { desk := next
        presented :=
          (next.execution.control.askedPlan?.or logged).or run.presented
        settled := logged.or run.settled }
  | _ => { run with desk := next }

/-- What is appended to the log is what was logged. -/
theorem loggedPlan_append
    (rs : ResearchState)
    (events : List SteeringEvent) :
    loggedPlan rs { rs with steeringEvents := rs.steeringEvents ++ events } =
      (events.filterMap SteeringEvent.plan?).getLast? := by
  simp [loggedPlan]

/-- Nothing was logged in a state that stayed as it is. -/
theorem loggedPlan_self
    (rs : ResearchState) :
    loggedPlan rs rs = none := by
  simp [loggedPlan]

section Approvals

variable [PythonText]

/-- One command, with a note of what the approval has shown. -/
def approvalStep (run : ApprovedRun) (command : Command) :
    Option ApprovedRun :=
  (deskStep run.desk command).map fun next =>
    if command.visits then run.note next else { run with desk := next }

/-- How the approval ends: settled, passed over, or with a question. -/
inductive ApprovalEnds (state : GraphState) : NodeResult → Prop where
  | settled {update : Update} {world : World} :
      approvalSettles state = true →
      update.h7ApprovedN = some (cellIds state.researchState).length →
      loggedPlan state.researchState update.researchState =
        some (cellIds state.researchState) →
      ApprovalEnds state (.update update world)
  | passed {update : Update} {world : World} :
      approvalSettles state = false →
      update.h7ApprovedN = none →
      loggedPlan state.researchState update.researchState = none →
      ApprovalEnds state (.update update world)
  | asks {firstCycle : Bool} {world : World} :
      approvalAsks state = true →
      ApprovalEnds state
        (.interrupt (.planApproval (cellIds state.researchState) firstCycle)
          world)

omit [PythonText] in
/-- The approval in terms of the identifiers of the cells. -/
theorem nodePlanApproval_eq
    (env : StepEnv)
    (state : GraphState)
    (world : World) :
    nodePlanApproval env state world =
      if state.config.assumeBrief then
        .update
          { researchState :=
              { state.researchState with
                steeringEvents :=
                  state.researchState.steeringEvents ++
                    [.planAssumed state.h7ApprovedN.isNone
                      (cellIds state.researchState)] }
            h7ApprovedN := some (cellIds state.researchState).length }
          world
      else if !approvalAsks state then
        .update (Update.ofState state.researchState) world
      else
        env.answer.elim
          (.interrupt
            (.planApproval (cellIds state.researchState)
              state.h7ApprovedN.isNone)
            world)
          fun answer =>
            .update
              { researchState :=
                  { state.researchState with
                    steeringEvents :=
                      state.researchState.steeringEvents ++
                        [.planApproval state.h7ApprovedN.isNone
                            (cellIds state.researchState),
                          .planApprovalAnswer answer] }
                h7ApprovedN := some (cellIds state.researchState).length }
              world := by
  have noCells
      (noGrid : state.researchState.taskGrid = none) :
      cellIds state.researchState = [] := by
    simp only [cellIds, cellNames, noGrid, List.map_nil]
  have sameCells
      {grid : TaskGrid}
      (isGrid : state.researchState.taskGrid = some grid) :
      cellIds state.researchState =
        grid.cells.values.map TaskCell.id := by
    simp [cellIds, cellNames, isGrid, OrderedMap.values, Function.comp_def]
  have sameAsks :
      approvalAsks state =
        (state.h7ApprovedN.isNone ||
          match state.h7ApprovedN with
          | none => false
          | some approved =>
              decide
                (approved + h7MajorDelta ≤
                  (cellIds state.researchState).length)) := by
    simp only [approvalAsks]
    cases state.h7ApprovedN <;> simp
  simp only [nodePlanApproval]
  cases isGrid : state.researchState.taskGrid with
  | none =>
      rw [sameAsks, noCells isGrid]
      cases env.answer <;> rfl
  | some grid =>
      rw [sameAsks, sameCells isGrid]
      cases env.answer <;> rfl

omit [PythonText] in
/-- The approval settles the plan, passes it over or asks about it. -/
theorem nodePlanApproval_ends
    (env : StepEnv)
    (state : GraphState)
    (world : World) :
    ApprovalEnds state (nodePlanApproval env state world) := by
  rw [nodePlanApproval_eq]
  split
  · rename_i assumed
    exact
      .settled (by simp [approvalSettles, assumed]) rfl
        (loggedPlan_append _ _)
  · rename_i notAssumed
    rw [Bool.not_eq_true] at notAssumed
    split
    · rename_i asksNot
      rw [Bool.not_eq_true'] at asksNot
      exact
        .passed (by simp [approvalSettles, notAssumed, asksNot]) rfl
          (loggedPlan_self _)
    · rename_i asks
      rw [Bool.not_eq_true', Bool.not_eq_false] at asks
      cases env.answer with
      | none =>
          exact .asks asks
      | some answer =>
          exact
            .settled (by simp [approvalSettles, asks]) rfl
              (loggedPlan_append _ _)

omit [PythonText] in
/-- The approved plan begins the shown one, and that one begins the current. -/
structure Approvals (run : ApprovedRun) : Prop where
  named :
    ∀ name ∈ cellNames run.desk.execution.graph.researchState,
      name.1 = name.2
  approvedN :
    run.desk.execution.graph.h7ApprovedN = run.settled.map List.length
  presented :
    ∀ shown,
      run.presented = some shown →
      shown <+: cellIds run.desk.execution.graph.researchState
  settled :
    ∀ approved,
      run.settled = some approved →
      ∃ shown, run.presented = some shown ∧ approved <+: shown
  saved :
    run.desk.execution.control.isPaused = true →
    ∀ saved,
      run.desk.execution.world.snapshot = some saved →
      cellNames saved =
        cellNames run.desk.execution.graph.researchState

omit [PythonText] in
/-- A plan that only grows keeps the names, and the identifiers in place. -/
theorem cellNames_of_appends
    {rs : ResearchState}
    {grid : TaskGrid}
    (appends :
      Orchestrator.Appends (Orchestrator.plannedCells rs) grid.cells)
    (named : ∀ name ∈ cellNames rs, name.1 = name.2) :
    cellNames rs <+: cellNames { rs with taskGrid := some grid } ∧
      ∀ name ∈ cellNames { rs with taskGrid := some grid },
        name.1 = name.2 := by
  obtain ⟨added, entries⟩ := appends
  have grown :
      cellNames { rs with taskGrid := some grid } =
        cellNames rs ++ added.map fun cell => (cell.id, cell.id) := by
    simp only [cellNames, entries, List.map_append, List.map_map]
    congr 1
    simp only [Orchestrator.plannedCells]
    cases rs.taskGrid <;> rfl
  rw [grown]
  refine ⟨List.prefix_append _ _, ?_⟩
  intro name member
  rcases List.mem_append.mp member with before | new
  · exact named name before
  · obtain ⟨cell, _, rfl⟩ := List.mem_map.mp new
    rfl

omit [PythonText] in
/-- The head of the loop lets the plan grow. -/
theorem nodeOrchestratorPlan_grows
    {env : StepEnv}
    {state : GraphState}
    {update : Update}
    (orchestrates : IsOrchestrator env.brains.orchestrator)
    (planned : nodeOrchestratorPlan env state = some update)
    (named :
      ∀ name ∈ cellNames state.researchState, name.1 = name.2) :
    cellNames state.researchState <+: cellNames update.researchState ∧
      ∀ name ∈ cellNames update.researchState, name.1 = name.2 := by
  obtain ⟨rs, expanded, plans⟩ := Option.bind_eq_some_iff.mp planned
  have gridKept : rs.taskGrid = state.researchState.taskGrid :=
    (KeepsRecord.relatesAdded.expandIssues expanded).taskGrid
  have namesKept : cellNames rs = cellNames state.researchState := by
    simp only [cellNames, gridKept]
  split at plans
  · cases plans
    rw [Update.ofState, namesKept]
    exact ⟨List.prefix_rfl, named⟩
  · rename_i plan isPlan
    obtain ⟨grid, isGrid, rfl⟩ := Option.map_eq_some_iff.mp plans
    rw [← namesKept] at named ⊢
    exact cellNames_of_appends (orchestrates.appends isPlan isGrid) named

/-- What a visit does to the plan and to its approval. -/
inductive PlanVisited
    (node : Node)
    (execution next : Execution) : Prop where
  | stopped :
      next.graph = execution.graph →
      next.control = .crashed →
      PlanVisited node execution next
  | paused (ask : Ask) :
      next.graph = execution.graph →
      next.control = .pausedAt node ask →
      (node = .planApproval →
        approvalAsks execution.graph = true ∧
          next.control.askedPlan? =
            some (cellIds execution.graph.researchState)) →
      PlanVisited node execution next
  | moved :
      next.control.isPaused = false →
      cellNames execution.graph.researchState <+:
        cellNames next.graph.researchState →
      (∀ name ∈ cellNames next.graph.researchState, name.1 = name.2) →
      (node ≠ .orchestratorPlan →
        cellNames next.graph.researchState =
          cellNames execution.graph.researchState) →
      (node ≠ .planApproval →
        next.graph.h7ApprovedN = execution.graph.h7ApprovedN) →
      (node = .planApproval →
        next.control = .at .supervisor ∧
          (next.graph.h7ApprovedN =
            if approvalSettles execution.graph then
              some (cellIds execution.graph.researchState).length
            else
              execution.graph.h7ApprovedN) ∧
          loggedPlan execution.graph.researchState
              next.graph.researchState =
            if approvalSettles execution.graph then
              some (cellIds execution.graph.researchState)
            else
              none) →
      PlanVisited node execution next

omit [PythonText] in
/-- An approval that completes keeps the plan and logs what it settles. -/
theorem PlanVisited.completes
    {execution next : Execution}
    {target : Node}
    (visited : PlanVisited .planApproval execution next)
    (completes : next.control = .at target) :
    cellIds next.graph.researchState =
        cellIds execution.graph.researchState ∧
      loggedPlan execution.graph.researchState next.graph.researchState =
        if approvalSettles execution.graph then
          some (cellIds execution.graph.researchState)
        else
          none := by
  cases visited with
  | stopped _ crashed =>
      rw [crashed] at completes
      cases completes
  | paused ask _ paused _ =>
      rw [paused] at completes
      cases completes
  | moved _ _ _ keeps _ approval =>
      exact ⟨by rw [cellIds, keeps (by simp), cellIds], (approval rfl).2.2⟩

/-- Every visit with an orchestrator is of this kind. -/
theorem visit_planVisited
    {env : StepEnv}
    (node : Node)
    (execution : Execution)
    (orchestrates : IsOrchestrator env.brains.orchestrator)
    (named :
      ∀ name ∈ cellNames execution.graph.researchState, name.1 = name.2) :
    PlanVisited node execution (visit env node execution) := by
  rcases visit_cases env node execution with
    ⟨world, raised⟩ | ⟨ask, world, ran, paused⟩ | ⟨update, world, ran, moved⟩
  · rw [raised]
    exact .stopped rfl rfl
  · rw [paused]
    refine .paused ask rfl rfl ?_
    rintro rfl
    have ends :=
      nodePlanApproval_ends env execution.graph
        (receiveDrops env.drops execution.world)
    rw [show nodePlanApproval env execution.graph
        (receiveDrops env.drops execution.world) =
          .interrupt ask world from ran] at ends
    cases ends with
    | asks asks =>
        exact ⟨asks, rfl⟩
  · have records := (runNode_updates ran).record
    obtain ⟨_, gridKept, approvedKept, _, _⟩ :=
      successor_channels env.cap (execution.graph.apply update) node
    have namesAfter :
        cellNames
            (successor env.cap (execution.graph.apply update)
              node).2.researchState =
          cellNames update.researchState := by
      simp only [cellNames, gridKept]
      rfl
    have grows :
        cellNames execution.graph.researchState <+:
            cellNames update.researchState ∧
          ∀ name ∈ cellNames update.researchState, name.1 = name.2 := by
      by_cases atHead : node = .orchestratorPlan
      · subst atHead
        have planned :
            nodeOrchestratorPlan env execution.graph = some update := by
          simp only [runNode] at ran
          cases plan : nodeOrchestratorPlan env execution.graph with
          | none =>
              rw [plan] at ran
              cases ran
          | some written =>
              rw [plan] at ran
              cases ran
              rfl
        exact nodeOrchestratorPlan_grows orchestrates planned named
      · rw [records.cells atHead]
        exact ⟨List.prefix_rfl, named⟩
    rw [moved]
    refine .moved ?_ ?_ ?_ ?_ ?_ ?_
    · cases (successor env.cap (execution.graph.apply update) node).1 <;> rfl
    · rw [namesAfter]
      exact grows.1
    · rw [namesAfter]
      exact grows.2
    · intro notAtHead
      rw [namesAfter]
      exact records.cells notAtHead
    · intro notApproval
      rw [approvedKept, GraphState.apply, records.approved notApproval]
      rfl
    · rintro rfl
      have ends :=
        nodePlanApproval_ends env execution.graph
          (receiveDrops env.drops execution.world)
      rw [show nodePlanApproval env execution.graph
          (receiveDrops env.drops execution.world) =
            .update update world from ran] at ends
      refine ⟨rfl, ?_⟩
      rw [approvedKept, GraphState.apply]
      cases ends with
      | settled settles written logged =>
          rw [written, if_pos settles, if_pos settles]
          exact ⟨rfl, logged⟩
      | passed settlesNot written logged =>
          rw [written, settlesNot]
          exact ⟨rfl, logged⟩

/-- The state held at a pause has the plan of the checkpoint. -/
theorem cellNames_inPlaceState
    (env : StepEnv)
    (ask : Ask)
    (execution : Execution) :
    cellNames (inPlaceState env execution ask) =
      cellNames execution.graph.researchState := by
  cases ask with
  | clarify questions missing =>
      rfl
  | planApproval cells firstCycle =>
      rfl
  | pull payload =>
      rfl
  | review =>
      simp only [inPlaceState]
      cases built :
          buildAndGateMemo env execution.graph
            (receiveDrops env.drops execution.world) with
      | none =>
          rfl
      | some outcome =>
          simp only [Option.map_some, Option.getD_some, cellNames,
            (buildAndGateMemo_keepsPlan built).2]

/-- A command that executes a node, with the segment it belongs to. -/
theorem deskStep_visits
    {desk next : Desk}
    {command : Command}
    (visits : command.visits = true)
    (stepped : deskStep desk command = some next) :
    ∃ env seen node segment,
      command.env? = some env ∧
        seen.brains = env.brains ∧
        desk.execution.control.node? = some node ∧
        next = advance seen node { desk with segment := segment } := by
  obtain ⟨env, surrounded⟩ := Option.isSome_iff_exists.mp visits
  obtain ⟨node, answer, standsAt, rfl⟩ := deskStep_executes surrounded stepped
  exact
    ⟨env, { env with answer := answer }, node, command.segment desk.segment,
      surrounded, rfl, standsAt, rfl⟩

/-- What a pause saves has the plan of the checkpoint. -/
theorem advance_savesPlan
    {env : StepEnv}
    {node : Node}
    {desk : Desk}
    {ask : Ask}
    (paused :
      (visit env node desk.execution).control = .pausedAt node ask)
    (sameGraph :
      (visit env node desk.execution).graph = desk.execution.graph)
    {saved : ResearchState}
    (snapshot :
      (advance env node desk).execution.world.snapshot = some saved) :
    cellNames saved = cellNames desk.execution.graph.researchState := by
  simp only [advance, paused, saveSnapshot, Option.some.injEq] at snapshot
  rw [← snapshot]
  split
  · rw [sameGraph]
  · exact cellNames_inPlaceState env ask desk.execution

/-- Entering the graph again with the saved state keeps the plan. -/
theorem Approvals.reenter
    {run : ApprovedRun}
    {next : Desk}
    {now : String}
    {maxIterations : Int}
    {assumeBrief : Bool}
    (approvals : Approvals run)
    (stepped :
      deskStep run.desk (.runResumeState now maxIterations assumeBrief) =
        some next) :
    Approvals { run with desk := next } := by
  simp only [deskStep] at stepped
  split at stepped
  · rename_i node ask saved paused snapshot
    have kept :=
      approvals.saved (by rw [paused]; rfl) saved snapshot
    have idsKept :
        cellIds saved = cellIds run.desk.execution.graph.researchState := by
      rw [cellIds, cellIds, kept]
    cases stepped
    refine ⟨?_, approvals.approvedN, ?_, approvals.settled, ?_⟩
    · intro name member
      exact approvals.named name (kept ▸ member)
    · intro shown isShown
      exact idsKept ▸ approvals.presented shown isShown
    · intro notPaused
      cases notPaused
  · cases stepped

/-- A steer leaves the plan alone, in the snapshot too. -/
theorem Approvals.steered
    {run : ApprovedRun}
    {next : Desk}
    {text now : String}
    {note : Option DroppedFile}
    (approvals : Approvals run)
    (stepped : deskStep run.desk (.steer text now note) = some next) :
    Approvals { run with desk := next } := by
  simp only [deskStep] at stepped
  split at stepped
  · rename_i node saved control snapshot
    cases stepped
    refine
      ⟨approvals.named, approvals.approvedN, approvals.presented,
        approvals.settled, ?_⟩
    intro paused
    rw [control] at paused
    cases paused
  · rename_i node ask saved control snapshot
    cases stepped
    refine
      ⟨approvals.named, approvals.approvedN, approvals.presented,
        approvals.settled, ?_⟩
    intro paused other isOther
    cases isOther
    exact approvals.saved paused saved snapshot
  · cases stepped

omit [PythonText] in
/-- Only the approval is noted. -/
theorem note_other
    {run : ApprovedRun}
    {node : Node}
    (standsAt : run.desk.execution.control.node? = some node)
    (other : node ≠ .planApproval)
    (next : Desk) :
    run.note next = { run with desk := next } := by
  simp only [ApprovedRun.note, standsAt]
  cases node with
  | planApproval =>
      exact absurd rfl other
  | _ =>
      rfl

omit [PythonText] in
/-- A question notes what it shows, and an exception notes nothing. -/
theorem note_unlogged
    {run : ApprovedRun}
    {next : Desk}
    (standsAt : run.desk.execution.control.node? = some .planApproval)
    (sameGraph : next.execution.graph = run.desk.execution.graph) :
    run.note next =
      { desk := next
        presented := next.execution.control.askedPlan?.or run.presented
        settled := run.settled } := by
  simp only [ApprovedRun.note, standsAt, sameGraph, loggedPlan_self,
    Option.or_none, Option.none_or]

omit [PythonText] in
/-- An approval that completes notes what it has logged. -/
theorem note_moved
    {run : ApprovedRun}
    {next : Desk}
    {target : Node}
    (standsAt : run.desk.execution.control.node? = some .planApproval)
    (moved : next.execution.control = .at target)
    (logged :
      loggedPlan run.desk.execution.graph.researchState
          next.execution.graph.researchState =
        if approvalSettles run.desk.execution.graph then
          some (cellIds run.desk.execution.graph.researchState)
        else
          none) :
    run.note next =
      if approvalSettles run.desk.execution.graph then
        { desk := next
          presented :=
            some (cellIds run.desk.execution.graph.researchState)
          settled :=
            some (cellIds run.desk.execution.graph.researchState) }
      else
        { run with desk := next } := by
  simp only [ApprovedRun.note, standsAt, moved, logged, Control.askedPlan?,
    Option.none_or]
  split <;> rfl

omit [PythonText] in
/-- A plan that grew and was not approved anew. -/
theorem Approvals.grown
    {run : ApprovedRun}
    {next : Desk}
    (approvals : Approvals run)
    (named :
      ∀ name ∈ cellNames next.execution.graph.researchState,
        name.1 = name.2)
    (approvedN :
      next.execution.graph.h7ApprovedN =
        run.desk.execution.graph.h7ApprovedN)
    (grows :
      cellNames run.desk.execution.graph.researchState <+:
        cellNames next.execution.graph.researchState)
    (saved :
      next.execution.control.isPaused = true →
      ∀ saved,
        next.execution.world.snapshot = some saved →
        cellNames saved = cellNames next.execution.graph.researchState) :
    Approvals { run with desk := next } where
  named := named
  approvedN := approvedN.trans approvals.approvedN
  presented := fun shown isShown =>
    (approvals.presented shown isShown).trans (grows.map Prod.snd)
  settled := approvals.settled
  saved := saved

omit [PythonText] in
/-- A plan that stays as it is. -/
theorem Approvals.kept
    {run : ApprovedRun}
    {next : Desk}
    (approvals : Approvals run)
    (sameGraph : next.execution.graph = run.desk.execution.graph)
    (saved :
      next.execution.control.isPaused = true →
      ∀ saved,
        next.execution.world.snapshot = some saved →
        cellNames saved =
          cellNames run.desk.execution.graph.researchState) :
    Approvals { run with desk := next } := by
  refine approvals.grown ?_ ?_ ?_ ?_
  · rw [sameGraph]
    exact approvals.named
  · rw [sameGraph]
  · rw [sameGraph]
  · rw [sameGraph]
    exact saved

omit [PythonText] in
/-- A question shows the plan that stands, and the settled one begins it. -/
theorem Approvals.shows
    {run : ApprovedRun}
    {next : Desk}
    (approvals : Approvals run)
    (kept : Approvals { run with desk := next })
    (sameGraph : next.execution.graph = run.desk.execution.graph) :
    Approvals
      { desk := next
        presented := some (cellIds run.desk.execution.graph.researchState)
        settled := run.settled } := by
  refine ⟨kept.named, kept.approvedN, ?_, ?_, kept.saved⟩
  · rintro shown ⟨⟩
    rw [sameGraph]
  · intro approved isApproved
    obtain ⟨shown, isShown, begins⟩ := approvals.settled approved isApproved
    exact ⟨_, rfl, begins.trans (approvals.presented shown isShown)⟩

/-- Executing a node keeps the approved plan the beginning of the current one. -/
theorem Approvals.visited
    {run : ApprovedRun}
    {env : StepEnv}
    {node : Node}
    {segment : Segment}
    (approvals : Approvals run)
    (orchestrates : IsOrchestrator env.brains.orchestrator)
    (standsAt : run.desk.execution.control.node? = some node) :
    Approvals
      (run.note (advance env node { run.desk with segment := segment })) := by
  obtain ⟨sameGraph, sameControl⟩ :=
    advance_execution env node { run.desk with segment := segment }
  generalize isNext :
    advance env node { run.desk with segment := segment } = next at *
  cases visit_planVisited node run.desk.execution orchestrates
      approvals.named with
  | stopped kept crashed =>
      rw [kept] at sameGraph
      have staysAsIs : Approvals { run with desk := next } := by
        refine approvals.kept sameGraph ?_
        intro paused
        rw [sameControl, crashed] at paused
        cases paused
      by_cases atApproval : node = .planApproval
      · subst atApproval
        rw [note_unlogged standsAt sameGraph, sameControl, crashed]
        exact staysAsIs
      · rw [note_other standsAt atApproval]
        exact staysAsIs
  | paused ask kept isPaused asks =>
      have saved :
          ∀ saved,
            next.execution.world.snapshot = some saved →
            cellNames saved =
              cellNames run.desk.execution.graph.researchState := by
        intro saved snapshot
        rw [← isNext] at snapshot
        exact
          @advance_savesPlan _ env node { run.desk with segment := segment }
            ask isPaused kept saved snapshot
      rw [kept] at sameGraph
      have staysAsIs : Approvals { run with desk := next } :=
        approvals.kept sameGraph fun _ => saved
      by_cases atApproval : node = .planApproval
      · subst atApproval
        rw [note_unlogged standsAt sameGraph, sameControl, (asks rfl).2,
          Option.some_or]
        exact approvals.shows staysAsIs sameGraph
      · rw [note_other standsAt atApproval]
        exact staysAsIs
  | moved notPaused grows named keeps approvedElse approval =>
      rw [← sameControl] at notPaused
      rw [← sameGraph] at grows named
      have neverSaved :
          next.execution.control.isPaused = true →
          ∀ saved,
            next.execution.world.snapshot = some saved →
            cellNames saved =
              cellNames next.execution.graph.researchState := by
        intro paused
        rw [notPaused] at paused
        cases paused
      by_cases atApproval : node = .planApproval
      · subst atApproval
        obtain ⟨toSupervisor, approvedN, logged⟩ := approval rfl
        rw [← sameControl] at toSupervisor
        rw [← sameGraph] at approvedN logged
        rw [note_moved standsAt toSupervisor logged]
        split at approvedN
        · rename_i settles
          rw [if_pos settles]
          refine ⟨named, approvedN, ?_, ?_, neverSaved⟩
          · rintro shown ⟨⟩
            exact grows.map Prod.snd
          · rintro approved ⟨⟩
            exact ⟨_, rfl, List.prefix_rfl⟩
        · rename_i settlesNot
          rw [if_neg settlesNot]
          exact approvals.grown named approvedN grows neverSaved
      · rw [note_other standsAt atApproval]
        have approvedN := approvedElse atApproval
        rw [← sameGraph] at approvedN
        exact approvals.grown named approvedN grows neverSaved

/-- Every command with an orchestrator keeps it so. -/
theorem Approvals.step
    {run next : ApprovedRun}
    {command : Command}
    (approvals : Approvals run)
    (orchestrated : command.Orchestrated)
    (stepped : approvalStep run command = some next) :
    Approvals next := by
  obtain ⟨desk, isDesk, rfl⟩ := Option.map_eq_some_iff.mp stepped
  cases command with
  | steer text now note =>
      exact approvals.steered isDesk
  | runResumeState now maxIterations assumeBrief =>
      exact approvals.reenter isDesk
  | proceed env =>
      obtain ⟨env, seen, node, segment, isEnv, sameBrains, standsAt, rfl⟩ :=
        deskStep_visits rfl isDesk
      exact
        approvals.visited (sameBrains ▸ orchestrated env isEnv) standsAt
  | runResume env =>
      obtain ⟨env, seen, node, segment, isEnv, sameBrains, standsAt, rfl⟩ :=
        deskStep_visits rfl isDesk
      exact
        approvals.visited (sameBrains ▸ orchestrated env isEnv) standsAt
  | resume choice answer env =>
      obtain ⟨env, seen, node, segment, isEnv, sameBrains, standsAt, rfl⟩ :=
        deskStep_visits rfl isDesk
      exact
        approvals.visited (sameBrains ▸ orchestrated env isEnv) standsAt

omit [PythonText] in
/-- A fresh run has approved nothing. -/
theorem ApprovedRun.Fresh.approvals
    {run : ApprovedRun}
    (fresh : run.Fresh) :
    Approvals run where
  named := fresh.named
  approvedN := by
    rw [fresh.approvedNot, fresh.settled]
    rfl
  presented := by
    intro shown isShown
    rw [fresh.presented] at isShown
    cases isShown
  settled := by
    intro approved isApproved
    rw [fresh.settled] at isApproved
    cases isApproved
  saved := by
    intro paused
    rw [fresh.started] at paused
    cases paused

end Approvals

end ResearchCos
