import ResearchCos.Collecting

namespace ResearchCos

open Foundation

/-!
# Memo, plan and flags

Every channel below has one writer.  The review writes the memo, the head of
the loop plans the cells, the approval notes how many were approved, the
expansion sets its flag.  No node writes the stop reason: the edges do.
-/

/-- The planned cells: the key and the identifier of each, in order. -/
def cellNames (rs : ResearchState) : List (String × String) :=
  match rs.taskGrid with
  | none => []
  | some grid => grid.cells.entries.map fun entry => (entry.1, entry.2.id)

/-- A change of neither the stop reason, nor the memo, nor the plan. -/
structure KeepsRecord (before after : ResearchState) : Prop where
  stopReason : after.stopReason = before.stopReason
  finalMemo : after.finalMemo = before.finalMemo
  taskGrid : after.taskGrid = before.taskGrid

namespace KeepsRecord

theorem refl
    (rs : ResearchState) :
    KeepsRecord rs rs :=
  ⟨rfl, rfl, rfl⟩

theorem trans
    {first second third : ResearchState}
    (earlier : KeepsRecord first second)
    (later : KeepsRecord second third) :
    KeepsRecord first third :=
  ⟨later.stopReason.trans earlier.stopReason,
    later.finalMemo.trans earlier.finalMemo,
    later.taskGrid.trans earlier.taskGrid⟩

/-- Adding an issue. -/
theorem of_add
    {rs after : ResearchState}
    {title description now : String}
    {issueType : IssueType}
    {status : IssueStatus}
    {impact confidence : Int}
    (added :
      IssueMap.add rs title description issueType status now impact
        confidence = some after) :
    KeepsRecord rs after := by
  obtain ⟨node, _, _, rfl⟩ := IssueMap.add_eq_some added
  exact ⟨rfl, rfl, rfl⟩

/-- Setting the status of an issue. -/
theorem of_setStatus
    {rs after : ResearchState}
    {issueId now : String}
    {status : IssueStatus}
    (set : IssueMap.setStatus rs issueId status now = some after) :
    KeepsRecord rs after := by
  rw [IssueMap.setStatus_eq_some set]
  exact ⟨rfl, rfl, rfl⟩

/-- Adding issues keeps the records. -/
theorem relatesAdded : RelatesAdded KeepsRecord :=
  ⟨refl, .trans, .of_add⟩

end KeepsRecord

/-- The expansion flag after a node: set by the expansion, reset at the start. -/
def Node.expansionFlag (node : Node) (before : Bool) : Bool :=
  match node with
  | .intake => false
  | .issueExpansion => true
  | _ => before

/-- What a node may write: only its own channels. -/
structure NodeRecord
    (node : Node)
    (state : GraphState)
    (update : Update) : Prop where
  stopReason :
    update.researchState.stopReason = state.researchState.stopReason
  finalMemo :
    node ≠ .humanReview →
      update.researchState.finalMemo = state.researchState.finalMemo
  cells :
    node ≠ .orchestratorPlan →
      cellNames update.researchState = cellNames state.researchState
  approved :
    node ≠ .planApproval → update.h7ApprovedN = none
  expanded :
    (state.apply update).flags.broadExpansion =
      node.expansionFlag state.flags.broadExpansion

/-- A node that writes no channel of its own. -/
theorem KeepsRecord.nodeRecord
    {node : Node}
    {state : GraphState}
    {update : Update}
    (kept : KeepsRecord state.researchState update.researchState)
    (approvesNot : update.h7ApprovedN = none)
    (expanded :
      (state.apply update).flags.broadExpansion =
        node.expansionFlag state.flags.broadExpansion) :
    NodeRecord node state update :=
  ⟨kept.stopReason, fun _ => kept.finalMemo,
    fun _ => by simp only [cellNames, kept.taskGrid],
    fun _ => approvesNot, expanded⟩

/-! ## Records of the nodes -/

/-- A notice touches neither the memo nor the plan. -/
theorem notifyNeedsSupplement_keepsRecord
    (rs : ResearchState)
    (memo : Memo)
    (world : World) :
    KeepsRecord rs (notifyNeedsSupplement rs memo world).1 := by
  obtain ⟨tasks, log, notified, _⟩ := notifyNeedsSupplement_eq rs memo world
  rw [notified]
  exact ⟨rfl, rfl, rfl⟩

section Nodes

variable [PythonText]

/-- Classifying the cells keeps their names. -/
theorem cellNames_classifyGridCells
    (rs : ResearchState) :
    cellNames (CellGates.classifyGridCells rs) = cellNames rs := by
  have sameId :
      ∀ cell,
        (CellGates.reclassify rs.evidence cell).id = cell.id := by
    intro cell
    simp only [CellGates.reclassify]
    split <;> rfl
  simp only [cellNames, CellGates.classifyGridCells]
  cases rs.taskGrid with
  | none =>
      rfl
  | some grid =>
      simp only [Option.map_some, OrderedMap.mapValues,
        OrderedMap.mapEntries, List.map_map]
      exact
        List.map_congr_left fun entry _ =>
          congrArg (Prod.mk entry.1) (sameId entry.2)

/-- Building the memo touches neither the stop reason nor the plan. -/
theorem buildAndGateMemo_keepsPlan
    {env : StepEnv}
    {state : GraphState}
    {world after : World}
    {rs : ResearchState}
    (built : buildAndGateMemo env state world = some (rs, after)) :
    rs.stopReason = state.researchState.stopReason ∧
      rs.taskGrid = state.researchState.taskGrid := by
  obtain ⟨tasks, log, memo, rfl, _⟩ := buildAndGateMemo_eq_some built
  exact ⟨rfl, rfl⟩

/-- The review writes the memo and nothing else that is recorded. -/
theorem review_record
    {env : StepEnv}
    {state : GraphState}
    {world after : World}
    {rs : ResearchState}
    (built : buildAndGateMemo env state world = some (rs, after))
    (events : List SteeringEvent) :
    NodeRecord .humanReview state
      (.ofState { rs with steeringEvents := events }) := by
  obtain ⟨stopKept, gridKept⟩ := buildAndGateMemo_keepsPlan built
  exact
    ⟨stopKept, fun other => absurd rfl other,
      fun _ => by simp only [cellNames, Update.ofState, gridKept],
      fun _ => rfl, rfl⟩

/-- Every node writes its own channels only. -/
theorem NodeUpdate.record
    {env : StepEnv}
    {state : GraphState}
    {world after : World}
    {node : Node}
    {update : Update}
    (written : NodeUpdate env state world node update after) :
    NodeRecord node state update := by
  cases written with
  | intake
  | scopeChecked
  | clarified
  | clarifyAssumed
  | clarifyAnswered
  | briefKept
  | briefWritten
  | planAuditKept
  | planAudited
  | supervised
  | researched
  | argued
  | audited
  | noted
  | scored
  | decided
  | pullDefaulted
  | pullAnswered
  | pushedNothing
  | deepAuditKept
  | deepAudited =>
      exact KeepsRecord.nodeRecord ⟨rfl, rfl, rfl⟩ rfl rfl
  | issuesPlanned rs expanded
  | cellsPlanned rs _ _ expanded =>
      have kept :
          KeepsRecord (consumeSteerEvents state.researchState) rs :=
        KeepsRecord.relatesAdded.expandIssues expanded
      exact
        ⟨kept.stopReason, fun _ => kept.finalMemo,
          fun other => absurd rfl other, fun _ => rfl, rfl⟩
  | planAssumed
  | planKept
  | planAnswered =>
      exact
        ⟨rfl, fun _ => rfl, fun _ => rfl, fun other => absurd rfl other, rfl⟩
  | issuesExpanded rs expanded =>
      exact
        (KeepsRecord.relatesAdded.expandIssues expanded).nodeRecord rfl rfl
  | collected =>
      refine
        ⟨rfl, fun _ => rfl, fun _ => ?_, fun _ => rfl, rfl⟩
      rw [cellNames_classifyGridCells]
      rfl
  | explained =>
      refine (KeepsRecord.refl _).nodeRecord rfl ?_
      simp only [nodeAntiPremature]
      repeat' split
      all_goals rfl
  | branched budget =>
      exact
        (KeepsRecord.relatesAdded.materializeCompetitor _ _
          budget).nodeRecord rfl rfl
  | pushed _ _ _ _ _ isBlocked =>
      have kept := KeepsRecord.of_setStatus isBlocked
      exact
        KeepsRecord.nodeRecord
          ⟨kept.stopReason, kept.finalMemo, kept.taskGrid⟩ rfl rfl
  | reviewBuilt rs _ built =>
      exact review_record built rs.steeringEvents
  | reviewPassed _ _ _ built
  | reviewAnswered _ _ _ built =>
      exact review_record built _

/-! ## Records of a visit -/

/-- How a visit of a node ends: nothing is written, or the node's own channels. -/
inductive Visited
    (env : StepEnv)
    (node : Node)
    (execution next : Execution) : Prop where
  | crashed :
      next.graph = execution.graph →
      next.control = .crashed →
      Visited env node execution next
  | paused (ask : Ask) :
      next.graph = execution.graph →
      next.control = .pausedAt node ask →
      Visited env node execution next
  | moved (update : Update) :
      NodeRecord node execution.graph update →
      next.graph = (successor env.cap (execution.graph.apply update) node).2 →
      next.control =
        (successor env.cap (execution.graph.apply update)
          node).1.elim .ended .at →
      Visited env node execution next

/-- Every visit ends in one of these ways. -/
theorem visit_visited
    (env : StepEnv)
    (node : Node)
    (execution : Execution) :
    Visited env node execution (visit env node execution) := by
  rcases visit_cases env node execution with
    ⟨world, raised⟩ | ⟨ask, world, ran, paused⟩ | ⟨update, world, ran, moved⟩
  · rw [raised]
    exact .crashed rfl rfl
  · rw [paused]
    exact .paused ask rfl rfl
  · rw [moved]
    exact .moved update (runNode_updates ran).record rfl rfl

omit [PythonText] in
/-- Following an edge keeps every channel but the stop reason. -/
theorem successor_channels
    (cap : Option ActiveCap)
    (state : GraphState)
    (node : Node) :
    (successor cap state node).2.researchState.finalMemo =
        state.researchState.finalMemo ∧
      (successor cap state node).2.researchState.taskGrid =
        state.researchState.taskGrid ∧
      (successor cap state node).2.h7ApprovedN = state.h7ApprovedN ∧
      (successor cap state node).2.prereqs = state.prereqs ∧
      (successor cap state node).2.config = state.config := by
  rcases successor_state cap state node with same | recorded
  · rw [same]
    exact ⟨rfl, rfl, rfl, rfl, rfl⟩
  · rw [recorded]
    exact ⟨rfl, rfl, rfl, rfl, rfl⟩

end Nodes

end ResearchCos
