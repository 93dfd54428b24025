import ResearchCos.NodeUpdates

namespace ResearchCos

open Foundation

/-!
# What the nodes leave alone

Evidence, processed references and the reference folder belong to the collect
node: every other node leaves them alone and brings no issue closer to being
answered.  Only the fan-out puts anything into the channel of worker results.
-/

/-- How far the research on an issue has come. -/
def IssueStatus.progress : IssueStatus → Nat
  | .answered => 2
  | .partiallyAnswered => 1
  | _ => 0

/-- How far the research on the issue under a key has come. -/
def progressOf
    (issues : OrderedMap String IssueNode)
    (issueId : String) : Nat :=
  match issues.get? issueId with
  | none => 0
  | some node => node.status.progress

/-- Changing issues without changing their status brings none of them further. -/
theorem progressOf_mapValues
    {change : IssueNode → IssueNode}
    (statusKept : ∀ node, (change node).status = node.status)
    (issues : OrderedMap String IssueNode)
    (issueId : String) :
    progressOf (issues.mapValues change) issueId =
      progressOf issues issueId := by
  unfold progressOf
  rw [OrderedMap.get?_mapValues]
  cases issues.get? issueId with
  | none =>
      rfl
  | some node =>
      simp [statusKept]

/-- Changing one issue without raising its status brings none further. -/
theorem progressOf_modify_le
    {change : IssueNode → IssueNode}
    (notRaised :
      ∀ node, (change node).status.progress ≤ node.status.progress)
    (issues : OrderedMap String IssueNode)
    (key issueId : String) :
    progressOf (issues.modify key change) issueId ≤
      progressOf issues issueId := by
  unfold progressOf
  rw [OrderedMap.get?_modify]
  by_cases same : key = issueId
  · rw [if_pos same]
    cases issues.get? issueId with
    | none =>
        exact le_rfl
    | some node =>
        exact notRaised node
  · rw [if_neg same]

/--
A change of the research state that collects nothing and mints the identifiers
of new tasks in order.
-/
structure KeepsResearch (before after : ResearchState) : Prop where
  evidence : after.evidence = before.evidence
  processedReferences :
    after.processedReferences = before.processedReferences
  progress :
    ∀ issueId,
      progressOf after.issueMap issueId ≤ progressOf before.issueMap issueId
  taskIds :
    HumanTasks.FreshIds before.humanTasks →
      HumanTasks.FreshIds after.humanTasks

/-- An update that collects nothing and returns no worker results. -/
structure Idle (state : GraphState) (update : Update) : Prop where
  research : KeepsResearch state.researchState update.researchState
  returns : update.workerResults.getD [] = []

/-- A change of the surroundings that leaves the reference folder alone. -/
structure KeepsFolder (before after : World) : Prop where
  run : after.run = before.run
  folder : after.folder = before.folder

namespace KeepsResearch

/-- A change of fields that no result is recorded in. -/
theorem of_eq
    {before after : ResearchState}
    (evidence : after.evidence = before.evidence)
    (processedReferences :
      after.processedReferences = before.processedReferences)
    (issueMap : after.issueMap = before.issueMap)
    (humanTasks : after.humanTasks = before.humanTasks) :
    KeepsResearch before after :=
  ⟨evidence, processedReferences, fun issueId => by rw [issueMap],
    fun fresh => humanTasks ▸ fresh⟩

theorem refl
    (rs : ResearchState) :
    KeepsResearch rs rs :=
  .of_eq rfl rfl rfl rfl

theorem trans
    {first second third : ResearchState}
    (earlier : KeepsResearch first second)
    (later : KeepsResearch second third) :
    KeepsResearch first third :=
  ⟨later.evidence.trans earlier.evidence,
    later.processedReferences.trans earlier.processedReferences,
    fun issueId =>
      le_trans (later.progress issueId) (earlier.progress issueId),
    fun fresh => later.taskIds (earlier.taskIds fresh)⟩

/-- Changing issues without raising their status collects nothing. -/
theorem of_mapValues
    {rs : ResearchState}
    {change : IssueNode → IssueNode}
    (statusKept : ∀ node, (change node).status = node.status) :
    KeepsResearch rs
      { rs with issueMap := rs.issueMap.mapValues change } :=
  ⟨rfl, rfl, fun issueId =>
    (progressOf_mapValues statusKept rs.issueMap issueId).le, id⟩

/-- An open issue that is added has not come far. -/
theorem of_add
    {rs after : ResearchState}
    {title description now : String}
    {issueType : IssueType}
    {impact confidence : Int}
    (added :
      IssueMap.add rs title description issueType .open now impact
        confidence = some after) :
    KeepsResearch rs after := by
  obtain ⟨node, _, isOpen, rfl⟩ := IssueMap.add_eq_some added
  refine ⟨rfl, rfl, ?_, id⟩
  intro issueId
  unfold progressOf
  rw [OrderedMap.get?_insert]
  by_cases same : IssueMap.nextId rs = issueId
  · rw [if_pos same]
    simp only [isOpen]
    exact Nat.zero_le _
  · rw [if_neg same]

/-- An issue that is set back has not come further. -/
theorem of_setStatus
    {rs after : ResearchState}
    {issueId now : String}
    {status : IssueStatus}
    (setBack : status.progress = 0)
    (set : IssueMap.setStatus rs issueId status now = some after) :
    KeepsResearch rs after := by
  rw [IssueMap.setStatus_eq_some set]
  refine ⟨rfl, rfl, progressOf_modify_le ?_ rs.issueMap issueId, id⟩
  intro node
  exact le_of_eq_of_le setBack (Nat.zero_le _)

/-- Adding issues keeps what research has reached. -/
theorem relatesAdded : RelatesAdded KeepsResearch :=
  ⟨refl, .trans, .of_add⟩

end KeepsResearch

/-! ## Steps of the nodes -/

theorem status_applySteerText
    (text : String)
    (node : IssueNode) :
    (applySteerText text node).status = node.status := by
  unfold applySteerText
  split <;> rfl

/-- Steering changes the impact of issues only. -/
theorem progressOf_consumeSteers
    (events : List SteeringEvent)
    (issues : OrderedMap String IssueNode)
    (issueId : String) :
    progressOf (consumeSteers events issues).2 issueId =
      progressOf issues issueId := by
  refine
    consumeSteers_invariant
      (motive := fun after =>
        progressOf after issueId = progressOf issues issueId)
      (fun text between same => ?_) events rfl
  rw [← same]
  exact progressOf_mapValues (status_applySteerText text) between issueId

theorem consumeSteerEvents_keepsResearch
    (rs : ResearchState) :
    KeepsResearch rs (consumeSteerEvents rs) :=
  ⟨rfl, rfl, fun issueId =>
    (progressOf_consumeSteers rs.steeringEvents rs.issueMap issueId).le,
    id⟩

/-- The tasks of blocked cells have identifiers of their own. -/
theorem mintBlockedCellTasks_keepsResearch
    (rs : ResearchState) :
    KeepsResearch rs (mintBlockedCellTasks rs) := by
  unfold mintBlockedCellTasks
  split
  · exact .refl rs
  · rename_i grid _
    refine ⟨rfl, rfl, fun _ => le_rfl, ?_⟩
    simp only
    generalize rs.humanTasks = tasks
    generalize grid.cells.values = cells
    intro fresh
    induction cells generalizing tasks with
    | nil =>
        exact fresh
    | cons cell rest inductionHypothesis =>
        rw [List.foldl_cons]
        apply inductionHypothesis
        split
        · rename_i blocked
          have absent : tasks.get? (blockedCellTask cell).id = none := by
            simpa [OrderedMap.contains] using blocked.2
          exact
            fresh.insert absent
              (fun n _ => HumanTasks.cellTaskId_ne_taskId cell.id n) _
        · exact fresh

theorem notifyNeedsSupplement_keeps
    (rs : ResearchState)
    (memo : Memo)
    (world : World) :
    KeepsResearch rs (notifyNeedsSupplement rs memo world).1 ∧
      KeepsFolder world (notifyNeedsSupplement rs memo world).2 := by
  have minted := mintBlockedCellTasks_keepsResearch rs
  simp only [notifyNeedsSupplement]
  split
  · exact ⟨minted, rfl, rfl⟩
  · exact ⟨minted.trans (.of_eq rfl rfl rfl rfl), rfl, rfl⟩

/-! ## Results of the nodes -/

/-- A node that collects nothing, however it ends. -/
def NodeResult.CollectsNothing
    (state : GraphState)
    (world : World) : NodeResult → Prop
  | .update written after => Idle state written ∧ KeepsFolder world after
  | .interrupt _ after => KeepsFolder world after
  | .raise after => KeepsFolder world after

section Nodes

variable [PythonText]

/-- Assembling a memo adds human tasks only. -/
theorem assembleMemo_keepsResearch
    {state assembled : ResearchState}
    {prose : Prose}
    {memo : Memo}
    (assembly :
      DecisionMemo.assembleMemo state prose = some (memo, assembled)) :
    KeepsResearch state assembled := by
  obtain ⟨tasks, rfl⟩ := (DecisionMemo.assembleMemo_eq_some assembly).1
  refine ⟨rfl, rfl, fun _ => le_rfl, ?_⟩
  intro fresh
  obtain ⟨otherMemo, other, otherAssembly, otherFresh, _⟩ :=
    DecisionMemo.assembleMemo_recorded prose fresh
  rw [assembly] at otherAssembly
  cases otherAssembly
  exact otherFresh

/-- Building the memo adds human tasks and prose only. -/
theorem buildAndGateMemo_keeps
    {env : StepEnv}
    {state : GraphState}
    {world after : World}
    {rs : ResearchState}
    (built : buildAndGateMemo env state world = some (rs, after)) :
    KeepsResearch state.researchState rs ∧ KeepsFolder world after := by
  simp only [buildAndGateMemo] at built
  split at built
  · cases Option.some.inj built
    exact ⟨.refl _, rfl, rfl⟩
  · obtain ⟨prose, _, assembles⟩ := Option.bind_eq_some_iff.mp built
    obtain ⟨⟨memo, assembled⟩, isAssembled, notified⟩ :=
      Option.map_eq_some_iff.mp assembles
    simp only at notified
    obtain ⟨kept, folderKept⟩ :=
      notifyNeedsSupplement_keeps _ _ world
    rw [notified] at kept folderKept
    refine ⟨(assembleMemo_keepsResearch isAssembled).trans ?_, folderKept⟩
    refine KeepsResearch.trans ?_ kept
    exact .of_eq rfl rfl rfl rfl

/-- The fan-out remembers its queries only. -/
theorem nodeResearchFanout_keepsResearch
    {env : StepEnv}
    {state : GraphState}
    {update : Update}
    (researched : nodeResearchFanout env state = some update) :
    KeepsResearch state.researchState update.researchState := by
  obtain ⟨⟨selected, rs⟩, selects, rfl⟩ :=
    Option.map_eq_some_iff.mp researched
  obtain ⟨rawIds, _, shape⟩ := Option.map_eq_some_iff.mp selects
  cases shape
  exact .of_eq rfl rfl rfl rfl

omit [PythonText] in
/-- Blocking the target of a push brings no issue further. -/
theorem pushed_keepsResearch
    {rs blocked : ResearchState}
    {key targetId now : String}
    {target : IssueNode}
    (isBlocked :
      IssueMap.setStatus
          { rs with
            humanTasks :=
              rs.humanTasks.insert
                (internalDataTask rs.humanTasks target).id
                (internalDataTask rs.humanTasks target) }
          targetId .blockedByInternalData now =
        some blocked) :
    KeepsResearch rs
      { blocked with
        issueMap :=
          blocked.issueMap.modify key fun node =>
            if internalDataBlocker ∈ node.humanBlockers then
              node
            else
              { node with
                humanBlockers :=
                  node.humanBlockers ++ [internalDataBlocker] } } := by
  have recorded :
      KeepsResearch rs
        { rs with
          humanTasks :=
            rs.humanTasks.insert (internalDataTask rs.humanTasks target).id
              (internalDataTask rs.humanTasks target) } :=
    ⟨rfl, rfl, fun _ => le_rfl, fun fresh => fresh.insert_next _⟩
  refine (recorded.trans (.of_setStatus rfl isBlocked)).trans ?_
  refine ⟨rfl, rfl, progressOf_modify_le ?_ blocked.issueMap key, id⟩
  intro node
  split <;> exact le_rfl

/-- An update of any node but the fan-out and the collect node. -/
theorem NodeUpdate.idle
    {env : StepEnv}
    {state : GraphState}
    {world after : World}
    {node : Node}
    {update : Update}
    (written : NodeUpdate env state world node update after)
    (collectsNot : node ≠ .collect)
    (researchesNot : node ≠ .researchFanout) :
    Idle state update ∧ KeepsFolder world after := by
  cases written with
  | collected =>
      exact absurd rfl collectsNot
  | researched =>
      exact absurd rfl researchesNot
  | intake
  | scopeChecked
  | clarified
  | clarifyAssumed
  | clarifyAnswered
  | briefKept
  | briefWritten
  | planAuditKept
  | planAudited
  | planAssumed
  | planKept
  | planAnswered
  | scored
  | explained
  | decided
  | pullDefaulted
  | pullAnswered
  | pushedNothing
  | deepAuditKept
  | deepAudited =>
      exact ⟨⟨.of_eq rfl rfl rfl rfl, rfl⟩, rfl, rfl⟩
  | issuesPlanned rs expanded
  | cellsPlanned rs _ _ expanded =>
      have kept :=
        (consumeSteerEvents_keepsResearch state.researchState).trans
          (KeepsResearch.relatesAdded.expandIssues expanded)
      exact ⟨⟨kept.trans (.of_eq rfl rfl rfl rfl), rfl⟩, rfl, rfl⟩
  | issuesExpanded rs expanded =>
      exact
        ⟨⟨KeepsResearch.relatesAdded.expandIssues expanded, rfl⟩, rfl, rfl⟩
  | supervised =>
      exact ⟨⟨consumeSteerEvents_keepsResearch _, rfl⟩, rfl, rfl⟩
  | argued =>
      refine ⟨⟨KeepsResearch.of_mapValues ?_, rfl⟩, rfl, rfl⟩
      intro node
      split <;> rfl
  | audited =>
      -- the audit marks every issue as audited and changes no status
      have statusKept :
          ∀ node : IssueNode,
            { node with lastAudited := some state.config.now }.status =
              node.status :=
        fun _ => rfl
      refine ⟨⟨⟨rfl, rfl, fun issueId => ?_, id⟩, rfl⟩, rfl, rfl⟩
      exact
        (progressOf_mapValues statusKept state.researchState.issueMap
          issueId).le
  | noted =>
      refine ⟨⟨KeepsResearch.of_mapValues ?_, rfl⟩, rfl, rfl⟩
      intro node
      split <;> rfl
  | branched budget =>
      exact
        ⟨⟨KeepsResearch.relatesAdded.materializeCompetitor _ _ budget, rfl⟩,
          rfl, rfl⟩
  | pushed _ _ _ _ _ isBlocked =>
      exact ⟨⟨pushed_keepsResearch isBlocked, rfl⟩, rfl, rfl⟩
  | reviewBuilt _ _ built
  | reviewPassed _ _ _ built
  | reviewAnswered _ _ _ built =>
      obtain ⟨kept, folderKept⟩ := buildAndGateMemo_keeps built
      exact ⟨⟨kept.trans (.of_eq rfl rfl rfl rfl), rfl⟩, folderKept⟩

/-- Every node but the fan-out and the collect node is idle. -/
theorem runNode_collectsNothing
    {node : Node}
    (collectsNot : node ≠ .collect)
    (researchesNot : node ≠ .researchFanout)
    (env : StepEnv)
    (state : GraphState)
    (world : World) :
    (runNode env state world node).CollectsNothing state world := by
  cases ran : runNode env state world node with
  | update update after =>
      exact (runNode_updates ran).idle collectsNot researchesNot
  | interrupt ask after =>
      rcases runNode_interrupt ran with rfl | ⟨_, rs, built⟩
      · exact ⟨rfl, rfl⟩
      · exact (buildAndGateMemo_keeps built).2
  | raise after =>
      rcases runNode_raise ran with rfl | ⟨collects, _⟩
      · exact ⟨rfl, rfl⟩
      · exact absurd collects collectsNot

end Nodes

end ResearchCos
