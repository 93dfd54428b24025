import ResearchCos.FieldBounds

namespace ResearchCos

open Foundation

/-!
# The bounds over a whole run

Every node keeps the ratings within their bounds as long as the brains return
records that are constructed within them, and as long as what they fill in
without a check is.  A run then keeps the bounds over every command.
-/

section Casing

variable [PythonText]

/-! ## Nodes -/

omit [PythonText] in
/-- The audits and the scores of the brains are within their bounds. -/
structure Brains.Constructs (brains : Brains) : Prop where
  auditor :
    ∀ rs audit, brains.auditor rs = some audit → audit.Valid
  deepAuditor :
    ∀ deep rs audit,
      brains.deepAuditor = some deep → deep rs = some audit → audit.Valid
  scorer :
    ∀ rs score, brains.scorer rs = some score → score.Valid

/-- What the brains fill in without a check is within the bounds. -/
def FillsInBounds (env : StepEnv) (state : GraphState) : Node → Prop
  | .orchestratorPlan =>
      ∀ update,
        nodeOrchestratorPlan env state = some update →
        OrderedMap.AllValues TaskCell.InBounds
          (Orchestrator.plannedCells update.researchState)
  | .researchFanout =>
      ∀ update,
        nodeResearchFanout env state = some update →
        ∀ bundle ∈ update.workerResults.getD [], bundle.Valid
  | _ => True

omit [PythonText] in
/-- The state that is saved last is within its bounds. -/
def World.InBounds (world : World) : Prop :=
  ∀ saved ∈ world.snapshot, saved.InBounds

omit [PythonText] in
/-- What a node writes is within the bounds, and so is what it saves. -/
structure Update.InBounds (update : Update) : Prop where
  state : update.researchState.InBounds
  results : ∀ bundle ∈ update.workerResults.getD [], bundle.Valid

omit [PythonText] in
def NodeResult.InBounds : NodeResult → Prop
  | .update written world => written.InBounds ∧ world.InBounds
  | .interrupt _ world => world.InBounds
  | .raise world => world.InBounds

omit [PythonText] in
/-- An update without worker results. -/
theorem ResearchState.InBounds.update
    {update : Update}
    (inBounds : update.researchState.InBounds)
    (noResults : update.workerResults.getD [] = []) :
    update.InBounds := by
  refine ⟨inBounds, fun bundle member => ?_⟩
  rw [noResults] at member
  cases member

omit [PythonText] in
/-- The score that is recorded is within its bounds if the advised one is. -/
theorem recordedScore_valid
    {rs : ResearchState}
    {advised : ReadinessScore}
    (advisedValid : advised.Valid) :
    (if rs.albertChallengeMap.entries = [] then
      advised
    else
      { advised with
        albertChallengeReadiness :=
          Convergence.albertChallengeReadiness rs }).Valid := by
  split
  · exact advisedValid
  · simp only [ReadinessScore.Valid, ReadinessScore.axes,
      List.forall_mem_cons] at advisedValid ⊢
    exact ⟨albertChallengeReadiness_inRange _, advisedValid.2⟩

/-- What a node writes is within the bounds, whatever its surroundings are. -/
theorem update_inBounds
    {env : StepEnv}
    {state : GraphState}
    {world after : World}
    {node : Node}
    {update : Update}
    (constructs : env.brains.Constructs)
    (fills : FillsInBounds env state node)
    (inBounds : state.researchState.InBounds)
    (saved : world.InBounds)
    (ran : runNode env state world node = .update update after) :
    update.InBounds ∧ after.InBounds := by
  cases runNode_updates ran with
  | intake
  | scopeChecked
  | clarified
  | clarifyAssumed
  | clarifyAnswered
  | briefKept
  | briefWritten
  | planAuditKept
  | planAssumed
  | planKept
  | planAnswered
  | explained
  | decided
  | pullDefaulted
  | pullAnswered
  | pushedNothing
  | deepAuditKept =>
      exact ⟨ResearchState.InBounds.update (inBounds.congr rfl) rfl, saved⟩
  | issuesPlanned rs expanded =>
      have expandedInBounds :=
        relatesAdded_inBounds.expandIssues expanded
          (consumeSteerEvents_inBounds inBounds)
      exact ⟨ResearchState.InBounds.update expandedInBounds rfl, saved⟩
  | cellsPlanned rs plan grid expanded =>
      have cells := fills _ (NodeResult.ofOption_eq_update ran).2
      have expandedInBounds :=
        relatesAdded_inBounds.expandIssues expanded
          (consumeSteerEvents_inBounds inBounds)
      exact
        ⟨ResearchState.InBounds.update (expandedInBounds.withGrid cells) rfl,
          saved⟩
  | planAudited audit isAudit =>
      have auditValid := constructs.auditor _ _ isAudit
      exact
        ⟨ResearchState.InBounds.update (inBounds.withAudit auditValid) rfl,
          saved⟩
  | issuesExpanded rs expanded =>
      have expandedInBounds :=
        relatesAdded_inBounds.expandIssues expanded inBounds
      exact ⟨ResearchState.InBounds.update expandedInBounds rfl, saved⟩
  | supervised =>
      have consumed := consumeSteerEvents_inBounds inBounds
      exact ⟨ResearchState.InBounds.update consumed rfl, saved⟩
  | researched =>
      have results := fills _ (NodeResult.ofOption_eq_update ran).2
      exact ⟨⟨inBounds.congr rfl, results⟩, saved⟩
  | collected processed after folds =>
      obtain ⟨foldedInBounds, kept⟩ := foldWorkerResults_inBounds inBounds folds
      refine ⟨ResearchState.InBounds.update ?_ rfl, ?_⟩
      · exact
          classifyGridCells_inBounds
            (collectReferences_inBounds (foldedInBounds _ rfl))
      · simpa only [World.InBounds, kept] using saved
  | argued counters =>
      refine
        ⟨ResearchState.InBounds.update (inBounds.mapIssues _ ?_) rfl, saved⟩
      intro node valid
      split <;> exact valid
  | audited audit challenges isAudit recorded =>
      have auditValid := constructs.auditor _ _ isAudit
      have challengesValid :=
        recordChallenges_valid inBounds.valid.challenges auditValid recorded
      have audited :=
        ((inBounds.withAudit auditValid).withChallenges
            challengesValid).mapIssues
          (fun node => { node with lastAudited := some state.config.now })
          fun _ valid => valid
      exact ⟨ResearchState.InBounds.update (audited.congr rfl) rfl, saved⟩
  | noted =>
      have noted : (notedBlockers state.researchState).InBounds := by
        refine inBounds.mapIssues _ fun node valid => ?_
        split <;> exact valid
      exact
        ⟨ResearchState.InBounds.update noted rfl,
          fun _ same => Option.some.inj same ▸ noted⟩
  | scored advised score isAdvised isScore =>
      have scoreValid : score.Valid := by
        rw [isScore]
        exact recordedScore_valid (constructs.scorer _ _ isAdvised)
      exact
        ⟨ResearchState.InBounds.update
          ((inBounds.withReadiness scoreValid).congr rfl) rfl, saved⟩
  | branched budget =>
      have branched :=
        relatesAdded_inBounds.materializeCompetitor state.researchState
          state.config.now budget inBounds
      exact ⟨ResearchState.InBounds.update branched rfl, saved⟩
  | pushed key target blocked _ inRange isBlocked =>
      -- the priority of the task is checked, and it is the impact of the issue
      have withTask :=
        setStatus_inBounds isBlocked
          (inBounds.withTasks (inBounds.valid.tasks.insert inRange))
      refine
        ⟨ResearchState.InBounds.update (withTask.withIssues ?_) rfl, saved⟩
      refine withTask.valid.issues.modify (fun node valid => ?_) key
      split <;> exact valid
  | deepAudited deep audit isDeep isAudit =>
      have auditValid := constructs.deepAuditor _ _ _ isDeep isAudit
      exact
        ⟨ResearchState.InBounds.update
          ((inBounds.withAudit auditValid).congr rfl) rfl, saved⟩
  | reviewBuilt _ _ built
  | reviewPassed _ _ _ built
  | reviewAnswered _ _ _ built =>
      obtain ⟨builtInBounds, kept⟩ := buildAndGateMemo_inBounds inBounds built
      refine
        ⟨ResearchState.InBounds.update (builtInBounds.congr rfl) rfl, ?_⟩
      simpa only [World.InBounds, kept] using saved

/-- Every node keeps the bounds, also one that pauses or raises. -/
theorem runNode_inBounds
    {env : StepEnv}
    {state : GraphState}
    {world : World}
    {node : Node}
    (constructs : env.brains.Constructs)
    (fills : FillsInBounds env state node)
    (inBounds : state.researchState.InBounds)
    (saved : world.InBounds) :
    (runNode env state world node).InBounds := by
  cases ran : runNode env state world node with
  | update update after =>
      exact update_inBounds constructs fills inBounds saved ran
  | interrupt ask after =>
      rcases runNode_interrupt ran with rfl | ⟨_, rs, built⟩
      · exact saved
      · have kept := (buildAndGateMemo_inBounds inBounds built).2
        simpa only [NodeResult.InBounds, World.InBounds, kept] using saved
  | raise after =>
      rcases runNode_raise ran with rfl | ⟨_, folds⟩
      · exact saved
      · have kept := (foldWorkerResults_inBounds inBounds folds).2
        simpa only [NodeResult.InBounds, World.InBounds, kept] using saved

/-! ## Steps -/

omit [PythonText] in
/-- Everything that a run holds is within the bounds. -/
structure Execution.InBounds (execution : Execution) : Prop where
  state : execution.graph.researchState.InBounds
  results : ∀ bundle ∈ execution.graph.workerResults, bundle.Valid
  saved : execution.world.InBounds

omit [PythonText] in
/-- Writing an update and following an edge. -/
theorem successor_inBounds
    {state : GraphState}
    {update : Update}
    (written : update.InBounds)
    (results : ∀ bundle ∈ state.workerResults, bundle.Valid)
    (cap : Option ActiveCap)
    (node : Node) :
    (successor cap (state.apply update) node).2.researchState.InBounds ∧
      ∀ bundle ∈ (successor cap (state.apply update) node).2.workerResults,
        bundle.Valid := by
  have applied :
      ∀ bundle ∈ (state.apply update).workerResults, bundle.Valid := by
    intro bundle member
    rcases List.mem_append.mp member with before | returned
    · exact results bundle before
    · exact written.results bundle returned
  rcases successor_state cap (state.apply update) node with same | recorded
  · rw [same]
    exact ⟨written.state, applied⟩
  · rw [recorded]
    exact ⟨written.state.congr rfl, applied⟩

/-- A visit keeps the bounds as long as the brains do. -/
theorem visit_inBounds
    {env : StepEnv}
    {node : Node}
    {execution : Execution}
    (constructs : env.brains.Constructs)
    (fills : FillsInBounds env execution.graph node)
    (inBounds : execution.InBounds) :
    (visit env node execution).InBounds := by
  have received :
      (receiveDrops env.drops execution.world).InBounds := inBounds.saved
  have ends := runNode_inBounds constructs fills inBounds.state received
  simp only [visit]
  cases ran :
      runNode env execution.graph
        (receiveDrops env.drops execution.world) node with
  | raise world =>
      rw [ran] at ends
      exact ⟨inBounds.state, inBounds.results, ends⟩
  | interrupt ask world =>
      rw [ran] at ends
      exact ⟨inBounds.state, inBounds.results, ends⟩
  | update update world =>
      rw [ran] at ends
      obtain ⟨state, results⟩ :=
        successor_inBounds ends.1 inBounds.results env.cap node
      exact ⟨state, results, ends.2⟩

/-- What a command holds in memory at a pause is within the bounds. -/
theorem inPlaceState_inBounds
    {env : StepEnv}
    {ask : Ask}
    {execution : Execution}
    (inBounds : execution.InBounds) :
    (inPlaceState env execution ask).InBounds := by
  cases ask with
  | clarify questions missing =>
      exact ⟨{ inBounds.state.valid with }, inBounds.state.cells⟩
  | planApproval cells firstCycle =>
      exact ⟨{ inBounds.state.valid with }, inBounds.state.cells⟩
  | pull payload =>
      exact inBounds.state
  | review =>
      simp only [inPlaceState]
      cases built :
          buildAndGateMemo env execution.graph
            (receiveDrops env.drops execution.world) with
      | none =>
          exact inBounds.state
      | some outcome =>
          exact (buildAndGateMemo_inBounds inBounds.state built).1

theorem advance_inBounds
    {env : StepEnv}
    {node : Node}
    {desk : Desk}
    (constructs : env.brains.Constructs)
    (fills : FillsInBounds env desk.execution.graph node)
    (inBounds : desk.execution.InBounds) :
    (advance env node desk).execution.InBounds := by
  have visited := visit_inBounds constructs fills inBounds
  have saving
      {held : ResearchState}
      (heldInBounds : held.InBounds)
      (world : World) :
      (saveSnapshot held world).InBounds :=
    fun _ same => Option.some.inj same ▸ heldInBounds
  simp only [advance]
  split
  · exact visited
  · exact visited
  · exact ⟨visited.state, visited.results, saving visited.state _⟩
  · refine ⟨visited.state, visited.results, saving ?_ _⟩
    split
    · exact visited.state
    · exact inPlaceState_inBounds inBounds

/-- The brains that a command consults keep to the bounds. -/
structure KeepsToBounds (desk : Desk) (command : Command) : Prop where
  constructs :
    ∀ env, command.env? = some env → env.brains.Constructs
  fills :
    ∀ env node,
      command.env? = some env →
      desk.execution.control.node? = some node →
      FillsInBounds env desk.execution.graph node

/-- A steer is appended to the snapshot. -/
theorem steer_saves
    {desk next : Desk}
    {text now : String}
    {note : Option DroppedFile}
    (stepped : deskStep desk (.steer text now note) = some next) :
    ∃ saved,
      desk.execution.world.snapshot = some saved ∧
        next =
          { desk with
            execution :=
              { desk.execution with
                world :=
                  saveSnapshot (applySteer saved text now)
                    (receiveDrops note.toList desk.execution.world) } } := by
  simp only [deskStep] at stepped
  split at stepped
  · rename_i saved _ isSaved
    exact ⟨saved, isSaved, (Option.some.inj stepped).symm⟩
  · rename_i saved _ isSaved
    exact ⟨saved, isSaved, (Option.some.inj stepped).symm⟩
  · cases stepped

/-- Every command keeps the bounds as long as its brains do. -/
theorem deskStep_inBounds
    {desk next : Desk}
    {command : Command}
    (keeps : KeepsToBounds desk command)
    (inBounds : desk.execution.InBounds)
    (stepped : deskStep desk command = some next) :
    next.execution.InBounds := by
  cases surrounded : command.env? with
  | some env =>
      obtain ⟨node, answer, standsAt, rfl⟩ :=
        deskStep_executes surrounded stepped
      have fills : FillsInBounds { env with answer := answer }
          desk.execution.graph node := by
        have unanswered := keeps.fills env node surrounded standsAt
        cases node <;> exact unanswered
      have constructs := keeps.constructs env surrounded
      exact advance_inBounds constructs fills inBounds
  | none =>
      cases command with
      | steer text now note =>
          obtain ⟨saved, isSaved, rfl⟩ := steer_saves stepped
          refine ⟨inBounds.state, inBounds.results, fun _ same => ?_⟩
          cases same
          exact (inBounds.saved saved isSaved).congr rfl
      | runResumeState now maxIterations assumeBrief =>
          simp only [deskStep] at stepped
          split at stepped
          · rename_i saved standsAt isSaved
            cases stepped
            exact
              ⟨(inBounds.saved saved isSaved).congr rfl, inBounds.results,
                inBounds.saved⟩
          · cases stepped
      | proceed env =>
          cases surrounded
      | runResume env =>
          cases surrounded
      | resume choice answer env =>
          cases surrounded

end Casing

end ResearchCos
