import ResearchCos.NodeFrames

namespace ResearchCos

open Foundation

/-!
# What the collect node does to a run

The collect node is the only one that adds evidence, advances issues, processes
references and writes into the reference folder.
-/

/-- The node that a run is about to execute. -/
def Control.node? : Control → Option Node
  | .at node => some node
  | .pausedAt node _ => some node
  | .ended => none
  | .crashed => none

@[simp] theorem Control.node?_elim
    (target : Option Node) :
    (target.elim Control.ended Control.at).node? = target := by
  cases target <;> rfl

/-- Folding does not look at the answer of a human. -/
theorem foldWorkerResults_answer
    (env : StepEnv)
    (answer : Option Answer)
    (now : String)
    (raws : List EvidenceBundle)
    (rs : ResearchState)
    (world : World)
    (attempts : Nat) :
    foldWorkerResults { env with answer := answer } now raws rs world
        attempts =
      foldWorkerResults env now raws rs world attempts := by
  induction raws generalizing rs world attempts with
  | nil =>
      rfl
  | cons raw rest inductionHypothesis =>
      unfold foldWorkerResults
      cases raw.modelValidate with
      | none =>
          rfl
      | some bundle =>
          exact inductionHypothesis _ _ _

section Steps

variable [PythonText]

/-- The outcome of folding when a run is about to collect. -/
def foldingOf (execution : Execution) (env : StepEnv) :
    Option ResearchState × World :=
  foldWorkerResults env execution.graph.config.now
    execution.graph.workerResults execution.graph.researchState
    (receiveDrops env.drops execution.world) 0

/-- The evidence that a step adds from the reference folder. -/
def scannedBundles (execution : Execution) (env : StepEnv) :
    List EvidenceBundle :=
  if execution.control.node? = some .collect then
    match foldingOf execution env with
    | (none, _) => []
    | (some folded, after) =>
        (ReferenceStore.scanReferenceFolder env.converters after.folder
          folded.processedReferences).result.getD []
  else
    []

/-- A step that collects. -/
structure Collects
    (execution : Execution)
    (env : StepEnv)
    (next : Execution)
    (folded : ResearchState)
    (after : World) : Prop where
  folds : foldingOf execution env = (some folded, after)
  control : next.control = .at .skeptic
  world : next.world = after
  researchState :
    next.graph.researchState =
      CellGates.classifyGridCells
        (collectReferences env.converters after.folder folded)
  workerResults :
    next.graph.workerResults = execution.graph.workerResults

omit [PythonText] in
theorem Visits.node?
    {execution : Execution}
    {env seen : StepEnv}
    {node : Node}
    (visits : Visits execution env node seen) :
    execution.control.node? = some node := by
  cases visits with
  | entered standsAt =>
      rw [standsAt]
      rfl
  | resumed standsAt _ =>
      rw [standsAt]
      rfl

/-- A step of a run that is about to collect collects or crashes. -/
theorem step_collect
    {execution next : Execution}
    {env : StepEnv}
    (stepped : step execution env = some next)
    (collecting : execution.control.node? = some .collect) :
    (next.control = .crashed ∧
        next.graph = execution.graph ∧
        next.world = (foldingOf execution env).2) ∨
      ∃ folded after, Collects execution env next folded after := by
  obtain ⟨node, seen, visits, rfl⟩ := step_visits stepped
  have isCollect : node = .collect :=
    Option.some.inj (visits.node?.symm.trans collecting)
  subst node
  have sameFolding : foldingOf execution seen = foldingOf execution env := by
    rw [visits.seen_eq]
    exact foldWorkerResults_answer _ _ _ _ _ _ _
  have sameConverters : seen.converters = env.converters := by
    rw [visits.seen_eq]
  have result :
      visit seen .collect execution =
        conclude seen.cap .collect execution
          (nodeCollect seen execution.graph
            (receiveDrops seen.drops execution.world)) :=
    rfl
  rw [result]
  unfold nodeCollect
  change foldWorkerResults _ _ _ _ _ _ = _ at sameFolding
  rw [sameFolding]
  cases folds : foldingOf execution env with
  | mk outcome after =>
      cases outcome with
      | none =>
          exact Or.inl ⟨rfl, rfl, rfl⟩
      | some folded =>
          right
          refine ⟨folded, after, ?_⟩
          exact
            { folds := folds
              control := rfl
              world := rfl
              researchState := by
                rw [← sameConverters]
                rfl
              workerResults := List.append_nil _ }

/-- A collecting step adds its results and what it scans, in this order. -/
theorem Collects.evidence
    {execution next : Execution}
    {env : StepEnv}
    {folded : ResearchState}
    {after : World}
    (collects : Collects execution env next folded after)
    (collecting : execution.control.node? = some .collect) :
    next.graph.researchState.evidence =
      execution.graph.researchState.evidence ++
        execution.graph.workerResults ++
        scannedBundles execution env := by
  rw [collects.researchState, scannedBundles, if_pos collecting,
    collects.folds]
  obtain ⟨processed, rfl⟩ := foldWorkerResults_eq_some collects.folds
  rfl

/-- A collecting step advances issues by its results. -/
theorem Collects.issueMap
    {execution next : Execution}
    {env : StepEnv}
    {folded : ResearchState}
    {after : World}
    (collects : Collects execution env next folded after) :
    next.graph.researchState.issueMap =
      execution.graph.workerResults.foldl
        (advanceIssues execution.graph.config.now)
        execution.graph.researchState.issueMap := by
  rw [collects.researchState]
  obtain ⟨processed, rfl⟩ := foldWorkerResults_eq_some collects.folds
  rfl

/-- A collecting step leaves the human tasks alone. -/
theorem Collects.humanTasks
    {execution next : Execution}
    {env : StepEnv}
    {folded : ResearchState}
    {after : World}
    (collects : Collects execution env next folded after) :
    next.graph.researchState.humanTasks =
      execution.graph.researchState.humanTasks := by
  rw [collects.researchState]
  obtain ⟨processed, rfl⟩ := foldWorkerResults_eq_some collects.folds
  rfl

omit [PythonText] in
/-- Following an edge leaves everything that is collected alone. -/
theorem successor_keeps
    (cap : Option ActiveCap)
    (state : GraphState)
    (node : Node) :
    KeepsResearch state.researchState
        (successor cap state node).2.researchState ∧
      (successor cap state node).2.workerResults = state.workerResults := by
  rcases successor_state cap state node with same | stopped
  · rw [same]
    exact ⟨.refl _, rfl⟩
  · rw [stopped]
    exact ⟨.of_eq rfl rfl rfl rfl, rfl⟩

omit [PythonText] in
/-- Only the fan-out leads to the collect node. -/
theorem successor_collect
    {cap : Option ActiveCap}
    {state : GraphState}
    {node : Node}
    (leads : (successor cap state node).1 = some .collect) :
    node = .researchFanout := by
  cases node with
  | researchFanout =>
      rfl
  | clarify =>
      simp only [successor, routeAfterClarify, Option.some.injEq] at leads
      split at leads <;> cases leads
  | deepAudit =>
      simp only [successor, routeAfterDeepAudit, Option.some.injEq] at leads
      split at leads <;> cases leads
  | cosDecision =>
      simp only [successor, route, Option.some.injEq] at leads
      repeat' split at leads
      all_goals cases leads
  | humanPull =>
      simp only [successor, routeAfterPull, Option.some.injEq] at leads
      repeat' split at leads
      all_goals cases leads
  | _ =>
      cases leads

/-- The worker results that a step returns. -/
def returnedBundles (execution : Execution) (env : StepEnv) :
    List EvidenceBundle :=
  if execution.control.node? = some .researchFanout then
    ((nodeResearchFanout env execution.graph).bind
      Update.workerResults).getD []
  else
    []

/-- A step that researches returns results or crashes. -/
theorem step_researchFanout
    {execution next : Execution}
    {env : StepEnv}
    (stepped : step execution env = some next)
    (researching : execution.control.node? = some .researchFanout) :
    KeepsResearch execution.graph.researchState next.graph.researchState ∧
      KeepsFolder (receiveDrops env.drops execution.world) next.world ∧
      next.graph.workerResults =
        execution.graph.workerResults ++ returnedBundles execution env ∧
      (next.control = .crashed ∨ next.control = .at .collect) := by
  obtain ⟨node, seen, visits, rfl⟩ := step_visits stepped
  have isFanout : node = .researchFanout :=
    Option.some.inj (visits.node?.symm.trans researching)
  subst node
  have sameResearch :
      nodeResearchFanout seen execution.graph =
        nodeResearchFanout env execution.graph := by
    rw [visits.seen_eq]
    rfl
  have sameDrops : seen.drops = env.drops := by
    rw [visits.seen_eq]
  rw [returnedBundles, if_pos researching, ← sameResearch, ← sameDrops]
  have result :
      visit seen .researchFanout execution =
        conclude seen.cap .researchFanout execution
          (.ofOption (receiveDrops seen.drops execution.world)
            (nodeResearchFanout seen execution.graph)) :=
    rfl
  rw [result]
  cases researched : nodeResearchFanout seen execution.graph with
  | none =>
      exact ⟨.refl _, ⟨rfl, rfl⟩, (List.append_nil _).symm, Or.inl rfl⟩
  | some update =>
      exact ⟨nodeResearchFanout_keepsResearch researched, ⟨rfl, rfl⟩, rfl,
        Or.inr rfl⟩

/-- Every other step is idle, and does not lead to the collect node. -/
theorem step_idle
    {execution next : Execution}
    {env : StepEnv}
    (stepped : step execution env = some next)
    (collectsNot : execution.control.node? ≠ some .collect)
    (researchesNot : execution.control.node? ≠ some .researchFanout) :
    KeepsResearch execution.graph.researchState next.graph.researchState ∧
      KeepsFolder (receiveDrops env.drops execution.world) next.world ∧
      next.graph.workerResults = execution.graph.workerResults ∧
      next.control.node? ≠ some .collect := by
  obtain ⟨node, seen, visits, rfl⟩ := step_visits stepped
  have notCollect : node ≠ .collect := by
    intro isCollect
    exact collectsNot (isCollect ▸ visits.node?)
  have notFanout : node ≠ .researchFanout := by
    intro isFanout
    exact researchesNot (isFanout ▸ visits.node?)
  have sameDrops : seen.drops = env.drops := by
    rw [visits.seen_eq]
  have idle :=
    runNode_collectsNothing notCollect notFanout seen execution.graph
      (receiveDrops seen.drops execution.world)
  rw [← sameDrops]
  unfold visit
  cases ran :
      runNode seen execution.graph
        (receiveDrops seen.drops execution.world) node with
  | raise after =>
      rw [ran] at idle
      exact ⟨.refl _, idle, rfl, by simp [conclude, Control.node?]⟩
  | interrupt ask after =>
      rw [ran] at idle
      exact ⟨.refl _, idle, rfl, by simpa [conclude, Control.node?]⟩
  | update update after =>
      rw [ran] at idle
      obtain ⟨kept, channelKept⟩ :=
        successor_keeps seen.cap (execution.graph.apply update) node
      have unchanged :
          (execution.graph.apply update).workerResults =
            execution.graph.workerResults := by
        change _ ++ update.workerResults.getD [] = _
        rw [idle.1.returns, List.append_nil]
      refine ⟨idle.1.research.trans kept, idle.2,
        channelKept.trans unchanged, ?_⟩
      intro leads
      simp only [conclude, Control.node?_elim] at leads
      exact notFanout (successor_collect leads)

/-- What a step does as far as collecting is concerned. -/
inductive StepOutcome
    (execution : Execution)
    (env : StepEnv)
    (next : Execution) : Prop where
  | lost
      (collecting : execution.control.node? = some .collect)
      (control : next.control = .crashed)
      (graph : next.graph = execution.graph)
      (world : next.world = (foldingOf execution env).2)
  | collected
      {folded : ResearchState}
      {after : World}
      (collecting : execution.control.node? = some .collect)
      (collects : Collects execution env next folded after)
  | researched
      (researching : execution.control.node? = some .researchFanout)
      (kept :
        KeepsResearch execution.graph.researchState
          next.graph.researchState)
      (folderKept :
        KeepsFolder (receiveDrops env.drops execution.world) next.world)
      (channel :
        next.graph.workerResults =
          execution.graph.workerResults ++ returnedBundles execution env)
      (leads : next.control = .crashed ∨ next.control = .at .collect)
  | idle
      (collectsNot : execution.control.node? ≠ some .collect)
      (researchesNot : execution.control.node? ≠ some .researchFanout)
      (kept :
        KeepsResearch execution.graph.researchState
          next.graph.researchState)
      (folderKept :
        KeepsFolder (receiveDrops env.drops execution.world) next.world)
      (channel :
        next.graph.workerResults = execution.graph.workerResults)
      (leadsNot : next.control.node? ≠ some .collect)

/-- Every step collects or loses its results, researches, or is idle. -/
theorem step_outcome
    {execution next : Execution}
    {env : StepEnv}
    (stepped : step execution env = some next) :
    StepOutcome execution env next := by
  by_cases collecting : execution.control.node? = some .collect
  · rcases step_collect stepped collecting with
        ⟨control, graph, world⟩ | ⟨folded, after, collects⟩
    · exact .lost collecting control graph world
    · exact .collected collecting collects
  · by_cases researching : execution.control.node? = some .researchFanout
    · rcases step_researchFanout stepped researching with
          ⟨kept, folderKept, channel, leads⟩
      exact .researched researching kept folderKept channel leads
    · rcases step_idle stepped collecting researching with
          ⟨kept, folderKept, channel, leadsNot⟩
      exact .idle collecting researching kept folderKept channel leadsNot

/-- A step is taken by a run that has not crashed. -/
theorem alive_of_step
    {execution next : Execution}
    {env : StepEnv}
    (stepped : step execution env = some next) :
    execution.control ≠ .crashed := by
  intro crashed
  rw [step, crashed] at stepped
  cases stepped

end Steps

end ResearchCos
