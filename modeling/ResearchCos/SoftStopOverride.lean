import ResearchCos.BundledBrains
import ResearchCos.PlanApproval
import ResearchCos.ReferenceScan
import ResearchCos.ResearchedQueries

namespace ResearchCos

open Foundation

/-!
# Waiting for a cell

A soft stop is overridden while a high-impact cell needs research.  Research is
sent out by issue, though, and no issue has the name of a cell.  So nobody is
ever sent for the cell: it waits, unchanged, until a hard bound ends the run.
-/

/-! ## Names of cells -/

/-- The name of a cell sets the vendor and the group apart with a bar. -/
def IsCellName (name : String) : Prop :=
  '|' ∈ name.toList

/-- No minted identifier of an issue is the name of a cell. -/
theorem issueId_not_cellName
    (n : Nat) :
    ¬IsCellName (IssueMap.issueId n) := by
  intro bar
  simp only [IsCellName, IssueMap.issueId, String.toList_append,
    List.mem_append] at bar
  rcases bar with inLetters | inDigits
  · exact absurd inLetters (by decide)
  · exact absurd (isDigit_of_mem_pad3 inDigits) (by decide)

/-- Every cell has the name of a cell. -/
def CellsNamed (cells : OrderedMap String TaskCell) : Prop :=
  ∀ key cell, cells.get? key = some cell → IsCellName cell.id

theorem CellsNamed.insert
    {cells : OrderedMap String TaskCell}
    {cell : TaskCell}
    (named : CellsNamed cells)
    (isNamed : IsCellName cell.id) :
    CellsNamed (cells.insert cell.id cell) := by
  intro key other found
  rw [OrderedMap.get?_insert] at found
  split at found
  · cases found
    exact isNamed
  · exact named key other found

theorem CellsNamed.addCell
    {cells : OrderedMap String TaskCell}
    {cell : TaskCell}
    (named : CellsNamed cells)
    (isNamed : IsCellName cell.id) :
    CellsNamed (Orchestrator.addCell cells cell) := by
  unfold Orchestrator.addCell
  split
  · exact named
  · exact named.insert isNamed

theorem gapCell_named
    (index : Nat)
    (gap : String) :
    IsCellName (MockOrchestrator.gapCell index gap).id := by
  simp only [IsCellName, MockOrchestrator.gapCell, String.toList_append,
    List.mem_append]
  exact Or.inl (by decide)

theorem ProposedCell.named
    (proposed : ProposedCell) :
    IsCellName proposed.cell.id := by
  simp only [IsCellName, ProposedCell.cell, String.toList_append,
    List.mem_append]
  exact Or.inl (Or.inr (by decide))

theorem mockPlan_named
    {rs : ResearchState}
    {grid : TaskGrid}
    (named : CellsNamed (Orchestrator.plannedCells rs))
    (planned : MockOrchestrator.plan rs = some grid) :
    CellsNamed grid.cells := by
  cases planned
  have seeded :
      CellsNamed
        (if (Orchestrator.plannedCells rs).entries = [] then
          (Orchestrator.plannedCells rs).insert
            (MockOrchestrator.seedCell rs).id (MockOrchestrator.seedCell rs)
        else
          Orchestrator.plannedCells rs) := by
    split
    · have isNamed : IsCellName "seed|core" := by
        unfold IsCellName
        decide
      exact named.insert isNamed
    · exact named
  revert seeded
  generalize
    (if (Orchestrator.plannedCells rs).entries = [] then _ else _) = cells
  intro seeded
  induction (Orchestrator.gaps rs).zipIdx generalizing cells with
  | nil =>
      exact seeded
  | cons gap rest inductionHypothesis =>
      exact inductionHypothesis _ (seeded.addCell (gapCell_named _ _))

theorem addProposals_named
    {proposals : List (Option ProposedCell)}
    {cells after : OrderedMap String TaskCell}
    (named : CellsNamed cells)
    (added : RealOrchestrator.addProposals proposals cells = some after) :
    CellsNamed after := by
  induction proposals generalizing cells with
  | nil =>
      cases added
      exact named
  | cons proposal rest inductionHypothesis =>
      cases proposal with
      | none =>
          cases added
      | some proposed =>
          exact inductionHypothesis (named.addCell proposed.named) added

/-- Either orchestrator gives its cells the names of cells. -/
theorem IsOrchestrator.named
    {planner : Option (ResearchState → Option TaskGrid)}
    (orchestrates : IsOrchestrator planner)
    {plan : ResearchState → Option TaskGrid}
    (isPlan : planner = some plan)
    {rs : ResearchState}
    {grid : TaskGrid}
    (named : CellsNamed (Orchestrator.plannedCells rs))
    (planned : plan rs = some grid) :
    CellsNamed grid.cells := by
  cases orchestrates with
  | absent =>
      cases isPlan
  | mock =>
      cases isPlan
      exact mockPlan_named named planned
  | real answer =>
      cases isPlan
      obtain ⟨proposals, _, added⟩ := Option.bind_eq_some_iff.mp planned
      obtain ⟨cells, isCells, rfl⟩ := Option.map_eq_some_iff.mp added
      exact addProposals_named named isCells

/-! ## Cells that stay -/

/-- Every planned cell is still there, unchanged. -/
def KeepsCells (before after : ResearchState) : Prop :=
  ∀ key cell,
    (Orchestrator.plannedCells before).get? key = some cell →
      (Orchestrator.plannedCells after).get? key = some cell

/-- The cells that an override of a soft stop waits for. -/
def waitingCells (rs : ResearchState) : List TaskCell :=
  match rs.taskGrid with
  | none => []
  | some grid => grid.openHighImpactCells Convergence.highImpactConf

theorem KeepsCells.of_grid
    {before after : ResearchState}
    (grid : after.taskGrid = before.taskGrid) :
    KeepsCells before after := by
  intro key cell found
  rw [Orchestrator.plannedCells, grid]
  exact found

theorem KeepsCells.of_appends
    {before after : ResearchState}
    (appends :
      Orchestrator.Appends (Orchestrator.plannedCells before)
        (Orchestrator.plannedCells after)) :
    KeepsCells before after := by
  intro key cell found
  obtain ⟨added, entries⟩ := appends
  refine OrderedMap.get?_of_mem_entries ?_
  rw [entries]
  exact List.mem_append_left _ (OrderedMap.mem_entries_of_get? found)

/-- The waiting cells are those planned cells that deserve research. -/
theorem waitingCells_eq
    (rs : ResearchState) :
    waitingCells rs =
      TaskGrid.openHighImpactCells ⟨Orchestrator.plannedCells rs⟩
        Convergence.highImpactConf := by
  unfold waitingCells Orchestrator.plannedCells
  cases rs.taskGrid <;> rfl

/-- A waiting cell is planned under a key. -/
theorem planned_of_waiting
    {rs : ResearchState}
    {cell : TaskCell}
    (waits : cell ∈ waitingCells rs) :
    ∃ key, (Orchestrator.plannedCells rs).get? key = some cell := by
  rw [waitingCells_eq] at waits
  obtain ⟨⟨key, value⟩, member, rfl⟩ :=
    List.mem_map.mp (List.mem_of_mem_filter waits)
  exact ⟨key, OrderedMap.get?_of_mem_entries member⟩

/-- A cell that stays goes on waiting. -/
theorem KeepsCells.waits
    {before after : ResearchState}
    (kept : KeepsCells before after)
    {cell : TaskCell}
    (waits : cell ∈ waitingCells before) :
    cell ∈ waitingCells after := by
  obtain ⟨key, found⟩ := planned_of_waiting waits
  have member := OrderedMap.mem_entries_of_get? (kept key cell found)
  rw [waitingCells_eq] at waits ⊢
  exact
    List.mem_filter.mpr
      ⟨List.mem_map.mpr ⟨_, member, rfl⟩, (List.mem_filter.mp waits).2⟩

/-! ## Cells and issues are told apart -/

/-- A bundle that is not about a cell. -/
def NamesNoCell (bundle : EvidenceBundle) : Prop :=
  ∀ issueId, bundle.issueId = some issueId → ¬IsCellName issueId

/-- No issue has the name of a cell, and no bundle is about a cell. -/
structure NamesApart (graph : GraphState) : Prop where
  issues :
    ∀ issueId ∈ graph.researchState.issueMap.keys, ¬IsCellName issueId
  cells : CellsNamed (Orchestrator.plannedCells graph.researchState)
  evidence : ∀ bundle ∈ graph.researchState.evidence, NamesNoCell bundle
  results : ∀ bundle ∈ graph.workerResults, NamesNoCell bundle

section Runs

variable [PythonText]

/-- The bundles of the researchers that a step sends out. -/
def dispatched (execution : Execution) (env : StepEnv) : List EvidenceBundle :=
  if execution.control.node? = some .researchFanout then
    match selectResearchIssues env execution.graph.researchState with
    | none => []
    | some (selected, rs) =>
        selected.filterMap fun issueId =>
          env.brains.researcher (buildWorkerProxy rs issueId) issueId
  else
    []

omit [PythonText] in
/-- What is selected is an issue of the map. -/
theorem mem_keys_of_selected
    {env : StepEnv}
    {rs after : ResearchState}
    {selected : List String}
    (selects : selectResearchIssues env rs = some (selected, after))
    {issueId : String}
    (member : issueId ∈ selected) :
    issueId ∈ rs.issueMap.keys := by
  rw [(selectResearchIssues_eq_some selects).1] at member
  obtain ⟨candidate, isTaken, rfl⟩ := List.mem_map.mp member
  obtain ⟨title, isTitle, _⟩ :=
    query_of_namedCandidate
      ((List.mem_insertionSort _).mp (List.mem_of_mem_take isTaken))
  obtain ⟨node, found, _⟩ := Option.map_eq_some_iff.mp isTitle
  exact OrderedMap.mem_keys_of_get? found

/-- Researchers are sent out for issues, never for cells. -/
theorem NamesApart.dispatched
    {execution : Execution}
    {env : StepEnv}
    (apart : NamesApart execution.graph)
    (bundled : Bundled env.brains) :
    ∀ bundle ∈ dispatched execution env, NamesNoCell bundle := by
  intro bundle member issueId isIssue
  unfold ResearchCos.dispatched at member
  split at member
  · split at member
    · cases member
    · rename_i selected after selects
      obtain ⟨sentFor, isSelected, researched⟩ :=
        List.mem_filterMap.mp member
      cases isIssue.symm.trans (bundled.namesIssue _ _ _ researched)
      exact apart.issues _ (mem_keys_of_selected selects isSelected)
  · cases member

/-! ## What a node does to the names -/

/-- Names and evidence after a node, beside what it does to the results. -/
structure KeepsApart
    (state : GraphState)
    (update : Update) : Prop where
  issues :
    ∀ issueId ∈ update.researchState.issueMap.keys, ¬IsCellName issueId
  named : CellsNamed (Orchestrator.plannedCells update.researchState)
  cells : KeepsCells state.researchState update.researchState
  evidence : ∀ bundle ∈ update.researchState.evidence, NamesNoCell bundle
  results : ∀ bundle ∈ update.workerResults.getD [], NamesNoCell bundle

omit [PythonText] in
theorem KeepsApart.apply
    {state : GraphState}
    {update : Update}
    (kept : KeepsApart state update)
    (apart : NamesApart state) :
    NamesApart (state.apply update) where
  issues := kept.issues
  cells := kept.named
  evidence := kept.evidence
  results :=
    List.forall_mem_append.mpr ⟨apart.results, kept.results⟩

omit [PythonText] in
/-- New issues have minted names. -/
theorem NodeSelection.issues
    {node : Node}
    {state : GraphState}
    {update : Update}
    (selects : NodeSelection node state update)
    (apart : NamesApart state) :
    ∀ issueId ∈ update.researchState.issueMap.keys, ¬IsCellName issueId := by
  intro issueId member
  rcases selects.names issueId member with known | ⟨n, rfl⟩
  · exact apart.issues issueId known
  · exact issueId_not_cellName n

omit [PythonText] in
/-- The head of the loop appends cells with names of cells. -/
theorem nodeOrchestratorPlan_keepsApart
    {env : StepEnv}
    {state : GraphState}
    {update : Update}
    (apart : NamesApart state)
    (orchestrates : IsOrchestrator env.brains.orchestrator)
    (issues :
      ∀ issueId ∈ update.researchState.issueMap.keys, ¬IsCellName issueId)
    (idle : Idle state update)
    (planned : nodeOrchestratorPlan env state = some update) :
    KeepsApart state update := by
  have evidence : ∀ bundle ∈ update.researchState.evidence,
      NamesNoCell bundle := by
    rw [idle.research.evidence]
    exact apart.evidence
  have results : ∀ bundle ∈ update.workerResults.getD [],
      NamesNoCell bundle := by
    rw [idle.returns]
    exact fun _ member => absurd member List.not_mem_nil
  obtain ⟨rs, expanded, plans⟩ := Option.bind_eq_some_iff.mp planned
  have sameCells :
      Orchestrator.plannedCells rs =
        Orchestrator.plannedCells state.researchState := by
    rw [Orchestrator.plannedCells,
      (KeepsSelection.relatesAdded.expandIssues expanded).grid]
    rfl
  have named := apart.cells
  rw [← sameCells] at named
  split at plans
  · cases plans
    refine ⟨issues, named, fun key cell found => ?_, evidence, results⟩
    rw [← sameCells] at found
    exact found
  · rename_i plan isPlan
    obtain ⟨grid, isGrid, rfl⟩ := Option.map_eq_some_iff.mp plans
    have appends := orchestrates.appends isPlan isGrid
    rw [sameCells] at appends
    exact
      ⟨issues, orchestrates.named isPlan named isGrid,
        KeepsCells.of_appends appends, evidence, results⟩

/-- A file that a human drops is evidence about no cell. -/
theorem collectReferences_namesNoCell
    (converters : Converters)
    (folder : ReferenceFolder)
    (rs : ResearchState)
    (evidence : ∀ bundle ∈ rs.evidence, NamesNoCell bundle) :
    ∀ bundle ∈ (collectReferences converters folder rs).evidence,
      NamesNoCell bundle := by
  by_cases completes :
    ReferenceStore.ScanCompletes converters folder rs.processedReferences
  · rw [ReferenceStore.evidence_of_scanCompletes completes]
    refine List.forall_mem_append.mpr ⟨evidence, ?_⟩
    intro bundle member issueId isIssue
    obtain ⟨entry, _, isBundle⟩ := List.mem_filterMap.mp member
    unfold ReferenceStore.bundleOfFile ReferenceStore.bundleOf at isBundle
    split at isBundle
    all_goals
      cases isBundle
      try cases isIssue
  · rw [ReferenceStore.evidence_of_scanRaises completes]
    exact evidence

/-- Without evidence about it, a cell is not classified. -/
theorem reclassify_of_namesNoCell
    {evidence : List EvidenceBundle}
    (namesNone : ∀ bundle ∈ evidence, NamesNoCell bundle)
    {cell : TaskCell}
    (isNamed : IsCellName cell.id) :
    CellGates.reclassify evidence cell = cell := by
  have nothing :
      (evidence.filter fun bundle => bundle.issueId = some cell.id) = [] := by
    refine List.filter_eq_nil_iff.mpr fun bundle member isAbout => ?_
    exact
      namesNone bundle member cell.id (of_decide_eq_true isAbout) isNamed
  simp only [CellGates.reclassify, nothing, if_true]

/-- Classifying goes through the planned cells one by one. -/
theorem plannedCells_classifyGridCells
    (rs : ResearchState) :
    Orchestrator.plannedCells (CellGates.classifyGridCells rs) =
      (Orchestrator.plannedCells rs).mapValues
        (CellGates.reclassify rs.evidence) := by
  simp only [Orchestrator.plannedCells, CellGates.classifyGridCells]
  cases rs.taskGrid with
  | none =>
      rfl
  | some grid =>
      rfl

/-- Collecting classifies no cell. -/
theorem nodeCollect_keepsApart
    {env : StepEnv}
    {state : GraphState}
    {world after : World}
    {update : Update}
    (apart : NamesApart state)
    (issues :
      ∀ issueId ∈ update.researchState.issueMap.keys, ¬IsCellName issueId)
    (ran : nodeCollect env state world = .update update after) :
    KeepsApart state update := by
  simp only [nodeCollect] at ran
  split at ran
  · cases ran
  · rename_i folded saved folds
    obtain ⟨processed, rfl⟩ := foldWorkerResults_eq_some folds
    cases ran
    generalize isFolded :
      { state.researchState with
        evidence := state.researchState.evidence ++ state.workerResults
        issueMap :=
          state.workerResults.foldl (advanceIssues state.config.now)
            state.researchState.issueMap
        processedReferences := processed } = folded at issues ⊢
    have evidence :
        ∀ bundle ∈
            (collectReferences env.converters after.folder folded).evidence,
          NamesNoCell bundle := by
      refine collectReferences_namesNoCell _ _ _ ?_
      rw [← isFolded]
      exact List.forall_mem_append.mpr ⟨apart.evidence, apart.results⟩
    have sameCells :
        Orchestrator.plannedCells
            (collectReferences env.converters after.folder folded) =
          Orchestrator.plannedCells state.researchState := by
      rw [← isFolded]
      rfl
    have classified :
        ∀ key cell,
          (Orchestrator.plannedCells state.researchState).get? key =
              some cell →
            CellGates.reclassify
                (collectReferences env.converters after.folder folded).evidence
                cell =
              cell :=
      fun key cell found =>
        reclassify_of_namesNoCell evidence (apart.cells key cell found)
    refine ⟨issues, ?_, ?_, evidence, ?_⟩
    · intro key cell found
      rw [plannedCells_classifyGridCells, OrderedMap.get?_mapValues,
        sameCells] at found
      obtain ⟨before, isBefore, rfl⟩ := Option.map_eq_some_iff.mp found
      rw [classified key before isBefore]
      exact apart.cells key before isBefore
    · intro key cell found
      rw [plannedCells_classifyGridCells, OrderedMap.get?_mapValues,
        sameCells, found, Option.map_some, classified key cell found]
    · exact fun _ member => absurd member List.not_mem_nil

/-- The fan-out returns bundles about issues. -/
theorem nodeResearchFanout_keepsApart
    {env : StepEnv}
    {state : GraphState}
    {update : Update}
    (apart : NamesApart state)
    (bundled : Bundled env.brains)
    (ran : nodeResearchFanout env state = some update) :
    KeepsApart state update := by
  obtain ⟨⟨selected, rs⟩, selects, rfl⟩ := Option.map_eq_some_iff.mp ran
  have inMap :
      ∀ issueId ∈ selected, issueId ∈ state.researchState.issueMap.keys :=
    fun _ => mem_keys_of_selected selects
  obtain ⟨rawIds, _, shape⟩ := Option.map_eq_some_iff.mp selects
  cases shape
  refine ⟨apart.issues, apart.cells, .of_grid rfl, apart.evidence, ?_⟩
  intro bundle member issueId isIssue
  obtain ⟨raw, isRaw, critiques⟩ := List.mem_filterMap.mp member
  obtain ⟨sentFor, isSent, researched⟩ := List.mem_filterMap.mp isRaw
  rw [bundled.issueId_critiqueBundle critiques,
    bundled.namesIssue _ _ _ researched] at isIssue
  cases isIssue
  exact apart.issues _ (inMap _ isSent)

/-- No node gives an issue the name of a cell, or changes a cell. -/
theorem runNode_keepsApart
    {env : StepEnv}
    {state : GraphState}
    {world after : World}
    {node : Node}
    {update : Update}
    (apart : NamesApart state)
    (bundled : Bundled env.brains)
    (ran : runNode env state world node = .update update after) :
    KeepsApart state update := by
  have selects := (runNode_updates ran).selects
  have issues := selects.issues apart
  by_cases plans : node = .orchestratorPlan
  · subst plans
    exact
      nodeOrchestratorPlan_keepsApart apart bundled.orchestrates issues
        ((runNode_updates ran).idle nofun nofun).1
        (NodeResult.ofOption_eq_update ran).2
  by_cases collects : node = .collect
  · subst collects
    exact nodeCollect_keepsApart apart issues ran
  by_cases fansOut : node = .researchFanout
  · subst fansOut
    exact
      nodeResearchFanout_keepsApart apart bundled
        (NodeResult.ofOption_eq_update ran).2
  have idle := ((runNode_updates ran).idle collects fansOut).1
  have sameGrid := selects.grid plans collects
  refine ⟨issues, ?_, .of_grid sameGrid, ?_, ?_⟩
  · rw [Orchestrator.plannedCells, sameGrid]
    exact apart.cells
  · rw [idle.research.evidence]
    exact apart.evidence
  · rw [idle.returns]
    exact fun _ member => absurd member List.not_mem_nil

/-- A step keeps names apart, and every planned cell as it is. -/
theorem step_keepsApart
    {execution next : Execution}
    {env : StepEnv}
    (apart : NamesApart execution.graph)
    (bundled : Bundled env.brains)
    (stepped : step execution env = some next) :
    NamesApart next.graph ∧
      KeepsCells execution.graph.researchState next.graph.researchState := by
  obtain ⟨node, seen, visits, rfl⟩ := step_visits stepped
  have seenBundled : Bundled seen.brains := by
    rw [visits.seen_eq]
    exact bundled
  rcases visit_cases seen node execution with
    ⟨world, raised⟩ | ⟨ask, world, _, paused⟩ | ⟨update, world, ran, moved⟩
  · rw [raised]
    exact ⟨apart, .of_grid rfl⟩
  · rw [paused]
    exact ⟨apart, .of_grid rfl⟩
  · have kept := runNode_keepsApart apart seenBundled ran
    have after := kept.apply apart
    rw [moved]
    rcases successor_state seen.cap (execution.graph.apply update) node with
      same | recorded
    · rw [same]
      exact ⟨after, kept.cells⟩
    · rw [recorded]
      exact
        ⟨⟨after.issues, after.cells, after.evidence, after.results⟩,
          kept.cells⟩

/-- So does a whole run with either bundle of brains. -/
theorem run_keepsApart
    {initial final : Execution}
    {labels : List StepEnv}
    (apart : NamesApart initial.graph)
    (bundled : ∀ label ∈ labels, Bundled label.brains)
    (ran : exec step initial labels = some final) :
    NamesApart final.graph ∧
      KeepsCells initial.graph.researchState final.graph.researchState := by
  have met :
      AllSteps step (fun _ label => Bundled label.brains) initial labels :=
    allSteps_of_labels bundled initial
  refine
    AllSteps.invariant
      (motive := fun state =>
        NamesApart state.graph ∧
          KeepsCells initial.graph.researchState state.graph.researchState)
      ?_ ⟨apart, .of_grid rfl⟩ met ran
  intro state label next before isBundled stepped
  obtain ⟨after, kept⟩ := step_keepsApart before.1 isBundled stepped
  exact
    ⟨after, fun key cell found => kept key cell (before.2 key cell found)⟩

/-! ## Overrides -/

/-- A run that is about to begin: there are no issues, no cells, no evidence. -/
structure Execution.Begins (execution : Execution) : Prop where
  atIntake : execution.control = .at .intake
  noIssues : execution.graph.researchState.issueMap = ∅
  noGrid : execution.graph.researchState.taskGrid = none
  noEvidence : execution.graph.researchState.evidence = []
  noResults : execution.graph.workerResults = []

/--
What runs with either bundle of brains can reach.  The graph may be entered
again with a state that was saved on the way, steered by a human or not.
-/
inductive Reachable : Execution → Prop where
  | begun {execution : Execution} :
      execution.Begins → Reachable execution
  | stepped {execution next : Execution} {env : StepEnv} :
      Reachable execution → Bundled env.brains →
      step execution env = some next → Reachable next
  | entered {saved execution : Execution}
      (mode : Mode)
      (steeringEvents : List SteeringEvent)
      (config : RunConfig)
      (world : World) :
      Reachable saved → Reachable execution →
      Reachable
        { graph :=
            { execution.graph with
              researchState :=
                { saved.graph.researchState with
                  mode := mode
                  steeringEvents := steeringEvents }
              config := config }
          control := .at .intake
          world := world }

/-- In every reachable state cells and issues are told apart. -/
theorem Reachable.namesApart
    {execution : Execution}
    (reachable : Reachable execution) :
    NamesApart execution.graph := by
  induction reachable with
  | begun begins =>
      refine ⟨?_, ?_, ?_, ?_⟩
      · rw [begins.noIssues]
        exact fun _ member => absurd member List.not_mem_nil
      · intro key cell found
        rw [Orchestrator.plannedCells, begins.noGrid] at found
        cases found
      · rw [begins.noEvidence]
        exact fun _ member => absurd member List.not_mem_nil
      · rw [begins.noResults]
        exact fun _ member => absurd member List.not_mem_nil
  | stepped _ bundled ran inductionHypothesis =>
      exact (step_keepsApart inductionHypothesis bundled ran).1
  | entered _ _ _ _ _ _ savedApart apart =>
      exact
        ⟨savedApart.issues, savedApart.cells, savedApart.evidence,
          apart.results⟩

omit [PythonText] in
/-- The channels once the decision is made. -/
def decidedGraph (execution : Execution) (env : StepEnv) : GraphState :=
  execution.graph.apply (nodeCosDecision env execution.graph)

omit [PythonText] in
/-- The decision stops the run, but the edge leads back into the loop. -/
structure Overrides (execution : Execution) (env : StepEnv) : Prop where
  decides : execution.control = .at .cosDecision
  stops :
    isSoftStop
        ((decidedGraph execution env).lastDecision.getD .continueResearch) =
      true
  goesOn : (route env.cap (decidedGraph execution env)).1 = .orchestratorPlan

/-- A run that stands before its next fan-out. -/
structure ReachesFanout
    (execution : Execution)
    (labels : List StepEnv)
    (reached : Execution) : Prop where
  bundled : ∀ label ∈ labels, Bundled label.brains
  ran : exec step execution labels = some reached
  atFanout : reached.control.node? = some .researchFanout
  first :
    AllSteps step
      (fun state _ => state.control.node? ≠ some .researchFanout) execution
      labels

/--
After an override, the next fan-out sends out a researcher whose bundle carries
the identifier of a cell that the override waits for.
-/
def NextFanoutResearches (execution : Execution) (env : StepEnv) : Prop :=
  ∀ later reached fanout,
    ReachesFanout execution (env :: later) reached →
    Bundled fanout.brains →
    ∃ cell ∈ waitingCells (decidedGraph execution env).researchState,
      ∃ bundle ∈ dispatched reached fanout, bundle.issueId = some cell.id

omit [PythonText] in
/-- A grid that needs research is one with a cell that waits. -/
theorem gridResearchable_iff
    {rs : ResearchState} :
    gridResearchable rs = true ↔ waitingCells rs ≠ [] := by
  unfold gridResearchable waitingCells
  cases rs.taskGrid <;> simp

omit [PythonText] in
/-- An override is due to a cell that waits, and changes nothing. -/
theorem Overrides.waits
    {execution : Execution}
    {env : StepEnv}
    (overrides : Overrides execution env) :
    waitingCells (decidedGraph execution env).researchState ≠ [] ∧
      route env.cap (decidedGraph execution env) =
        (.orchestratorPlan, decidedGraph execution env) := by
  obtain ⟨_, stops, goesOn⟩ := overrides
  simp only [route, stops, if_true] at goesOn ⊢
  split at goesOn
  · cases goesOn
  · rename_i uncapped
    rw [if_neg uncapped]
    split at goesOn
    · cases goesOn
    · rename_i below
      rw [if_neg below]
      split at goesOn
      · rename_i researchable
        rw [if_pos researchable]
        exact
          ⟨gridResearchable_iff.mp (Bool.and_eq_true_iff.mp researchable).1,
            rfl⟩
      · cases goesOn

/-- The override leads to the head of the loop with the decided channels. -/
theorem Overrides.exists_step
    {execution : Execution}
    {env : StepEnv}
    (overrides : Overrides execution env) :
    ∃ next,
      step execution env = some next ∧
        next.graph = decidedGraph execution env ∧
        next.control = .at .orchestratorPlan := by
  refine ⟨_, by rw [step, overrides.decides], ?_⟩
  have routed := overrides.waits.2
  simp only [decidedGraph, nodeCosDecision] at routed ⊢
  simp only [visit, runNode, nodeCosDecision, conclude, successor, routed]
  exact ⟨trivial, rfl⟩

/-! ## The way to the next fan-out -/

/-- The stubs, with an answer to every question. -/
def answeringStubs : StepEnv :=
  { StepEnv.calm
      (MockBrains.brains
        { others := Brains.silent
          disk := fun _ => .notASurvey
          source := .web
          internal := fun _ => none }) with
    answer := some (.text "yes") }

theorem answeringStubs_bundled : Bundled answeringStubs.brains :=
  .mock _

/-- The stubs always plan. -/
theorem orchestratorPlan_passes
    {execution : Execution}
    (standsAt : execution.control = .at .orchestratorPlan) :
    ∃ next,
      step execution answeringStubs = some next ∧
        next.control = .at .planAudit := by
  refine ⟨_, by rw [step, standsAt], ?_⟩
  have expands :
      ∃ rs,
        expandIssues { answeringStubs with answer := none }
            execution.graph.config.now
            (consumeSteerEvents execution.graph.researchState) =
          some rs := by
    unfold expandIssues
    split <;> exact ⟨_, rfl⟩
  obtain ⟨rs, expanded⟩ := expands
  simp only [visit, runNode, nodeOrchestratorPlan, expanded, Option.bind_some]
  rfl

/-- The stubs always audit the plan. -/
theorem planAudit_passes
    {execution : Execution}
    (standsAt : execution.control = .at .planAudit) :
    ∃ next,
      step execution answeringStubs = some next ∧
        next.control = .at .planApproval := by
  refine ⟨_, by rw [step, standsAt], ?_⟩
  simp only [visit, runNode, nodePlanAudit]
  split <;> rfl

/-- The plan is approved, at once or by an answer. -/
theorem planApproval_passes
    {execution : Execution}
    (standsAt : execution.control = .at .planApproval) :
    ∃ next,
      step execution answeringStubs = some next ∧
        (next.control = .at .supervisor ∨
          ∃ ask, next.control = .pausedAt .planApproval ask) := by
  refine ⟨_, by rw [step, standsAt], ?_⟩
  have ends :=
    nodePlanApproval_ends { answeringStubs with answer := none }
      execution.graph (receiveDrops answeringStubs.drops execution.world)
  simp only [visit, runNode]
  generalize
    nodePlanApproval { answeringStubs with answer := none } execution.graph
      (receiveDrops answeringStubs.drops execution.world) = result at ends ⊢
  cases ends with
  | settled _ _ =>
      exact Or.inl rfl
  | passed _ _ =>
      exact Or.inl rfl
  | asks _ =>
      exact Or.inr ⟨_, rfl⟩

/-- An answer approves the plan. -/
theorem planApproval_resumes
    {execution : Execution}
    {ask : Ask}
    (standsAt : execution.control = .pausedAt .planApproval ask) :
    ∃ next,
      step execution answeringStubs = some next ∧
        next.control = .at .supervisor := by
  refine ⟨_, by rw [step, standsAt]; rfl, ?_⟩
  simp only [visit, runNode, nodePlanApproval_eq]
  repeat' split
  all_goals rfl

theorem supervisor_passes
    {execution : Execution}
    (standsAt : execution.control = .at .supervisor) :
    ∃ next,
      step execution answeringStubs = some next ∧
        next.control = .at .researchFanout :=
  ⟨_, by rw [step, standsAt], rfl⟩

theorem ReachesFanout.here
    {execution : Execution}
    (standsAt : execution.control = .at .researchFanout) :
    ReachesFanout execution [] execution where
  bundled := fun _ member => absurd member List.not_mem_nil
  ran := rfl
  atFanout := by rw [standsAt]; rfl
  first :=
    allSteps_nil (fun state _ => state.control.node? ≠ some .researchFanout)
      execution

/-- One more step before the fan-out. -/
theorem ReachesFanout.after
    {execution next reached : Execution}
    {label : StepEnv}
    {labels : List StepEnv}
    (reaches : ReachesFanout next labels reached)
    (bundled : Bundled label.brains)
    (stepped : step execution label = some next)
    (elsewhere : execution.control.node? ≠ some .researchFanout) :
    ReachesFanout execution (label :: labels) reached where
  bundled := List.forall_mem_cons.mpr ⟨bundled, reaches.bundled⟩
  ran := by
    rw [exec_cons, stepped]
    exact reaches.ran
  atFanout := reaches.atFanout
  first := by
    rw [allSteps_cons]
    refine ⟨elsewhere, fun other isNext => ?_⟩
    cases stepped.symm.trans isNext
    exact reaches.first

/-- From the head of the loop the stubs reach the next fan-out. -/
theorem exists_nextFanout
    {execution : Execution}
    (standsAt : execution.control = .at .orchestratorPlan) :
    ∃ labels reached, ReachesFanout execution labels reached := by
  have fromSupervisor :
      ∀ supervised : Execution,
        supervised.control = .at .supervisor →
        ∃ labels reached, ReachesFanout supervised labels reached := by
    intro supervised atSupervisor
    obtain ⟨next, stepped, atFanout⟩ := supervisor_passes atSupervisor
    refine
      ⟨_, _,
        (ReachesFanout.here atFanout).after answeringStubs_bundled stepped ?_⟩
    simp [atSupervisor, Control.node?]
  obtain ⟨planned, plans, atAudit⟩ := orchestratorPlan_passes standsAt
  obtain ⟨audited, audits, atApproval⟩ := planAudit_passes atAudit
  obtain ⟨asked, asks, approved | ⟨ask, paused⟩⟩ :=
    planApproval_passes atApproval
  · obtain ⟨labels, reached, reaches⟩ := fromSupervisor asked approved
    refine
      ⟨_, _,
        ((reaches.after answeringStubs_bundled asks ?_).after
          answeringStubs_bundled audits ?_).after answeringStubs_bundled plans
            ?_⟩
    · simp [atApproval, Control.node?]
    · simp [atAudit, Control.node?]
    · simp [standsAt, Control.node?]
  · obtain ⟨answered, answers, approved⟩ := planApproval_resumes paused
    obtain ⟨labels, reached, reaches⟩ := fromSupervisor answered approved
    refine
      ⟨_, _,
        (((reaches.after answeringStubs_bundled answers ?_).after
          answeringStubs_bundled asks ?_).after answeringStubs_bundled audits
            ?_).after answeringStubs_bundled plans ?_⟩
    · simp [paused, Control.node?]
    · simp [atApproval, Control.node?]
    · simp [atAudit, Control.node?]
    · simp [standsAt, Control.node?]

/-! ## What an override leads to -/

/--
In every reachable state in which a soft stop is overridden, the next fan-out
sends nobody out for a cell that the override waits for.  Whatever the run does
from there, each of these cells goes on waiting as it is.
-/
theorem override_never_researched
    {execution : Execution}
    {env : StepEnv}
    (reachable : Reachable execution)
    (overrides : Overrides execution env)
    (bundled : Bundled env.brains) :
    ¬NextFanoutResearches execution env ∧
      ∀ later reached,
        (∀ label ∈ later, Bundled label.brains) →
        exec step execution (env :: later) = some reached →
        ∀ cell ∈ waitingCells (decidedGraph execution env).researchState,
          cell ∈ waitingCells reached.graph.researchState := by
  obtain ⟨next, stepped, isDecided, atHead⟩ := overrides.exists_step
  have apart : NamesApart next.graph :=
    (reachable.stepped bundled stepped).namesApart
  have after :
      ∀ later reached,
        exec step execution (env :: later) = some reached →
        exec step next later = some reached := by
    intro later reached ran
    rw [exec_cons, stepped] at ran
    exact ran
  constructor
  · intro researches
    obtain ⟨labels, reached, reaches⟩ := exists_nextFanout atHead
    have notFanout :
        execution.control.node? ≠ some .researchFanout := by
      simp [overrides.decides, Control.node?]
    obtain ⟨cell, waits, bundle, isSent, isAbout⟩ :=
      researches labels reached answeringStubs
        (reaches.after bundled stepped notFanout) answeringStubs_bundled
    have apartThere := (run_keepsApart apart reaches.bundled reaches.ran).1
    obtain ⟨key, found⟩ := planned_of_waiting waits
    rw [← isDecided] at found
    exact
      apartThere.dispatched answeringStubs_bundled bundle isSent cell.id
        isAbout (apart.cells key cell found)
  · intro later reached laterBundled ran cell waits
    rw [← isDecided] at waits
    exact
      (run_keepsApart apart laterBundled (after later reached ran)).2.waits
        waits

/-- A run with either bundle of brains stays within what is reachable. -/
theorem reachable_of_run
    {initial final : Execution}
    {labels : List StepEnv}
    (reachable : Reachable initial)
    (bundled : ∀ label ∈ labels, Bundled label.brains)
    (ran : exec step initial labels = some final) :
    Reachable final := by
  have met :
      AllSteps step (fun _ label => Bundled label.brains) initial labels :=
    allSteps_of_labels bundled initial
  exact AllSteps.invariant Reachable.stepped reachable met ran

end Runs

/-- A fresh run with a brief that is assumed. -/
private def ungriddedRun : Execution where
  graph :=
    { researchState := { runId := "run", originalQuestion := "question" }
      config := { assumeBrief := true } }
  control := .at .intake
  world := {}

/-- An auditor that misses the competitor first, and is content then. -/
private def contentAuditor (rs : ResearchState) : Option AuditResult :=
  if IssueMap.hasType rs .competitor then
    some
      { verdict := .exhausted
        recommendedNextAction := some .synthesize
        rationale := "saturated" }
  else
    some
      { verdict := .rework
        recommendedNextAction := some .branch
        rationale := "no competitor" }

/-- The stubs, with one issue to begin with. -/
private def contentStubs [PythonText] : StepEnv :=
  .calm
    (MockBrains.brains
      { others :=
          { Brains.silent with
            issueExpander := fun _ =>
              some
                [{ title := "intent"
                   description := "intent"
                   issueType := .intent
                   impact := 3
                   confidence := 1 }]
            auditor := contentAuditor }
        disk := fun _ => .notASurvey
        source := .web
        internal := fun _ => none })

private theorem contentStubs_bundled
    [PythonText]
    (count : Nat) :
    ∀ label ∈ List.replicate count contentStubs, Bundled label.brains := by
  intro label member
  rw [List.eq_of_mem_replicate member]
  exact .mock _

private theorem ungriddedRun_reachable
    [PythonText] :
    Reachable ungriddedRun :=
  .begun ⟨rfl, rfl, rfl, rfl, rfl⟩

private theorem overridden_isSome :
    letI := PythonText.ascii
    (exec step ungriddedRun (List.replicate 25 contentStubs)).isSome =
      true := by
  decide +kernel

/-- The run at its second decision. -/
private def overriddenRun : Execution :=
  letI := PythonText.ascii
  (exec step ungriddedRun (List.replicate 25 contentStubs)).get
    overridden_isSome

private theorem overriddenRun_reachable :
    letI := PythonText.ascii
    Reachable overriddenRun := by
  let _ := PythonText.ascii
  exact
    reachable_of_run ungriddedRun_reachable (contentStubs_bundled 25)
      (Option.some_get overridden_isSome).symm

private theorem overriddenRun_overrides :
    letI := PythonText.ascii
    Overrides overriddenRun contentStubs := by
  let _ := PythonText.ascii
  have decides : overriddenRun.control = .at .cosDecision := by
    decide +kernel
  have stops :
      isSoftStop
          ((decidedGraph overriddenRun contentStubs).lastDecision.getD
            .continueResearch) =
        true := by
    decide +kernel
  have goesOn :
      (route contentStubs.cap
        (decidedGraph overriddenRun contentStubs)).1 =
          .orchestratorPlan := by
    decide +kernel
  exact ⟨decides, stops, goesOn⟩

private theorem nextFanout_isSome :
    letI := PythonText.ascii
    (exec step overriddenRun (List.replicate 5 contentStubs)).isSome =
      true := by
  decide +kernel

/-- The run before the fan-out that comes next. -/
private def nextFanout : Execution :=
  letI := PythonText.ascii
  (exec step overriddenRun (List.replicate 5 contentStubs)).get
    nextFanout_isSome

/--
The cell of the stubs is waited for, and nobody is sent out for anything: both
titles of the map were researched before.
-/
theorem overriddenRun_researchesNothing :
    letI := PythonText.ascii
    Reachable overriddenRun ∧
      Overrides overriddenRun contentStubs ∧
      (waitingCells
          (decidedGraph overriddenRun contentStubs).researchState).map
        TaskCell.id = ["seed|core"] ∧
      ReachesFanout overriddenRun (List.replicate 5 contentStubs)
        nextFanout ∧
      dispatched nextFanout contentStubs = [] ∧
      ¬NextFanoutResearches overriddenRun contentStubs := by
  let _ := PythonText.ascii
  have waits :
      (waitingCells
          (decidedGraph overriddenRun contentStubs).researchState).map
        TaskCell.id = ["seed|core"] := by
    decide +kernel
  have atFanout : nextFanout.control.node? = some .researchFanout := by
    decide +kernel
  have first :
      AllSteps step
        (fun state _ => state.control.node? ≠ some .researchFanout)
        overriddenRun (List.replicate 5 contentStubs) := by
    decide +kernel
  have sentOut : dispatched nextFanout contentStubs = [] := by
    decide +kernel
  have reaches :
      ReachesFanout overriddenRun (List.replicate 5 contentStubs)
        nextFanout :=
    ⟨contentStubs_bundled 5, (Option.some_get nextFanout_isSome).symm,
      atFanout, first⟩
  refine
    ⟨overriddenRun_reachable, overriddenRun_overrides, waits, reaches,
      sentOut, ?_⟩
  intro researches
  obtain ⟨cell, _, bundle, isSent, _⟩ :=
    researches (List.replicate 4 contentStubs) _ contentStubs reaches
      (.mock _)
  rw [sentOut] at isSent
  cases isSent

/-- The waiting cell of the stubs is never researched. -/
theorem overriddenRun_waits :
    letI := PythonText.ascii
    ¬NextFanoutResearches overriddenRun contentStubs ∧
      ∀ later reached,
        (∀ label ∈ later, Bundled label.brains) →
        exec step overriddenRun (contentStubs :: later) = some reached →
        ∀ cell ∈
            waitingCells
              (decidedGraph overriddenRun contentStubs).researchState,
          cell ∈ waitingCells reached.graph.researchState := by
  let _ := PythonText.ascii
  exact
    override_never_researched overriddenRun_reachable overriddenRun_overrides
      (.mock _)

end ResearchCos
