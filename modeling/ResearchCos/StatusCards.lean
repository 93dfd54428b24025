import ResearchCos.SoftStopOverride
import ResearchCos.StageCards

namespace ResearchCos

open Foundation

/-!
# The status of the research

Each pass ends its collecting with a card about the grid: how many fields are
filled, what has moved since the last card, and what stands still.  What the
card counts is kept by the classification of the cells that have evidence.
-/

def stallThreshold : Int := 2

def barWidth : Nat := 10

/-- A part of a total in so many steps, rounded. -/
def scaled (steps part total : Nat) : Int :=
  roundHalfEven ((steps * part : ℚ) / max 1 total)

def bar (filled total : Nat) : String :=
  let n := scaled barWidth filled total
  String.ofList
    (List.replicate n.toNat '█' ++ List.replicate (barWidth - n).toNat '░')

/-- The filled fields and the criteria of all cells. -/
def coverage (cells : List TaskCell) : Nat × Nat :=
  ((cells.map TaskCell.lastFilled).sum,
    (cells.map fun cell => cell.successCriteria.length).sum)

/-- The different texts of a list, in order. -/
def sortedSet (texts : List String) : List String :=
  texts.dedup.insertionSort Ranking.stringLe

def vendorsOf (cells : List TaskCell) : List String :=
  sortedSet (cells.map TaskCell.vendor)

def isBlockedCell (cell : TaskCell) : Bool :=
  cell.status = .blocked

def isStalledCell (cell : TaskCell) : Bool :=
  stallThreshold ≤ cell.stalledCycles

/-- The line of a card when nothing has moved. -/
def idleLine (cells : List TaskCell) : String :=
  let blocked := cells.filter isBlockedCell
  let stalled := cells.filter isStalledCell
  let flags :=
    (if blocked = [] then []
      else ["/".intercalate (vendorsOf blocked) ++ " 卡住"]) ++
    (if stalled = [] then []
      else ["/".intercalate (vendorsOf stalled) ++ " 停滯"])
  let tail :=
    if flags = [] then "" else "（" ++ " · ".intercalate flags ++ "）"
  "研究現況：無新進展" ++ tail

/-- The line of a vendor: its bar, its counts and whether it moves. -/
def vendorLine
    (cells : List TaskCell)
    (movedVendors : List String)
    (vendor : String) : String :=
  let own := cells.filter fun cell => cell.vendor = vendor
  let (filled, total) := coverage own
  let stalledFor := (own.map TaskCell.stalledCycles).foldl max 0
  let mark :=
    if vendor ∈ movedVendors then "▲"
    else if stallThreshold ≤ stalledFor then "—停滯"
    else ""
  let blocked := (own.filter isBlockedCell).length
  let tag := if blocked = 0 then "" else " ⛔" ++ toString blocked
  vendor ++ String.ofList (List.replicate (10 - vendor.length) ' ') ++ " " ++
    bar filled total ++ " " ++ toString filled ++ "/" ++ toString total ++
    tag ++ " " ++ mark

/-- What is to be done: the blocked, the empty and the stalled vendors. -/
def statusActions (cells : List TaskCell) : List String :=
  let blocked := vendorsOf (cells.filter isBlockedCell)
  let empty :=
    (vendorsOf cells).filter fun vendor =>
      (coverage (cells.filter fun cell => cell.vendor = vendor)).1 = 0
  let stalled := vendorsOf (cells.filter isStalledCell)
  ["待處理:"] ++
    (if blocked = [] then []
      else ["需要你出手: " ++ ", ".intercalate blocked ++ " 需內部"]) ++
    (if empty = [] then []
      else ["最大缺口: " ++ ", ".intercalate empty ++ " 全空白"]) ++
    (if stalled = [] then [] else ["停滯: " ++ ", ".intercalate stalled])

/-- Two columns side by side, as a library lays them out, or one by one. -/
abbrev Columns := List String → List String → Option String

/-- The card, and the coverage that the next one compares itself with. -/
def renderResearchStatus
    (columns : Columns)
    (grid : Option TaskGrid)
    (prevCoverage : Nat)
    (gridMoved : List String) : String × Nat :=
  match grid with
  | none => ("", prevCoverage)
  | some grid =>
      let cells := grid.cells.values
      if cells = [] then
        ("", prevCoverage)
      else
        let (filled, total) := coverage cells
        if gridMoved = [] ∧ filled = prevCoverage then
          (idleLine cells, filled)
        else
          let percent := scaled 100 filled total
          let before := scaled 100 prevCoverage total
          let movedVendors :=
            gridMoved.filterMap fun cellId =>
              (grid.cells.get? cellId).map TaskCell.vendor
          let left :=
            ("研究現況  " ++ toString before ++ "%→" ++ toString percent ++
                "%  ▲+" ++ toString (percent - before) ++ "%") ::
              (vendorsOf cells).map (vendorLine cells movedVendors)
          let right := statusActions cells
          ((columns left right).getD
              ("\n".intercalate left ++ "\n--\n" ++ "\n".intercalate right),
            filled)

section Casing

variable [PythonText]

/-- Whether a classification changes the status or the fields of a cell. -/
def moves (evidence : List EvidenceBundle) (cell : TaskCell) : Bool :=
  let after := CellGates.reclassify evidence cell
  decide
    ((evidence.filter fun bundle => bundle.issueId = some cell.id) ≠ [] ∧
      (after.lastStatus ≠ cell.lastStatus ∨
        after.lastFilled ≠ cell.lastFilled))

/-- The cells that a classification of the grid moves. -/
def gridMoved
    (evidence : List EvidenceBundle)
    (grid : Option TaskGrid) : List String :=
  match grid with
  | none => []
  | some grid =>
      (grid.cells.values.filter (moves evidence)).map TaskCell.id

/-- A run with the status cards that have been rendered. -/
structure StatusRun where
  execution : Execution
  prevCoverage : Nat := 0
  cards : List String := []

/-- One step of the run, with its card when the step has collected. -/
def statusStep
    (columns : Columns)
    (run : StatusRun)
    (env : StepEnv) : Option StatusRun :=
  (step run.execution env).map fun next =>
    if Stage.researchStatus ∈ reportedStages run.execution next then
      let (card, filled) :=
        renderResearchStatus columns next.graph.researchState.taskGrid
          run.prevCoverage
          (gridMoved next.graph.researchState.evidence
            run.execution.graph.researchState.taskGrid)
      { execution := next
        prevCoverage := filled
        cards := run.cards ++ [card] }
    else
      { run with execution := next }

end Casing

/-! ## Cells that nothing has touched -/

/-- A cell as it is planned: open, and never classified. -/
def Untouched (cell : TaskCell) : Prop :=
  cell.status = .open ∧ cell.lastFilled = 0 ∧ cell.stalledCycles = 0

/-- Every planned cell is untouched. -/
def CellsUntouched (rs : ResearchState) : Prop :=
  (Orchestrator.plannedCells rs).AllValues Untouched

theorem allValues_addCell
    {property : TaskCell → Prop}
    {cells : OrderedMap String TaskCell}
    {cell : TaskCell}
    (all : cells.AllValues property)
    (has : property cell) :
    (Orchestrator.addCell cells cell).AllValues property := by
  unfold Orchestrator.addCell
  split
  · exact all
  · exact all.insert has

theorem mockPlan_untouched
    {rs : ResearchState}
    {grid : TaskGrid}
    (untouched : CellsUntouched rs)
    (planned : MockOrchestrator.plan rs = some grid) :
    grid.cells.AllValues Untouched := by
  cases planned
  have seeded :
      OrderedMap.AllValues Untouched
        (if (Orchestrator.plannedCells rs).entries = [] then
          (Orchestrator.plannedCells rs).insert
            (MockOrchestrator.seedCell rs).id (MockOrchestrator.seedCell rs)
        else
          Orchestrator.plannedCells rs) := by
    split
    · exact OrderedMap.AllValues.insert untouched ⟨rfl, rfl, rfl⟩
    · exact untouched
  revert seeded
  generalize
    (if (Orchestrator.plannedCells rs).entries = [] then _ else _) = cells
  intro seeded
  induction (Orchestrator.gaps rs).zipIdx generalizing cells with
  | nil =>
      exact seeded
  | cons gap rest inductionHypothesis =>
      exact
        inductionHypothesis _ (allValues_addCell seeded ⟨rfl, rfl, rfl⟩)

theorem addProposals_untouched
    {proposals : List (Option ProposedCell)}
    {cells after : OrderedMap String TaskCell}
    (untouched : cells.AllValues Untouched)
    (added : RealOrchestrator.addProposals proposals cells = some after) :
    after.AllValues Untouched := by
  induction proposals generalizing cells with
  | nil =>
      cases added
      exact untouched
  | cons proposal rest inductionHypothesis =>
      cases proposal with
      | none =>
          cases added
      | some proposed =>
          exact
            inductionHypothesis
              (allValues_addCell untouched ⟨rfl, rfl, rfl⟩) added

/-- Either orchestrator plans its cells untouched. -/
theorem IsOrchestrator.untouched
    {planner : Option (ResearchState → Option TaskGrid)}
    (orchestrates : IsOrchestrator planner)
    {plan : ResearchState → Option TaskGrid}
    (isPlan : planner = some plan)
    {rs : ResearchState}
    {grid : TaskGrid}
    (untouched : CellsUntouched rs)
    (planned : plan rs = some grid) :
    grid.cells.AllValues Untouched := by
  cases orchestrates with
  | absent =>
      cases isPlan
  | mock =>
      cases isPlan
      exact mockPlan_untouched untouched planned
  | real answer =>
      cases isPlan
      obtain ⟨proposals, _, added⟩ := Option.bind_eq_some_iff.mp planned
      obtain ⟨cells, isCells, rfl⟩ := Option.map_eq_some_iff.mp added
      exact addProposals_untouched untouched isCells

theorem idleLine_of_none
    {cells : List TaskCell}
    (blocked : cells.filter isBlockedCell = [])
    (stalled : cells.filter isStalledCell = []) :
    idleLine cells = "研究現況：無新進展" := by
  unfold idleLine
  rw [blocked, stalled]
  simp only [↓reduceIte, List.append_nil]
  rw [String.append_empty]

/-- The card about untouched cells has nothing to tell. -/
theorem renderResearchStatus_untouched
    (columns : Columns)
    {grid : Option TaskGrid}
    (untouched :
      ∀ planned ∈ grid, planned.cells.AllValues Untouched) :
    renderResearchStatus columns grid 0 [] = ("", 0) ∨
      renderResearchStatus columns grid 0 [] = ("研究現況：無新進展", 0) := by
  cases grid with
  | none =>
      exact Or.inl rfl
  | some grid =>
      have cells := untouched grid rfl
      by_cases noCells : grid.cells.values = []
      · left
        simp only [renderResearchStatus, noCells, if_true]
      · right
        have filled : (coverage grid.cells.values).1 = 0 := by
          refine List.sum_eq_zero fun count member => ?_
          obtain ⟨cell, isCell, rfl⟩ := List.mem_map.mp member
          exact (cells cell isCell).2.1
        have blocked : grid.cells.values.filter isBlockedCell = [] := by
          refine List.filter_eq_nil_iff.mpr fun cell isCell => ?_
          simp [isBlockedCell, (cells cell isCell).1]
        have stalled : grid.cells.values.filter isStalledCell = [] := by
          refine List.filter_eq_nil_iff.mpr fun cell isCell => ?_
          simp [isStalledCell, stallThreshold, (cells cell isCell).2.2]
        simp only [renderResearchStatus, noCells, filled,
          idleLine_of_none blocked stalled, if_false, and_self, if_true]

section Runs

variable [PythonText]

/-- Evidence that names no cell moves no cell. -/
theorem gridMoved_of_namesApart
    {evidence : List EvidenceBundle}
    {rs : ResearchState}
    (namesNone : ∀ bundle ∈ evidence, NamesNoCell bundle)
    (named : CellsNamed (Orchestrator.plannedCells rs)) :
    gridMoved evidence rs.taskGrid = [] := by
  unfold gridMoved
  split
  · rfl
  · rename_i grid isGrid
    rw [Orchestrator.plannedCells, isGrid] at named
    have cellsNamed :
        grid.cells.AllValues fun cell => IsCellName cell.id :=
      OrderedMap.allValues_iff_get?.mpr named
    rw [List.map_eq_nil_iff]
    refine List.filter_eq_nil_iff.mpr fun cell isCell moved => ?_
    obtain ⟨some, _⟩ := of_decide_eq_true moved
    refine some (List.filter_eq_nil_iff.mpr fun bundle member isAbout => ?_)
    exact
      namesNone bundle member cell.id (of_decide_eq_true isAbout)
        (cellsNamed cell isCell)

/-- No node touches a planned cell, and what is planned is untouched. -/
theorem runNode_untouched
    {env : StepEnv}
    {state : GraphState}
    {world after : World}
    {node : Node}
    {update : Update}
    (apart : NamesApart state)
    (untouched : CellsUntouched state.researchState)
    (bundled : Bundled env.brains)
    (ran : runNode env state world node = .update update after) :
    CellsUntouched update.researchState := by
  have selects := (runNode_updates ran).selects
  by_cases plans : node = .orchestratorPlan
  · subst plans
    obtain ⟨rs, expanded, planned⟩ :=
      Option.bind_eq_some_iff.mp (NodeResult.ofOption_eq_update ran).2
    have before : CellsUntouched rs := by
      rw [CellsUntouched, Orchestrator.plannedCells,
        (KeepsSelection.relatesAdded.expandIssues expanded).grid]
      exact untouched
    split at planned
    · cases planned
      exact before
    · rename_i plan isPlan
      obtain ⟨grid, isGrid, rfl⟩ := Option.map_eq_some_iff.mp planned
      exact bundled.orchestrates.untouched isPlan before isGrid
  by_cases collects : node = .collect
  · subst collects
    have kept := (runNode_keepsApart apart bundled ran).cells
    refine OrderedMap.allValues_iff_get?.mpr fun key cell found => ?_
    have written := runNode_updates ran
    cases written with
    | collected processed world folds =>
        rw [plannedCells_classifyGridCells, OrderedMap.get?_mapValues]
          at found
        obtain ⟨old, isOld, _⟩ := Option.map_eq_some_iff.mp found
        have stays := kept key old isOld
        rw [plannedCells_classifyGridCells, OrderedMap.get?_mapValues,
          found] at stays
        cases stays
        exact OrderedMap.allValues_iff_get?.mp untouched key cell isOld
  rw [CellsUntouched, Orchestrator.plannedCells, selects.grid plans collects]
  exact untouched

/-- A step of a run with either bundle touches no cell. -/
theorem step_untouched
    {execution next : Execution}
    {env : StepEnv}
    (apart : NamesApart execution.graph)
    (untouched : CellsUntouched execution.graph.researchState)
    (bundled : Bundled env.brains)
    (stepped : step execution env = some next) :
    CellsUntouched next.graph.researchState := by
  obtain
    ⟨node, seen, visits,
      same | ⟨update, world, after, reason, ran, moved⟩⟩ :=
        step_writes stepped
  · rw [same]
    exact untouched
  · have seenBundled : Bundled seen.brains := by
      rw [visits.seen_eq]
      exact bundled
    rw [moved]
    exact runNode_untouched apart untouched seenBundled ran

/-- In every reachable state all planned cells are untouched. -/
theorem Reachable.cellsUntouched
    {execution : Execution}
    (reachable : Reachable execution) :
    CellsUntouched execution.graph.researchState := by
  induction reachable with
  | begun begins =>
      rw [CellsUntouched, Orchestrator.plannedCells, begins.noGrid]
      exact OrderedMap.allValues_empty _
  | stepped reachable bundled isStep inductionHypothesis =>
      exact
        step_untouched reachable.namesApart inductionHypothesis bundled isStep
  | entered mode steeringEvents config world _ _ saved _ =>
      exact saved

/-- A run whose cards have had nothing to tell so far. -/
structure NothingMoved (run : StatusRun) : Prop where
  reachable : Reachable run.execution
  noCoverage : run.prevCoverage = 0
  idle : ∀ card ∈ run.cards, card = "" ∨ card = "研究現況：無新進展"

theorem statusStep_nothingMoved
    {columns : Columns}
    {run next : StatusRun}
    {env : StepEnv}
    (before : NothingMoved run)
    (bundled : Bundled env.brains)
    (stepped : statusStep columns run env = some next) :
    NothingMoved next := by
  obtain ⟨after, isStep, isNext⟩ := Option.map_eq_some_iff.mp stepped
  have reachable : Reachable after :=
    .stepped before.reachable bundled isStep
  split at isNext
  · have still :
        gridMoved after.graph.researchState.evidence
            run.execution.graph.researchState.taskGrid = [] :=
      gridMoved_of_namesApart reachable.namesApart.evidence
        before.reachable.namesApart.cells
    have untouched :
        ∀ planned ∈ after.graph.researchState.taskGrid,
          planned.cells.AllValues Untouched := by
      intro planned isGrid
      have cells := reachable.cellsUntouched
      rw [CellsUntouched, Orchestrator.plannedCells, isGrid] at cells
      exact cells
    rw [still, before.noCoverage] at isNext
    rcases renderResearchStatus_untouched columns untouched with
      nothing | idle
    · rw [nothing] at isNext
      subst isNext
      exact
        ⟨reachable, rfl,
          List.forall_mem_append.mpr
            ⟨before.idle, List.forall_mem_singleton.mpr (Or.inl rfl)⟩⟩
    · rw [idle] at isNext
      subst isNext
      exact
        ⟨reachable, rfl,
          List.forall_mem_append.mpr
            ⟨before.idle, List.forall_mem_singleton.mpr (Or.inr rfl)⟩⟩
  · subst isNext
    exact ⟨reachable, before.noCoverage, before.idle⟩

/--
With either bundle of brains no cell of the grid is ever classified.  Whatever
is researched, and however often a run is entered again, every status card is
empty or says that nothing has moved, and the coverage stays at nothing.
-/
theorem status_cards_idle
    {columns : Columns}
    {execution : Execution}
    (reachable : Reachable execution)
    {envs : List StepEnv}
    (bundled : ∀ env ∈ envs, Bundled env.brains)
    {final : StatusRun}
    (ran : exec (statusStep columns) { execution } envs = some final) :
    (∀ card ∈ final.cards, card = "" ∨ card = "研究現況：無新進展") ∧
      final.prevCoverage = 0 ∧
      ∀ cell ∈
          (Orchestrator.plannedCells
            final.execution.graph.researchState).values,
        cell.status = .open ∧ cell.lastFilled = 0 := by
  have met :
      AllSteps (statusStep columns) (fun _ env => Bundled env.brains)
        { execution } envs :=
    allSteps_of_labels bundled _
  have nothing :=
    AllSteps.invariant (motive := NothingMoved) statusStep_nothingMoved
      ⟨reachable, rfl, fun _ member => absurd member List.not_mem_nil⟩ met
      ran
  refine ⟨nothing.idle, nothing.noCoverage, fun cell member => ?_⟩
  have untouched := nothing.reachable.cellsUntouched cell member
  exact ⟨untouched.1, untouched.2.1⟩

end Runs

/-- A question with an assumed brief. -/
private def plannedQuestion : Execution where
  graph :=
    { researchState := { runId := "run", originalQuestion := "question" }
      config := { assumeBrief := true } }
  control := .at .intake
  world := {}

/-- The stubs, with one issue that they research in every pass. -/
private def plannedStubs [PythonText] : StepEnv :=
  .calm
    (MockBrains.brains
      { others :=
          { Brains.silent with
            issueExpander := fun _ =>
              some
                [{ title := "intent"
                   description := "intent"
                   issueType := .intent
                   impact := 3
                   confidence := 1 }] }
        disk := fun _ => .notASurvey
        source := .web
        internal := fun _ => none })

/-- The first pass researches the issue, and its card tells nothing. -/
theorem status_cards_idle_firstPass :
    letI := PythonText.ascii
    ∃ final,
      exec (statusStep fun _ _ => none) { execution := plannedQuestion }
          (List.replicate 11 plannedStubs) =
        some final ∧
      final.cards.length = 1 ∧
      final.execution.graph.researchState.evidence.length = 1 ∧
      (∀ card ∈ final.cards, card = "" ∨ card = "研究現況：無新進展") ∧
      final.prevCoverage = 0 := by
  let _ := PythonText.ascii
  have seen :
      (exec (statusStep fun _ _ => none) { execution := plannedQuestion }
          (List.replicate 11 plannedStubs)).map
        (fun final =>
          (final.cards.length,
            final.execution.graph.researchState.evidence.length)) =
        some (1, 1) := by
    decide +kernel
  obtain ⟨final, ran, isFinal⟩ := Option.map_eq_some_iff.mp seen
  have reachable : Reachable plannedQuestion :=
    .begun ⟨rfl, rfl, rfl, rfl, rfl⟩
  have bundled :
      ∀ env ∈ List.replicate 11 plannedStubs, Bundled env.brains := by
    intro env member
    rw [List.eq_of_mem_replicate member]
    exact .mock _
  obtain ⟨idle, noCoverage, -⟩ := status_cards_idle reachable bundled ran
  exact
    ⟨final, ran, congrArg Prod.fst isFinal, congrArg Prod.snd isFinal, idle,
      noCoverage⟩

end ResearchCos
