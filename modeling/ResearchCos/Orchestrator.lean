import ResearchCos.NodeRecords

namespace ResearchCos

open Foundation

/-!
# The orchestrators

Both orchestrators extend the grid that is there: a cell whose name is taken is
left alone, and a new one is appended under its own name.
-/

namespace Orchestrator

/-- Whether a challenge is a gap that the plan has to fill. -/
def isGap : ChallengeStatus → Bool
  | .open
  | .needsInternalData
  | .needsBuJudgment => true
  | _ => false

/-- The challenges that are gaps, then the gaps of all bundles. -/
def gaps (rs : ResearchState) : List String :=
  ((rs.albertChallengeMap.values.filter fun known => isGap known.status).map
      AlbertChallenge.challenge) ++
    rs.evidence.flatMap EvidenceBundle.coverageGaps

/-- The cells that are planned so far. -/
def plannedCells (rs : ResearchState) : OrderedMap String TaskCell :=
  match rs.taskGrid with
  | none => ∅
  | some grid => grid.cells

/-- Add a cell under its name, unless the name is taken. -/
def addCell
    (cells : OrderedMap String TaskCell)
    (cell : TaskCell) : OrderedMap String TaskCell :=
  if cells.contains cell.id then cells else cells.insert cell.id cell

/-- Cells are only appended, each under its own name. -/
def Appends (before after : OrderedMap String TaskCell) : Prop :=
  ∃ added : List TaskCell,
    after.entries =
      before.entries ++ added.map fun cell => (cell.id, cell)

theorem Appends.refl
    (cells : OrderedMap String TaskCell) :
    Appends cells cells :=
  ⟨[], (List.append_nil _).symm⟩

theorem Appends.trans
    {first second third : OrderedMap String TaskCell}
    (earlier : Appends first second)
    (later : Appends second third) :
    Appends first third := by
  obtain ⟨addedEarlier, shapeEarlier⟩ := earlier
  obtain ⟨addedLater, shapeLater⟩ := later
  refine ⟨addedEarlier ++ addedLater, ?_⟩
  rw [shapeLater, shapeEarlier, List.map_append, List.append_assoc]

theorem appends_addCell
    (cells : OrderedMap String TaskCell)
    (cell : TaskCell) :
    Appends cells (addCell cells cell) := by
  simp only [addCell]
  split
  · exact .refl cells
  · rename_i missing
    have absent : cells.get? cell.id = none := by
      simpa [OrderedMap.contains] using missing
    exact ⟨[cell], OrderedMap.entries_insert_of_absent absent cell⟩

end Orchestrator

open Orchestrator

/-! ## The orchestrator without a model -/

namespace MockOrchestrator

def seedCell (rs : ResearchState) : TaskCell where
  id := "seed|core"
  vendor := "seed"
  specGroup := "core"
  objective := orDefault rs.successForm rs.originalQuestion
  successCriteria := ["spec"]
  status := .open
  impact := 5

def gapCell (index : Nat) (gap : String) : TaskCell where
  id := "gap|" ++ toString index
  vendor := "gap"
  specGroup := "g" ++ toString index
  objective := gap
  status := .open
  impact := 4

/-- A cell to begin with, and one for every gap. -/
def plan (rs : ResearchState) : Option TaskGrid :=
  let cells := plannedCells rs
  let seeded :=
    if cells.entries = [] then
      cells.insert (seedCell rs).id (seedCell rs)
    else
      cells
  some
    { cells :=
        (gaps rs).zipIdx.foldl
          (fun cells gap => addCell cells (gapCell gap.2 gap.1)) seeded }

end MockOrchestrator

/-! ## The orchestrator with a model -/

/-- A cell as the model proposes it. -/
structure ProposedCell where
  vendor : String
  specGroup : String
  objective : String
  impact : Option Int
  successCriteria : Option (List String)
  deriving Repr, DecidableEq

/-- The cell of a proposal, with its defaults. -/
def ProposedCell.cell (proposed : ProposedCell) : TaskCell where
  id := proposed.vendor ++ "|" ++ proposed.specGroup
  vendor := proposed.vendor
  specGroup := proposed.specGroup
  objective := proposed.objective
  successCriteria := proposed.successCriteria.getD []
  status := .open
  impact := proposed.impact.getD 3

namespace RealOrchestrator

/-- Add the proposals one by one; `none` is one that raises. -/
def addProposals :
    List (Option ProposedCell) → OrderedMap String TaskCell →
      Option (OrderedMap String TaskCell)
  | [], cells => some cells
  | none :: _, _ => none
  | some proposed :: rest, cells =>
      addProposals rest (addCell cells proposed.cell)

/-- Add what the model proposes; its answer is `none` when the call raises. -/
def plan
    (answer : ResearchState → Option (List (Option ProposedCell)))
    (rs : ResearchState) : Option TaskGrid :=
  (answer rs).bind fun proposals =>
    (addProposals proposals (plannedCells rs)).map TaskGrid.mk

end RealOrchestrator

/-- The planner of the brains is one of the two, if there is one. -/
inductive IsOrchestrator :
    Option (ResearchState → Option TaskGrid) → Prop where
  | absent : IsOrchestrator none
  | mock : IsOrchestrator (some MockOrchestrator.plan)
  | real (answer : ResearchState → Option (List (Option ProposedCell))) :
      IsOrchestrator (some (RealOrchestrator.plan answer))

/-! ## Plans only grow -/

theorem mockPlan_appends
    {rs : ResearchState}
    {grid : TaskGrid}
    (planned : MockOrchestrator.plan rs = some grid) :
    Appends (plannedCells rs) grid.cells := by
  cases planned
  have seeds :
      Appends (plannedCells rs)
        (if (plannedCells rs).entries = [] then
          (plannedCells rs).insert (MockOrchestrator.seedCell rs).id
            (MockOrchestrator.seedCell rs)
        else
          plannedCells rs) := by
    split
    · rename_i empty
      have absent :
          (plannedCells rs).get? (MockOrchestrator.seedCell rs).id = none := by
        rw [OrderedMap.get?, empty]
        rfl
      exact ⟨[_], OrderedMap.entries_insert_of_absent absent _⟩
    · exact .refl _
  refine seeds.trans ?_
  generalize (if (plannedCells rs).entries = [] then _ else _) = cells
  induction (gaps rs).zipIdx generalizing cells with
  | nil =>
      exact .refl _
  | cons gap rest inductionHypothesis =>
      exact (appends_addCell _ _).trans (inductionHypothesis _)

theorem addProposals_appends
    {proposals : List (Option ProposedCell)}
    {cells after : OrderedMap String TaskCell}
    (added : RealOrchestrator.addProposals proposals cells = some after) :
    Appends cells after := by
  induction proposals generalizing cells with
  | nil =>
      cases added
      exact .refl _
  | cons proposal rest inductionHypothesis =>
      cases proposal with
      | none =>
          cases added
      | some proposed =>
          exact (appends_addCell _ _).trans (inductionHypothesis added)

/-- Whichever orchestrator plans, the cells that are there stay in place. -/
theorem IsOrchestrator.appends
    {planner : Option (ResearchState → Option TaskGrid)}
    (orchestrates : IsOrchestrator planner)
    {plan : ResearchState → Option TaskGrid}
    (isPlan : planner = some plan)
    {rs : ResearchState}
    {grid : TaskGrid}
    (planned : plan rs = some grid) :
    Appends (plannedCells rs) grid.cells := by
  cases orchestrates with
  | absent =>
      cases isPlan
  | mock =>
      cases isPlan
      exact mockPlan_appends planned
  | real answer =>
      cases isPlan
      obtain ⟨proposals, _, added⟩ := Option.bind_eq_some_iff.mp planned
      obtain ⟨cells, isCells, rfl⟩ := Option.map_eq_some_iff.mp added
      exact addProposals_appends isCells

end ResearchCos
