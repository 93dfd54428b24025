import ResearchCos.Text
import ResearchCos.Models

namespace ResearchCos

open Foundation

/-!
# Task-grid cells

Deterministic status of a grid cell from the observations of its bundles: junk
sources do not fill a field, sources of one field are triangulated, and the
filled fields decide the status.
-/

namespace CellGates

inductive Grade where
  | correct
  | ambiguous
  | incorrect
  deriving Repr, DecidableEq

/-- Grade of a source from its metadata. -/
def gradeSource (source : Source) : Grade :=
  if source.sourceType = .primary ∨ source.sourceType = .standard ∨
      source.quality = .high then
    .correct
  else if source.quality = .low ∨ source.sourceType = .marketing then
    .incorrect
  else
    .ambiguous

/-! ## Triangulation -/

inductive TriStatus where
  | corroborated
  | weaklySourced
  | none_
  deriving Repr, DecidableEq

structure TriResult where
  value : Option String
  status : TriStatus
  contradiction : Bool
  /-- The identifiers of the sources behind every normalized value. -/
  allValues : OrderedMap (List Char) (List String)
  deriving DecidableEq

def qualityRank : SourceQuality → Nat
  | .high => 3
  | .medium => 2
  | .low => 1
  | .unknown => 0

def isPrimary (source : Source) : Bool :=
  decide (source.sourceType = .primary ∨ source.sourceType = .standard)

/-- The observations of one value: their last spelling and their sources. -/
structure ValueGroup where
  raw : String
  sources : List Source
  deriving Repr, DecidableEq

/-- Primary backing, then the number of sources, then the best quality. -/
def groupKey (group : ValueGroup) : Nat × Nat × Nat :=
  ((group.sources.any isPrimary).toNat, group.sources.length,
    (group.sources.map fun source => qualityRank source.quality).foldl max 0)

/-- Strict lexicographic order of group keys. -/
def keyLess (first second : Nat × Nat × Nat) : Bool :=
  decide
    (first.1 < second.1 ∨
      first.1 = second.1 ∧
        (first.2.1 < second.2.1 ∨
          first.2.1 = second.2.1 ∧ first.2.2 < second.2.2))

/-- The first group with the greatest key. -/
def winningGroup : List ValueGroup → Option ValueGroup
  | [] => none
  | group :: rest =>
      some
        (rest.foldl
          (fun best next =>
            if keyLess (groupKey best) (groupKey next) then next else best)
          group)

section Casing

variable [PythonText]

/-- Stripped, lower-cased text with single spaces. -/
def norm (value : String) : List Char :=
  squeeze (normalizedQuote value)

/-- Group the observations by their normalized value. -/
def groupObservations
    (observations : List (String × Source)) :
    OrderedMap (List Char) ValueGroup :=
  observations.foldl
    (fun groups (value, source) =>
      let known := (groups.get? (norm value)).elim [] ValueGroup.sources
      groups.insert (norm value)
        { raw := value, sources := known ++ [source] })
    ∅

/-- One value for a field from all its observations. -/
def triangulate (observations : List (String × Source)) : TriResult :=
  let groups := groupObservations observations
  match winningGroup groups.values with
  | none =>
      { value := none
        status := .none_
        contradiction := false
        allValues := ∅ }
  | some winner =>
      { value := some winner.raw
        status :=
          if winner.sources.any isPrimary ∨ 2 ≤ winner.sources.length then
            .corroborated
          else
            .weaklySourced
        contradiction := decide (1 < groups.size)
        allValues :=
          groups.mapValues fun group => group.sources.map Source.id }

/-! ## Synthesis and classification -/

/-- The accepted observations of every field of a cell, by field. -/
def acceptedObservations
    (cell : TaskCell)
    (bundles : List EvidenceBundle) :
    OrderedMap String (List (String × Source)) :=
  let sourceById :=
    (bundles.flatMap EvidenceBundle.sources).foldl
      (fun known source => known.insert source.id source)
      (∅ : OrderedMap String Source)
  (bundles.flatMap EvidenceBundle.observations).foldl
    (fun perField observation =>
      if observation.field ∈ cell.successCriteria then
        match sourceById.get? observation.sourceRef with
        | none => perField
        | some source =>
            if gradeSource source = .incorrect then
              perField
            else
              perField.insert observation.field
                ((perField.get? observation.field).getD [] ++
                  [(observation.value, source)])
      else
        perField)
    ∅

/-- The fields of a cell that have an accepted value. -/
def filledFields
    (cell : TaskCell)
    (bundles : List EvidenceBundle) : List String :=
  ((acceptedObservations cell bundles).entries.filter fun (_, accepted) =>
    decide ((triangulate accepted).status ≠ .none_)).map Prod.fst

/-- Every criterion of the cell is filled. -/
def criteriaSubset (cell : TaskCell) (filled : List String) : Bool :=
  cell.successCriteria.all fun criterion => criterion ∈ filled

/-- Status of a cell from its filled fields and the exhaustion signals. -/
def classifyCell
    (cell : TaskCell)
    (filled : List String)
    (gatedDetected publicExhausted : Bool) : CellStatus :=
  if cell.successCriteria ≠ [] ∧ criteriaSubset cell filled then
    .covered
  else if gatedDetected ∧ ¬criteriaSubset cell filled then
    .blocked
  else if filled ≠ [] then
    .partiallyCovered
  else if publicExhausted then
    .na
  else
    .open

/-- Marks of a source behind a login, a registration or an agreement. -/
def gatedMarkers : List (List Char) :=
  ["login".toList, "log in".toList, "sign in".toList, "sign-in".toList,
    "register".toList, "myicp".toList, "request access".toList,
    "restricted".toList, "nda".toList, "401".toList, "403".toList]

/-- Lower-cased text with underscores folded to single spaces. -/
def normText (text : List Char) : List Char :=
  squeeze
    ((PythonText.lower text).map fun c => if c = '_' then ' ' else c)

/-- Whether a source looks gated. -/
def gatedSignal (source : Source) : Bool :=
  let blob :=
    normText
      ((source.url.getD "").toList ++ ' ' :: source.excerpt.toList)
  gatedMarkers.any fun marker => occursIn marker blob

/-- Status of a cell and its change counters after one more classification. -/
def reclassify (evidence : List EvidenceBundle) (cell : TaskCell) : TaskCell :=
  let bundles :=
    evidence.filter fun bundle => bundle.issueId = some cell.id
  if bundles = [] then
    cell
  else
    let filled := filledFields cell bundles
    let gated :=
      bundles.any fun bundle => bundle.sources.any gatedSignal
    let exhausted := bundles.any EvidenceBundle.publicExhausted
    let newStatus := classifyCell cell filled gated exhausted
    let changed :=
      decide
        (some newStatus ≠ cell.lastStatus ∨ filled.length ≠ cell.lastFilled)
    { cell with
      status := newStatus
      stalledCycles := if changed then 0 else cell.stalledCycles + 1
      lastStatus := some newStatus
      lastFilled := filled.length }

/-- Classify every cell of the grid that has evidence. -/
def classifyGridCells (state : ResearchState) : ResearchState :=
  { state with
    taskGrid :=
      state.taskGrid.map fun grid =>
        { grid with
          cells := grid.cells.mapValues (reclassify state.evidence) } }

end Casing

end CellGates

end ResearchCos
