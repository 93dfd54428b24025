import ResearchCos.CellSynthesis
import ResearchCos.MintedIds

namespace ResearchCos

open Foundation
open CellGates

/-!
# Which sources count as gated

A source counts as gated when the letters of a marker occur anywhere in its URL
and excerpt.  They may be a part of a longer word or number, or run from the
end of the URL into the excerpt, so a cell can be blocked although no source of
it shows a marker.
-/

/-! ## Markers as whole words -/

/-- The letters that words are written with, accented ones included. -/
def isWordLetter (c : Char) : Bool :=
  c.isAlpha || (decide (0xC0 ≤ c.toNat) && decide (c.toNat ≤ 0x24F))

/-- Whether two neighbours belong to one word or to one number. -/
def sameRun (left right : Char) : Bool :=
  (isWordLetter left && isWordLetter right) ||
    (left.isDigit && right.isDigit)

/-- Whether a word or number ends between two places of a text. -/
def apart (left right : Option Char) : Bool :=
  !left.any fun before => right.any (sameRun before)

/-- A marker that is no part of a longer word or number. -/
def WholeWordIn (marker text : List Char) : Prop :=
  ∃ before after,
    text = before ++ marker ++ after ∧
      apart before.getLast? marker.head? = true ∧
      apart marker.getLast? after.head? = true

/-- Whether a marker stands as a whole word at the start of a text. -/
def standsHere
    (marker : List Char)
    (previous : Option Char)
    (text : List Char) : Bool :=
  marker.isPrefixOf text && apart previous marker.head? &&
    apart marker.getLast? (text.drop marker.length).head?

/-- Whether a marker stands as a whole word at some place of a text. -/
def standsIn (marker : List Char) : Option Char → List Char → Bool
  | previous, [] => standsHere marker previous []
  | previous, c :: rest =>
      standsHere marker previous (c :: rest) || standsIn marker (some c) rest

theorem standsHere_iff
    {marker text : List Char}
    {previous : Option Char} :
    standsHere marker previous text = true ↔
      ∃ after,
        text = marker ++ after ∧
          apart previous marker.head? = true ∧
          apart marker.getLast? after.head? = true := by
  simp only [standsHere, Bool.and_eq_true, List.isPrefixOf_iff_prefix]
  constructor
  · rintro ⟨⟨⟨after, rfl⟩, beforeApart⟩, afterApart⟩
    rw [List.drop_left] at afterApart
    exact ⟨after, rfl, beforeApart, afterApart⟩
  · rintro ⟨after, rfl, beforeApart, afterApart⟩
    rw [List.drop_left]
    exact ⟨⟨List.prefix_append _ _, beforeApart⟩, afterApart⟩

/-- The character before a place, when the text before it grows at its head. -/
theorem getLast?_cons_or
    (head : Char)
    (earlier : List Char)
    (previous : Option Char) :
    (head :: earlier).getLast?.or previous =
      earlier.getLast?.or (some head) := by
  rw [List.getLast?_cons]
  cases earlier.getLast? with
  | none => rfl
  | some final => rfl

theorem standsIn_iff
    {marker text : List Char}
    {previous : Option Char} :
    standsIn marker previous text = true ↔
      ∃ before after,
        text = before ++ marker ++ after ∧
          apart (before.getLast?.or previous) marker.head? = true ∧
          apart marker.getLast? after.head? = true := by
  induction text generalizing previous with
  | nil =>
      rw [standsIn, standsHere_iff]
      constructor
      · rintro ⟨after, shape, beforeApart, afterApart⟩
        exact ⟨[], after, shape, beforeApart, afterApart⟩
      · rintro ⟨before, after, shape, beforeApart, afterApart⟩
        have nothing : before = [] := by
          simp only [List.append_assoc, List.nil_eq, List.append_eq_nil_iff]
            at shape
          exact shape.1
        subst nothing
        exact ⟨after, shape, beforeApart, afterApart⟩
  | cons c rest inductionHypothesis =>
      rw [standsIn, Bool.or_eq_true, standsHere_iff, inductionHypothesis]
      constructor
      · rintro (⟨after, shape, beforeApart, afterApart⟩ |
          ⟨before, after, rfl, beforeApart, afterApart⟩)
        · exact ⟨[], after, shape, beforeApart, afterApart⟩
        · refine ⟨c :: before, after, rfl, ?_, afterApart⟩
          rw [getLast?_cons_or]
          exact beforeApart
      · rintro ⟨before, after, shape, beforeApart, afterApart⟩
        cases before with
        | nil =>
            exact Or.inl ⟨after, shape, beforeApart, afterApart⟩
        | cons head later =>
            rw [List.append_assoc, List.cons_append, List.cons.injEq,
              ← List.append_assoc] at shape
            obtain ⟨rfl, rfl⟩ := shape
            refine Or.inr ⟨later, after, rfl, ?_, afterApart⟩
            rw [getLast?_cons_or] at beforeApart
            exact beforeApart

instance (marker text : List Char) : Decidable (WholeWordIn marker text) :=
  decidable_of_iff (standsIn marker none text = true) (by
    simp only [standsIn_iff, Option.or_none, WholeWordIn])

/-! ## Blocked cells and their tasks -/

section Gates

variable [PythonText]

/-- A source whose URL or excerpt has a marker as a whole word. -/
def ShowsMarker (source : Source) : Prop :=
  ∃ marker ∈ gatedMarkers,
    WholeWordIn marker (normText (source.url.getD "").toList) ∨
      WholeWordIn marker (normText source.excerpt.toList)

instance (source : Source) : Decidable (ShowsMarker source) :=
  inferInstanceAs (Decidable (∃ marker ∈ gatedMarkers, _))

/-- Some source of a cell shows a marker. -/
def MarkerShown (evidence : List EvidenceBundle) (cell : TaskCell) : Prop :=
  ∃ bundle ∈ bundlesOf evidence cell, ∃ source ∈ bundle.sources,
    ShowsMarker source

instance (evidence : List EvidenceBundle) (cell : TaskCell) :
    Decidable (MarkerShown evidence cell) :=
  inferInstanceAs (Decidable (∃ bundle ∈ bundlesOf evidence cell, _))

/-- What classification and minting do is backed by a marker that is shown. -/
structure GatesGenuine (rs : ResearchState) : Prop where
  blocked :
    ∀ grid ∈ (classifyGridCells rs).taskGrid,
      ∀ cell ∈ grid.cells.values,
        bundlesOf rs.evidence cell ≠ [] →
        cell.status = .blocked →
        MarkerShown rs.evidence cell
  minted :
    ∀ grid ∈ (classifyGridCells rs).taskGrid,
      ∀ cell ∈ grid.cells.values,
        bundlesOf rs.evidence cell ≠ [] →
        rs.humanTasks.contains (blockedCellTask cell).id = false →
        (mintBlockedCellTasks (classifyGridCells rs)).humanTasks.contains
            (blockedCellTask cell).id = true →
        MarkerShown rs.evidence cell

/--
Every cell with evidence has all its criteria filled, or has a source that
shows a marker, or has no source with the letters of a marker.
-/
def NoFalseGate (rs : ResearchState) : Prop :=
  ∀ grid ∈ rs.taskGrid, ∀ cell ∈ grid.cells.values,
    bundlesOf rs.evidence cell ≠ [] →
    criteriaSubset cell
        (filledFields cell (bundlesOf rs.evidence cell)) = true ∨
      MarkerShown rs.evidence cell ∨
      ∀ bundle ∈ bundlesOf rs.evidence cell, ∀ source ∈ bundle.sources,
        gatedSignal source = false

omit [PythonText] in
/-- A cell is blocked when a source looks gated and a criterion is missing. -/
theorem classifyCell_eq_blocked_iff
    {cell : TaskCell}
    {filled : List String}
    {gatedDetected publicExhausted : Bool} :
    classifyCell cell filled gatedDetected publicExhausted = .blocked ↔
      gatedDetected = true ∧ criteriaSubset cell filled = false := by
  unfold classifyCell
  cases criteriaSubset cell filled <;> cases gatedDetected <;>
    by_cases any : filled = [] <;>
    by_cases criteria : cell.successCriteria = [] <;>
    cases publicExhausted <;>
    simp [any, criteria]

/-- Reclassification keeps what decides which bundles a cell has. -/
theorem bundlesOf_reclassify
    (evidence : List EvidenceBundle)
    (cell : TaskCell) :
    bundlesOf evidence (reclassify evidence cell) =
      bundlesOf evidence cell := by
  have sameId : (reclassify evidence cell).id = cell.id := by
    unfold reclassify
    by_cases nothing :
      (evidence.filter fun bundle => bundle.issueId = some cell.id) = []
    · rw [if_pos nothing]
    · rw [if_neg nothing]
  rw [bundlesOf, sameId, bundlesOf]

omit [PythonText] in
/-- A new task under a cell's identifier was minted for a blocked cell. -/
theorem mintCells_origin
    {tasks : OrderedMap String HumanTask}
    {cells : List TaskCell}
    {taskId : String}
    (missing : tasks.contains taskId = false)
    (minted : (cells.foldl mintCell tasks).contains taskId = true) :
    ∃ cell ∈ cells, cell.status = .blocked ∧
      (blockedCellTask cell).id = taskId := by
  induction cells generalizing tasks with
  | nil =>
      rw [List.foldl_nil, missing] at minted
      cases minted
  | cons head rest inductionHypothesis =>
      by_cases here :
        head.status = .blocked ∧ (blockedCellTask head).id = taskId
      · exact ⟨head, List.mem_cons_self, here⟩
      · have stillMissing : (mintCell tasks head).contains taskId = false := by
          by_cases mints :
            head.status = .blocked ∧
              tasks.contains (blockedCellTask head).id = false
          · have other : (blockedCellTask head).id ≠ taskId :=
              fun same => here ⟨mints.1, same⟩
            have inserts :
                mintCell tasks head =
                  tasks.insert (blockedCellTask head).id
                    (blockedCellTask head) :=
              if_pos mints
            rw [inserts, OrderedMap.contains, OrderedMap.get?_insert,
              if_neg other]
            exact missing
          · have keeps : mintCell tasks head = tasks := if_neg mints
            rw [keeps]
            exact missing
        obtain ⟨cell, member, origin⟩ :=
          inductionHypothesis stillMissing minted
        exact ⟨cell, List.mem_cons_of_mem _ member, origin⟩

omit [PythonText] in
theorem humanTasks_mintBlockedCellTasks
    {rs : ResearchState}
    {grid : TaskGrid}
    (isGrid : rs.taskGrid = some grid) :
    (mintBlockedCellTasks rs).humanTasks =
      grid.cells.values.foldl mintCell rs.humanTasks := by
  rw [mintBlockedCellTasks, isGrid]
  rfl

/-- The cells after classification are the cells before it, reclassified. -/
theorem mem_classified_iff
    {rs : ResearchState}
    {cell : TaskCell} :
    (∃ grid ∈ (classifyGridCells rs).taskGrid, cell ∈ grid.cells.values) ↔
      ∃ grid ∈ rs.taskGrid, ∃ before ∈ grid.cells.values,
        reclassify rs.evidence before = cell := by
  cases isGrid : rs.taskGrid with
  | none =>
      simp [classifyGridCells, isGrid]
  | some grid =>
      simp [classifyGridCells, isGrid, OrderedMap.values_mapValues]

/-- Which cells with evidence are blocked by classification. -/
theorem status_reclassify_eq_blocked_iff
    {evidence : List EvidenceBundle}
    {cell : TaskCell}
    (hasEvidence : bundlesOf evidence cell ≠ []) :
    (reclassify evidence cell).status = .blocked ↔
      (∃ bundle ∈ bundlesOf evidence cell, ∃ source ∈ bundle.sources,
          gatedSignal source = true) ∧
        criteriaSubset cell
          (filledFields cell (bundlesOf evidence cell)) = false := by
  rw [status_reclassify, if_neg hasEvidence, cellStatus,
    classifyCell_eq_blocked_iff]
  simp only [List.any_eq_true]

theorem markerShown_reclassify
    (evidence : List EvidenceBundle)
    (cell : TaskCell) :
    MarkerShown evidence (reclassify evidence cell) ↔
      MarkerShown evidence cell := by
  rw [MarkerShown, bundlesOf_reclassify, MarkerShown]

/-- Blocked cells that show a marker mint the only tasks. -/
theorem minted_of_blocked
    {rs : ResearchState}
    (blocked :
      ∀ grid ∈ (classifyGridCells rs).taskGrid,
        ∀ cell ∈ grid.cells.values,
          bundlesOf rs.evidence cell ≠ [] →
          cell.status = .blocked →
          MarkerShown rs.evidence cell)
    {grid : TaskGrid}
    (isGrid : (classifyGridCells rs).taskGrid = some grid)
    {cell : TaskCell}
    (hasEvidence : bundlesOf rs.evidence cell ≠ [])
    (missing : rs.humanTasks.contains (blockedCellTask cell).id = false)
    (minted :
      (mintBlockedCellTasks (classifyGridCells rs)).humanTasks.contains
        (blockedCellTask cell).id = true) :
    MarkerShown rs.evidence cell := by
  rw [humanTasks_mintBlockedCellTasks isGrid] at minted
  obtain ⟨origin, member, isBlocked, sameTask⟩ :=
    mintCells_origin missing minted
  have sameId : origin.id = cell.id :=
    (String.append_right_inj _).mp sameTask
  have sameBundles :
      bundlesOf rs.evidence origin = bundlesOf rs.evidence cell := by
    rw [bundlesOf, sameId, bundlesOf]
  have shown := blocked grid isGrid origin member
  rw [sameBundles, MarkerShown, sameBundles] at shown
  exact shown hasEvidence isBlocked

/--
Classification and minting rest on a marker that is shown exactly when no cell
has the letters of a marker in its sources only by accident.
-/
theorem gatesGenuine_iff
    (rs : ResearchState) :
    GatesGenuine rs ↔ NoFalseGate rs := by
  constructor
  · intro genuine grid isGrid cell member hasEvidence
    by_contra falseGate
    push Not at falseGate
    obtain ⟨incomplete, notShown, bundle, inBundles, source, inSources, gated⟩ :=
      falseGate
    obtain ⟨after, isAfter, inAfter⟩ :=
      mem_classified_iff.mpr ⟨grid, isGrid, cell, member, rfl⟩
    have isBlocked :=
      (status_reclassify_eq_blocked_iff hasEvidence).mpr
        ⟨⟨bundle, inBundles, source, inSources,
            Bool.eq_true_of_not_eq_false gated⟩,
          Bool.eq_false_of_not_eq_true incomplete⟩
    have shown :=
      genuine.blocked after isAfter _ inAfter
        (by rw [bundlesOf_reclassify]; exact hasEvidence) isBlocked
    exact notShown ((markerShown_reclassify _ _).mp shown)
  · intro noFalseGate
    have blocked :
        ∀ grid ∈ (classifyGridCells rs).taskGrid,
          ∀ cell ∈ grid.cells.values,
            bundlesOf rs.evidence cell ≠ [] →
            cell.status = .blocked →
            MarkerShown rs.evidence cell := by
      intro after isAfter cell inAfter hasEvidence isBlocked
      obtain ⟨grid, isGrid, before, member, rfl⟩ :=
        mem_classified_iff.mp ⟨after, isAfter, inAfter⟩
      rw [bundlesOf_reclassify] at hasEvidence
      rw [markerShown_reclassify]
      obtain ⟨⟨bundle, inBundles, source, inSources, gated⟩, incomplete⟩ :=
        (status_reclassify_eq_blocked_iff hasEvidence).mp isBlocked
      rcases noFalseGate grid isGrid before member hasEvidence with
        complete | shown | noneGated
      · rw [incomplete] at complete
        cases complete
      · exact shown
      · rw [noneGated bundle inBundles source inSources] at gated
        cases gated
    refine ⟨blocked, ?_⟩
    intro grid isGrid cell _ hasEvidence missing minted
    exact minted_of_blocked blocked isGrid hasEvidence missing minted

end Gates

/-- The cell that the page is about. -/
private def coreCell : TaskCell where
  id := "vendor|core"
  vendor := "vendor"
  specGroup := "core"
  objective := "size of the buffer"
  successCriteria := ["buffer"]

/-- A grid of that cell alone. -/
private def coreGrid : TaskGrid where
  cells := (∅ : OrderedMap String TaskCell).insert coreCell.id coreCell

/-- One cell and one open page that calls its subject standard. -/
private def standardPage : ResearchState where
  runId := "run"
  originalQuestion := "question"
  taskGrid := some coreGrid
  evidence :=
    [{ query := "buffer"
       issueId := some coreCell.id
       sources :=
         [{ id := "S-1"
            title := "page"
            excerpt := "the standard buffer" }] }]

/-- A page that says "standard" blocks its cell and asks for internal data. -/
theorem standardPage_blocks :
    letI := PythonText.ascii
    (reclassify standardPage.evidence coreCell).status = .blocked ∧
      (mintBlockedCellTasks
          (classifyGridCells standardPage)).humanTasks.contains
        "HT-CELL-vendor|core" = true ∧
      ¬GatesGenuine standardPage := by
  let _ := PythonText.ascii
  have isBlocked :
      (reclassify standardPage.evidence coreCell).status = .blocked := by
    decide +kernel
  refine ⟨isBlocked, by decide +kernel, ?_⟩
  intro genuine
  have inGrid :
      ∃ grid ∈ standardPage.taskGrid, ∃ before ∈ grid.cells.values,
        reclassify standardPage.evidence before =
          reclassify standardPage.evidence coreCell :=
    ⟨coreGrid, rfl, coreCell, by decide +kernel, rfl⟩
  obtain ⟨grid, isGrid, member⟩ := mem_classified_iff.mpr inGrid
  have hasEvidence :
      bundlesOf standardPage.evidence
        (reclassify standardPage.evidence coreCell) ≠ [] := by
    decide +kernel
  have shown := genuine.blocked grid isGrid _ member hasEvidence isBlocked
  have notShown : ¬MarkerShown standardPage.evidence coreCell := by
    decide +kernel
  exact notShown ((markerShown_reclassify _ _).mp shown)

end ResearchCos
