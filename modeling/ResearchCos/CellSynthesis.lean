import ResearchCos.SourceIdentity
import ResearchCos.Triangulation

namespace ResearchCos

open Foundation
open CellGates

/-!
# What the evidence of a cell adds up to

The bundles of a cell are put together: the sources in one dictionary, the
observations in one list.  An observation counts when it is about a target
field and the dictionary leads its reference to a source that is no junk.
Two ways in which bundles come together are examined here, the merge of the
two routes and one more round of research.
-/

namespace CellGates

/-- The outcome of a synthesis, by field. -/
structure CellSynthesis where
  filled : List String
  chosen : List (String × String)
  contradictions : List String
  weak : List String
  deriving Repr, DecidableEq

section Synthesis

variable [PythonText]

/-- Decide which fields are filled, with which value, and where sources differ. -/
def synthesizeCell
    (cell : TaskCell)
    (bundles : List EvidenceBundle) : CellSynthesis :=
  let verdicts :=
    (acceptedObservations cell bundles).entries.map fun (field, accepted) =>
      (field, triangulate accepted)
  let accepted :=
    verdicts.filter fun (_, verdict) => decide (verdict.status ≠ .none_)
  { filled := accepted.map Prod.fst
    chosen :=
      accepted.filterMap fun (field, verdict) =>
        verdict.value.map fun value => (field, value)
    contradictions :=
      (verdicts.filter fun (_, verdict) => verdict.contradiction).map Prod.fst
    weak :=
      (verdicts.filter fun (_, verdict) =>
        decide (verdict.status = .weaklySourced)).map Prod.fst }

theorem filled_synthesizeCell
    (cell : TaskCell)
    (bundles : List EvidenceBundle) :
    (synthesizeCell cell bundles).filled = filledFields cell bundles := by
  simp only [synthesizeCell, filledFields, List.filter_map, List.map_map]
  rfl

/-! ## Observations that count -/

omit [PythonText] in
/-- An observation of a target field whose source is no junk. -/
def Accepted
    (cell : TaskCell)
    (bundles : List EvidenceBundle)
    (observation : FieldObservation) : Prop :=
  observation.field ∈ cell.successCriteria ∧
    ∃ source,
      lastSource bundles observation.sourceRef = some source ∧
        gradeSource source ≠ .incorrect

omit [PythonText] in
/-- The field, the value and the source of an observation that counts. -/
def accepted?
    (cell : TaskCell)
    (bundles : List EvidenceBundle)
    (observation : FieldObservation) : Option (String × String × Source) :=
  if observation.field ∈ cell.successCriteria then
    (lastSource bundles observation.sourceRef).bind fun source =>
      if gradeSource source = .incorrect then
        none
      else
        some (observation.field, observation.value, source)
  else
    none

omit [PythonText] in
/-- An observation counts under its own field. -/
theorem exists_accepted?_iff
    {cell : TaskCell}
    {bundles : List EvidenceBundle}
    {observation : FieldObservation}
    {field : String} :
    (∃ item, accepted? cell bundles observation = some item ∧
        item.1 = field) ↔
      observation.field = field ∧ Accepted cell bundles observation := by
  simp only [accepted?, Accepted]
  split
  · rename_i isTarget
    simp only [Option.bind_eq_some_iff, isTarget, true_and]
    constructor
    · rintro ⟨item, ⟨source, found, counts⟩, rfl⟩
      split at counts
      · cases counts
      · rename_i noJunk
        cases counts
        exact ⟨rfl, source, found, noJunk⟩
    · rintro ⟨rfl, source, found, noJunk⟩
      exact ⟨_, ⟨source, found, if_neg noJunk⟩, rfl⟩
  · rename_i noTarget
    simp [noTarget]

omit [PythonText] in
/-- The observations that count, collected by field. -/
theorem acceptedObservations_eq
    (cell : TaskCell)
    (bundles : List EvidenceBundle) :
    acceptedObservations cell bundles =
      OrderedMap.accumulate Prod.fst
        (fun known item => known.getD [] ++ [item.2])
        ((bundles.flatMap EvidenceBundle.observations).filterMap
          (accepted? cell bundles)) := by
  rw [OrderedMap.accumulate, List.foldl_filterMap]
  simp only [acceptedObservations]
  congr 1
  funext perField observation
  rw [get?_insertSources]
  simp only [accepted?, lastSource, OrderedMap.get?_empty, Option.or_none]
  split
  · cases found :
        (bundles.flatMap EvidenceBundle.sources).reverse.find? fun source =>
          source.id = observation.sourceRef with
    | none =>
        rfl
    | some source =>
        by_cases junk : gradeSource source = .incorrect
        · simp [junk]
        · simp [junk, OrderedMap.absorbItem]
  · rfl

/-- A field is filled exactly when an observation of it counts. -/
theorem mem_filledFields_iff
    {cell : TaskCell}
    {bundles : List EvidenceBundle}
    {field : String} :
    field ∈ filledFields cell bundles ↔
      ∃ observation ∈ bundles.flatMap EvidenceBundle.observations,
        observation.field = field ∧ Accepted cell bundles observation := by
  have isKey :
      field ∈ (acceptedObservations cell bundles).keys ↔
        ∃ observation ∈ bundles.flatMap EvidenceBundle.observations,
          observation.field = field ∧ Accepted cell bundles observation := by
    rw [acceptedObservations_eq, OrderedMap.mem_keys_accumulate]
    simp only [← exists_accepted?_iff, List.mem_filterMap]
    constructor
    · rintro ⟨item, ⟨observation, member, counts⟩, named⟩
      exact ⟨observation, member, item, counts, named⟩
    · rintro ⟨observation, member, item, counts, named⟩
      exact ⟨item, ⟨observation, member, counts⟩, named⟩
  -- what counts for a field is never an empty list, so it has a value
  have valued {name : String} {accepted : List (String × Source)}
      (isEntry : (name, accepted) ∈
        (acceptedObservations cell bundles).entries) :
      (triangulate accepted).status ≠ .none_ := by
    have stored := OrderedMap.get?_of_mem_entries isEntry
    rw [acceptedObservations_eq, OrderedMap.get?_accumulate] at stored
    have nonempty : accepted ≠ [] := by
      rintro rfl
      rcases List.eq_nil_or_concat
          (((bundles.flatMap EvidenceBundle.observations).filterMap
            (accepted? cell bundles)).filter fun item => item.1 = name) with
          nothing | ⟨earlier, last, shape⟩
      · rw [nothing] at stored
        cases stored
      · rw [shape, List.concat_eq_append, List.foldl_append] at stored
        simp at stored
    obtain ⟨_, _, _, status⟩ := triangulate_leads nonempty
    rw [status]
    split <;> simp
  rw [← isKey]
  simp only [filledFields, OrderedMap.keys, List.mem_map, List.mem_filter,
    decide_eq_true_eq]
  constructor
  · rintro ⟨entry, ⟨isEntry, _⟩, named⟩
    exact ⟨entry, isEntry, named⟩
  · rintro ⟨entry, isEntry, named⟩
    exact ⟨entry, ⟨isEntry, valued isEntry⟩, named⟩

/-- The status that the bundles of a cell give it. -/
def cellStatus
    (cell : TaskCell)
    (bundles : List EvidenceBundle) : CellStatus :=
  classifyCell cell (filledFields cell bundles)
    (bundles.any fun bundle => bundle.sources.any gatedSignal)
    (bundles.any EvidenceBundle.publicExhausted)

/-- The bundles that are about a cell. -/
def bundlesOf
    (evidence : List EvidenceBundle)
    (cell : TaskCell) : List EvidenceBundle :=
  evidence.filter fun bundle => bundle.issueId = some cell.id

/-- Classification looks at the bundles of the cell only. -/
theorem status_reclassify
    (evidence : List EvidenceBundle)
    (cell : TaskCell) :
    (reclassify evidence cell).status =
      if bundlesOf evidence cell = [] then
        cell.status
      else
        cellStatus cell (bundlesOf evidence cell) := by
  by_cases nothing : bundlesOf evidence cell = []
  · rw [if_pos nothing]
    exact congrArg TaskCell.status (if_pos nothing)
  · rw [if_neg nothing]
    exact congrArg TaskCell.status (if_neg nothing)

end Synthesis

end CellGates

/-! ## The merge of the two routes -/

section Merge

variable [PythonText]

/-- Two outcomes with the same fields, values, contradictions and weak fields. -/
structure SameSynthesis (first second : CellSynthesis) : Prop where
  filled : ∀ field, field ∈ first.filled ↔ field ∈ second.filled
  chosen : ∀ entry, entry ∈ first.chosen ↔ entry ∈ second.chosen
  contradictions :
    ∀ field, field ∈ first.contradictions ↔ field ∈ second.contradictions
  weak : ∀ field, field ∈ first.weak ↔ field ∈ second.weak

/-- A merged bundle decides what its two parts decide. -/
structure MergeLossless
    (cell : TaskCell)
    (primary secondary : EvidenceBundle) : Prop where
  synthesis :
    SameSynthesis (synthesizeCell cell [mergeBundles primary secondary])
      (synthesizeCell cell [primary, secondary])
  exhausted :
    (mergeBundles primary secondary).publicExhausted =
      (primary.publicExhausted || secondary.publicExhausted)
  status :
    (reclassify [mergeBundles primary secondary] cell).status =
      (reclassify [primary, secondary] cell).status

omit [PythonText] in
/-- Neither part is exhausted, and no observation of the two counts. -/
structure NothingToLose
    (cell : TaskCell)
    (primary secondary : EvidenceBundle) : Prop where
  primaryOpen : primary.publicExhausted = false
  secondaryOpen : secondary.publicExhausted = false
  noneCounts :
    ∀ observation ∈ primary.observations ++ secondary.observations,
      ¬Accepted cell [primary, secondary] observation

/-- A merged bundle has no observations, so it fills nothing. -/
theorem filledFields_mergeBundles
    (cell : TaskCell)
    (primary secondary : EvidenceBundle) :
    filledFields cell [mergeBundles primary secondary] = [] := by
  rw [List.eq_nil_iff_forall_not_mem]
  intro field filled
  obtain ⟨observation, member, _⟩ := mem_filledFields_iff.mp filled
  simp [mergeBundles] at member

/-- Without observations that count there is nothing to decide. -/
theorem synthesizeCell_of_noneCounts
    {cell : TaskCell}
    {bundles : List EvidenceBundle}
    (noneCounts :
      ∀ observation ∈ bundles.flatMap EvidenceBundle.observations,
        ¬Accepted cell bundles observation) :
    synthesizeCell cell bundles =
      { filled := [], chosen := [], contradictions := [], weak := [] } := by
  have nothing :
      (bundles.flatMap EvidenceBundle.observations).filterMap
          (accepted? cell bundles) = [] := by
    rw [List.filterMap_eq_nil_iff]
    intro observation member
    cases counts : accepted? cell bundles observation with
    | none =>
        rfl
    | some item =>
        exact
          absurd (exists_accepted?_iff.mp ⟨item, counts, rfl⟩).2
            (noneCounts observation member)
  simp [synthesizeCell, acceptedObservations_eq, nothing,
    OrderedMap.accumulate]

/--
Merging the two routes loses nothing for a cell exactly when there is nothing
to lose: no observation counts and neither route is exhausted.
-/
theorem mergeLossless_iff
    (cell : TaskCell)
    {primary secondary : EvidenceBundle}
    (sameIssue : primary.issueId = secondary.issueId) :
    MergeLossless cell primary secondary ↔
      NothingToLose cell primary secondary := by
  have together :
      [primary, secondary].flatMap EvidenceBundle.observations =
        primary.observations ++ secondary.observations := by
    simp
  constructor
  · intro lossless
    have open_ := lossless.exhausted
    simp only [mergeBundles, Bool.false_eq, Bool.or_eq_false_iff] at open_
    refine ⟨open_.1, open_.2, ?_⟩
    intro observation member counts
    have filled :
        observation.field ∈ filledFields cell [primary, secondary] :=
      mem_filledFields_iff.mpr
        ⟨observation, together ▸ member, rfl, counts⟩
    have same := lossless.synthesis.filled observation.field
    rw [filled_synthesizeCell, filled_synthesizeCell,
      filledFields_mergeBundles] at same
    cases same.mpr filled
  · intro nothing
    have outcome :
        synthesizeCell cell [primary, secondary] =
          synthesizeCell cell [mergeBundles primary secondary] := by
      rw [synthesizeCell_of_noneCounts, synthesizeCell_of_noneCounts]
      · intro observation member
        simp [mergeBundles] at member
      · rw [together]
        exact nothing.noneCounts
    have exhausted :
        (mergeBundles primary secondary).publicExhausted =
          (primary.publicExhausted || secondary.publicExhausted) := by
      rw [nothing.primaryOpen, nothing.secondaryOpen]
      rfl
    have issue :
        (mergeBundles primary secondary).issueId = primary.issueId := by
      simp only [mergeBundles, sameIssue, ite_self]
    refine ⟨?_, exhausted, ?_⟩
    · rw [outcome]
      exact ⟨fun _ => .rfl, fun _ => .rfl, fun _ => .rfl, fun _ => .rfl⟩
    · have sameFields :
          filledFields cell [primary, secondary] =
            filledFields cell [mergeBundles primary secondary] := by
        rw [← filled_synthesizeCell, outcome, filled_synthesizeCell]
      rw [status_reclassify, status_reclassify]
      by_cases about : primary.issueId = some cell.id
      · have secondaryAbout : secondary.issueId = some cell.id :=
          sameIssue ▸ about
        have sources :
            (mergeBundles primary secondary).sources =
              primary.sources ++ secondary.sources :=
          rfl
        simp [bundlesOf, issue, about, secondaryAbout, cellStatus, sameFields,
          exhausted, sources]
      · have secondaryNot : secondary.issueId ≠ some cell.id :=
          sameIssue ▸ about
        simp [bundlesOf, issue, about, secondaryNot]

end Merge

/-- A cell that is about one field. -/
private def bufferCell : TaskCell where
  id := "vendor|core"
  vendor := "vendor"
  specGroup := "core"
  objective := "size of the buffer"
  successCriteria := ["buffer"]

/-- A bundle for the cell whose only source has the given quality. -/
private def bufferBundle
    (sourceId : String)
    (quality : SourceQuality)
    (observed : Bool) : EvidenceBundle where
  query := "buffer"
  issueId := some "vendor|core"
  sources := [{ id := sourceId, title := "page", quality := quality }]
  observations :=
    if observed then
      [{ field := "buffer", value := "128 kB", sourceRef := sourceId }]
    else
      []

/-- The field that the web found is not filled any more after the merge. -/
theorem merge_loses_field :
    letI := PythonText.ascii
    (reclassify
        [bufferBundle "S-1" .high true, bufferBundle "S-2" .high false]
        bufferCell).status = .covered ∧
      (reclassify
          [mergeBundles (bufferBundle "S-1" .high true)
            (bufferBundle "S-2" .high false)]
          bufferCell).status = .open ∧
      ¬MergeLossless bufferCell (bufferBundle "S-1" .high true)
        (bufferBundle "S-2" .high false) := by
  let _ := PythonText.ascii
  have before :
      (reclassify
          [bufferBundle "S-1" .high true, bufferBundle "S-2" .high false]
          bufferCell).status = .covered := by
    decide +kernel
  have after :
      (reclassify
          [mergeBundles (bufferBundle "S-1" .high true)
            (bufferBundle "S-2" .high false)]
          bufferCell).status = .open := by
    decide +kernel
  refine ⟨before, after, ?_⟩
  intro lossless
  have same := lossless.status
  rw [before, after] at same
  cases same

/-- Of two routes that observed nothing the merge loses nothing. -/
theorem merge_keeps_nothing :
    letI := PythonText.ascii
    MergeLossless bufferCell (bufferBundle "S-1" .high false)
      (bufferBundle "S-2" .low false) := by
  let _ := PythonText.ascii
  have sameIssue :
      (bufferBundle "S-1" .high false).issueId =
        (bufferBundle "S-2" .low false).issueId :=
    rfl
  refine (mergeLossless_iff bufferCell sameIssue).mpr ⟨rfl, rfl, ?_⟩
  intro observation member
  simp [bufferBundle] at member

/-! ## One more round of research -/

section MoreEvidence

variable [PythonText]

/-- One more bundle leaves every filled field filled and a covered cell covered. -/
structure CoverageKept
    (cell : TaskCell)
    (bundles : List EvidenceBundle)
    (next : EvidenceBundle) : Prop where
  filled :
    ∀ field ∈ (synthesizeCell cell bundles).filled,
      field ∈ (synthesizeCell cell (bundles ++ [next])).filled
  covered :
    cellStatus cell bundles = .covered →
    cellStatus cell (bundles ++ [next]) = .covered

/--
Every filled field has an observation whose identifier the next bundle does not
use again, or uses for a source that is no junk.
-/
def SupportKept
    (cell : TaskCell)
    (bundles : List EvidenceBundle)
    (next : EvidenceBundle) : Prop :=
  ∀ field ∈ filledFields cell bundles,
    ∃ observation ∈ (bundles ++ [next]).flatMap EvidenceBundle.observations,
      observation.field = field ∧
        ((lastSource [next] observation.sourceRef = none ∧
            Accepted cell bundles observation) ∨
          ∃ source,
            lastSource [next] observation.sourceRef = some source ∧
              gradeSource source ≠ .incorrect)

omit [PythonText] in
/-- After one more bundle a reference leads to its source there, if it has one. -/
theorem accepted_snoc_iff
    {cell : TaskCell}
    {bundles : List EvidenceBundle}
    {next : EvidenceBundle}
    {observation : FieldObservation}
    (isTarget : observation.field ∈ cell.successCriteria) :
    Accepted cell (bundles ++ [next]) observation ↔
      (lastSource [next] observation.sourceRef = none ∧
          Accepted cell bundles observation) ∨
        ∃ source,
          lastSource [next] observation.sourceRef = some source ∧
            gradeSource source ≠ .incorrect := by
  rw [Accepted, lastSource_append]
  cases brings : lastSource [next] observation.sourceRef with
  | none =>
      simp [Accepted]
  | some source =>
      simp [isTarget]

omit [PythonText] in
/-- Whether the criteria are met depends on which fields are filled only. -/
theorem covered_mono
    {cell : TaskCell}
    {before after : List String}
    {gated exhausted laterGated laterExhausted : Bool}
    (filled : ∀ field ∈ before, field ∈ after)
    (covered : classifyCell cell before gated exhausted = .covered) :
    classifyCell cell after laterGated laterExhausted = .covered := by
  simp only [classifyCell] at covered
  split at covered
  · rename_i met
    have metAfter : criteriaSubset cell after = true := by
      have metBefore := met.2
      simp only [criteriaSubset, List.all_eq_true, decide_eq_true_eq]
        at metBefore ⊢
      exact fun criterion member =>
        filled criterion (metBefore criterion member)
    exact if_pos ⟨met.1, metAfter⟩
  · repeat' split at covered
    all_goals cases covered

omit [PythonText] in
/-- Every observation is graded by the source that its own bundle cites. -/
def GradedByOwn (bundles : List EvidenceBundle) : Prop :=
  ∀ earlier bundle later,
    bundles = earlier ++ bundle :: later →
    ∀ observation ∈ bundle.observations,
      ∀ own ∈ lastSource [bundle] observation.sourceRef,
        lastSource bundles observation.sourceRef = some own

omit [PythonText] in
/-- No later bundle has another source under an identifier observed here. -/
def ObservedNotReused (bundles : List EvidenceBundle) : Prop :=
  ∀ earlier bundle later,
    bundles = earlier ++ bundle :: later →
    ∀ observation ∈ bundle.observations,
      ∀ own ∈ lastSource [bundle] observation.sourceRef,
        ∀ source ∈ lastSource later observation.sourceRef, source = own

omit [PythonText] in
/-- A source of a later bundle goes before the own one. -/
theorem gradedByOwn_iff
    (bundles : List EvidenceBundle) :
    GradedByOwn bundles ↔ ObservedNotReused bundles := by
  refine forall₂_congr fun earlier bundle => forall₂_congr fun later shape => ?_
  refine forall₂_congr fun observation _ => forall₂_congr fun own isOwn => ?_
  have apart : bundles = earlier ++ ([bundle] ++ later) := shape
  rw [apart, lastSource_append, lastSource_append, Option.mem_def.mp isOwn]
  cases lastSource later observation.sourceRef with
  | none =>
      simp
  | some source =>
      simp

/--
One more bundle keeps the coverage exactly when it leaves every filled field
some support: identifiers that it uses again must not lead to junk.  Every
observation is graded by its own source exactly when no observed identifier is
used again for another source.
-/
theorem coverageKept_iff
    (cell : TaskCell)
    (bundles : List EvidenceBundle)
    (next : EvidenceBundle) :
    (CoverageKept cell bundles next ↔ SupportKept cell bundles next) ∧
      (GradedByOwn (bundles ++ [next]) ↔
        ObservedNotReused (bundles ++ [next])) := by
  refine ⟨?_, gradedByOwn_iff _⟩
  have kept :
      (∀ field ∈ filledFields cell bundles,
          field ∈ filledFields cell (bundles ++ [next])) ↔
        SupportKept cell bundles next := by
    refine forall₂_congr fun field filled => ?_
    obtain ⟨known, _, rfl, isTarget, _⟩ := mem_filledFields_iff.mp filled
    rw [mem_filledFields_iff]
    refine exists_congr fun observation => and_congr_right fun _ => ?_
    refine and_congr_right fun sameField => ?_
    exact accepted_snoc_iff (sameField ▸ isTarget)
  rw [← kept]
  constructor
  · intro coverage field filled
    have after := coverage.filled field
    rw [filled_synthesizeCell, filled_synthesizeCell] at after
    exact after filled
  · intro fields
    refine ⟨?_, covered_mono fields⟩
    rw [filled_synthesizeCell, filled_synthesizeCell]
    exact fields

end MoreEvidence

/-- The answer of one search about the buffer. -/
private def searchedBuffer (quality : String) (observed : Bool) :
    RawResearch where
  sources := [{ title := some "page", quality := some quality }]
  observations :=
    if observed then
      [{ field := "buffer", value := "128 kB", sourceIndices := [some 0] }]
    else
      []

/-- The bundle that the answer is built into. -/
private def searchedBundle (quality : String) (observed : Bool) :
    Option EvidenceBundle :=
  RealResearcher.buildBundle (searchedBuffer quality observed) "buffer"
    bufferCell.id bufferCell.successCriteria

/-- A second search that only finds junk uncovers the cell. -/
theorem secondSearch_uncovers :
    letI := PythonText.ascii
    ∃ found ∈ searchedBundle "high" true,
      ∃ junk ∈ searchedBundle "low" false,
        cellStatus bufferCell [found] = .covered ∧
          cellStatus bufferCell ([found] ++ [junk]) = .open ∧
          ¬CoverageKept bufferCell [found] junk := by
  let _ := PythonText.ascii
  let found := (searchedBundle "high" true).get (by decide +kernel)
  let junk := (searchedBundle "low" false).get (by decide +kernel)
  have covered : cellStatus bufferCell [found] = .covered := by
    decide +kernel
  have uncovered : cellStatus bufferCell ([found] ++ [junk]) = .open := by
    decide +kernel
  refine
    ⟨found, Option.get_mem _, junk, Option.get_mem _, covered, uncovered, ?_⟩
  intro coverage
  have stillCovered := coverage.covered covered
  rw [uncovered] at stillCovered
  cases stillCovered

end ResearchCos
