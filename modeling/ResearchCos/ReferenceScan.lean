import ResearchCos.GraphNodes

namespace ResearchCos

open Foundation

/-!
# What a scan of the reference folder keeps

A scan records the key of a file as soon as the file is converted, but hands
over the evidence only at its end.  A conversion that raises in between loses
the evidence of every file before it.
-/

namespace ReferenceStore

/-- The key of a file of the folder. -/
def keyOf (entry : ReferencePath × ReferenceFile) : String :=
  dedupKey entry.1 entry.2

/-- The files that a scan turns to: not processed, the first of their key. -/
def freshFiles :
    List (ReferencePath × ReferenceFile) →
      List String → List (ReferencePath × ReferenceFile)
  | [], _ => []
  | entry :: rest, processed =>
      if keyOf entry ∈ processed then
        freshFiles rest processed
      else
        entry :: freshFiles rest (processed ++ [keyOf entry])

/-- A fresh file is the first file of its key, and its key is new. -/
theorem find?_of_mem_freshFiles
    {files : List (ReferencePath × ReferenceFile)}
    {processed : List String}
    {entry : ReferencePath × ReferenceFile}
    (fresh : entry ∈ freshFiles files processed) :
    files.find? (fun other => keyOf other = keyOf entry) = some entry ∧
      keyOf entry ∉ processed := by
  induction files generalizing processed with
  | nil =>
      cases fresh
  | cons head rest inductionHypothesis =>
      unfold freshFiles at fresh
      by_cases known : keyOf head ∈ processed
      · rw [if_pos known] at fresh
        obtain ⟨first, keyNew⟩ := inductionHypothesis fresh
        have otherKey : keyOf head ≠ keyOf entry := by
          intro same
          exact keyNew (same ▸ known)
        exact ⟨by simpa [otherKey] using first, keyNew⟩
      · rw [if_neg known] at fresh
        rcases List.mem_cons.mp fresh with isHead | inRest
        · subst entry
          exact ⟨by simp, known⟩
        · obtain ⟨first, keyNew⟩ := inductionHypothesis inRest
          rw [List.mem_append, List.mem_singleton, not_or] at keyNew
          have otherKey : keyOf head ≠ keyOf entry :=
            fun same => keyNew.2 same.symm
          exact ⟨by simpa [otherKey] using first, keyNew.1⟩

/-- Fresh files are files of the folder. -/
theorem mem_of_mem_freshFiles
    {files : List (ReferencePath × ReferenceFile)}
    {processed : List String}
    {entry : ReferencePath × ReferenceFile}
    (fresh : entry ∈ freshFiles files processed) :
    entry ∈ files :=
  List.mem_of_find?_eq_some (find?_of_mem_freshFiles fresh).1

/-- Fresh files have different keys. -/
theorem pairwise_freshFiles
    (files : List (ReferencePath × ReferenceFile))
    (processed : List String) :
    (freshFiles files processed).Pairwise fun first second =>
      keyOf first ≠ keyOf second := by
  induction files generalizing processed with
  | nil =>
      exact List.Pairwise.nil
  | cons head rest inductionHypothesis =>
      rw [freshFiles]
      split
      · exact inductionHypothesis processed
      · refine List.pairwise_cons.mpr ⟨?_, inductionHypothesis _⟩
        intro entry fresh same
        have keyNew := (find?_of_mem_freshFiles fresh).2
        rw [List.mem_append, List.mem_singleton, not_or] at keyNew
        exact keyNew.2 same.symm

section Scan

variable [PythonText]

/-- The evidence of a file; `none` when its conversion raises. -/
def bundleOfFile
    (converters : Converters)
    (entry : ReferencePath × ReferenceFile) : Option EvidenceBundle :=
  bundleOf entry.1 (convertToFragment converters entry.1 entry.2)

/-- The conversion of a file does not raise. -/
def Converts
    (converters : Converters)
    (entry : ReferencePath × ReferenceFile) : Prop :=
  (bundleOfFile converters entry).isSome = true

instance (converters : Converters) : DecidablePred (Converts converters) :=
  fun _ => inferInstanceAs (Decidable (_ = true))

/-- The fresh files up to the first one whose conversion raises. -/
def convertedFiles
    (converters : Converters)
    (files : List (ReferencePath × ReferenceFile))
    (processed : List String) : List (ReferencePath × ReferenceFile) :=
  (freshFiles files processed).takeWhile fun entry => Converts converters entry

/--
A scan records the files up to the first conversion that raises, and hands over
their evidence only when none raises.
-/
theorem scanFiles_eq
    (converters : Converters)
    (files : List (ReferencePath × ReferenceFile))
    (processed : List String)
    (bundles : List EvidenceBundle) :
    scanFiles converters files processed bundles =
      { processedReferences :=
          processed ++ (convertedFiles converters files processed).map keyOf
        result :=
          if ∀ entry ∈ freshFiles files processed, Converts converters entry
          then
            some
              (bundles ++
                (freshFiles files processed).filterMap
                  (bundleOfFile converters))
          else
            none } := by
  induction files generalizing processed bundles with
  | nil =>
      simp [scanFiles, convertedFiles, freshFiles]
  | cons head rest inductionHypothesis =>
      obtain ⟨path, file⟩ := head
      by_cases known : dedupKey path file ∈ processed
      · have skipped :
            freshFiles ((path, file) :: rest) processed =
              freshFiles rest processed := by
          simp [freshFiles, keyOf, known]
        rw [scanFiles, if_pos known, inductionHypothesis]
        simp only [convertedFiles, skipped]
      · have turned :
            freshFiles ((path, file) :: rest) processed =
              (path, file) ::
                freshFiles rest (processed ++ [dedupKey path file]) := by
          simp [freshFiles, keyOf, known]
        rw [scanFiles, if_neg known]
        simp only [convertedFiles, turned]
        cases converted :
            bundleOf path (convertToFragment converters path file) with
        | none =>
            have raises : ¬Converts converters (path, file) := by
              simp [Converts, bundleOfFile, converted]
            simp [raises]
        | some bundle =>
            have succeeds : Converts converters (path, file) := by
              simp [Converts, bundleOfFile, converted]
            have handedOver :
                bundleOfFile converters (path, file) = some bundle :=
              converted
            have completes :
                (∀ entry ∈ (path, file) ::
                    freshFiles rest (processed ++ [dedupKey path file]),
                  Converts converters entry) ↔
                  ∀ entry ∈ freshFiles rest
                      (processed ++ [dedupKey path file]),
                    Converts converters entry := by
              rw [List.forall_mem_cons]
              exact and_iff_right succeeds
            simp only [inductionHypothesis, convertedFiles, completes]
            simp [succeeds, handedOver, keyOf]

/-- A scan that no conversion interrupts. -/
def ScanCompletes
    (converters : Converters)
    (folder : ReferenceFolder)
    (processed : List String) : Prop :=
  ∀ entry ∈ freshFiles (scanOrder folder) processed, Converts converters entry

/-- Every converted file has its evidence at hand already. -/
def EvidenceAtHand
    (converters : Converters)
    (folder : ReferenceFolder)
    (before : ResearchState) : Prop :=
  ∀ entry ∈
      convertedFiles converters (scanOrder folder) before.processedReferences,
    ∃ bundle ∈ before.evidence, bundleOfFile converters entry = some bundle

/-- Every key that a scan has recorded has the evidence of its file. -/
def RecordedFilesKept
    (converters : Converters)
    (folder : ReferenceFolder)
    (before after : ResearchState) : Prop :=
  ∀ key ∈ after.processedReferences,
    key ∉ before.processedReferences →
    ∃ entry,
      (scanOrder folder).find? (fun other => keyOf other = key) = some entry ∧
        ∃ bundle ∈ after.evidence,
          bundleOfFile converters entry = some bundle

instance
    (converters : Converters)
    (folder : ReferenceFolder)
    (processed : List String) :
    Decidable (ScanCompletes converters folder processed) :=
  inferInstanceAs (Decidable (∀ entry ∈ _, _))

/-- The processed keys after a scan. -/
theorem processedReferences_collectReferences
    (converters : Converters)
    (folder : ReferenceFolder)
    (rs : ResearchState) :
    (collectReferences converters folder rs).processedReferences =
      rs.processedReferences ++
        (convertedFiles converters (scanOrder folder)
          rs.processedReferences).map keyOf := by
  simp [collectReferences, scanReferenceFolder, scanFiles_eq]

/-- A scan that completes hands over the evidence of all fresh files. -/
theorem evidence_of_scanCompletes
    {converters : Converters}
    {folder : ReferenceFolder}
    {rs : ResearchState}
    (completes : ScanCompletes converters folder rs.processedReferences) :
    (collectReferences converters folder rs).evidence =
      rs.evidence ++
        (freshFiles (scanOrder folder) rs.processedReferences).filterMap
          (bundleOfFile converters) := by
  unfold ScanCompletes at completes
  simp only [collectReferences, scanReferenceFolder, scanFiles_eq]
  rw [if_pos completes]
  simp

/-- A scan that raises hands over nothing. -/
theorem evidence_of_scanRaises
    {converters : Converters}
    {folder : ReferenceFolder}
    {rs : ResearchState}
    (raises : ¬ScanCompletes converters folder rs.processedReferences) :
    (collectReferences converters folder rs).evidence = rs.evidence := by
  unfold ScanCompletes at raises
  simp only [collectReferences, scanReferenceFolder, scanFiles_eq]
  rw [if_neg raises]
  simp

/-- A recorded key is the key of a converted file, and the other way round. -/
theorem recordedFilesKept_iff
    {converters : Converters}
    {folder : ReferenceFolder}
    {rs : ResearchState} :
    RecordedFilesKept converters folder rs
        (collectReferences converters folder rs) ↔
      ∀ entry ∈
          convertedFiles converters (scanOrder folder) rs.processedReferences,
        ∃ bundle ∈ (collectReferences converters folder rs).evidence,
          bundleOfFile converters entry = some bundle := by
  unfold RecordedFilesKept
  rw [processedReferences_collectReferences]
  constructor
  · intro kept entry converted
    have fresh :
        entry ∈ freshFiles (scanOrder folder) rs.processedReferences :=
      List.takeWhile_subset _ converted
    obtain ⟨first, keyNew⟩ := find?_of_mem_freshFiles fresh
    have recorded :
        keyOf entry ∈
          rs.processedReferences ++
            (convertedFiles converters (scanOrder folder)
              rs.processedReferences).map keyOf :=
      List.mem_append_right _ (List.mem_map_of_mem converted)
    obtain ⟨found, isFound, bundleKept⟩ := kept _ recorded keyNew
    rw [first] at isFound
    cases isFound
    exact bundleKept
  · intro kept key recorded keyNew
    rcases List.mem_append.mp recorded with known | converted
    · exact absurd known keyNew
    · obtain ⟨entry, isConverted, rfl⟩ := List.mem_map.mp converted
      have fresh :
          entry ∈ freshFiles (scanOrder folder) rs.processedReferences :=
        List.takeWhile_subset _ isConverted
      exact ⟨entry, (find?_of_mem_freshFiles fresh).1, kept entry isConverted⟩

end Scan

end ReferenceStore

section Collect

variable [PythonText]

open ReferenceStore

/-- Every outcome of folding decides the outcome of the collect node. -/
theorem nodeCollect_folded
    {env : StepEnv}
    {state : GraphState}
    {world after : World}
    {folded : ResearchState}
    (folds :
      foldWorkerResults env state.config.now state.workerResults
        state.researchState world 0 = (some folded, after)) :
    nodeCollect env state world =
      .update
        { researchState :=
            CellGates.classifyGridCells
              (collectReferences env.converters after.folder folded)
          prereqs := some { state.flags with sourceConfidenceChecked := true }
          workerResults := some [] }
        after := by
  simp only [nodeCollect, folds]

/--
After the collect node, every key that its scan recorded has its evidence
exactly when no conversion raised, or when nothing new was lost.
-/
theorem nodeCollect_keepsRecordedFiles_iff
    {env : StepEnv}
    {state : GraphState}
    {world after : World}
    {folded : ResearchState}
    (folds :
      foldWorkerResults env state.config.now state.workerResults
        state.researchState world 0 = (some folded, after)) :
    (∃ update,
        nodeCollect env state world = .update update after ∧
          RecordedFilesKept env.converters after.folder folded
            update.researchState) ↔
      ScanCompletes env.converters after.folder folded.processedReferences ∨
        EvidenceAtHand env.converters after.folder folded := by
  have kept :
      (∃ update,
          nodeCollect env state world = .update update after ∧
            RecordedFilesKept env.converters after.folder folded
              update.researchState) ↔
        RecordedFilesKept env.converters after.folder folded
          (collectReferences env.converters after.folder folded) := by
    rw [nodeCollect_folded folds]
    constructor
    · rintro ⟨update, isUpdate, recordedKept⟩
      cases isUpdate
      exact recordedKept
    · intro recordedKept
      exact ⟨_, rfl, recordedKept⟩
  rw [kept, recordedFilesKept_iff]
  by_cases completes :
    ScanCompletes env.converters after.folder folded.processedReferences
  · refine iff_of_true ?_ (Or.inl completes)
    intro entry converted
    have fresh := List.takeWhile_subset _ converted
    obtain ⟨bundle, isBundle⟩ :=
      Option.isSome_iff_exists.mp (completes entry fresh)
    refine ⟨bundle, ?_, isBundle⟩
    rw [evidence_of_scanCompletes completes]
    exact List.mem_append_right _
      (List.mem_filterMap.mpr ⟨entry, fresh, isBundle⟩)
  · rw [evidence_of_scanRaises completes]
    exact (or_iff_right completes).symm

end Collect

/-- A run that has not collected anything yet. -/
private def emptyRun : GraphState where
  researchState := { runId := "run", originalQuestion := "question" }

/-- A folder with a text, and with a second file that a human dropped. -/
private def textAnd (second : ReferencePath) : World where
  folder :=
    ((∅ : ReferenceFolder).insert ["a.txt"]
        { text := some "text", mtime := 1, writer := .human }).insert second
      { text := some "text", mtime := 2, writer := .human }

/-- A text before a PDF that raises is marked as processed and lost. -/
theorem textBeforePdf_is_lost :
    letI := PythonText.ascii
    ∃ update,
      nodeCollect (StepEnv.calm Brains.silent) emptyRun (textAnd ["b.pdf"]) =
          .update update (textAnd ["b.pdf"]) ∧
        update.researchState.processedReferences = ["a.txt::1"] ∧
        update.researchState.evidence = [] ∧
        ¬ReferenceStore.RecordedFilesKept
            (StepEnv.calm Brains.silent).converters (textAnd ["b.pdf"]).folder
            emptyRun.researchState update.researchState := by
  let _ := PythonText.ascii
  refine ⟨_, nodeCollect_folded rfl, by decide +kernel, by decide +kernel, ?_⟩
  intro kept
  obtain ⟨entry, _, bundle, member, _⟩ :=
    kept "a.txt::1" (by decide +kernel) (by decide +kernel)
  exact absurd (List.length_pos_of_mem member) (by decide +kernel)

/-- Two texts are both kept. -/
theorem nodeCollect_keeps_twoTexts :
    letI := PythonText.ascii
    ∃ update,
      nodeCollect (StepEnv.calm Brains.silent) emptyRun (textAnd ["b.txt"]) =
          .update update (textAnd ["b.txt"]) ∧
        ReferenceStore.RecordedFilesKept
          (StepEnv.calm Brains.silent).converters (textAnd ["b.txt"]).folder
          emptyRun.researchState update.researchState := by
  let _ := PythonText.ascii
  exact (nodeCollect_keepsRecordedFiles_iff rfl).mpr
    (Or.inl (by decide +kernel))

end ResearchCos
