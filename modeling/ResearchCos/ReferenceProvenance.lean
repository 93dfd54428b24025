import ResearchCos.Collecting
import ResearchCos.ReferenceScan

namespace ResearchCos

open Foundation

/-!
# Where the evidence of a scan comes from

The notes that a run saves are marked as processed in its channels, and the
next run over the same store starts from fresh channels.  So a scan never turns
a note of its own run into evidence, and turns the notes of earlier runs into
internal evidence.
-/

/-- Every note of a run is marked as processed. -/
def NotesMarked
    (run : Nat)
    (folder : ReferenceFolder)
    (processed : List String) : Prop :=
  ∀ path file,
    folder.get? path = some file →
    file.writer = .note run →
    ReferenceStore.dedupKey path file ∈ processed

/-- Every note was saved by a run up to the given one. -/
def NotesUpTo (run : Nat) (folder : ReferenceFolder) : Prop :=
  ∀ path file saver,
    folder.get? path = some file →
    file.writer = .note saver →
    saver ≤ run

/-- The notes of a store with respect to the run that works on it. -/
structure NotesAccounted
    (run : Nat)
    (folder : ReferenceFolder)
    (processed : List String) : Prop where
  marked : NotesMarked run folder processed
  upTo : NotesUpTo run folder

/-- A file that a scan of a run may turn into evidence. -/
def StemsFromOutside (run : Nat) (writer : FileWriter) : Prop :=
  writer = .human ∨
    (∃ earlier, earlier < run ∧ writer = .note earlier) ∨
    ∃ torn, writer = .tornNote torn

namespace NotesAccounted

/-- Marking more keys keeps the account. -/
theorem mono
    {run : Nat}
    {folder : ReferenceFolder}
    {processed later : List String}
    (accounted : NotesAccounted run folder processed)
    (grows : processed ⊆ later) :
    NotesAccounted run folder later :=
  ⟨fun path file stored note => grows (accounted.marked path file stored note),
    accounted.upTo⟩

/-- A file that is not a note keeps the account. -/
theorem insert_other
    {run : Nat}
    {folder : ReferenceFolder}
    {processed : List String}
    {path : ReferencePath}
    {file : ReferenceFile}
    (accounted : NotesAccounted run folder processed)
    (otherWriter : ∀ saver, file.writer ≠ .note saver) :
    NotesAccounted run (folder.insert path file) processed := by
  constructor
  · intro query stored isStored note
    rw [OrderedMap.get?_insert] at isStored
    split at isStored
    · cases isStored
      exact absurd note (otherWriter run)
    · exact accounted.marked query stored isStored note
  · intro query stored saver isStored note
    rw [OrderedMap.get?_insert] at isStored
    split at isStored
    · cases isStored
      exact absurd note (otherWriter saver)
    · exact accounted.upTo query stored saver isStored note

/-- A note that is marked at once keeps the account. -/
theorem insert_note
    {run : Nat}
    {folder : ReferenceFolder}
    {processed : List String}
    {path : ReferencePath}
    {file : ReferenceFile}
    (accounted : NotesAccounted run folder processed)
    (ownNote : file.writer = .note run)
    (marked : ReferenceStore.dedupKey path file ∈ processed) :
    NotesAccounted run (folder.insert path file) processed := by
  constructor
  · intro query stored isStored note
    rw [OrderedMap.get?_insert] at isStored
    split at isStored
    · rename_i same
      cases isStored
      exact same ▸ marked
    · exact accounted.marked query stored isStored note
  · intro query stored saver isStored note
    rw [OrderedMap.get?_insert] at isStored
    split at isStored
    · cases isStored
      rw [ownNote] at note
      cases note
      exact Nat.le_refl run
    · exact accounted.upTo query stored saver isStored note

/-- A run over a store whose notes are those of earlier runs. -/
theorem of_earlier
    {earlier run : Nat}
    {folder : ReferenceFolder}
    {processed : List String}
    (upTo : NotesUpTo earlier folder)
    (isEarlier : earlier < run) :
    NotesAccounted run folder processed := by
  constructor
  · intro path file stored note
    exact absurd (upTo path file run stored note) (Nat.not_le.mpr isEarlier)
  · intro path file saver stored note
    exact le_trans (upTo path file saver stored note) (Nat.le_of_lt isEarlier)

end NotesAccounted

/-! ## What the steps do to the store -/

theorem mem_markProcessed
    (processed : List String)
    (key : String) :
    key ∈ ReferenceStore.markProcessed processed key := by
  unfold ReferenceStore.markProcessed
  split
  · assumption
  · simp

theorem subset_markProcessed
    (processed : List String)
    (key : String) :
    processed ⊆ ReferenceStore.markProcessed processed key := by
  unfold ReferenceStore.markProcessed
  split
  · exact List.Subset.refl _
  · exact List.subset_append_left _ _

/-- Saving notes marks each of them. -/
theorem persistAiSources_accounted
    {run : Nat}
    {noteWrites : Nat → ReferenceStore.NoteWrite}
    {sources : List Source}
    {store : ReferenceStore.StoreState}
    (accounted :
      NotesAccounted run store.folder store.processedReferences) :
    NotesAccounted run
      (ReferenceStore.persistAiSources run noteWrites sources store).folder
      (ReferenceStore.persistAiSources run noteWrites sources
        store).processedReferences := by
  induction sources generalizing store with
  | nil =>
      exact accounted
  | cons source rest inductionHypothesis =>
      unfold ReferenceStore.persistAiSources
      cases noteWrites store.attempts with
      | written mtime =>
          apply inductionHypothesis
          exact
            (accounted.mono (subset_markProcessed _ _)).insert_note rfl
              (mem_markProcessed _ _)
      | failed =>
          exact accounted
      | torn text mtime =>
          apply accounted.insert_other
          intro saver note
          cases note

/-- Folding results keeps the account, also when it raises midway. -/
theorem foldWorkerResults_accounted
    {env : StepEnv}
    {now : String}
    {raws : List EvidenceBundle}
    {rs : ResearchState}
    {world : World}
    {attempts : Nat}
    (accounted :
      NotesAccounted world.run world.folder rs.processedReferences) :
    (foldWorkerResults env now raws rs world attempts).2.run = world.run ∧
      NotesUpTo world.run
        (foldWorkerResults env now raws rs world attempts).2.folder ∧
      ∀ folded,
        (foldWorkerResults env now raws rs world attempts).1 = some folded →
        NotesAccounted world.run
          (foldWorkerResults env now raws rs world attempts).2.folder
          folded.processedReferences := by
  induction raws generalizing rs world attempts with
  | nil =>
      refine ⟨rfl, accounted.upTo, ?_⟩
      intro folded isFolded
      cases isFolded
      exact accounted
  | cons raw rest inductionHypothesis =>
      unfold foldWorkerResults
      cases raw.modelValidate with
      | none =>
          refine ⟨rfl, accounted.upTo, ?_⟩
          intro folded isFolded
          cases isFolded
      | some bundle =>
          apply inductionHypothesis
          exact persistAiSources_accounted accounted

/-- The files that a human drops keep the account. -/
theorem receiveDrops_accounted
    {drops : List DroppedFile}
    {world : World}
    {processed : List String}
    (accounted : NotesAccounted world.run world.folder processed) :
    NotesAccounted world.run (receiveDrops drops world).folder processed := by
  simp only [receiveDrops]
  generalize world.folder = folder at accounted ⊢
  induction drops generalizing folder with
  | nil =>
      exact accounted
  | cons dropped rest inductionHypothesis =>
      apply inductionHypothesis
      apply accounted.insert_other
      intro saver note
      cases note

/-! ## Runs over one store -/

section Runs

variable [PythonText]

/-- The notes of the store are accounted for, unless the run has crashed. -/
structure StoreInvariant (execution : Execution) : Prop where
  upTo : NotesUpTo execution.world.run execution.world.folder
  marked :
    execution.control ≠ .crashed →
      NotesMarked execution.world.run execution.world.folder
        execution.graph.researchState.processedReferences

/-- A scan only adds to the processed keys. -/
theorem collectReferences_processed_subset
    (converters : Converters)
    (folder : ReferenceFolder)
    (rs : ResearchState) :
    rs.processedReferences ⊆
      (collectReferences converters folder rs).processedReferences := by
  rw [ReferenceStore.processedReferences_collectReferences]
  exact List.subset_append_left _ _

omit [PythonText] in
/-- Folding the results of a run keeps the notes accounted for. -/
theorem StoreInvariant.folding
    {execution : Execution}
    (invariant : StoreInvariant execution)
    (alive : execution.control ≠ .crashed)
    (env : StepEnv) :
    (foldingOf execution env).2.run = execution.world.run ∧
      NotesUpTo execution.world.run (foldingOf execution env).2.folder ∧
      ∀ folded,
        (foldingOf execution env).1 = some folded →
        NotesAccounted execution.world.run
          (foldingOf execution env).2.folder
          folded.processedReferences := by
  have received :
      NotesAccounted (receiveDrops env.drops execution.world).run
        (receiveDrops env.drops execution.world).folder
        execution.graph.researchState.processedReferences :=
    receiveDrops_accounted ⟨invariant.marked alive, invariant.upTo⟩
  exact foldWorkerResults_accounted received

omit [PythonText] in
/-- A step that collects nothing keeps the notes accounted for. -/
theorem StoreInvariant.kept
    {execution next : Execution}
    {drops : List DroppedFile}
    (invariant : StoreInvariant execution)
    (alive : execution.control ≠ .crashed)
    (kept :
      KeepsResearch execution.graph.researchState next.graph.researchState)
    (folderKept :
      KeepsFolder (receiveDrops drops execution.world) next.world) :
    StoreInvariant next := by
  have received :
      NotesAccounted execution.world.run
        (receiveDrops drops execution.world).folder
        execution.graph.researchState.processedReferences :=
    receiveDrops_accounted ⟨invariant.marked alive, invariant.upTo⟩
  have sameRun : next.world.run = execution.world.run := folderKept.run
  constructor
  · rw [sameRun, folderKept.folder]
    exact received.upTo
  · intro _
    rw [sameRun, folderKept.folder, kept.processedReferences]
    exact received.marked

/-- Every step keeps the notes of the store accounted for. -/
theorem StoreInvariant.step
    {execution next : Execution}
    {env : StepEnv}
    (invariant : StoreInvariant execution)
    (stepped : step execution env = some next) :
    StoreInvariant next := by
  have alive := alive_of_step stepped
  rcases invariant.folding alive env with ⟨runKept, upTo, accounted⟩
  cases step_outcome stepped with
  | lost _ crashed _ sameWorld =>
      constructor
      · rw [sameWorld, runKept]
        exact upTo
      · intro nextAlive
        exact absurd crashed nextAlive
  | @collected folded after _ collects =>
      rw [collects.folds] at runKept accounted
      have scanned :
          NotesAccounted execution.world.run after.folder
            next.graph.researchState.processedReferences := by
        rw [collects.researchState]
        exact
          (accounted folded rfl).mono
            (collectReferences_processed_subset _ _ _)
      constructor
      · rw [collects.world, runKept]
        exact scanned.upTo
      · intro _
        rw [collects.world, runKept]
        exact scanned.marked
  | researched _ kept folderKept _ _ =>
      exact invariant.kept alive kept folderKept
  | idle _ _ kept folderKept _ _ =>
      exact invariant.kept alive kept folderKept

/-- A run over a store, one number above the run before. -/
def freshRun (graph : GraphState) (world : World) : Execution where
  graph := graph
  control := .at .intake
  world := { world with run := world.run + 1 }

/--
What a sequence of runs over one store can reach.  Every run starts without
processed references, wherever the run before it was left.
-/
inductive Campaign : Execution → Prop where
  | first {graph : GraphState} {world : World} :
      NotesUpTo world.run world.folder →
      graph.researchState.processedReferences = [] →
      Campaign (freshRun graph world)
  | step {execution next : Execution} {env : StepEnv} :
      Campaign execution →
      ResearchCos.step execution env = some next →
      Campaign next
  | rerun {graph : GraphState} {execution : Execution} :
      Campaign execution →
      graph.researchState.processedReferences = [] →
      Campaign (freshRun graph execution.world)

/-- A campaign covers every continuation of its runs. -/
theorem Campaign.exec
    {execution reached : Execution}
    {labels : List StepEnv}
    (campaign : Campaign execution)
    (ran : Foundation.exec ResearchCos.step execution labels = some reached) :
    Campaign reached :=
  exec_invariant (fun before stepped => before.step stepped) campaign ran

omit [PythonText] in
/-- A fresh run finds notes of earlier runs only. -/
theorem storeInvariant_freshRun
    {graph : GraphState}
    {world : World}
    (upTo : NotesUpTo world.run world.folder) :
    StoreInvariant (freshRun graph world) := by
  have accounted :
      NotesAccounted (world.run + 1) world.folder
        graph.researchState.processedReferences :=
    .of_earlier upTo (Nat.lt_succ_self world.run)
  exact ⟨accounted.upTo, fun _ => accounted.marked⟩

theorem storeInvariant_of_campaign
    {execution : Execution}
    (campaign : Campaign execution) :
    StoreInvariant execution := by
  induction campaign with
  | first upTo _ =>
      exact storeInvariant_freshRun upTo
  | step _ stepped inductionHypothesis =>
      exact inductionHypothesis.step stepped
  | rerun _ _ inductionHypothesis =>
      exact storeInvariant_freshRun inductionHypothesis.upTo

/-- What a scan hands over is the evidence of a file that is not processed. -/
theorem mem_scannedBundles
    {execution : Execution}
    {env : StepEnv}
    {bundle : EvidenceBundle}
    (scanned : bundle ∈ scannedBundles execution env) :
    ∃ folded,
      (foldingOf execution env).1 = some folded ∧
        ∃ path file,
          (foldingOf execution env).2.folder.get? path = some file ∧
            ReferenceStore.bundleOfFile env.converters (path, file) =
              some bundle ∧
            ReferenceStore.dedupKey path file ∉
              folded.processedReferences := by
  unfold scannedBundles at scanned
  split at scanned
  · cases folds : foldingOf execution env with
    | mk outcome after =>
        rw [folds] at scanned
        cases outcome with
        | none =>
            cases scanned
        | some folded =>
            refine ⟨folded, rfl, ?_⟩
            simp only [ReferenceStore.scanReferenceFolder,
              ReferenceStore.scanFiles_eq] at scanned
            split at scanned
            · rw [Option.getD_some, List.nil_append] at scanned
              obtain ⟨⟨path, file⟩, fresh, isBundle⟩ :=
                List.mem_filterMap.mp scanned
              obtain ⟨found, keyNew⟩ :=
                ReferenceStore.find?_of_mem_freshFiles fresh
              have member := List.mem_of_find?_eq_some found
              rw [ReferenceStore.scanOrder, List.mem_insertionSort] at member
              exact ⟨path, file,
                assoc?_of_mem after.folder.nodupKeys member,
                isBundle, keyNew⟩
            · cases scanned
  · cases scanned

omit [PythonText] in
/-- A file of the store whose key is not marked is no note of the run. -/
theorem stemsFromOutside_of_keyNew
    {run : Nat}
    {folder : ReferenceFolder}
    {processed : List String}
    {path : ReferencePath}
    {file : ReferenceFile}
    (accounted : NotesAccounted run folder processed)
    (stored : folder.get? path = some file)
    (keyNew : ReferenceStore.dedupKey path file ∉ processed) :
    StemsFromOutside run file.writer := by
  cases writer : file.writer with
  | human =>
      exact Or.inl rfl
  | note saver =>
      right
      left
      refine ⟨saver, ?_, rfl⟩
      have atMost := accounted.upTo path file saver stored writer
      have notOwn : saver ≠ run := by
        intro own
        exact keyNew (accounted.marked path file stored (own ▸ writer))
      exact Nat.lt_of_le_of_ne atMost notOwn
  | tornNote torn =>
      exact Or.inr (Or.inr ⟨torn, rfl⟩)

/--
In every sequence of runs over one store, a step adds no evidence but worker
results and the evidence of scanned files, and no scanned file is a note that
the current run has saved.
-/
theorem scan_never_ingests_ownNote
    {execution next : Execution}
    {env : StepEnv}
    (campaign : Campaign execution)
    (stepped : step execution env = some next) :
    (next.graph.researchState.evidence =
          execution.graph.researchState.evidence ∨
        next.graph.researchState.evidence =
          execution.graph.researchState.evidence ++
            execution.graph.workerResults ++
            scannedBundles execution env) ∧
      ∀ bundle ∈ scannedBundles execution env,
        ∃ path file,
          (foldingOf execution env).2.folder.get? path = some file ∧
            ReferenceStore.bundleOfFile env.converters (path, file) =
              some bundle ∧
            StemsFromOutside execution.world.run file.writer := by
  constructor
  · cases step_outcome stepped with
    | lost _ _ unchanged _ =>
        exact Or.inl (by rw [unchanged])
    | collected collecting collects =>
        exact Or.inr (collects.evidence collecting)
    | researched _ kept _ _ _ =>
        exact Or.inl kept.evidence
    | idle _ _ kept _ _ _ =>
        exact Or.inl kept.evidence
  · intro bundle scanned
    have invariant := storeInvariant_of_campaign campaign
    rcases invariant.folding (alive_of_step stepped) env with
        ⟨_, _, accounted⟩
    obtain ⟨folded, folds, path, file, stored, isBundle, keyNew⟩ :=
      mem_scannedBundles scanned
    exact ⟨path, file, stored, isBundle,
      stemsFromOutside_of_keyNew (accounted folded folds) stored keyNew⟩

end Runs

/-- The fresh channels of a run that is not asked anything. -/
private def freshChannels : GraphState where
  researchState := { runId := "run", originalQuestion := "question" }
  config := { assumeBrief := true }

/-- Surroundings with one issue, and with one web source for it. -/
private def oneWebSource : StepEnv :=
  StepEnv.calm
    { Brains.silent with
      issueExpander := fun _ =>
        some
          [{ title := "title", description := "", issueType := .technical
             impact := 3, confidence := 2 }]
      researcher := fun _ issueId =>
        some
          { query := "query"
            sources := [{ id := "S-1", title := "page", excerpt := "text" }]
            issueId := some issueId } }

/-- Surroundings in which nothing is researched. -/
private def nothingResearched : StepEnv :=
  StepEnv.calm Brains.silent

/--
The second run over a store turns the note about a web source that the first
run saved into internal evidence, and its claim is verified without a check.
-/
theorem secondRun_launders_firstNote :
    letI := PythonText.ascii
    ∃ first second third file bundle claim,
      exec step (freshRun freshChannels {}) (List.replicate 10 oneWebSource) =
          some first ∧
        exec step (freshRun freshChannels first.world)
            (List.replicate 9 nothingResearched) = some second ∧
        (foldingOf second nothingResearched).2.folder.get?
            ["sources", "S-1.md"] = some file ∧
        file.writer = .note 1 ∧
        scannedBundles second nothingResearched = [bundle] ∧
        ReferenceStore.bundleOfFile nothingResearched.converters
            (["sources", "S-1.md"], file) = some bundle ∧
        step second nothingResearched = some third ∧
        bundle ∈ third.graph.researchState.evidence ∧
        bundle.claims = [claim] ∧
        (DecisionMemo.verifyFlattened third.graph.researchState
            claim).verified = true ∧
        (DecisionMemo.verifyFlattened third.graph.researchState
            claim).method = .paperwork := by
  let _ := PythonText.ascii
  let first :=
    (exec step (freshRun freshChannels {})
      (List.replicate 10 oneWebSource)).get (by decide +kernel)
  let second :=
    (exec step (freshRun freshChannels first.world)
      (List.replicate 9 nothingResearched)).get (by decide +kernel)
  let third := (step second nothingResearched).get (by decide +kernel)
  let file :=
    ((foldingOf second nothingResearched).2.folder.get?
      ["sources", "S-1.md"]).get (by decide +kernel)
  let bundle :=
    (ReferenceStore.bundleOfFile nothingResearched.converters
      (["sources", "S-1.md"], file)).get (by decide +kernel)
  let claim := bundle.claims.head (by decide +kernel)
  exact ⟨first, second, third, file, bundle, claim,
    (Option.some_get _).symm, (Option.some_get _).symm, by decide +kernel⟩

/-- A store with a text that a human dropped. -/
private def oneDroppedText : World where
  folder :=
    (∅ : ReferenceFolder).insert ["a.txt"]
      { text := some "text", mtime := 1, writer := .human }

/-- Of a dropped text and the note of the run itself only the text is ingested. -/
theorem scan_never_ingests_droppedText :
    letI := PythonText.ascii
    ∃ execution bundle path file note,
      exec step (freshRun freshChannels oneDroppedText)
          (List.replicate 9 oneWebSource) = some execution ∧
        (foldingOf execution oneWebSource).2.folder.get?
            ["sources", "S-1.md"] = some note ∧
        note.writer = .note 1 ∧
        scannedBundles execution oneWebSource = [bundle] ∧
        (foldingOf execution oneWebSource).2.folder.get? path =
          some file ∧
        ReferenceStore.bundleOfFile oneWebSource.converters
            (path, file) = some bundle ∧
        StemsFromOutside 1 file.writer := by
  let _ := PythonText.ascii
  have upTo : NotesUpTo oneDroppedText.run oneDroppedText.folder := by
    intro path file saver stored note
    have isDropped :
        (∅ : ReferenceFolder).get? path = some file ∨
          file = { text := some "text", mtime := 1, writer := .human } := by
      rw [oneDroppedText, OrderedMap.get?_insert] at stored
      split at stored
      · exact Or.inr (Option.some.inj stored).symm
      · exact Or.inl stored
    rcases isDropped with inEmpty | rfl
    · simp at inEmpty
    · cases note
  have seen :
      (exec step (freshRun freshChannels oneDroppedText)
          (List.replicate 9 oneWebSource)).map
        (fun execution =>
          ((scannedBundles execution oneWebSource).length,
            ((foldingOf execution oneWebSource).2.folder.get?
              ["sources", "S-1.md"]).map ReferenceFile.writer,
            execution.world.run, (step execution oneWebSource).isSome)) =
        some (1, some (.note 1), 1, true) := by
    decide +kernel
  obtain ⟨execution, ran, facts⟩ := Option.map_eq_some_iff.mp seen
  simp only [Prod.mk.injEq] at facts
  obtain ⟨oneBundle, oneNote, isFirst, steps⟩ := facts
  obtain ⟨bundle, scanned⟩ := List.length_eq_one_iff.mp oneBundle
  obtain ⟨note, noted, ownNote⟩ := Option.map_eq_some_iff.mp oneNote
  obtain ⟨next, stepped⟩ := Option.isSome_iff_exists.mp steps
  have campaign : Campaign execution :=
    (Campaign.first upTo rfl).exec ran
  obtain ⟨path, file, stored, isBundle, outside⟩ :=
    (scan_never_ingests_ownNote campaign stepped).2 bundle
      (scanned ▸ List.mem_singleton_self bundle)
  rw [isFirst] at outside
  exact ⟨execution, bundle, path, file, note, ran, noted, ownNote, scanned,
    stored, isBundle, outside⟩

end ResearchCos
