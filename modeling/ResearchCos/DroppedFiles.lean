import Mathlib.Data.List.TakeWhile
import ResearchCos.Foundation.FirstOccurrence
import ResearchCos.ReferenceScan

namespace ResearchCos

open Foundation
open Foundation.FirstOccurrence

/-!
# Every dropped file over a sequence of scans

A scan recognises a file by its bare name and its modification time, wherever in
the folder it lies.  Over a sequence of scans of folders that change in between,
every new or changed file is taken in exactly when all these files differ in name
or time.
-/

namespace ReferenceStore

/-- The folder that a scan finds, and the converters it can use. -/
structure Scan where
  converters : Converters
  folder : ReferenceFolder

/-- What is known of a path: its file when a scan saw it last. -/
abbrev LastSeen :=
  ReferencePath → Option ReferenceFile

/-- A scan sees every file of its folder. -/
def LastSeen.after
    (seen : LastSeen)
    (folder : ReferenceFolder) : LastSeen := fun path =>
  (folder.get? path).or (seen path)

/-- A file that was not seen before, or had another text or time then. -/
def IsNewOrChanged
    (seen : LastSeen)
    (entry : ReferencePath × ReferenceFile) : Prop :=
  ∀ known ∈ seen entry.1,
    known.text ≠ entry.2.text ∨ known.mtime ≠ entry.2.mtime

instance (seen : LastSeen) : DecidablePred (IsNewOrChanged seen) := fun entry =>
  inferInstanceAs (Decidable (∀ known ∈ seen entry.1, _ ∨ _))

/-- The files that a scan has to take in, in the order of the scan. -/
def filesToTake
    (seen : LastSeen)
    (folder : ReferenceFolder) : List (ReferencePath × ReferenceFile) :=
  (scanOrder folder).filter fun entry => IsNewOrChanged seen entry

/-- The keys of all files that a sequence of scans has to take in. -/
def keysToTake : LastSeen → List Scan → List String
  | _, [] => []
  | seen, scan :: rest =>
      (filesToTake seen scan.folder).map keyOf ++
        keysToTake (seen.after scan.folder) rest

section Scans

variable [PythonText]

/-- Every scan returns one bundle for each file that it has to take in. -/
def TakesEveryFile : LastSeen → List String → List Scan → Prop
  | _, _, [] => True
  | seen, processed, scan :: rest =>
      let outcome :=
        scanReferenceFolder scan.converters scan.folder processed
      outcome.result =
          some
            ((filesToTake seen scan.folder).filterMap
              (bundleOfFile scan.converters)) ∧
        TakesEveryFile (seen.after scan.folder) outcome.processedReferences rest

/-- No conversion raises an unexpected exception. -/
def Scan.Converts (scan : Scan) : Prop :=
  ∀ entry ∈ scan.folder.entries, ReferenceStore.Converts scan.converters entry

instance (scan : Scan) : Decidable scan.Converts :=
  inferInstanceAs (Decidable (∀ entry ∈ _, _))

/-! ## One scan -/

omit [PythonText] in
/-- The files that a scan turns to are the first ones of a new key. -/
theorem freshFiles_eq_keepFirst
    (files : List (ReferencePath × ReferenceFile))
    (processed : List String) :
    freshFiles files processed =
      keepFirst (fun entry => some (keyOf entry)) files processed := by
  induction files generalizing processed with
  | nil =>
      rfl
  | cons entry rest inductionHypothesis =>
      rw [freshFiles, keepFirst, inductionHypothesis, inductionHypothesis]
      have sameKeys (known : String) :
          known ∈ processed ++ [keyOf entry] ↔
            known ∈ keyOf entry :: processed := by
        rw [List.mem_append, List.mem_singleton, List.mem_cons, or_comm]
      rw [keepFirst_congr sameKeys]

omit [PythonText] in
/-- Every file that was seen has its key recorded. -/
def SeenRecorded (seen : LastSeen) (processed : List String) : Prop :=
  ∀ path, ∀ file ∈ seen path, dedupKey path file ∈ processed

omit [PythonText] in
/-- Files of one path and time have one key. -/
theorem dedupKey_congr
    (path : ReferencePath)
    {first second : ReferenceFile}
    (sameTime : first.mtime = second.mtime) :
    dedupKey path first = dedupKey path second := by
  rw [dedupKey, dedupKey, sameTime]

omit [PythonText] in
/-- A file that stayed as it was has its key recorded. -/
theorem key_recorded
    {seen : LastSeen}
    {processed : List String}
    {entry : ReferencePath × ReferenceFile}
    (recorded : SeenRecorded seen processed)
    (unchanged : ¬IsNewOrChanged seen entry) :
    keyOf entry ∈ processed := by
  simp only [IsNewOrChanged, not_forall, not_or, not_not] at unchanged
  obtain ⟨known, isKnown, _, sameTime⟩ := unchanged
  rw [keyOf, ← dedupKey_congr entry.1 sameTime]
  exact recorded entry.1 known isKnown

omit [PythonText] in
/-- Only files that have to be taken in are turned to. -/
theorem freshFiles_scanOrder
    {seen : LastSeen}
    {processed : List String}
    (recorded : SeenRecorded seen processed)
    (folder : ReferenceFolder) :
    freshFiles (scanOrder folder) processed =
      keepFirst (fun entry => some (keyOf entry)) (filesToTake seen folder)
        processed := by
  rw [freshFiles_eq_keepFirst, filesToTake, keepFirst_filter]
  intro entry _ unchanged
  exact
    ⟨keyOf entry, key_recorded recorded (of_decide_eq_false unchanged), rfl⟩

/-- A scan without exceptions returns the evidence of the files it turns to. -/
theorem scanReferenceFolder_of_converts
    {scan : Scan}
    (converts : scan.Converts)
    (processed : List String) :
    scanReferenceFolder scan.converters scan.folder processed =
      { processedReferences :=
          processed ++
            (freshFiles (scanOrder scan.folder) processed).map keyOf
        result :=
          some
            ((freshFiles (scanOrder scan.folder) processed).filterMap
              (bundleOfFile scan.converters)) } := by
  have allConvert :
      ∀ entry ∈ freshFiles (scanOrder scan.folder) processed,
        Converts scan.converters entry := by
    intro entry fresh
    rw [freshFiles_eq_keepFirst] at fresh
    have inFolder := (keepFirst_sublist _ _).subset fresh
    rw [scanOrder, List.mem_insertionSort] at inFolder
    exact converts entry inFolder
  have untilRaise :
      convertedFiles scan.converters (scanOrder scan.folder) processed =
        freshFiles (scanOrder scan.folder) processed := by
    rw [convertedFiles, List.takeWhile_eq_self_iff]
    intro entry fresh
    exact decide_eq_true (allConvert entry fresh)
  rw [scanReferenceFolder, scanFiles_eq, untilRaise, if_pos allConvert,
    List.nil_append]

/-- There is one bundle for each of some files that convert. -/
theorem length_filterMap_bundleOfFile
    {converters : Converters}
    {files : List (ReferencePath × ReferenceFile)}
    (converts : ∀ entry ∈ files, Converts converters entry) :
    (files.filterMap (bundleOfFile converters)).length = files.length := by
  induction files with
  | nil =>
      rfl
  | cons entry rest inductionHypothesis =>
      obtain ⟨bundle, isBundle⟩ :=
        Option.isSome_iff_exists.mp (converts entry List.mem_cons_self)
      rw [List.filterMap_cons_some isBundle, List.length_cons,
        List.length_cons,
        inductionHypothesis fun other member =>
          converts other (List.mem_cons_of_mem _ member)]

/--
A scan returns a bundle for each file that it has to take in exactly when the
keys of these files are new and different.
-/
theorem scan_takes_iff
    {seen : LastSeen}
    {processed : List String}
    {scan : Scan}
    (recorded : SeenRecorded seen processed)
    (converts : scan.Converts) :
    (scanReferenceFolder scan.converters scan.folder processed).result =
        some
          ((filesToTake seen scan.folder).filterMap
            (bundleOfFile scan.converters)) ↔
      freshFiles (scanOrder scan.folder) processed =
        filesToTake seen scan.folder := by
  rw [scanReferenceFolder_of_converts converts, Option.some.injEq]
  constructor
  · intro sameBundles
    have part :
        (freshFiles (scanOrder scan.folder) processed).Sublist
          (filesToTake seen scan.folder) := by
      rw [freshFiles_scanOrder recorded]
      exact keepFirst_sublist _ _
    have allConvert :
        ∀ entry ∈ filesToTake seen scan.folder,
          Converts scan.converters entry := by
      intro entry member
      have inFolder := List.mem_of_mem_filter member
      rw [scanOrder, List.mem_insertionSort] at inFolder
      exact converts entry inFolder
    have sameLength := congrArg List.length sameBundles
    rw [length_filterMap_bundleOfFile allConvert,
      length_filterMap_bundleOfFile fun entry member =>
        allConvert entry (part.subset member)] at sameLength
    exact part.eq_of_length sameLength
  · intro same
    rw [same]

omit [PythonText] in
/-- After all files to take are recorded, every file that was seen is. -/
theorem seenRecorded_after
    {seen : LastSeen}
    {processed : List String}
    (recorded : SeenRecorded seen processed)
    (folder : ReferenceFolder) :
    SeenRecorded (seen.after folder)
      (processed ++ (filesToTake seen folder).map keyOf) := by
  intro path file isSeen
  rw [LastSeen.after, Option.mem_def, Option.or_eq_some_iff] at isSeen
  rcases isSeen with inFolder | ⟨_, before⟩
  · by_cases taken : IsNewOrChanged seen (path, file)
    · have member : (path, file) ∈ filesToTake seen folder := by
        refine List.mem_filter.mpr ⟨?_, decide_eq_true taken⟩
        rw [scanOrder, List.mem_insertionSort]
        exact OrderedMap.mem_entries_of_get? inFolder
      exact List.mem_append_right _ (List.mem_map_of_mem member)
    · exact List.mem_append_left _ (key_recorded recorded taken)
  · exact List.mem_append_left _ (recorded path file before)

/-! ## A sequence of scans -/

/-- Every scan of a sequence takes its files when all their keys differ. -/
theorem takesEveryFile_iff
    {seen : LastSeen}
    {processed : List String}
    {scans : List Scan}
    (recorded : SeenRecorded seen processed)
    (converts : ∀ scan ∈ scans, scan.Converts) :
    TakesEveryFile seen processed scans ↔
      (keysToTake seen scans).Nodup ∧
        ∀ key ∈ keysToTake seen scans, key ∉ processed := by
  induction scans generalizing seen processed with
  | nil =>
      simp [TakesEveryFile, keysToTake]
  | cons scan rest inductionHypothesis =>
      have convertsNow := converts scan List.mem_cons_self
      have convertsLater := fun other member =>
        converts other (List.mem_cons_of_mem scan member)
      have keyed :
          (filesToTake seen scan.folder).filterMap
              (fun entry => some (keyOf entry)) =
            (filesToTake seen scan.folder).map keyOf :=
        congrFun List.filterMap_eq_map _
      have takesNow :
          freshFiles (scanOrder scan.folder) processed =
              filesToTake seen scan.folder ↔
            ((filesToTake seen scan.folder).map keyOf).Nodup ∧
              ∀ key ∈ (filesToTake seen scan.folder).map keyOf,
                key ∉ processed := by
        rw [freshFiles_scanOrder recorded, keepFirst_eq_self_iff, keyed]
      rw [TakesEveryFile, keysToTake, scan_takes_iff recorded convertsNow,
        List.nodup_append, List.forall_mem_append]
      constructor
      · rintro ⟨same, later⟩
        rw [scanReferenceFolder_of_converts convertsNow, same,
          inductionHypothesis (seenRecorded_after recorded scan.folder)
            convertsLater] at later
        obtain ⟨distinctNow, newNow⟩ := takesNow.mp same
        obtain ⟨distinctLater, newLater⟩ := later
        refine ⟨⟨distinctNow, distinctLater, ?_⟩, newNow, ?_⟩
        · rintro now isNow key isLater rfl
          exact newLater now isLater (List.mem_append_right _ isNow)
        · intro key isLater wasProcessed
          exact newLater key isLater (List.mem_append_left _ wasProcessed)
      · rintro ⟨⟨distinctNow, distinctLater, apart⟩, newNow, newLater⟩
        have same := takesNow.mpr ⟨distinctNow, newNow⟩
        refine ⟨same, ?_⟩
        rw [scanReferenceFolder_of_converts convertsNow, same,
          inductionHypothesis (seenRecorded_after recorded scan.folder)
            convertsLater]
        refine ⟨distinctLater, ?_⟩
        intro key isLater recordedKey
        rcases List.mem_append.mp recordedKey with wasProcessed | isNow
        · exact newLater key isLater wasProcessed
        · exact apart key isNow key isLater rfl

/--
From an empty record, every scan returns one bundle for each new or changed file
exactly when no two of these files have the same name and time.
-/
theorem everyDroppedFile_iff
    {scans : List Scan}
    (converts : ∀ scan ∈ scans, scan.Converts) :
    TakesEveryFile (fun _ => none) [] scans ↔
      (keysToTake (fun _ => none) scans).Nodup := by
  have nothingSeen : SeenRecorded (fun _ => none) [] := by
    intro path file isSeen
    cases isSeen
  rw [takesEveryFile_iff nothingSeen converts]
  simp

end Scans

/-! ## Two files with one key -/

/-- Converters that are never needed for texts. -/
private def noConverters : Converters where
  homeFound := false
  pdf := fun _ _ => .unexpected
  office := fun _ _ => .unexpected
  html := fun _ _ => .unexpected

/-- A text that a human dropped at a time. -/
private def droppedText (text : String) (mtime : Nat) : ReferenceFile where
  text := some text
  mtime := mtime
  writer := .human

/-- Notes of the same name and time in two subfolders. -/
private def sameNameTwice : Scan where
  converters := noConverters
  folder :=
    ((∅ : ReferenceFolder).insert ["bus", "note.txt"]
      (droppedText "the bus" 1)).insert ["power", "note.txt"]
        (droppedText "the power" 1)

/-- Two notes, one of which changes before the second scan. -/
private def changedNote : List Scan :=
  [{ converters := noConverters
     folder :=
      ((∅ : ReferenceFolder).insert ["bus", "note.txt"]
        (droppedText "the bus" 1)).insert ["power", "note.txt"]
          (droppedText "the power" 2) },
    { converters := noConverters
      folder :=
        ((∅ : ReferenceFolder).insert ["bus", "note.txt"]
          (droppedText "the new bus" 3)).insert ["power", "note.txt"]
            (droppedText "the power" 2) }]

/-- Of the two notes only the first one is taken in. -/
theorem sameNameTwice_suppresses :
    letI := PythonText.ascii
    ((scanReferenceFolder sameNameTwice.converters sameNameTwice.folder
            []).result.map fun bundles =>
          bundles.flatMap fun bundle => bundle.claims.map Claim.notes) =
        some ["the bus"] ∧
      ¬TakesEveryFile (fun _ => none) [] [sameNameTwice] := by
  let _ := PythonText.ascii
  have onlyFirst :
      ((scanReferenceFolder sameNameTwice.converters sameNameTwice.folder
          []).result.map fun bundles =>
        bundles.flatMap fun bundle => bundle.claims.map Claim.notes) =
        some ["the bus"] := by
    decide +kernel
  have expected :
      ((filesToTake (fun _ => none) sameNameTwice.folder).filterMap
          (bundleOfFile sameNameTwice.converters)).flatMap (fun bundle =>
        bundle.claims.map Claim.notes) =
        ["the bus", "the power"] := by
    decide +kernel
  refine ⟨onlyFirst, ?_⟩
  rintro ⟨takes, _⟩
  rw [takes, Option.map_some, Option.some.injEq, expected] at onlyFirst
  revert onlyFirst
  decide

/-- Texts are read without a converter. -/
private theorem changedNote_converts :
    letI := PythonText.ascii
    ∀ scan ∈ changedNote, scan.Converts := by
  decide +kernel

/-- A file that changed its time is taken in again, and nothing else is. -/
theorem everyDroppedFile_changedNote :
    letI := PythonText.ascii
    TakesEveryFile (fun _ => none) [] changedNote := by
  let _ := PythonText.ascii
  have distinct : (keysToTake (fun _ => none) changedNote).Nodup := by
    decide +kernel
  exact (everyDroppedFile_iff changedNote_converts).mpr distinct

end ReferenceStore

end ResearchCos
