import Mathlib.Data.List.Sort
import ResearchCos.Text
import ResearchCos.Models

namespace ResearchCos

open Foundation

/-!
# The reference store of a topic

The folder that survives a run.  Humans drop files there, the run saves a note
for every source it collects, and a scan turns files that were not processed
yet into internal evidence.  Every file remembers who wrote it: the scan does
not read that mark, only statements about provenance do.
-/

/-- Who put a file into the store. -/
inductive FileWriter where
  | human
  | note (run : Nat)
  | tornNote (run : Nat)
  deriving Repr, DecidableEq

structure ReferenceFile where
  /-- The decoded text; `none` when the file cannot be read. -/
  text : Option String
  /-- The modification time in nanoseconds. -/
  mtime : Nat
  writer : FileWriter
  deriving Repr, DecidableEq

/-- Path of a file below the reference folder. -/
abbrev ReferencePath :=
  List String

/-- The files of the reference folder. -/
abbrev ReferenceFolder :=
  OrderedMap ReferencePath ReferenceFile

/-- How a conversion ends; any other exception is `unexpected`. -/
inductive Conversion where
  | fragment (text : String)
  | unsupported (message : String)
  | scriptError (message : String)
  | unexpected
  deriving Repr, DecidableEq

/-- The external converters. -/
structure Converters where
  homeFound : Bool
  pdf : ReferencePath → ReferenceFile → Conversion
  office : ReferencePath → ReferenceFile → Conversion
  html : ReferencePath → ReferenceFile → Conversion

namespace ReferenceStore

/-! ## Paths -/

def fileName (path : ReferencePath) : String :=
  path.getLast?.getD ""

/-- A file name split before its last inner dot. -/
def splitSuffix (name : String) : String × String :=
  let backwards := name.toList.reverse
  match backwards.dropWhile (· ≠ '.') with
  | [] => (name, "")
  | _ :: stem =>
      let extension := backwards.takeWhile (· ≠ '.')
      if extension = [] ∨ stem = [] then
        (name, "")
      else
        (String.ofList stem.reverse,
          String.ofList ('.' :: extension.reverse))

/-- The key under which a file counts as processed. -/
def dedupKey (path : ReferencePath) (file : ReferenceFile) : String :=
  fileName path ++ "::" ++ toString file.mtime

/-- Lexicographic order of paths. -/
def pathLe (first second : ReferencePath) : Prop :=
  ¬second < first

instance : DecidableRel pathLe := fun first second =>
  inferInstanceAs (Decidable (¬second < first))

/-- The files of the folder in the order of their paths. -/
def scanOrder (folder : ReferenceFolder) :
    List (ReferencePath × ReferenceFile) :=
  folder.entries.insertionSort fun first second => pathLe first.1 second.1

/-! ## From a fragment to evidence -/

def quoteMaxChars : Nat :=
  280

/-- The first line of prose, shortened. -/
def fragmentQuote (text : String) : String :=
  let isProse (line : List Char) : Bool :=
    match line with
    | [] => false
    | c :: _ => c ≠ '#' && c ≠ '|'
  let line :=
    ((splitlines text.toList).map stripChars).find? isProse
  String.ofList ((line.getD (stripChars text.toList)).take quoteMaxChars)

/-- Internal evidence from a converted file. -/
def bundleFromFragment (path : ReferencePath) (fragment : String) :
    EvidenceBundle :=
  let name := fileName path
  let source : Source :=
    { id := "S-REF-" ++ (splitSuffix name).1
      title := name
      url := some ("reference/" ++ name)
      sourceType := .internal
      origin := "internal"
      excerpt := String.ofList (fragment.toList.take 2000) }
  let quote := fragmentQuote fragment
  { query := name
    claims :=
      if quote = "" then
        []
      else
        [{ claim := name ++ " (dropped reference)"
           sourceRefs := [source.id]
           notes := quote }]
    sources := [source]
    coverageGaps :=
      if quote = "" then
        ["empty fragment from dropped reference " ++ name]
      else
        [] }

section Conversion

variable [PythonText]

/-- Convert a file by its extension. -/
def convertToFragment
    (converters : Converters)
    (path : ReferencePath)
    (file : ReferenceFile) : Conversion :=
  let name := fileName path
  let suffix := String.ofList (lowerChars (splitSuffix name).2)
  if suffix = ".pdf" then
    if converters.homeFound then converters.pdf path file else .unexpected
  else if suffix ∈ [".docx", ".pptx", ".xlsx"] then
    converters.office path file
  else if suffix ∈ [".html", ".htm"] then
    if converters.homeFound then converters.html path file else .unexpected
  else if suffix ∈ [".md", ".markdown", ".txt"] then
    match file.text with
    | none => .unexpected
    | some text => .fragment text
  else
    .unsupported
      ("unsupported reference file extension " ++ PythonText.quoted suffix ++
        " for " ++ name ++
        " (supported: .pdf .docx .pptx .xlsx .html .htm .md .markdown .txt)")

omit [PythonText] in
/-- The evidence recorded for a file; `none` when its conversion raises. -/
def bundleOf (path : ReferencePath) : Conversion → Option EvidenceBundle
  | .fragment text => some (bundleFromFragment path text)
  | .unsupported message =>
      some
        { query := fileName path
          coverageGaps :=
            ["unsupported dropped reference " ++ fileName path ++ ": " ++
              message] }
  | .scriptError message =>
      some
        { query := fileName path
          coverageGaps :=
            ["reference " ++ fileName path ++ " extraction FAILED: " ++
              message] }
  | .unexpected => none

/-! ## The scan -/

omit [PythonText] in
/-- The processed keys after a scan, and its bundles unless it raised. -/
structure ScanOutcome where
  processedReferences : List String
  result : Option (List EvidenceBundle)
  deriving DecidableEq

/-- Convert every file that is not processed yet, recording keys one by one. -/
def scanFiles (converters : Converters) :
    List (ReferencePath × ReferenceFile) →
      List String → List EvidenceBundle → ScanOutcome
  | [], processed, bundles =>
      { processedReferences := processed, result := some bundles }
  | (path, file) :: rest, processed, bundles =>
      if dedupKey path file ∈ processed then
        scanFiles converters rest processed bundles
      else
        match bundleOf path (convertToFragment converters path file) with
        | none => { processedReferences := processed, result := none }
        | some bundle =>
            scanFiles converters rest (processed ++ [dedupKey path file])
              (bundles ++ [bundle])

/-- Scan the reference folder of a run. -/
def scanReferenceFolder
    (converters : Converters)
    (folder : ReferenceFolder)
    (processedReferences : List String) : ScanOutcome :=
  scanFiles converters (scanOrder folder) processedReferences []

end Conversion

/-! ## Notes about collected sources -/

/-- How saving a note ends. -/
inductive NoteWrite where
  | written (mtime : Nat)
  | failed
  | torn (text : Option String) (mtime : Nat)
  deriving Repr, DecidableEq

/-- Where the note about a source is saved. -/
def notePath (source : Source) : ReferencePath :=
  "sources" ::
    ((source.id ++ ".md").toList.splitOn '/').map String.ofList

/-- The text of the note about a source. -/
def noteText (source : Source) : String :=
  "# " ++ source.title ++ "\n\n- id: " ++ source.id ++ "\n- url: " ++
    orDefault source.url "(no url)" ++ "\n- source_type: " ++
    source.sourceType.value ++ "\n- quality: " ++ source.quality.value ++
    "\n\n## Excerpt\n\n" ++
    (if source.excerpt = "" then "(no excerpt captured)" else source.excerpt) ++
    "\n"

/-- The store, the processed keys and the number of notes attempted so far. -/
structure StoreState where
  folder : ReferenceFolder
  processedReferences : List String
  attempts : Nat := 0
  deriving DecidableEq

/-- Mark a key as processed. -/
def markProcessed (processed : List String) (key : String) : List String :=
  if key ∈ processed then processed else processed ++ [key]

/--
Save a note for every source and mark it as processed; the first note that
cannot be saved ends the pass.
-/
def persistAiSources (run : Nat) (noteWrites : Nat → NoteWrite) :
    List Source → StoreState → StoreState
  | [], store => store
  | source :: rest, store =>
      let path := notePath source
      let attempted := { store with attempts := store.attempts + 1 }
      match noteWrites store.attempts with
      | .written mtime =>
          let file : ReferenceFile :=
            { text := some (noteText source)
              mtime := mtime
              writer := .note run }
          persistAiSources run noteWrites rest
            { attempted with
              folder := store.folder.insert path file
              processedReferences :=
                markProcessed store.processedReferences (dedupKey path file) }
      | .failed => attempted
      | .torn text mtime =>
          { attempted with
            folder :=
              store.folder.insert path
                { text := text, mtime := mtime, writer := .tornNote run } }

end ReferenceStore

end ResearchCos
