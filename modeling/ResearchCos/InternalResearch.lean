import ResearchCos.BundledBrains
import ResearchCos.Foundation.MarkedTexts
import ResearchCos.PageSpecs
import ResearchCos.SurveySections

namespace ResearchCos

open Foundation

/-!
# The researcher of internal documents

A survey that covers the issue is consumed.  Without one, page ranges of the
documents are picked, extracted and converted by the scripts of the plugin.
Whatever raises on the way is `none`; an error of a script is no such case, it
is recorded as a gap.
-/

/-! ## The scripts of the plugin -/

/-- How a command that is run comes back. -/
inductive ProcessEnd where
  | timedOut
  | notLaunched (message : String)
  | exited (code : Int) (stdout stderr : String)
  deriving Repr, DecidableEq

/-- What the scripts run on. -/
structure Machine where
  interpreter : String
  shownCommand : List String → String
  run : List String → ProcessEnd
  /-- What stands under the path that a command writes to. -/
  written : String → FragmentFile

namespace Scripts

def fastTimeout : Nat :=
  120

/-- The conversion runs a model, which takes seconds for each page. -/
def doclingTimeout : Nat :=
  900

def scriptPath (home name : String) : String :=
  home ++ "/scripts/" ++ name

section Commands

variable (machine : Machine)

/-- Run a command; the error carries what is known about it. -/
def run (cmd : List String) (timeout : Nat) : Except String Unit :=
  let script :=
    match cmd with
    | _ :: name :: _ => name
    | _ => machine.shownCommand cmd
  match machine.run cmd with
  | .timedOut =>
      .error
        (script ++ " timed out after " ++ toString timeout ++
          "s (no partial/truncated output committed)")
  | .notLaunched message =>
      .error
        ("failed to launch " ++ machine.shownCommand cmd ++ ": " ++ message)
  | .exited code stdout stderr =>
      if code ≠ 0 then
        .error
          (script ++ " exited " ++ toString code ++ ": " ++
            strip (orDefault (some stderr) stdout))
      else
        .ok ()

def outlineCommand
    (home pdf : String)
    (keywords : List String)
    (out : String) : List String :=
  [machine.interpreter, scriptPath home "pdf_outline_scan.py", pdf] ++
    (if keywords = [] then [] else "--keywords" :: keywords) ++
    ["--out", out]

/-- The outline of a document; reading it back may raise. -/
def outlineScan
    (home pdf : String)
    (keywords : List String)
    (out : String) : Option (Except String String) :=
  match run machine (outlineCommand machine home pdf keywords out)
      fastTimeout with
  | .error reason => some (.error reason)
  | .ok () =>
      match machine.written out with
      | .absent => some (.ok "")
      | .undecodable => none
      | .content text => some (.ok text)

def extractCommand (home pdf pages out : String) : List String :=
  [machine.interpreter, scriptPath home "extract_page_range_pdf.py", pdf,
    "--pages", pages, "--out", out]

def extractPages (home pdf pages out : String) : Except String Unit :=
  run machine (extractCommand machine home pdf pages out) fastTimeout

/-- Fragments of record are always converted by the same backend. -/
def pdf2mdCommand (home subset out : String) : List String :=
  [machine.interpreter, scriptPath home "pdf2md.py", subset, "-o", out,
    "--backend", "docling"]

def pdf2md (home subset out : String) : Except String Unit :=
  run machine (pdf2mdCommand machine home subset out) doclingTimeout

end Commands

end Scripts

/-! ## Where the plugin is -/

namespace PaperworkLocate

section Homes

variable (isValidHome : String → Bool)

def fromEnv (raw : Option String) : Option String :=
  raw.filter fun candidate => candidate ≠ "" && isValidHome candidate

/-- A checkout beside the working folder or beside a folder above it. -/
def fromSibling (ancestors : List String) : Option String :=
  (ancestors.map fun ancestor =>
    ancestor ++ "/cn5dd2/CN5DD2_common/plugins/paperwork").find? isValidHome

def findPaperworkHome
    (raw : Option String)
    (ancestors : List String) : Option String :=
  (fromEnv isValidHome raw).or (fromSibling isValidHome ancestors)

end Homes

end PaperworkLocate

/-! ## The documents of the brief -/

/-- The reference-map of a survey folder, as reading it turns out. -/
inductive SurveyFile where
  | undecodable
  | readable (contents : SurveyContents)

/-- What a source of the brief leads to. -/
inductive BriefPath where
  | absent
  | file (path : ReferencePath)
  | folder (path : ReferencePath) (survey : Option SurveyFile)
      (names : List String)

/-- What the researcher works with. -/
structure InternalSetting where
  paperworkHome : Option String := none
  workingFolders : List String := []
  isValidHome : String → Bool
  paperworkVersion : String → Option String := fun _ => none
  machine : Machine
  temporary : String
  disk : String → BriefPath
  shown : Yaml → String
  unicodeDigit : Char → Option Nat := fun _ => none
  /-- The ranges picked from an outline for a title and a description. -/
  pickPageRanges :
    String → String → String → Option (List InternalDoc.PickedRange)

def InternalSetting.home (setting : InternalSetting) : Option String :=
  PaperworkLocate.findPaperworkHome setting.isValidHome setting.paperworkHome
    setting.workingFolders

namespace InternalDocResearcher

/-! ## The marks of a bundle -/

/-- The gap of a bundle without the plugin. -/
def degradedGap : String :=
  "paperwork unavailable: internal-document research degraded to web"

/-- The mark of a script that failed. -/
def extractionFailureMarker : String :=
  "extraction FAILED"

def isDegraded (bundle : EvidenceBundle) : Bool :=
  bundle.coverageGaps.any fun gap => gap = degradedGap

def hasExtractionFailure (bundle : EvidenceBundle) : Bool :=
  bundle.coverageGaps.any fun gap => isSubstring extractionFailureMarker gap

def recordScriptFailure (stage pdfName issueId reason : String) : String :=
  "internal-doc " ++ stage ++ " " ++ extractionFailureMarker ++ " for " ++
    pdfName ++ " issue " ++ issueId ++ ": " ++ reason

/-! ## The issue -/

/-- The title of an issue, and its description or its title once more. -/
def issueText (state : ResearchState) (issueId : String) : String × String :=
  match state.issueMap.get? issueId with
  | none => (issueId, issueId)
  | some node =>
      (node.title,
        if node.description ≠ "" then node.description else node.title)

section Researcher

variable [PythonText]

/-! ## A survey that covers the issue -/

/-- The words of a topic; only a text has words. -/
def topicTokens (topic : Yaml) : Option (List (List Char)) :=
  if topic.truthy then
    match topic with
    | .text content => some (tokenize content)
    | _ => none
  else
    some []

/-- All words of some topic are among the words of the issue. -/
def topicsOverlap
    (issueTokens : List (List Char)) : List Yaml → Option Bool
  | [] => some false
  | topic :: rest =>
      (topicTokens topic).bind fun parts =>
        if !parts.isEmpty && parts.all fun part => issueTokens.contains part
        then
          some true
        else
          topicsOverlap issueTokens rest

/-- An issue without words overlaps with nothing. -/
def surveyCovers (text : String) (refMap : Yaml.Entries) : Option Bool :=
  if (tokenize text).isEmpty then
    some false
  else
    (Yaml.get refMap "requirement_topics" .null).listed.bind
      (topicsOverlap (tokenize text))

omit [PythonText] in
/-- The reference-maps among the sources of the brief. -/
def surveyFolders
    (disk : String → BriefPath)
    (state : ResearchState) : List SurveyFile :=
  state.availableSources.filterMap fun raw =>
    match disk raw with
    | .folder _ survey _ => survey
    | _ => none

omit [PythonText] in
/-- A document that is empty stands for an empty mapping. -/
def mappingOf (parsed : Yaml) : Option Yaml.Entries :=
  if parsed.truthy then parsed.asDict else some []

/-- The bundle of the first survey that covers the issue and has sources. -/
def consumeSurveys
    (shown : Yaml → String)
    (issueId title desc : String) :
    List SurveyFile → Option (Option EvidenceBundle)
  | [] => some none
  | .undecodable :: _ => none
  | .readable survey :: rest =>
      match survey.referenceMap with
      | none => consumeSurveys shown issueId title desc rest
      | some parsed =>
          (mappingOf parsed).bind fun refMap =>
            (surveyCovers (title ++ " " ++ desc) refMap).bind fun covers =>
              if covers then
                (EvidenceMap.bundleFromSurvey shown survey (some issueId)
                  title).bind fun bundle =>
                    if bundle.sources.isEmpty then
                      consumeSurveys shown issueId title desc rest
                    else
                      some (some bundle)
              else
                consumeSurveys shown issueId title desc rest

def tier1Consume
    (setting : InternalSetting)
    (state : ResearchState)
    (issueId title desc : String) : Option (Option EvidenceBundle) :=
  consumeSurveys setting.shown issueId title desc
    (surveyFolders setting.disk state)

/-! ## Page ranges of the documents -/

/-- At most eight words of the issue, in order. -/
def keywords (title desc : String) : List String :=
  (((tokenize (title ++ " " ++ desc)).dedup.insertionSort fun first second =>
      ¬second < first).take 8).map String.ofList

omit [PythonText] in
/-- A document at its position among those that are searched. -/
def pdfFile (path : ReferencePath) (position : Nat) : InternalDoc.PdfFile where
  name := ReferenceStore.fileName path
  stem := (ReferenceStore.splitSuffix (ReferenceStore.fileName path)).1
  position := position

omit [PythonText] in
def shownPath (path : ReferencePath) : String :=
  "/".intercalate path

omit [PythonText] in
/-- Extract pages of a document and convert them. -/
def extraction
    (setting : InternalSetting)
    (home : String)
    (path : ReferencePath)
    (position index : Nat)
    (pages : String) : Option InternalDoc.Extraction :=
  let place := toString position ++ "_" ++ toString index
  let subset := setting.temporary ++ "/subset_" ++ place ++ ".pdf"
  let fragment := setting.temporary ++ "/frag_" ++ place ++ ".md"
  let converted : Except String Unit := do
    Scripts.extractPages setting.machine home (shownPath path) pages subset
    Scripts.pdf2md setting.machine home subset fragment
  match converted with
  | .error reason => some (.failed reason)
  | .ok () =>
      match setting.machine.written fragment with
      | .absent => some (.converted none)
      | .undecodable => none
      | .content text => some (.converted (some text))

/-- What a picked range gives; only bounded ranges are extracted. -/
def rangeItem
    (setting : InternalSetting)
    (home issueId : String)
    (path : ReferencePath)
    (position : Nat)
    (picked : InternalDoc.PickedRange × Nat) : Option GeneratedItem :=
  let pages := strip picked.1.pages
  let extracted :=
    if InternalDoc.isBoundedPages setting.unicodeDigit pages then
      extraction setting home path position picked.2 pages
    else
      some (.converted none)
  extracted.map fun outcome =>
    InternalDoc.generatedItem setting.unicodeDigit (pdfFile path position)
      issueId (fun _ => outcome) picked.1 picked.2

/-- What a document gives. -/
def documentItems
    (setting : InternalSetting)
    (home issueId title desc : String)
    (document : ReferencePath × Nat) : Option (List GeneratedItem) :=
  let name := ReferenceStore.fileName document.1
  let out :=
    setting.temporary ++ "/outline_" ++ toString document.2 ++ ".md"
  (Scripts.outlineScan setting.machine home (shownPath document.1)
    (keywords title desc) out).bind fun
    | .error reason =>
        some [.gap (recordScriptFailure "outline_scan" name issueId reason)]
    | .ok text =>
        (setting.pickPageRanges text title desc).bind fun ranges =>
          if ranges = [] then
            some
              [.gap ("no relevant page range identified in " ++ name)]
          else
            ranges.zipIdx.mapM
              (rangeItem setting home issueId document.1 document.2)

def itemSources (issueId : String) : GeneratedItem → List Source
  | .fragment fragment =>
      [(EvidenceMap.recordFromFragment (some issueId) fragment).1]
  | .gap _ => []

def itemClaims (issueId : String) : GeneratedItem → List Claim
  | .fragment fragment =>
      (EvidenceMap.recordFromFragment (some issueId) fragment).2.1
  | .gap _ => []

def itemGaps (issueId : String) : GeneratedItem → List String
  | .fragment fragment =>
      (EvidenceMap.recordFromFragment (some issueId) fragment).2.2
  | .gap text => [text]

def tier2Generate
    (setting : InternalSetting)
    (home issueId title desc : String)
    (pdfs : List ReferencePath) : Option EvidenceBundle :=
  (pdfs.zipIdx.mapM (documentItems setting home issueId title desc)).map
    fun items =>
      { query := title
        issueId := some issueId
        claims := items.flatten.flatMap (itemClaims issueId)
        sources := items.flatten.flatMap (itemSources issueId)
        coverageGaps := items.flatten.flatMap (itemGaps issueId) }

/-! ## All tiers -/

omit [PythonText] in
def degradedBundle (title issueId : String) : EvidenceBundle where
  query := title
  issueId := some issueId
  coverageGaps := [degradedGap]
  missingEvidence := ["internal documents not searched for: " ++ title]

omit [PythonText] in
/-- The gap of an issue without a survey and without a document. -/
def nothingBundle (title issueId : String) : EvidenceBundle where
  query := title
  issueId := some issueId
  coverageGaps :=
    ["no internal survey matched and no internal PDF supplied for: " ++ title]
  missingEvidence := ["internal evidence for: " ++ title]

omit [PythonText] in
def stampProvenance
    (setting : InternalSetting)
    (home : String)
    (bundle : EvidenceBundle) : EvidenceBundle :=
  let note :=
    "provenance: paperwork v" ++
      orDefault (setting.paperworkVersion home) "unknown"
  if note ∈ bundle.suggestedFollowups then
    bundle
  else
    { bundle with suggestedFollowups := bundle.suggestedFollowups ++ [note] }

/-- The documents that the brief names, those of a folder in order. -/
def briefPdfs
    (disk : String → BriefPath)
    (state : ResearchState) : List ReferencePath :=
  state.availableSources.flatMap fun raw =>
    match disk raw with
    | .absent => []
    | .file path =>
        let suffix :=
          (ReferenceStore.splitSuffix (ReferenceStore.fileName path)).2
        if lowerChars suffix = ".pdf".toList then [path] else []
    | .folder path _ names =>
        ((names.filter fun name => name.endsWith ".pdf").map fun name =>
          path ++ [name]).insertionSort ReferenceStore.pathLe

/-- The documents that are searched: those passed, or those of the brief. -/
def candidatePdfs
    (setting : InternalSetting)
    (state : ResearchState)
    (pdfs : List ReferencePath) : List ReferencePath :=
  if pdfs = [] then briefPdfs setting.disk state else pdfs

/-- The internal evidence for an issue. -/
def gather
    (setting : InternalSetting)
    (state : ResearchState)
    (issueId : String)
    (pdfs : List ReferencePath) : Option EvidenceBundle :=
  let (title, desc) := issueText state issueId
  match setting.home with
  | none => some (degradedBundle title issueId)
  | some home =>
      (tier1Consume setting state issueId title desc).bind fun
        | some bundle => some (stampProvenance setting home bundle)
        | none =>
            let candidates := candidatePdfs setting state pdfs
            if candidates = [] then
              some (nothingBundle title issueId)
            else
              (tier2Generate setting home issueId title desc candidates).map
                (stampProvenance setting home)

end Researcher

end InternalDocResearcher

end ResearchCos
