import ResearchCos.Collecting

namespace ResearchCos

open Foundation

/-!
# Where evidence comes from

The researcher on the web builds a bundle from what the model returns, the
internal researcher from the survey or the fragments of a document, and the
router merges the two.  Every producer names its sources by itself.
-/

/-! ## The web researcher -/

/-- A source as the model returns it; a field may be left out. -/
structure RawSource where
  title : Option String := none
  url : Option String := none
  sourceType : Option String := none
  quality : Option String := none
  excerpt : Option String := none
  deriving Repr, DecidableEq

/-- A claim as the model returns it; an index that is no integer is `none`. -/
structure RawClaim where
  claim : String
  quote : Option String := none
  notes : Option String := none
  confidence : Int := 0
  sourceIndices : List (Option Int) := []
  deriving Repr, DecidableEq

structure RawObservation where
  field : String
  value : String := ""
  quote : String := ""
  confidence : Int := 0
  sourceIndices : List (Option Int) := []
  deriving Repr, DecidableEq

/-- What one research call returns. -/
structure RawResearch where
  sources : List RawSource := []
  claims : List RawClaim := []
  observations : List RawObservation := []
  missingEvidence : List String := []
  coverageGaps : List String := []
  deriving Repr, DecidableEq

namespace RealResearcher

/-- The source type of a text; an unknown text stands for a secondary source. -/
def parseSourceType (text : String) : SourceType :=
  ([.primary, .secondary, .standard, .marketing, .internal].find?
    fun sourceType => SourceType.value sourceType = text).getD .secondary

/-- The quality of a text; an unknown text stands for an unknown quality. -/
def parseQuality (text : String) : SourceQuality :=
  ([.high, .medium, .low, .unknown].find?
    fun quality => SourceQuality.value quality = text).getD .unknown

/-- A source is named after its issue and its position. -/
def buildSource (issueId : String) (index : Nat) (raw : RawSource) : Source where
  id := "S-" ++ issueId ++ "-" ++ toString index
  title := raw.title.getD "(untitled)"
  url := raw.url
  sourceType := parseSourceType (raw.sourceType.getD "secondary")
  quality := parseQuality (raw.quality.getD "unknown")
  origin := "web"
  excerpt := raw.excerpt.getD ""

/-- The identifier under a position; `none` when there is no such source. -/
def refAt (sources : List Source) (index : Option Int) : Option String :=
  index.bind fun position =>
    if 0 ≤ position then
      sources[position.toNat]?.map Source.id
    else
      none

def buildClaim (sources : List Source) (raw : RawClaim) : Claim where
  claim := raw.claim
  sourceRefs := raw.sourceIndices.filterMap (refAt sources)
  confidence := raw.confidence
  notes := strip (orDefault raw.quote (raw.notes.getD ""))

def buildObservation
    (sources : List Source)
    (raw : RawObservation) : FieldObservation where
  field := raw.field
  value := raw.value
  sourceRef := (raw.sourceIndices.head?.bind (refAt sources)).getD ""
  quote := raw.quote
  confidence := raw.confidence

/-- The bundle of one research call; `none` when a confidence is out of range. -/
def buildBundle
    (raw : RawResearch)
    (title issueId : String)
    (criteria : List String) : Option EvidenceBundle :=
  let sources :=
    raw.sources.zipIdx.map fun (source, index) =>
      buildSource issueId index source
  { query := title
    issueId := some issueId
    claims := raw.claims.map (buildClaim sources)
    sources := sources
    missingEvidence := raw.missingEvidence
    coverageGaps := raw.coverageGaps
    observations :=
      (raw.observations.filter fun observation =>
        observation.field ∈ criteria).map (buildObservation sources)
    : EvidenceBundle }.modelValidate

end RealResearcher

/-! ## The internal researcher -/

/-- A section of a surveyed document; its fragment may be missing on disk. -/
structure SurveySection where
  sectionId : String
  title : Option String := none
  fragmentPath : String := ""
  pages : String := ""
  fragment : Option String := none
  deriving Repr, DecidableEq

/-- A surveyed document. -/
structure SurveyReference where
  referenceId : String
  title : Option String := none
  role : Option String := none
  sections : List SurveySection := []
  deriving Repr, DecidableEq

/-- A fragment that was generated from a page range of a document. -/
structure GeneratedFragment where
  referenceId : String
  title : String
  role : String
  fileName : String
  pages : String
  text : Option String
  deriving Repr, DecidableEq

namespace EvidenceMap

section Roles

variable [PythonText]

/-- The source type of the role of a document. -/
def roleToSourceType (role : Option String) : SourceType :=
  match role with
  | none => .secondary
  | some text =>
      let name := String.ofList (lowerChars (strip text))
      if name = "standard" ∨ name = "datasheet" then
        .standard
      else if name = "internal-research" then
        .internal
      else
        .secondary

end Roles

/-- The first line of prose of a fragment, shortened. -/
def verbatimQuote (text : String) : String :=
  let isProse (line : List Char) : Bool :=
    match line with
    | [] => false
    | c :: _ => c ≠ '#' && c ≠ '|'
  match ((splitlines text.toList).map stripChars).find? isProse with
  | some line =>
      String.ofList (stripChars (line.take ReferenceStore.quoteMaxChars))
  | none =>
      String.ofList
        ((stripChars text.toList).take ReferenceStore.quoteMaxChars)

/-- Where a fragment stands, with its pages if they are known. -/
def locator (path pages : String) : String :=
  if pages = "" then path else path ++ "#" ++ pages

/-- Internal sources are named after their issue and their document. -/
def sourceId (issueId : Option String) (suffix : String) : String :=
  "S-" ++ orDefault issueId "INT" ++ "-" ++ suffix

section Records

variable [PythonText]

/-- The source, the claims and the gaps of one section of a survey. -/
def recordFromSection
    (issueId : Option String)
    (reference : SurveyReference)
    (part : SurveySection) : Source × List Claim × List String :=
  let title := reference.title.getD reference.referenceId
  let heading := part.title.getD part.sectionId
  let source : Source :=
    { id :=
        sourceId issueId (reference.referenceId ++ "-" ++ part.sectionId)
      title := title ++ " — " ++ heading
      url := some (locator part.fragmentPath part.pages)
      sourceType := roleToSourceType reference.role
      origin := "internal" }
  match part.fragment with
  | none =>
      (source, [],
        ["fragment missing on disk: " ++
          orDefault (some part.fragmentPath) part.sectionId ++ " (ref " ++
          reference.referenceId ++ ")"])
  | some text =>
      let quote := verbatimQuote text
      (source,
        if quote = "" then
          []
        else
          [{ claim := heading ++ " (" ++ title ++ ")"
             sourceRefs := [source.id]
             notes := quote }],
        [])

/-- The source, the claims and the gaps of one generated fragment. -/
def recordFromFragment
    (issueId : Option String)
    (fragment : GeneratedFragment) : Source × List Claim × List String :=
  let source : Source :=
    { id := sourceId issueId fragment.referenceId
      title := fragment.title
      url := some (locator fragment.fileName fragment.pages)
      sourceType := roleToSourceType (some fragment.role)
      origin := "internal" }
  match fragment.text with
  | none =>
      (source, [],
        ["fragment not produced for " ++ fragment.referenceId ++ " pages " ++
          fragment.pages])
  | some text =>
      let quote := verbatimQuote text
      if quote = "" then
        (source, [],
          ["empty fragment for " ++ fragment.referenceId ++ " pages " ++
            fragment.pages])
      else
        (source,
          [{ claim := fragment.title ++ " (pages " ++ fragment.pages ++ ")"
             sourceRefs := [source.id]
             notes := quote }],
          [])

end Records

/-- A bundle out of the records of its sources. -/
def bundleOfRecords
    (query : String)
    (issueId : Option String)
    (gaps : List String)
    (version : String)
    (records : List (Source × List Claim × List String)) :
    EvidenceBundle where
  query := query
  issueId := issueId
  claims := records.flatMap fun record => record.2.1
  sources := records.map Prod.fst
  coverageGaps := gaps
  suggestedFollowups := ["provenance: paperwork v" ++ version]

end EvidenceMap

/-- What one page range of a document gave: a fragment, or a gap. -/
inductive GeneratedItem where
  | fragment (fragment : GeneratedFragment)
  | gap (text : String)
  deriving Repr, DecidableEq

/-- What the internal researcher found about an issue. -/
inductive InternalFinding where
  | survey (gaps : List String) (references : List SurveyReference)
      (version : String)
  | generated (items : List GeneratedItem) (version : String)
  | nothing (gaps missing : List String)
  deriving Repr, DecidableEq

section Producers

variable [PythonText]

/-- The bundle of the internal researcher. -/
def internalBundle
    (query : String)
    (issueId : Option String) : InternalFinding → EvidenceBundle
  | .survey gaps references version =>
      let records :=
        references.flatMap fun reference =>
          reference.sections.map
            (EvidenceMap.recordFromSection issueId reference)
      EvidenceMap.bundleOfRecords query issueId
        (gaps ++ records.flatMap fun record => record.2.2) version records
  | .generated items version =>
      EvidenceMap.bundleOfRecords query issueId
        (items.flatMap fun item =>
          match item with
          | .fragment fragment =>
              (EvidenceMap.recordFromFragment issueId fragment).2.2
          | .gap text => [text])
        version
        (items.filterMap fun item =>
          match item with
          | .fragment fragment =>
              some (EvidenceMap.recordFromFragment issueId fragment)
          | .gap _ => none)
  | .nothing gaps missing =>
      { query := query
        issueId := issueId
        coverageGaps := gaps
        missingEvidence := missing }

omit [PythonText] in
/-- Merge two bundles, the first one leading. -/
def mergeBundles (primary secondary : EvidenceBundle) : EvidenceBundle where
  query := orDefault (some primary.query) secondary.query
  issueId :=
    if isSet primary.issueId then primary.issueId else secondary.issueId
  sources := primary.sources ++ secondary.sources
  claims := primary.claims ++ secondary.claims
  contradictions := primary.contradictions ++ secondary.contradictions
  missingEvidence := primary.missingEvidence ++ secondary.missingEvidence
  suggestedFollowups :=
    primary.suggestedFollowups ++ secondary.suggestedFollowups
  coverageGaps := primary.coverageGaps ++ secondary.coverageGaps

/-- One production of evidence. -/
inductive Production where
  | web (raw : RawResearch) (title issueId : String)
      (criteria : List String)
  | internal (query : String) (issueId : Option String)
      (finding : InternalFinding)
  | both (raw : RawResearch) (title issueId : String)
      (criteria : List String) (finding : InternalFinding)
  | scan (converters : Converters) (folder : ReferenceFolder)

/-- The bundles that a production brings; `none` when it raises. -/
def broughtBundles (rs : ResearchState) :
    Production → Option (List EvidenceBundle)
  | .web raw title issueId criteria =>
      (RealResearcher.buildBundle raw title issueId criteria).map fun bundle =>
        [bundle]
  | .internal query issueId finding =>
      some [internalBundle query issueId finding]
  | .both raw title issueId criteria finding =>
      (RealResearcher.buildBundle raw title issueId criteria).map fun bundle =>
        [mergeBundles bundle (internalBundle title (some issueId) finding)]
  | .scan converters folder =>
      some
        ((ReferenceStore.scanReferenceFolder converters folder
          rs.processedReferences).result.getD [])

/-- Add the evidence of a production to the state. -/
def produce (rs : ResearchState) (production : Production) :
    Option ResearchState :=
  match production with
  | .scan converters folder => some (collectReferences converters folder rs)
  | _ =>
      (broughtBundles rs production).map fun bundles =>
        { rs with evidence := rs.evidence ++ bundles }

end Producers

end ResearchCos
