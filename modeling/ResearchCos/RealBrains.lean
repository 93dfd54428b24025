import ResearchCos.NodeBounds
import ResearchCos.RealAlbert
import ResearchCos.Retrieval

namespace ResearchCos

open Foundation

/-!
# Brains on top of models

Each brain asks a model once and maps what it returns.  The answers are of the
right type, but their integers are arbitrary: a brain that constructs a record
from them checks the bounds, and a brain that assigns a field does not.
-/

/-! ## The issues -/

/-- An issue as the model returns it. -/
structure RawIssue where
  title : String
  description : Option String := none
  issueType : String
  impact : Option Int := none
  confidence : Option Int := none
  deriving Repr, DecidableEq

def IssueType.value : IssueType → String
  | .rootQuestion => "root_question"
  | .intent => "intent"
  | .roi => "roi"
  | .risk => "risk"
  | .competitor => "competitor"
  | .internalData => "internal_data"
  | .technical => "technical"
  | .market => "market"

namespace RealIssueExpander

/-- The issue type of a text; an unknown text stands for a technical issue. -/
def parseIssueType (text : String) : IssueType :=
  ([.rootQuestion, .intent, .roi, .risk, .competitor, .internalData,
      .technical, .market].find?
    fun issueType => IssueType.value issueType = text).getD .technical

def draft (raw : RawIssue) : IssueDraft where
  title := raw.title
  description := raw.description.getD raw.title
  issueType := parseIssueType raw.issueType
  impact := raw.impact.getD 3
  confidence := raw.confidence.getD 1

/-- The issues that the model proposes; a filled map gets no more of them. -/
def expand
    (answer : Option (List RawIssue))
    (state : ResearchState) : Option (List IssueDraft) :=
  if state.issueMap.entries = [] then
    answer.map fun issues => issues.map draft
  else
    some []

end RealIssueExpander

/-! ## The source critic -/

/-- What the critic says about a source; a field may be left out. -/
structure RatedSource where
  id : Option String := none
  quality : Option String := none
  sourceType : Option String := none
  deriving Repr, DecidableEq

/-- What the critic says about a claim; an index that is no integer is `none`. -/
structure RatedClaim where
  index : Option Int := none
  confidence : Option Int := none
  notes : Option String := none
  deriving Repr, DecidableEq

structure RawCritique where
  sources : List RatedSource := []
  claims : List RatedClaim := []
  deriving Repr, DecidableEq

namespace RealSourceCritic

/-- Annotate a source; a text that is no known value changes nothing. -/
def annotate (rated : RatedSource) (source : Source) : Source :=
  let quality :=
    [.high, .medium, .low, .unknown].find? fun quality =>
      some (SourceQuality.value quality) = rated.quality
  let sourceType :=
    [.primary, .secondary, .standard, .marketing, .internal].find?
      fun sourceType => some (SourceType.value sourceType) = rated.sourceType
  { source with
    quality := quality.getD source.quality
    sourceType := sourceType.getD source.sourceType }

/-- Annotate the last source of the identifier. -/
def rateSource (sources : List Source) (rated : RatedSource) : List Source :=
  match sources.zipIdx.reverse.find? fun entry =>
      some entry.1.id = rated.id with
  | none => sources
  | some (_, position) => sources.modify position (annotate rated)

/-- Assign a rating to the claim at its index, if there is one. -/
def rateClaim (claims : List Claim) (rated : RatedClaim) : List Claim :=
  match rated.index with
  | none => claims
  | some index =>
      if 0 ≤ index then
        -- an assignment does not check the bounds of the field
        claims.modify index.toNat fun claim =>
          { claim with
            confidence := rated.confidence.getD claim.confidence
            notes := orDefault rated.notes claim.notes }
      else
        claims

/-- A rating concerns the claim at its index and no other one. -/
theorem getElem?_rateClaim
    (claims : List Claim)
    (rated : RatedClaim)
    (position : Nat) :
    (rateClaim claims rated)[position]? =
      claims[position]?.map fun claim =>
        if rated.index = some (position : Int) then
          { claim with
            confidence := rated.confidence.getD claim.confidence
            notes := orDefault rated.notes claim.notes }
        else
          claim := by
  simp only [rateClaim]
  cases isIndex : rated.index with
  | none =>
      simp
  | some index =>
      by_cases within : 0 ≤ index
      · simp only [within, if_true, List.getElem?_modify]
        have sameIndex :
            index.toNat = position ↔ some index = some (position : Int) := by
          rw [Option.some.injEq]
          omega
        by_cases here : index.toNat = position
        · simp [here, sameIndex.mp here]
        · simp [here, mt sameIndex.mpr here]
      · have elsewhere : ¬some index = some (position : Int) := by
          rw [Option.some.injEq]
          omega
        simp [within, elsewhere]

def review
    (answer : EvidenceBundle → Option RawCritique)
    (bundle : EvidenceBundle) : Option EvidenceBundle :=
  if bundle.sources = [] ∧ bundle.claims = [] then
    some bundle
  else
    (answer bundle).map fun critique =>
      { bundle with
        sources := critique.sources.foldl rateSource bundle.sources
        claims := critique.claims.foldl rateClaim bundle.claims }

end RealSourceCritic

/-! ## The compressor and the scorer -/

namespace RealCompressor

/-- Add the summary of the model to the follow-ups, if it is new. -/
def compress
    (answer : EvidenceBundle → Option String)
    (bundle : EvidenceBundle) : Option EvidenceBundle :=
  (answer bundle).map fun text =>
    let summary := strip text
    if summary ≠ "" ∧ summary ∉ bundle.suggestedFollowups then
      { bundle with
        suggestedFollowups := bundle.suggestedFollowups ++ [summary] }
    else
      bundle

end RealCompressor

namespace RealScorer

/-- Construct the score that the model returns, within its bounds. -/
def score (answer : Option ReadinessScore) : Option ReadinessScore :=
  answer.bind fun raw => if raw.Valid then some raw else none

end RealScorer

/-! ## The auditor -/

/-- The auditor is simulated by a model, or it is an external process. -/
inductive Auditor where
  | simulator (answer : Option Json)
  | real (albert : RealAlbert) (env : AlbertEnv)

def Auditor.audit
    (intOfText : String → Option Int)
    (state : ResearchState) : Auditor → Option AuditResult
  | .simulator answer => answer.bind (AlbertContract.toAudit intOfText)
  | .real albert env => (albert.audit env state).toOption.map Audited.result

/-! ## The researchers -/

/-- What one researcher meets: its search, its documents, the survey. -/
structure Findings where
  search : Option RawResearch := none
  documents : List (String × Option RawExtraction) := []
  internal : Option InternalFinding := none

section Research

variable [PythonText]

namespace RealResearcher

/--
Fetch the documents of a bundle one by one.  A call brings the text of its
document and what the model extracts from it; `none` is a call that raises.
-/
def escalate :
    List (String × Option RawExtraction) → Escalation → Option EvidenceBundle
  | [], escalation =>
      if escalation.status = .returned then some escalation.bundle else none
  | (text, extraction) :: later, escalation =>
      match escalation.status, escalation.todo with
      | .returned, _ => some escalation.bundle
      | .running, (position, source) :: rest =>
          escalate later
            ((FetchFanOut.begin escalation source).conclude position source
              rest text extraction)
      | _, _ => none

/-- The bundle of the researcher on the web. -/
def research
    (retrieval : RetrievalEnv)
    (findings : Findings)
    (proxy : ResearchState)
    (issueId : String) : Option EvidenceBundle :=
  findings.search.bind fun raw =>
    (buildBundle raw (userPrompt proxy issueId).1 issueId
        (cellCriteria proxy issueId)).bind fun searched =>
      escalate findings.documents (Escalation.start retrieval proxy searched)

end RealResearcher

namespace ResearchRouter

/-- The bundle of the researchers on the route of the issue. -/
def research
    (disk : SurveyDisk)
    (selected : ResearchSource)
    (retrieval : RetrievalEnv)
    (findings : Findings)
    (proxy : ResearchState)
    (issueId : String) : Option EvidenceBundle :=
  let web := RealResearcher.research retrieval findings proxy issueId
  let internal :=
    findings.internal.map
      (internalBundle (RealResearcher.userPrompt proxy issueId).1
        (some issueId))
  match routeForIssue disk proxy issueId selected with
  | .web => web
  | .internal => internal
  | .both =>
      web.bind fun primary =>
        internal.map fun secondary => mergeBundles primary secondary

end ResearchRouter

/-! ## All brains of a run -/

/-- What the models return in one step; `none` is a call that raises. -/
structure RealBrains where
  /-- The brains that return texts and identifiers only. -/
  texts : Brains
  issues : Option (List RawIssue)
  plan : Option (List (Option ProposedCell))
  disk : SurveyDisk
  source : ResearchSource
  retrieval : RetrievalEnv
  findings : String → Findings
  critique : EvidenceBundle → Option RawCritique
  summary : EvidenceBundle → Option String
  intOfText : String → Option Int
  auditor : Auditor
  deepAuditor : Auditor
  score : Option ReadinessScore

/-- The bundle of the researchers of an issue. -/
def RealBrains.research
    (real : RealBrains)
    (proxy : ResearchState)
    (issueId : String) : Option EvidenceBundle :=
  ResearchRouter.research real.disk real.source real.retrieval
    (real.findings issueId) proxy issueId

def RealBrains.brains (real : RealBrains) : Brains :=
  { real.texts with
    issueExpander := RealIssueExpander.expand real.issues
    researcher := real.research
    sourceCritic := RealSourceCritic.review real.critique
    compressor := RealCompressor.compress real.summary
    auditor := fun state => real.auditor.audit real.intOfText state
    deepAuditor :=
      some fun state => real.deepAuditor.audit real.intOfText state
    scorer := fun _ => RealScorer.score real.score
    orchestrator := some (RealOrchestrator.plan fun _ => real.plan) }

/-! ## Bundles that are researched -/

omit [PythonText] in
/-- The bounds concern the claims and the observations only. -/
theorem EvidenceBundle.Valid.congr
    {before after : EvidenceBundle}
    (valid : before.Valid)
    (sameClaims : after.claims = before.claims)
    (sameObservations : after.observations = before.observations) :
    after.Valid := by
  rw [EvidenceBundle.Valid, sameClaims, sameObservations]
  exact valid

omit [PythonText] in
/-- Between two calls a bundle stays within its bounds. -/
theorem Escalation.KeepsRecord.valid
    {before after : Escalation}
    (keeps : KeepsRecord before after)
    (valid : before.bundle.Valid) :
    after.bundle.Valid :=
  valid.congr keeps.claims keeps.observations

omit [PythonText] in
/-- An extraction constructs its claims and observations within the bounds. -/
theorem extractFromText_valid
    {sourceId : String}
    {criteria : List String}
    {extraction : Option RawExtraction}
    {claims : List Claim}
    {observations : List FieldObservation}
    (extracted :
      Escalation.extractFromText sourceId criteria extraction =
        some (claims, observations)) :
    (∀ claim ∈ claims, InRange claim.confidence) ∧
      ∀ observation ∈ observations, InRange observation.confidence := by
  obtain ⟨raw, _, checked⟩ := Option.bind_eq_some_iff.mp extracted
  dsimp only at checked
  split at checked
  · rename_i inRange
    cases checked
    exact inRange
  · cases checked

/-- A call adds to a bundle what is within the bounds, or nothing. -/
theorem conclude_valid
    {escalation : Escalation}
    (valid : escalation.bundle.Valid)
    (position : Nat)
    (source : Source)
    (rest : List (Nat × Source))
    (text : String)
    (extraction : Option RawExtraction) :
    (escalation.conclude position source rest text extraction).bundle.Valid := by
  simp only [Escalation.conclude]
  split
  · exact (Escalation.afterCall_keeps _ rest).valid valid
  · split
    · exact valid
    · rename_i claims observations extracted
      obtain ⟨claimsInRange, observationsInRange⟩ :=
        extractFromText_valid extracted
      refine (Escalation.afterCall_keeps _ rest).valid ?_
      exact
        ⟨List.forall_mem_append.mpr ⟨valid.1, claimsInRange⟩,
          List.forall_mem_append.mpr ⟨valid.2, observationsInRange⟩⟩

theorem escalate_valid
    {documents : List (String × Option RawExtraction)}
    {escalation : Escalation}
    {bundle : EvidenceBundle}
    (valid : escalation.bundle.Valid)
    (escalated : RealResearcher.escalate documents escalation = some bundle) :
    bundle.Valid := by
  induction documents generalizing escalation with
  | nil =>
      simp only [RealResearcher.escalate] at escalated
      split at escalated
      · cases escalated
        exact valid
      · cases escalated
  | cons call later inductionHypothesis =>
      simp only [RealResearcher.escalate] at escalated
      split at escalated
      · cases escalated
        exact valid
      · rename_i position source rest _ _
        have begun : (FetchFanOut.begin escalation source).bundle.Valid := valid
        exact
          inductionHypothesis (conclude_valid begun position source rest _ _)
            escalated
      · cases escalated

/-- The researcher on the web returns bundles within the bounds. -/
theorem webResearch_valid
    {retrieval : RetrievalEnv}
    {findings : Findings}
    {proxy : ResearchState}
    {issueId : String}
    {bundle : EvidenceBundle}
    (researched :
      RealResearcher.research retrieval findings proxy issueId =
        some bundle) :
    bundle.Valid := by
  obtain ⟨raw, _, builds⟩ := Option.bind_eq_some_iff.mp researched
  obtain ⟨searched, isSearched, escalated⟩ := Option.bind_eq_some_iff.mp builds
  obtain ⟨rfl, valid⟩ := EvidenceBundle.modelValidate_eq_some isSearched
  exact
    escalate_valid ((Escalation.nextRound_keeps _).valid valid) escalated

omit [PythonText] in
/-- Records whose claims are not rated make a bundle within the bounds. -/
theorem bundleOfRecords_valid
    {records : List (Source × List Claim × List String)}
    (unrated :
      ∀ record ∈ records, ∀ claim ∈ record.2.1, claim.confidence = 0)
    (query : String)
    (issueId : Option String)
    (gaps : List String)
    (version : String) :
    (EvidenceMap.bundleOfRecords query issueId gaps version records).Valid := by
  refine ⟨?_, fun _ member => nomatch member⟩
  intro claim member
  obtain ⟨record, isRecord, inRecord⟩ := List.mem_flatMap.mp member
  rw [unrated record isRecord claim inRecord]
  decide

/-- The internal researcher leaves every confidence at its default. -/
theorem internalBundle_valid
    (query : String)
    (issueId : Option String)
    (finding : InternalFinding) :
    (internalBundle query issueId finding).Valid := by
  cases finding with
  | survey gaps references version =>
      refine bundleOfRecords_valid ?_ _ _ _ _
      intro record isRecord claim member
      obtain ⟨reference, _, inReference⟩ := List.mem_flatMap.mp isRecord
      obtain ⟨part, _, rfl⟩ := List.mem_map.mp inReference
      simp only [EvidenceMap.recordFromSection] at member
      repeat' split at member
      all_goals first
        | cases member
          done
        | rw [List.mem_singleton.mp member]
  | generated items version =>
      refine bundleOfRecords_valid ?_ _ _ _ _
      intro record isRecord claim member
      obtain ⟨item, _, isFragment⟩ := List.mem_filterMap.mp isRecord
      cases item with
      | gap text =>
          cases isFragment
      | fragment fragment =>
          cases isFragment
          simp only [EvidenceMap.recordFromFragment] at member
          repeat' split at member
          all_goals first
            | cases member
              done
            | rw [List.mem_singleton.mp member]
  | nothing gaps missing =>
      exact ⟨by simp [internalBundle], by simp [internalBundle]⟩

omit [PythonText] in
theorem mergeBundles_valid
    {primary secondary : EvidenceBundle}
    (primaryValid : primary.Valid)
    (secondaryValid : secondary.Valid) :
    (mergeBundles primary secondary).Valid :=
  ⟨List.forall_mem_append.mpr ⟨primaryValid.1, secondaryValid.1⟩,
    fun _ member => nomatch member⟩

/-- Whatever the models return, a researched bundle is within its bounds. -/
theorem RealBrains.research_valid
    {real : RealBrains}
    {proxy : ResearchState}
    {issueId : String}
    {bundle : EvidenceBundle}
    (researched : real.research proxy issueId = some bundle) :
    bundle.Valid := by
  simp only [RealBrains.research, ResearchRouter.research] at researched
  split at researched
  · exact webResearch_valid researched
  · obtain ⟨finding, _, rfl⟩ := Option.map_eq_some_iff.mp researched
    exact internalBundle_valid _ _ finding
  · obtain ⟨primary, isPrimary, merges⟩ :=
      Option.bind_eq_some_iff.mp researched
    obtain ⟨secondary, isSecondary, rfl⟩ := Option.map_eq_some_iff.mp merges
    obtain ⟨finding, _, rfl⟩ := Option.map_eq_some_iff.mp isSecondary
    exact
      mergeBundles_valid (webResearch_valid isPrimary)
        (internalBundle_valid _ _ finding)

end Research

end ResearchCos
