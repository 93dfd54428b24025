import ResearchCos.FieldBounds
import ResearchCos.Foundation.Formats
import ResearchCos.RealBrains
import ResearchCos.SotBrief

namespace ResearchCos

open Foundation

/-!
# The records as documents

Every record is dumped as a dictionary of its fields and is validated field by
field when it is read: a missing field has its default or is refused, a number
may be given as a text, and a rating is checked.  Fields outside a record are
passed over.

Fields of a record that no part of the model reads, such as `axes` and `tools`,
are left out.  The program checks their types, so a document is taken here to
hold values of the right type in them.
-/

/-- How a text is read where a number or a flag is expected. -/
structure TextTables where
  intOfText : String → Option Int
  flagOfText : String → Option Bool

namespace Json

def asItems : Json → Option (List Json)
  | .list items => some items
  | _ => none

def asFields : Json → Option (List (String × Json))
  | .dict fields => some fields
  | _ => none

def isNull : Json → Bool
  | .null => true
  | _ => false

/-- A value that is validated as a flag. -/
def asFlag (flagOfText : String → Option Bool) : Json → Option Bool
  | .bool flag => some flag
  | .int value =>
      if value = 0 then
        some false
      else if value = 1 then
        some true
      else
        none
  | .float (some value) =>
      if value = 0 then
        some false
      else if value = 1 then
        some true
      else
        none
  | .text content => flagOfText content
  | _ => none

end Json

/-! ## Values of enumerations -/

def Mode.value : Mode → String
  | .interactive => "interactive"
  | .auto => "auto"

def IssueStatus.value : IssueStatus → String
  | .open => "open"
  | .researching => "researching"
  | .partiallyAnswered => "partially_answered"
  | .lowConfidence => "low_confidence"
  | .answered => "answered"
  | .blockedByHuman => "blocked_by_human"
  | .blockedByInternalData => "blocked_by_internal_data"
  | .blockedByPermission => "blocked_by_permission"
  | .blockedByDecision => "blocked_by_decision"

def HumanTaskStatus.value : HumanTaskStatus → String
  | .open => "open"
  | .inProgress => "in_progress"
  | .done => "done"
  | .cancelled => "cancelled"

def Decision.value : Decision → String
  | .continueResearch => "continue_research"
  | .branch => "branch"
  | .rerank => "rerank"
  | .pullHuman => "pull_human"
  | .pushHuman => "push_human"
  | .synthesize => "synthesize"
  | .pause => "pause"
  | .terminalStop => "terminal_stop"

def Classification.value : Classification → String
  | .addressable => "addressable"
  | .residual => "residual"

def AuditVerdict.value : AuditVerdict → String
  | .continue_ => "continue"
  | .exhausted => "exhausted"
  | .rework => "rework"

def Risk.value : Risk → String
  | .low => "low"
  | .med => "med"
  | .high => "high"

/-! ## Texts, numbers, enumerations -/

def textFormat : Format Json String :=
  .unchecked .text Json.asText fun _ => rfl

def integerFormat (tables : TextTables) : Format Json Int :=
  .unchecked .int (SOTBrief.asInteger tables.intOfText) fun _ => rfl

def flagFormat (tables : TextTables) : Format Json Bool :=
  .unchecked .bool (Json.asFlag tables.flagOfText) fun _ => rfl

/-- A number between 0 and 5. -/
def ratingFormat (tables : TextTables) : Format Json Int :=
  (integerFormat tables).checked InRange

/-- Counts are numbers that are never negative. -/
def countFormat (tables : TextTables) : Format Json Nat :=
  .unchecked (fun count => .int count)
    (fun document =>
      (SOTBrief.asInteger tables.intOfText document).bind Int.toNat?)
    fun _ => rfl

/-- An enumeration by the values of its members. -/
def enumeration
    {α : Type}
    (members : List α)
    (value : α → String)
    (named :
      ∀ member,
        members.find? (fun other => value other = value member) =
          some member) : Format Json α :=
  .unchecked (fun member => .text (value member))
    (fun document =>
      document.asText.bind fun content =>
        members.find? fun other => value other = content)
    named

def listOf {α : Type} (format : Format Json α) : Format Json (List α) :=
  format.list .list Json.asItems fun _ => rfl

def dictOf {α : Type} (format : Format Json α) :
    Format Json (OrderedMap String α) :=
  format.dictionary .dict Json.asFields fun _ => rfl

/-- A value or `null`, for values that are not written as `null`. -/
def optionalOf
    {α : Type}
    (format : Format Json α)
    (isValue :
      ∀ {document value}, format.Carries document value →
        document.isNull = false) : Format Json (Option α) :=
  format.optional .null Json.isNull rfl isValue

def memberOrNull
    {α : Type}
    (members : List α)
    (value : α → String)
    (named :
      ∀ member,
        members.find? (fun other => value other = value member) =
          some member) : Format Json (Option α) :=
  optionalOf (enumeration members value named) (by rintro _ _ rfl; rfl)

def recordOf
    {α β : Type}
    (fields : Fields Json β)
    (shape : α → β)
    (unshape : β → α)
    (unshape_shape : ∀ value, unshape (shape value) = value)
    (shape_unshape : ∀ value, shape (unshape value) = value) :
    Format Json α :=
  (Format.record fields .dict Json.asFields fun _ => rfl).reshaped shape
    unshape unshape_shape shape_unshape

def optionalText : Format Json (Option String) :=
  optionalOf textFormat (by rintro _ _ rfl; rfl)

def textsFormat : Format Json (List String) :=
  listOf textFormat

/-! ## What is valid -/

section Validity

variable {α β : Type}

@[simp] theorem textFormat_valid
    (content : String) :
    textFormat.Valid content :=
  trivial

@[simp] theorem integerFormat_valid
    (tables : TextTables)
    (value : Int) :
    (integerFormat tables).Valid value :=
  trivial

@[simp] theorem flagFormat_valid
    (tables : TextTables)
    (flag : Bool) :
    (flagFormat tables).Valid flag :=
  trivial

@[simp] theorem countFormat_valid
    (tables : TextTables)
    (count : Nat) :
    (countFormat tables).Valid count :=
  trivial

@[simp] theorem ratingFormat_valid_iff
    {tables : TextTables}
    {rating : Int} :
    (ratingFormat tables).Valid rating ↔ InRange rating :=
  and_iff_right trivial

@[simp] theorem enumeration_valid
    {members : List α}
    {value : α → String}
    {named :
      ∀ member,
        members.find? (fun other => value other = value member) =
          some member}
    (member : α) :
    (enumeration members value named).Valid member :=
  trivial

@[simp] theorem memberOrNull_valid
    {members : List α}
    {value : α → String}
    {named :
      ∀ member,
        members.find? (fun other => value other = value member) =
          some member}
    (stored : Option α) :
    (memberOrNull members value named).Valid stored :=
  fun member _ => enumeration_valid member

@[simp] theorem listOf_valid_iff
    {format : Format Json α}
    {values : List α} :
    (listOf format).Valid values ↔ ∀ value ∈ values, format.Valid value :=
  Iff.rfl

@[simp] theorem dictOf_valid_iff
    {format : Format Json α}
    {map : OrderedMap String α} :
    (dictOf format).Valid map ↔ OrderedMap.AllValues format.Valid map :=
  Iff.rfl

@[simp] theorem optionalOf_valid_iff
    {format : Format Json α}
    {isValue :
      ∀ {document value}, format.Carries document value →
        document.isNull = false}
    {value : Option α} :
    (optionalOf format isValue).Valid value ↔
      ∀ stored ∈ value, format.Valid stored :=
  Iff.rfl

@[simp] theorem recordOf_valid_iff
    {fields : Fields Json β}
    {shape : α → β}
    {unshape : β → α}
    {unshape_shape : ∀ value, unshape (shape value) = value}
    {shape_unshape : ∀ value, shape (unshape value) = value}
    {value : α} :
    (recordOf fields shape unshape unshape_shape shape_unshape).Valid value ↔
      fields.Valid (shape value) :=
  Iff.rfl

theorem listOf_valid_nil
    (format : Format Json α) :
    (listOf format).Valid [] := by
  rintro _ ⟨⟩

theorem dictOf_valid_empty
    (format : Format Json α) :
    (dictOf format).Valid ∅ :=
  OrderedMap.allValues_empty _

@[simp] theorem optionalText_valid
    (value : Option String) :
    optionalText.Valid value :=
  fun stored _ => textFormat_valid stored

@[simp] theorem textsFormat_valid
    (values : List String) :
    textsFormat.Valid values :=
  fun value _ => textFormat_valid value

end Validity

/-! ## Fields -/

section Fields

variable {α β : Type}

@[simp] theorem names_nil :
    (Fields.nil : Fields Json Unit).names = [] :=
  rfl

/-- A field that has no default. -/
def required
    (name : String)
    (format : Format Json α)
    (rest : Fields Json β)
    (fresh : name ∉ rest.names := by simp) :
    Fields Json (α × β) :=
  .cons name format none rest fresh (by rintro _ ⟨⟩)

@[simp] theorem names_required
    {name : String}
    {format : Format Json α}
    {rest : Fields Json β}
    {fresh : name ∉ rest.names} :
    (required name format rest fresh).names = name :: rest.names :=
  rfl

/-- A field that has a default. -/
def defaulted
    (name : String)
    (format : Format Json α)
    (fallback : α)
    (fallbackValid : format.Valid fallback)
    (rest : Fields Json β)
    (fresh : name ∉ rest.names := by simp) :
    Fields Json (α × β) :=
  .cons name format (some fallback) rest fresh
    (by rintro _ ⟨⟩; exact fallbackValid)

@[simp] theorem names_defaulted
    {name : String}
    {format : Format Json α}
    {fallback : α}
    {fallbackValid : format.Valid fallback}
    {rest : Fields Json β}
    {fresh : name ∉ rest.names} :
    (defaulted name format fallback fallbackValid rest fresh).names =
      name :: rest.names :=
  rfl

/-- A text that is empty by default. -/
def textField
    (name : String)
    (rest : Fields Json β)
    (fresh : name ∉ rest.names := by simp) :
    Fields Json (String × β) :=
  defaulted name textFormat "" (textFormat_valid _) rest fresh

@[simp] theorem names_textField
    {name : String}
    {rest : Fields Json β}
    {fresh : name ∉ rest.names} :
    (textField name rest fresh).names = name :: rest.names :=
  rfl

/-- Texts of which there are none by default. -/
def textsField
    (name : String)
    (rest : Fields Json β)
    (fresh : name ∉ rest.names := by simp) :
    Fields Json (List String × β) :=
  defaulted name textsFormat [] (textsFormat_valid _) rest fresh

@[simp] theorem names_textsField
    {name : String}
    {rest : Fields Json β}
    {fresh : name ∉ rest.names} :
    (textsField name rest fresh).names = name :: rest.names :=
  rfl

/-- A text that is missing by default. -/
def optionalTextField
    (name : String)
    (rest : Fields Json β)
    (fresh : name ∉ rest.names := by simp) :
    Fields Json (Option String × β) :=
  defaulted name optionalText none (optionalText_valid _) rest fresh

@[simp] theorem names_optionalTextField
    {name : String}
    {rest : Fields Json β}
    {fresh : name ∉ rest.names} :
    (optionalTextField name rest fresh).names = name :: rest.names :=
  rfl

end Fields

section FieldValidity

variable
  {α β : Type}
  {name : String}
  {rest : Fields Json β}
  {fresh : name ∉ rest.names}

@[simp] theorem required_valid_iff
    {format : Format Json α}
    {value : α × β} :
    (required name format rest fresh).Valid value ↔
      format.Valid value.1 ∧ rest.Valid value.2 :=
  Iff.rfl

@[simp] theorem defaulted_valid_iff
    {format : Format Json α}
    {fallback : α}
    {fallbackValid : format.Valid fallback}
    {value : α × β} :
    (defaulted name format fallback fallbackValid rest fresh).Valid value ↔
      format.Valid value.1 ∧ rest.Valid value.2 :=
  Iff.rfl

@[simp] theorem textField_valid_iff
    {value : String × β} :
    (textField name rest fresh).Valid value ↔ rest.Valid value.2 :=
  and_iff_right (textFormat_valid _)

@[simp] theorem textsField_valid_iff
    {value : List String × β} :
    (textsField name rest fresh).Valid value ↔ rest.Valid value.2 :=
  and_iff_right (textsFormat_valid _)

@[simp] theorem optionalTextField_valid_iff
    {value : Option String × β} :
    (optionalTextField name rest fresh).Valid value ↔ rest.Valid value.2 :=
  and_iff_right (optionalText_valid _)

@[simp] theorem nil_valid
    (value : Unit) :
    (Fields.nil : Fields Json Unit).Valid value :=
  trivial

end FieldValidity

/-! ## Evidence -/

abbrev sourceTypeFormat : Format Json SourceType :=
  enumeration [.primary, .secondary, .standard, .marketing, .internal]
    SourceType.value (by intro member; cases member <;> decide)

abbrev sourceQualityFormat : Format Json SourceQuality :=
  enumeration [.high, .medium, .low, .unknown] SourceQuality.value
    (by intro member; cases member <;> decide)

section Records

variable (tables : TextTables)

def sourceFormat : Format Json Source :=
  recordOf
    (required "id" textFormat <|
      required "title" textFormat <|
      optionalTextField "url" <|
      defaulted "source_type" sourceTypeFormat .secondary
        (enumeration_valid _) <|
      defaulted "quality" sourceQualityFormat .unknown
        (enumeration_valid _) <|
      defaulted "origin" textFormat "web" (textFormat_valid _) <|
      textField "excerpt" .nil)
    (fun source =>
      (source.id, source.title, source.url, source.sourceType,
        source.quality, source.origin, source.excerpt, ()))
    (fun (id, title, url, sourceType, quality, origin, excerpt, _) =>
      { id, title, url, sourceType, quality, origin, excerpt })
    (fun _ => rfl) (fun _ => rfl)

def claimFormat : Format Json Claim :=
  recordOf
    (required "claim" textFormat <|
      textsField "source_refs" <|
      defaulted "confidence" (ratingFormat tables) 0
        (ratingFormat_valid_iff.mpr (by decide)) <|
      textField "notes" .nil)
    (fun claim =>
      (claim.claim, claim.sourceRefs, claim.confidence, claim.notes, ()))
    (fun (claim, sourceRefs, confidence, notes, _) =>
      { claim, sourceRefs, confidence, notes })
    (fun _ => rfl) (fun _ => rfl)

def observationFormat : Format Json FieldObservation :=
  recordOf
    (required "field" textFormat <|
      required "value" textFormat <|
      textField "source_ref" <|
      textField "quote" <|
      defaulted "confidence" (ratingFormat tables) 0
        (ratingFormat_valid_iff.mpr (by decide)) .nil)
    (fun observation =>
      (observation.field, observation.value, observation.sourceRef,
        observation.quote, observation.confidence, ()))
    (fun (field, value, sourceRef, quote, confidence, _) =>
      { field, value, sourceRef, quote, confidence })
    (fun _ => rfl) (fun _ => rfl)

def bundleFormat : Format Json EvidenceBundle :=
  recordOf
    (required "query" textFormat <|
      optionalTextField "issue_id" <|
      defaulted "claims" (listOf (claimFormat tables)) []
        (listOf_valid_nil _) <|
      defaulted "sources" (listOf sourceFormat) [] (listOf_valid_nil _) <|
      textsField "contradictions" <|
      textsField "missing_evidence" <|
      textsField "suggested_followups" <|
      textsField "coverage_gaps" <|
      defaulted "observations" (listOf (observationFormat tables)) []
        (listOf_valid_nil _) <|
      defaulted "public_exhausted" (flagFormat tables) false
        (flagFormat_valid _ _) .nil)
    (fun bundle =>
      (bundle.query, bundle.issueId, bundle.claims, bundle.sources,
        bundle.contradictions, bundle.missingEvidence,
        bundle.suggestedFollowups, bundle.coverageGaps, bundle.observations,
        bundle.publicExhausted, ()))
    (fun (query, issueId, claims, sources, contradictions, missingEvidence,
        suggestedFollowups, coverageGaps, observations, publicExhausted, _) =>
      { query, issueId, claims, sources, contradictions, missingEvidence,
        suggestedFollowups, coverageGaps, observations, publicExhausted })
    (fun _ => rfl) (fun _ => rfl)

@[simp] theorem sourceFormat_valid
    (source : Source) :
    sourceFormat.Valid source := by
  simp [sourceFormat, sourceTypeFormat, sourceQualityFormat]

@[simp] theorem claimFormat_valid_iff
    {tables : TextTables}
    {claim : Claim} :
    (claimFormat tables).Valid claim ↔ InRange claim.confidence := by
  simp [claimFormat]

@[simp] theorem observationFormat_valid_iff
    {tables : TextTables}
    {observation : FieldObservation} :
    (observationFormat tables).Valid observation ↔
      InRange observation.confidence := by
  simp [observationFormat]

@[simp] theorem bundleFormat_valid_iff
    {tables : TextTables}
    {bundle : EvidenceBundle} :
    (bundleFormat tables).Valid bundle ↔ bundle.Valid := by
  simp [bundleFormat, EvidenceBundle.Valid]

/-! ## Issues, challenges and tasks -/

abbrev issueTypeFormat : Format Json IssueType :=
  enumeration
    [.rootQuestion, .intent, .roi, .risk, .competitor, .internalData,
      .technical, .market]
    IssueType.value (by intro member; cases member <;> decide)

abbrev issueStatusFormat : Format Json IssueStatus :=
  enumeration
    [.open, .researching, .partiallyAnswered, .lowConfidence, .answered,
      .blockedByHuman, .blockedByInternalData, .blockedByPermission,
      .blockedByDecision]
    IssueStatus.value (by intro member; cases member <;> decide)

abbrev challengeStatusFormat : Format Json ChallengeStatus :=
  enumeration
    [.open, .answered, .resolved, .escalatedToHuman, .needsInternalData,
      .needsAlbertDecision, .needsBuJudgment]
    ChallengeStatus.value (by intro member; cases member <;> decide)

abbrev optionalClassification : Format Json (Option Classification) :=
  memberOrNull [.addressable, .residual] Classification.value
    (by intro member; cases member <;> decide)

abbrev taskStatusFormat : Format Json HumanTaskStatus :=
  enumeration [.open, .inProgress, .done, .cancelled] HumanTaskStatus.value
    (by intro member; cases member <;> decide)

def issueFormat : Format Json IssueNode :=
  recordOf
    (required "id" textFormat <|
      required "title" textFormat <|
      required "description" textFormat <|
      required "issue_type" issueTypeFormat <|
      required "status" issueStatusFormat <|
      required "impact" (ratingFormat tables) <|
      required "confidence" (ratingFormat tables) <|
      textsField "evidence_refs" <|
      textsField "unknowns" <|
      textsField "counterarguments" <|
      textsField "human_blockers" <|
      optionalTextField "last_updated" <|
      optionalTextField "last_audited" .nil)
    (fun issue =>
      (issue.id, issue.title, issue.description, issue.issueType,
        issue.status, issue.impact, issue.confidence, issue.evidenceRefs,
        issue.unknowns, issue.counterarguments, issue.humanBlockers,
        issue.lastUpdated, issue.lastAudited, ()))
    (fun (id, title, description, issueType, status, impact, confidence,
        evidenceRefs, unknowns, counterarguments, humanBlockers, lastUpdated,
        lastAudited, _) =>
      { id, title, description, issueType, status, impact, confidence,
        evidenceRefs, unknowns, counterarguments, humanBlockers, lastUpdated,
        lastAudited })
    (fun _ => rfl) (fun _ => rfl)

def challengeFormat : Format Json AlbertChallenge :=
  recordOf
    (required "id" textFormat <|
      required "challenge" textFormat <|
      optionalTextField "issue_id" <|
      textField "why_albert_would_ask" <|
      textField "current_answer" <|
      defaulted "status" challengeStatusFormat .open (enumeration_valid _) <|
      defaulted "confidence" (ratingFormat tables) 0
        (ratingFormat_valid_iff.mpr (by decide)) <|
      textsField "evidence_refs" <|
      optionalTextField "blocking_owner" <|
      defaulted "classification" optionalClassification none
        (memberOrNull_valid _) <|
      defaulted "rounds_seen" (integerFormat tables) 0
        (integerFormat_valid _ _) .nil)
    (fun known =>
      (known.id, known.challenge, known.issueId, known.whyAlbertWouldAsk,
        known.currentAnswer, known.status, known.confidence,
        known.evidenceRefs, known.blockingOwner, known.classification,
        known.roundsSeen, ()))
    (fun (id, challenge, issueId, whyAlbertWouldAsk, currentAnswer, status,
        confidence, evidenceRefs, blockingOwner, classification, roundsSeen,
        _) =>
      { id, challenge, issueId, whyAlbertWouldAsk, currentAnswer, status,
        confidence, evidenceRefs, blockingOwner, classification, roundsSeen })
    (fun _ => rfl) (fun _ => rfl)

def humanTaskFormat : Format Json HumanTask :=
  recordOf
    (required "id" textFormat <|
      required "task_title" textFormat <|
      optionalTextField "owner" <|
      textField "requested_input" <|
      textField "why_needed" <|
      textField "blocking_question" <|
      defaulted "priority" (ratingFormat tables) 3
        (ratingFormat_valid_iff.mpr (by decide)) <|
      defaulted "can_continue_without_it" (flagFormat tables) true
        (flagFormat_valid _ _) <|
      textField "fallback_plan" <|
      defaulted "status" taskStatusFormat .open (enumeration_valid _) .nil)
    (fun task =>
      (task.id, task.taskTitle, task.owner, task.requestedInput,
        task.whyNeeded, task.blockingQuestion, task.priority,
        task.canContinueWithoutIt, task.fallbackPlan, task.status, ()))
    (fun (id, taskTitle, owner, requestedInput, whyNeeded, blockingQuestion,
        priority, canContinueWithoutIt, fallbackPlan, status, _) =>
      { id, taskTitle, owner, requestedInput, whyNeeded, blockingQuestion,
        priority, canContinueWithoutIt, fallbackPlan, status })
    (fun _ => rfl) (fun _ => rfl)

@[simp] theorem issueFormat_valid_iff
    {tables : TextTables}
    {issue : IssueNode} :
    (issueFormat tables).Valid issue ↔ issue.Valid := by
  simp [issueFormat, IssueNode.Valid]

@[simp] theorem challengeFormat_valid_iff
    {tables : TextTables}
    {known : AlbertChallenge} :
    (challengeFormat tables).Valid known ↔ known.Valid := by
  simp [challengeFormat, AlbertChallenge.Valid]

@[simp] theorem humanTaskFormat_valid_iff
    {tables : TextTables}
    {task : HumanTask} :
    (humanTaskFormat tables).Valid task ↔ task.Valid := by
  simp [humanTaskFormat, HumanTask.Valid]

/-! ## The grid, the score and the audit -/

abbrev cellStatusFormat : Format Json CellStatus :=
  enumeration [.open, .partiallyCovered, .covered, .blocked, .na]
    CellStatus.value (by intro member; cases member <;> decide)

abbrev optionalCellStatus : Format Json (Option CellStatus) :=
  memberOrNull [.open, .partiallyCovered, .covered, .blocked, .na]
    CellStatus.value (by intro member; cases member <;> decide)

abbrev verdictFormat : Format Json AuditVerdict :=
  enumeration [.continue_, .exhausted, .rework] AuditVerdict.value
    (by intro member; cases member <;> decide)

abbrev riskFormat : Format Json Risk :=
  enumeration [.low, .med, .high] Risk.value
    (by intro member; cases member <;> decide)

abbrev optionalDecision : Format Json (Option Decision) :=
  memberOrNull
    [.continueResearch, .branch, .rerank, .pullHuman, .pushHuman, .synthesize,
      .pause, .terminalStop]
    Decision.value (by intro member; cases member <;> decide)

def cellFormat : Format Json TaskCell :=
  recordOf
    (required "id" textFormat <|
      required "vendor" textFormat <|
      required "spec_group" textFormat <|
      required "objective" textFormat <|
      textsField "success_criteria" <|
      defaulted "status" cellStatusFormat .open (enumeration_valid _) <|
      defaulted "impact" (integerFormat tables) 3 (integerFormat_valid _ _) <|
      defaulted "last_status" optionalCellStatus none
        (memberOrNull_valid _) <|
      defaulted "last_filled" (countFormat tables) 0 (countFormat_valid _ _) <|
      defaulted "stalled_cycles" (integerFormat tables) 0
        (integerFormat_valid _ _) .nil)
    (fun cell =>
      (cell.id, cell.vendor, cell.specGroup, cell.objective,
        cell.successCriteria, cell.status, cell.impact, cell.lastStatus,
        cell.lastFilled, cell.stalledCycles, ()))
    (fun (id, vendor, specGroup, objective, successCriteria, status, impact,
        lastStatus, lastFilled, stalledCycles, _) =>
      { id, vendor, specGroup, objective, successCriteria, status, impact,
        lastStatus, lastFilled, stalledCycles })
    (fun _ => rfl) (fun _ => rfl)

def gridFormat : Format Json TaskGrid :=
  recordOf
    (defaulted "cells" (dictOf (cellFormat tables)) ∅ (dictOf_valid_empty _)
      .nil)
    (fun grid => (grid.cells, ()))
    (fun (cells, _) => { cells })
    (fun _ => rfl) (fun _ => rfl)

def scoreFormat : Format Json ReadinessScore :=
  recordOf
    (required "albert_challenge_readiness" (ratingFormat tables) <|
      required "decision_readiness" (ratingFormat tables) <|
      required "research_exhaustion_readiness" (ratingFormat tables) <|
      required "human_bottleneck_clarity" (ratingFormat tables) .nil)
    (fun score =>
      (score.albertChallengeReadiness, score.decisionReadiness,
        score.researchExhaustionReadiness, score.humanBottleneckClarity, ()))
    (fun (albertChallengeReadiness, decisionReadiness,
        researchExhaustionReadiness, humanBottleneckClarity, _) =>
      { albertChallengeReadiness, decisionReadiness,
        researchExhaustionReadiness, humanBottleneckClarity })
    (fun _ => rfl) (fun _ => rfl)

def auditFormat : Format Json AuditResult :=
  recordOf
    (required "verdict" verdictFormat <|
      defaulted "challenges" (listOf (challengeFormat tables)) []
        (listOf_valid_nil _) <|
      defaulted "premature_end_risk" riskFormat .low (enumeration_valid _) <|
      defaulted "research_drift_risk" riskFormat .low
        (enumeration_valid _) <|
      defaulted "recommended_next_action" optionalDecision none
        (memberOrNull_valid _) <|
      textField "rationale" <|
      textsField "questions_albert_would_ask_next" <|
      defaulted "degraded" (flagFormat tables) false (flagFormat_valid _ _)
        .nil)
    (fun audit =>
      (audit.verdict, audit.challenges, audit.prematureEndRisk,
        audit.researchDriftRisk, audit.recommendedNextAction,
        audit.rationale, audit.questionsAlbertWouldAskNext, audit.degraded,
        ()))
    (fun (verdict, challenges, prematureEndRisk, researchDriftRisk,
        recommendedNextAction, rationale, questionsAlbertWouldAskNext,
        degraded, _) =>
      { verdict, challenges, prematureEndRisk, researchDriftRisk,
        recommendedNextAction, rationale, questionsAlbertWouldAskNext,
        degraded })
    (fun _ => rfl) (fun _ => rfl)

@[simp] theorem cellFormat_valid
    (tables : TextTables)
    (cell : TaskCell) :
    (cellFormat tables).Valid cell := by
  simp [cellFormat]

@[simp] theorem gridFormat_valid
    (tables : TextTables)
    (grid : TaskGrid) :
    (gridFormat tables).Valid grid := by
  simp [gridFormat, OrderedMap.AllValues]

@[simp] theorem scoreFormat_valid_iff
    {tables : TextTables}
    {score : ReadinessScore} :
    (scoreFormat tables).Valid score ↔ score.Valid := by
  simp [scoreFormat, ReadinessScore.Valid, ReadinessScore.axes]

@[simp] theorem auditFormat_valid_iff
    {tables : TextTables}
    {audit : AuditResult} :
    (auditFormat tables).Valid audit ↔ audit.Valid := by
  simp [auditFormat, AuditResult.Valid]

end Records

/-! ## Worker results as dumps -/

/-- Fold the dumps that the workers returned; a dump that is refused raises. -/
def foldWorkerDumps (tables : TextTables) (env : StepEnv) (now : String) :
    List Json → ResearchState → World → Nat → Option ResearchState × World
  | [], rs, world, _ => (some rs, world)
  | raw :: rest, rs, world, attempts =>
      match (bundleFormat tables).read raw with
      | none => (none, world)
      | some bundle =>
          let (saved, savedWorld, laterAttempts) :=
            persistBundle env (foldBundle now rs bundle) bundle world attempts
          foldWorkerDumps tables env now rest saved savedWorld laterAttempts

/-- A dump is validated as its bundle is. -/
theorem read_bundle_dump
    {tables : TextTables}
    {raw : Json}
    {bundle : EvidenceBundle}
    (carries : (bundleFormat tables).Carries raw bundle) :
    (bundleFormat tables).read raw = bundle.modelValidate := by
  unfold EvidenceBundle.modelValidate
  split
  · rename_i valid
    exact
      ((bundleFormat tables).read_iff carries).mpr
        ⟨rfl, bundleFormat_valid_iff.mpr valid⟩
  · rename_i invalid
    refine ((bundleFormat tables).read_eq_none_iff carries).mpr fun valid => ?_
    exact invalid (bundleFormat_valid_iff.mp valid)

/--
Dumps are folded as the bundles that they are dumps of, up to the first one
that is refused.
-/
theorem foldWorkerDumps_eq
    {tables : TextTables}
    {env : StepEnv}
    {now : String}
    {raws : List Json}
    {bundles : List EvidenceBundle}
    (carries :
      List.Forall₂ (bundleFormat tables).Carries raws bundles)
    (rs : ResearchState)
    (world : World)
    (attempts : Nat) :
    foldWorkerDumps tables env now raws rs world attempts =
      foldWorkerResults env now bundles rs world attempts := by
  induction carries generalizing rs world attempts with
  | nil =>
      rfl
  | @cons raw bundle _ _ first _ inductionHypothesis =>
      rw [foldWorkerDumps, foldWorkerResults, read_bundle_dump first]
      cases bundle.modelValidate with
      | none => rfl
      | some validated => exact inductionHypothesis _ _ _

private def ratedBundles : List EvidenceBundle :=
  [{ query := "first", claims := [{ claim := "rated", confidence := 5 }] },
    { query := "second", claims := [{ claim := "overrated", confidence := 6 }] }]

private def untabled : TextTables where
  intOfText := fun _ => none
  flagOfText := fun _ => none

/-- The dump of an overrated claim is refused. -/
theorem foldWorkerDumps_eq_ratedBundles :
    foldWorkerDumps untabled (.calm Brains.silent) "t"
          (ratedBundles.map (bundleFormat untabled).write)
          { runId := "run", originalQuestion := "question" } {} 0 =
        foldWorkerResults (.calm Brains.silent) "t" ratedBundles
          { runId := "run", originalQuestion := "question" } {} 0 ∧
      (foldWorkerResults (.calm Brains.silent) "t" ratedBundles
        { runId := "run", originalQuestion := "question" } {} 0).1 =
        none := by
  refine ⟨foldWorkerDumps_eq ?_ _ _ _, by decide +kernel⟩
  rw [List.forall₂_map_left_iff, List.forall₂_same]
  exact fun bundle _ => (bundleFormat untabled).carries_write bundle

end ResearchCos
