import Mathlib.Algebra.Order.Floor.Ring
import Mathlib.Data.Rat.Floor
import ResearchCos.Models

namespace ResearchCos

/-!
# From the file of the external auditor to an audit

The auditor leaves a JSON document of any shape.  Mapping it uses the dynamic
operations of the host language and ends with a validation; whatever raises on
the way is `none`.  Fields that the run does not read are checked and dropped.
-/

/-- A parsed JSON value; a float that is not finite has no value. -/
inductive Json where
  | null
  | bool (flag : Bool)
  | int (value : Int)
  | float (value : Option ℚ)
  | text (content : String)
  | list (items : List Json)
  | dict (fields : List (String × Json))

namespace Json

/-- Whether a value counts as true. -/
def truthy : Json → Bool
  | .null => false
  | .bool flag => flag
  | .int value => value ≠ 0
  | .float value => value ≠ some 0
  | .text content => content ≠ ""
  | .list items => !items.isEmpty
  | .dict fields => !fields.isEmpty

/-- The value of a key or a default; only a dictionary can be asked. -/
def get (json : Json) (key : String) (fallback : Json) : Option Json :=
  match json with
  | .dict fields => some ((fields.lookup key).getD fallback)
  | _ => none

/-- A value, or another one instead of a false one. -/
def orElse (json fallback : Json) : Json :=
  if json.truthy then json else fallback

/-- The elements of a value that can be iterated. -/
def elements : Json → Option (List Json)
  | .list items => some items
  | .text content =>
      some (content.toList.map fun c => .text (String.singleton c))
  | .dict fields => some (fields.map fun field => .text field.1)
  | _ => none

/-- A value that is validated as a text. -/
def asText : Json → Option String
  | .text content => some content
  | _ => none

/-- A value that is validated as a text or nothing. -/
def asOptionalText : Json → Option (Option String)
  | .null => some none
  | .text content => some (some content)
  | _ => none

/-- The elements of a value, each validated as a text. -/
def asTexts (json : Json) : Option (List String) := do
  (← (json.orElse (.list [])).elements).mapM asText

/-- Conversion to an integer; a text is read by a library table. -/
def toInt (intOfText : String → Option Int) : Json → Option Int
  | .bool flag => some (if flag then 1 else 0)
  | .int value => some value
  | .float (some value) => some (if 0 ≤ value then ⌊value⌋ else ⌈value⌉)
  | .text content => intOfText content
  | _ => none

end Json

namespace AlbertContract

/-! ## Vocabulary -/

/-- A status of the contract; one that has no counterpart counts as open. -/
def statusOf (status : String) : ChallengeStatus :=
  if status = "answered" then
    .answered
  else if status = "needs_internal_data" then
    .needsInternalData
  else if status = "needs_bu_judgment" then
    .needsBuJudgment
  else if status = "needs_albert_decision" then
    .needsAlbertDecision
  else
    .open

def confidenceOf (confidence : String) : Int :=
  if confidence = "low" then
    1
  else if confidence = "medium" then
    3
  else if confidence = "high" then
    5
  else
    0

def riskOf (level : String) : Risk :=
  if level = "medium" ∨ level = "med" then
    .med
  else if level = "high" then
    .high
  else
    .low

def verdictOf (verdict : String) : Option AuditVerdict :=
  if verdict = "continue" then
    some .continue_
  else if verdict = "exhausted" then
    some .exhausted
  else if verdict = "rework" then
    some .rework
  else
    none

def decisionOf (decision : String) : Option Decision :=
  if decision = "continue_research" then
    some .continueResearch
  else if decision = "branch" then
    some .branch
  else if decision = "rerank" then
    some .rerank
  else if decision = "pull_human" then
    some .pullHuman
  else if decision = "push_human" then
    some .pushHuman
  else if decision = "synthesize" then
    some .synthesize
  else if decision = "pause" then
    some .pause
  else if decision = "terminal_stop" then
    some .terminalStop
  else
    none

/-! ## The mapping -/

/-- Look a value up in a table; only what can be hashed is looked up. -/
def lookUp {α : Type} (table : String → α) (fallback : α) : Json → Option α
  | .text content => some (table content)
  | .list _
  | .dict _ => none
  | _ => some fallback

/-- A risk is a record with a level, or the bare level. -/
def riskNode (node : Json) : Json :=
  match node with
  | .dict fields => .dict fields
  | .text content => .dict [("level", .text content)]
  | _ => .dict []

def risk (node : Json) : Option Risk := do
  lookUp riskOf .low (← (riskNode node).get "level" (.text "low"))

/-- The elements of a list become texts; any other value must be one. -/
def missingInfoIsValid : Json → Bool
  | .list _
  | .text _ => true
  | info => !info.truthy

def entryConfidence : Json → Option Int
  | .text content => some (confidenceOf content)
  | confidence => confidence.toInt fun _ => none

/-- A challenge of the contract, before its bounds are checked. -/
def entry (raw : Json) : Option AlbertChallenge := do
  let status ← lookUp statusOf .open (← raw.get "status" (.text ""))
  let confidence ← entryConfidence (← raw.get "confidence" (.int 0))
  let id ← (← raw.get "id" (.text "C-ALBERT")).asText
  let challenge ← (← raw.get "challenge" (.text "")).asText
  let why ← (← raw.get "why_albert_would_ask" (.text "")).asText
  let currentAnswer ← (← raw.get "current_answer" (.text "")).asText
  let evidenceRefs ← (← raw.get "evidence_refs" (.list [])).asTexts
  let owner ←
    ((← raw.get "blocking_owner" .null).orElse .null).asOptionalText
  let _ ← ((← raw.get "next_action" .null).orElse .null).asOptionalText
  let _ ←
    ((← raw.get "meeting_ready_response" .null).orElse .null).asOptionalText
  let missingInfo ← raw.get "missing_info" (.text "")
  if missingInfoIsValid missingInfo then
    some
      { id := id
        challenge := challenge
        whyAlbertWouldAsk := why
        currentAnswer := currentAnswer
        status := status
        confidence := confidence
        evidenceRefs := evidenceRefs
        blockingOwner := owner }
  else
    none

/-- An optional decision is validated against the known ones. -/
def decision : Json → Option (Option Decision)
  | .null => some none
  | .text content => (decisionOf content).map some
  | _ => none

/-- The bounds checked when a challenge is constructed. -/
def modelValidate (challenge : AlbertChallenge) : Option AlbertChallenge :=
  if InRange challenge.confidence then some challenge else none

/-- The challenges of a document, each validated. -/
def challengesOf (raw : Json) : Option (List AlbertChallenge) := do
  let entries ←
    ((← raw.get "albert_challenges" (.list [])).orElse (.list [])).elements
  entries.mapM fun ch => (entry ch).bind modelValidate

/-- The audit of a document, without its challenges. -/
def auditResult
    (intOfText : String → Option Int)
    (raw : Json) : Option AuditResult := do
  let verdict ← (← raw.get "verdict" (.text "rework")).asText >>= verdictOf
  let _ ← ((← raw.get "weak_points" (.list [])).orElse (.list [])).elements
  let prematureEnd ← risk (← raw.get "premature_end_risk" .null)
  let researchDrift ← risk (← raw.get "research_drift_risk" .null)
  let recommended ← decision (← raw.get "recommended_next_action" .null)
  let rationale ← (← raw.get "rationale" (.text "")).asText
  let degraded ← raw.get "degraded" (.bool false)
  let _ ← (← raw.get "missing_business_context" (.list [])).asTexts
  let questions ← (← raw.get "questions_albert_would_ask" (.list [])).asTexts
  let _ ←
    ((← raw.get "readiness_score_delta" (.int 0)).orElse (.int 0)).toInt
      intOfText
  let _ ←
    ((← raw.get "recommended_next_probe" (.list [])).orElse
      (.list [])).elements
  some
    { verdict := verdict
      prematureEndRisk := prematureEnd
      researchDriftRisk := researchDrift
      recommendedNextAction := recommended
      rationale := rationale
      questionsAlbertWouldAskNext := questions
      degraded := degraded.truthy }

/-- The audit of a document; `none` when the mapping or the validation raises. -/
def toAudit
    (intOfText : String → Option Int)
    (raw : Json) : Option AuditResult := do
  let challenges ← challengesOf raw
  let audit ← auditResult intOfText raw
  some { audit with challenges := challenges }

/-- A list is mapped position by position. -/
theorem getElem?_mapM
    {α β : Type}
    {f : α → Option β}
    {inputs : List α}
    {outputs : List β}
    (mapped : inputs.mapM f = some outputs)
    (position : Nat) :
    outputs[position]? = inputs[position]?.bind f := by
  induction inputs generalizing outputs position with
  | nil =>
      cases mapped
      rfl
  | cons head rest inductionHypothesis =>
      rw [List.mapM_cons] at mapped
      obtain ⟨first, isFirst, mapped⟩ := Option.bind_eq_some_iff.mp mapped
      obtain ⟨others, areOthers, mapped⟩ := Option.bind_eq_some_iff.mp mapped
      cases mapped
      cases position with
      | zero =>
          exact isFirst.symm
      | succ position =>
          exact inductionHypothesis areOthers position

/-- What a list is mapped to comes from its elements. -/
theorem exists_of_mem_mapM
    {α β : Type}
    {f : α → Option β}
    {inputs : List α}
    {outputs : List β}
    (mapped : inputs.mapM f = some outputs)
    {output : β}
    (member : output ∈ outputs) :
    ∃ input ∈ inputs, f input = some output := by
  obtain ⟨position, isOutput⟩ := List.mem_iff_getElem?.mp member
  rw [getElem?_mapM mapped] at isOutput
  obtain ⟨input, isInput, isOutput⟩ := Option.bind_eq_some_iff.mp isOutput
  exact ⟨input, List.mem_of_getElem? isInput, isOutput⟩

/-- Every challenge of a mapped audit is within its bounds. -/
theorem toAudit_inRange
    {intOfText : String → Option Int}
    {raw : Json}
    {audit : AuditResult}
    (mapped : toAudit intOfText raw = some audit) :
    ∀ challenge ∈ audit.challenges, InRange challenge.confidence := by
  obtain ⟨challenges, areChallenges, mapped⟩ :=
    Option.bind_eq_some_iff.mp mapped
  obtain ⟨rest, _, mapped⟩ := Option.bind_eq_some_iff.mp mapped
  cases mapped
  intro challenge member
  obtain ⟨field, _, listed⟩ := Option.bind_eq_some_iff.mp areChallenges
  obtain ⟨entries, _, validated⟩ := Option.bind_eq_some_iff.mp listed
  obtain ⟨raw, _, isEntry⟩ := exists_of_mem_mapM validated member
  obtain ⟨unchecked, _, checked⟩ := Option.bind_eq_some_iff.mp isEntry
  simp only [modelValidate] at checked
  split at checked
  · rename_i inRange
    cases checked
    exact inRange
  · cases checked

end AlbertContract

end ResearchCos
