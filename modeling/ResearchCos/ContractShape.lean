import ResearchCos.RealBrains

namespace ResearchCos

/-!
# Which documents the contract accepts

The mapping guards a risk that is a bare text and a confidence that is one.  A
text in the place of a challenge, a null in the place of a text and a verdict
with another name still raise, and the simulated auditor has no guard around
the mapping.  The shape below is the one of exactly the documents that pass.
-/

namespace Json

/-! ## Shapes of a value -/

def IsText : Json → Prop
  | .text _ => True
  | _ => False

/-- What can be looked up in a table. -/
def IsHashable : Json → Prop
  | .list _
  | .dict _ => False
  | _ => True

def IsIterable : Json → Prop
  | .list _
  | .text _
  | .dict _ => True
  | _ => False

/-- What can be iterated with a text at every step. -/
def AreTexts : Json → Prop
  | .list items => ∀ item ∈ items, item.IsText
  | .text _
  | .dict _ => True
  | _ => False

def IsListOrText : Json → Prop
  | .list _
  | .text _ => True
  | _ => False

/-- A word, or a number whose integral part is between zero and five. -/
def IsConfidence : Json → Prop
  | .text _
  | .bool _ => True
  | .int value => 0 ≤ value ∧ value ≤ 5
  | .float (some value) => -1 < value ∧ value < 6
  | _ => False

/-- A number, or a text that is read as one. -/
def IsWhole (intOfText : String → Option Int) : Json → Prop
  | .bool _
  | .int _
  | .float (some _) => True
  | .text content => (intOfText content).isSome
  | _ => False

def IsVerdict : Json → Prop
  | .text content => content ∈ ["continue", "exhausted", "rework"]
  | _ => False

/-- Nothing, or the name of a decision. -/
def IsDecision : Json → Prop
  | .null => True
  | .text content =>
      content ∈
        ["continue_research", "branch", "rerank", "pull_human", "push_human",
          "synthesize", "pause", "terminal_stop"]
  | _ => False

/-- A value that counts as false may have any shape. -/
def IfTruthy
    (shape : Json → Prop)
    (value : Json) : Prop :=
  value.truthy = true → shape value

/-- The value of a key has a shape when the key is there. -/
def Given
    (fields : List (String × Json))
    (key : String)
    (shape : Json → Prop) : Prop :=
  ∀ value, fields.lookup key = some value → shape value

/-- A record has a level that can be looked up; anything else is one. -/
def IsRisk : Json → Prop
  | .dict fields => Given fields "level" IsHashable
  | _ => True

theorem ifTruthy_of_false
    {shape : Json → Prop}
    {value : Json}
    (isFalse : value.truthy = false) :
    IfTruthy shape value := by
  intro isTrue
  rw [isFalse] at isTrue
  cases isTrue

/-! ## The operations that accept them -/

/-- A default of the right shape stands in for a missing key. -/
theorem shape_getD_iff
    {shape : Json → Prop}
    {fallback : Json}
    (proper : shape fallback)
    (fields : List (String × Json))
    (key : String) :
    shape ((fields.lookup key).getD fallback) ↔ Given fields key shape := by
  unfold Given
  cases fields.lookup key with
  | none =>
      simpa using proper
  | some value =>
      simp

/-- A replacement of the right shape stands in for a false value. -/
theorem shape_orElse_iff
    (shape : Json → Prop)
    {fallback : Json}
    (proper : shape fallback)
    (value : Json) :
    shape (value.orElse fallback) ↔ IfTruthy shape value := by
  unfold orElse IfTruthy
  by_cases isTrue : value.truthy = true
  · rw [if_pos isTrue]
    exact ⟨fun proper _ => proper, fun shaped => shaped isTrue⟩
  · rw [if_neg isTrue]
    exact iff_of_true proper fun holds => absurd holds isTrue

theorem exists_asText_iff
    (value : Json) :
    (∃ content, value.asText = some content) ↔ value.IsText := by
  cases value <;> simp [asText, IsText]

theorem exists_asOptionalText_iff
    (value : Json) :
    (∃ content, (value.orElse .null).asOptionalText = some content) ↔
      IfTruthy IsText value := by
  refine Iff.trans (shape_orElse_iff
    (fun value => ∃ content, value.asOptionalText = some content)
    ⟨none, rfl⟩ value) ?_
  cases value <;> simp [IfTruthy, asOptionalText, IsText, truthy]

theorem exists_elements_iff
    (value : Json) :
    (∃ items, value.elements = some items) ↔ value.IsIterable := by
  cases value <;> simp [elements, IsIterable]

/-- A list is mapped when each of its elements is. -/
theorem exists_mapM_iff
    {α β : Type}
    (f : α → Option β)
    (inputs : List α) :
    (∃ outputs, inputs.mapM f = some outputs) ↔
      ∀ input ∈ inputs, ∃ output, f input = some output := by
  induction inputs with
  | nil =>
      simp
  | cons head rest inductionHypothesis =>
      simp only [List.mapM_cons, Option.bind_eq_bind, Option.bind_eq_some_iff,
        Option.pure_def, Option.some.injEq, List.forall_mem_cons,
        ← inductionHypothesis]
      constructor
      · rintro ⟨_, first, isFirst, others, areOthers, _⟩
        exact ⟨⟨first, isFirst⟩, ⟨others, areOthers⟩⟩
      · rintro ⟨⟨first, isFirst⟩, ⟨others, areOthers⟩⟩
        exact ⟨_, first, isFirst, others, areOthers, rfl⟩

/-- The elements of a value all have a shape. -/
theorem exists_elements_mapM_iff
    {α : Type}
    (f : Json → Option α)
    (value : Json) :
    (∃ outputs,
        (value.elements >>= fun items => items.mapM f) = some outputs) ↔
      ∃ items, value.elements = some items ∧
        ∀ item ∈ items, ∃ output, f item = some output := by
  simp only [Option.bind_eq_bind, Option.bind_eq_some_iff, ← exists_mapM_iff]
  exact exists_comm.trans (by simp only [exists_and_left])

theorem exists_asTexts_iff
    (value : Json) :
    (∃ texts, value.asTexts = some texts) ↔ IfTruthy AreTexts value := by
  refine Iff.trans (exists_elements_mapM_iff asText (value.orElse (.list [])))
    ?_
  simp only [exists_asText_iff]
  refine Iff.trans (shape_orElse_iff
    (fun value => ∃ items, value.elements = some items ∧
      ∀ item ∈ items, item.IsText)
    ⟨[], rfl, by simp⟩ value) ?_
  cases value with
  | dict fields =>
      refine iff_of_true (fun _ => ⟨_, rfl, fun item member => ?_⟩)
        fun _ => trivial
      obtain ⟨field, _, rfl⟩ := List.mem_map.mp member
      exact trivial
  | _ =>
      simp [IfTruthy, elements, AreTexts, IsText]

theorem exists_toInt_iff
    (intOfText : String → Option Int)
    (value : Json) :
    (∃ number, value.toInt intOfText = some number) ↔
      value.IsWhole intOfText := by
  cases value with
  | float number =>
      cases number <;> simp [toInt, IsWhole]
  | text content =>
      simp [toInt, IsWhole, Option.isSome_iff_exists]
  | _ =>
      simp [toInt, IsWhole]

/-! ## The same at a key -/

section Key

variable
  (fields : List (String × Json))
  (key : String)

theorem given_asText_iff
    (fallback : String) :
    (∃ content,
        ((fields.lookup key).getD (.text fallback)).asText = some content) ↔
      Given fields key IsText :=
  (exists_asText_iff _).trans (shape_getD_iff (by trivial) fields key)

theorem given_asOptionalText_iff :
    (∃ content,
        (((fields.lookup key).getD .null).orElse .null).asOptionalText =
          some content) ↔
      Given fields key (IfTruthy IsText) :=
  (exists_asOptionalText_iff _).trans
    (shape_getD_iff (ifTruthy_of_false rfl) fields key)

theorem given_asTexts_iff :
    (∃ texts, ((fields.lookup key).getD (.list [])).asTexts = some texts) ↔
      Given fields key (IfTruthy AreTexts) :=
  (exists_asTexts_iff _).trans
    (shape_getD_iff (ifTruthy_of_false rfl) fields key)

theorem given_elements_iff :
    (∃ items,
        (((fields.lookup key).getD (.list [])).orElse (.list [])).elements =
          some items) ↔
      Given fields key (IfTruthy IsIterable) :=
  ((exists_elements_iff _).trans
    (shape_orElse_iff IsIterable (by trivial) _)).trans
      (shape_getD_iff (ifTruthy_of_false rfl) fields key)

theorem given_toInt_iff
    (intOfText : String → Option Int) :
    (∃ number,
        (((fields.lookup key).getD (.int 0)).orElse (.int 0)).toInt
          intOfText = some number) ↔
      Given fields key (IfTruthy (IsWhole intOfText)) :=
  ((exists_toInt_iff _ _).trans
    (shape_orElse_iff (IsWhole intOfText) (by trivial) _)).trans
      (shape_getD_iff (ifTruthy_of_false rfl) fields key)

end Key

end Json

namespace AlbertContract

open Json

/-! ## The shape of a document -/

/-- A challenge that the mapping and the bounds accept. -/
structure ChallengeShaped (fields : List (String × Json)) : Prop where
  status : Given fields "status" IsHashable
  confidence : Given fields "confidence" IsConfidence
  texts :
    ∀ key ∈ ["id", "challenge", "why_albert_would_ask", "current_answer"],
      Given fields key IsText
  evidenceRefs : Given fields "evidence_refs" (IfTruthy AreTexts)
  optionalTexts :
    ∀ key ∈ ["blocking_owner", "next_action", "meeting_ready_response"],
      Given fields key (IfTruthy IsText)
  missingInfo : Given fields "missing_info" (IfTruthy IsListOrText)

def IsChallenge : Json → Prop
  | .dict fields => ChallengeShaped fields
  | _ => False

/-- A list of challenges. -/
def AreChallenges : Json → Prop
  | .list items => ∀ item ∈ items, IsChallenge item
  | _ => False

/-- A document that the mapping and the validation accept. -/
structure DocumentShaped
    (intOfText : String → Option Int)
    (fields : List (String × Json)) : Prop where
  challenges : Given fields "albert_challenges" (IfTruthy AreChallenges)
  verdict : Given fields "verdict" IsVerdict
  weakPoints : Given fields "weak_points" (IfTruthy IsIterable)
  prematureEndRisk : Given fields "premature_end_risk" IsRisk
  researchDriftRisk : Given fields "research_drift_risk" IsRisk
  recommendedNextAction : Given fields "recommended_next_action" IsDecision
  rationale : Given fields "rationale" IsText
  lists :
    ∀ key ∈ ["missing_business_context", "questions_albert_would_ask"],
      Given fields key (IfTruthy AreTexts)
  recommendedNextProbe :
    Given fields "recommended_next_probe" (IfTruthy IsIterable)
  readinessScoreDelta :
    Given fields "readiness_score_delta" (IfTruthy (IsWhole intOfText))

/-! ## What a total mapping does -/

/-- The statuses that the contract names. -/
def contractStatuses : List String :=
  ["answered", "partially_answered", "needs_external_research",
    "needs_internal_data", "needs_bu_judgment", "needs_albert_decision",
    "needs_source_validation", "blocked"]

/-- The levels of a risk that the contract names. -/
def contractRisks : List String :=
  ["low", "medium", "med", "high"]

/-- No status, or one that the contract does not name. -/
def UnknownStatus (fields : List (String × Json)) : Prop :=
  ∀ status ∈ contractStatuses, fields.lookup "status" ≠ some (.text status)

/-- The level in a record, or the bare level. -/
def levelOf : Json → Option Json
  | .dict fields => fields.lookup "level"
  | .text level => some (.text level)
  | _ => none

/-- No level, or one that the contract does not name. -/
def UnknownRisk
    (fields : List (String × Json))
    (key : String) : Prop :=
  ∀ level ∈ contractRisks,
    (fields.lookup key).bind levelOf ≠ some (.text level)

/-- Every challenge with an unknown status is open, every unknown risk low. -/
structure MapsUnknown
    (fields : List (String × Json))
    (audit : AuditResult) : Prop where
  statuses :
    ∀ (items : List Json) (position : Nat)
        (challengeFields : List (String × Json)) (challenge : AlbertChallenge),
      fields.lookup "albert_challenges" = some (.list items) →
        items[position]? = some (.dict challengeFields) →
          audit.challenges[position]? = some challenge →
            UnknownStatus challengeFields → challenge.status = .open
  prematureEnd :
    UnknownRisk fields "premature_end_risk" → audit.prematureEndRisk = .low
  researchDrift :
    UnknownRisk fields "research_drift_risk" → audit.researchDriftRisk = .low

/-- The simulated auditor ends with an audit of the document. -/
def MapsTotally
    (intOfText : String → Option Int)
    (fields : List (String × Json)) : Prop :=
  ∃ audit,
    toAudit intOfText (.dict fields) = some audit ∧
      (∀ state,
        (Auditor.simulator (some (.dict fields))).audit intOfText state =
          some audit) ∧
      MapsUnknown fields audit

/-! ## A challenge -/

theorem exists_lookUp_iff
    {α : Type}
    (table : String → α)
    (fallback : α)
    (value : Json) :
    (∃ found, lookUp table fallback value = some found) ↔
      value.IsHashable := by
  cases value <;> simp [lookUp, IsHashable]

theorem missingInfoIsValid_iff
    (value : Json) :
    missingInfoIsValid value = true ↔ IfTruthy IsListOrText value := by
  cases value <;> simp [missingInfoIsValid, IfTruthy, IsListOrText, truthy]

/-- The integral part of a number is in range for the numbers around it. -/
theorem inRange_trunc_iff
    (value : ℚ) :
    InRange (if 0 ≤ value then ⌊value⌋ else ⌈value⌉) ↔
      -1 < value ∧ value < 6 := by
  unfold InRange
  split
  · rename_i isNonneg
    have upper : ⌊value⌋ ≤ 5 ↔ value < 6 := by
      rw [← Int.lt_add_one_iff, Int.floor_lt]
      norm_num
    rw [upper, Int.floor_nonneg]
    exact and_congr_left fun _ =>
      iff_of_true isNonneg (lt_of_lt_of_le (by norm_num) isNonneg)
  · rename_i isNegative
    push Not at isNegative
    have lower : 0 ≤ ⌈value⌉ ↔ -1 < value := by
      rw [← Int.sub_one_lt_iff, Int.lt_ceil]
      norm_num
    have small : ⌈value⌉ ≤ 5 :=
      Int.ceil_le.mpr (isNegative.le.trans (by norm_num))
    rw [lower]
    exact and_congr_right fun _ =>
      iff_of_true small (isNegative.trans (by norm_num))

theorem confidenceOf_inRange
    (word : String) :
    InRange (confidenceOf word) := by
  unfold confidenceOf
  split
  · decide
  · split
    · decide
    · split
      · decide
      · decide

theorem exists_entryConfidence_iff
    (value : Json) :
    (∃ confidence,
        entryConfidence value = some confidence ∧ InRange confidence) ↔
      value.IsConfidence := by
  cases value with
  | text word =>
      exact iff_of_true ⟨_, rfl, confidenceOf_inRange word⟩ trivial
  | bool flag =>
      cases flag <;> simp [entryConfidence, toInt, IsConfidence, InRange]
  | float number =>
      cases number with
      | none =>
          simp [entryConfidence, toInt, IsConfidence]
      | some number =>
          simpa [entryConfidence, toInt, IsConfidence] using
            inRange_trunc_iff number
  | _ =>
      simp [entryConfidence, toInt, IsConfidence, InRange]

section Key

variable
  (fields : List (String × Json))
  (key : String)

theorem given_lookUp_iff
    {α : Type}
    (table : String → α)
    (fallback : α)
    (default : String) :
    (∃ found,
        lookUp table fallback ((fields.lookup key).getD (.text default)) =
          some found) ↔
      Given fields key IsHashable :=
  (exists_lookUp_iff table fallback _).trans
    (shape_getD_iff (by trivial) fields key)

theorem given_entryConfidence_iff :
    (∃ confidence,
        entryConfidence ((fields.lookup key).getD (.int 0)) =
            some confidence ∧
          InRange confidence) ↔
      Given fields key IsConfidence :=
  (exists_entryConfidence_iff _).trans
    (shape_getD_iff (by simp [IsConfidence]) fields key)

theorem given_missingInfo_iff :
    missingInfoIsValid ((fields.lookup key).getD (.text "")) = true ↔
      Given fields key (IfTruthy IsListOrText) :=
  (missingInfoIsValid_iff _).trans
    (shape_getD_iff (ifTruthy_of_false rfl) fields key)

end Key

/-- A challenge that passes has the shape, and its status was looked up. -/
theorem entry_sound
    {fields : List (String × Json)}
    {challenge : AlbertChallenge}
    (accepted :
      (entry (.dict fields)).bind modelValidate = some challenge) :
    lookUp statusOf .open ((fields.lookup "status").getD (.text "")) =
        some challenge.status ∧
      ChallengeShaped fields := by
  obtain ⟨unchecked, isEntry, validated⟩ := Option.bind_eq_some_iff.mp accepted
  simp only [entry, Json.get, Option.bind_eq_bind, Option.bind_some,
    Option.bind_eq_some_iff] at isEntry
  obtain ⟨status, isStatus, confidence, isConfidence, id, isId, text, isText,
    why, isWhy, answer, isAnswer, refs, areRefs, owner, isOwner, next, isNext,
    response, isResponse, isEntry⟩ := isEntry
  split at isEntry
  · rename_i isInfo
    cases isEntry
    simp only [modelValidate] at validated
    split at validated
    · rename_i inRange
      cases validated
      have texts := And.intro ((given_asText_iff fields _ _).mp ⟨_, isId⟩)
        (And.intro ((given_asText_iff fields _ _).mp ⟨_, isText⟩)
          (And.intro ((given_asText_iff fields _ _).mp ⟨_, isWhy⟩)
            ((given_asText_iff fields _ _).mp ⟨_, isAnswer⟩)))
      have optionalTexts :=
        And.intro ((given_asOptionalText_iff fields _).mp ⟨_, isOwner⟩)
          (And.intro ((given_asOptionalText_iff fields _).mp ⟨_, isNext⟩)
            ((given_asOptionalText_iff fields _).mp ⟨_, isResponse⟩))
      exact
        ⟨isStatus,
          { status := (given_lookUp_iff fields _ _ _ _).mp ⟨_, isStatus⟩
            confidence :=
              (given_entryConfidence_iff fields _).mp
                ⟨_, isConfidence, inRange⟩
            texts := by simpa using texts
            evidenceRefs := (given_asTexts_iff fields _).mp ⟨_, areRefs⟩
            optionalTexts := by simpa using optionalTexts
            missingInfo := (given_missingInfo_iff fields _).mp isInfo }⟩
    · cases validated
  · cases isEntry

/-- A challenge of the shape passes. -/
theorem entry_complete
    {fields : List (String × Json)}
    (shaped : ChallengeShaped fields) :
    ∃ challenge,
      (entry (.dict fields)).bind modelValidate = some challenge := by
  obtain ⟨status, isStatus⟩ :=
    (given_lookUp_iff fields "status" statusOf .open "").mpr shaped.status
  obtain ⟨confidence, isConfidence, inRange⟩ :=
    (given_entryConfidence_iff fields _).mpr shaped.confidence
  obtain ⟨id, isId⟩ :=
    (given_asText_iff fields "id" "C-ALBERT").mpr
      (shaped.texts _ (by simp))
  obtain ⟨text, isText⟩ :=
    (given_asText_iff fields "challenge" "").mpr (shaped.texts _ (by simp))
  obtain ⟨why, isWhy⟩ :=
    (given_asText_iff fields "why_albert_would_ask" "").mpr
      (shaped.texts _ (by simp))
  obtain ⟨answer, isAnswer⟩ :=
    (given_asText_iff fields "current_answer" "").mpr
      (shaped.texts _ (by simp))
  obtain ⟨refs, areRefs⟩ :=
    (given_asTexts_iff fields "evidence_refs").mpr shaped.evidenceRefs
  obtain ⟨owner, isOwner⟩ :=
    (given_asOptionalText_iff fields "blocking_owner").mpr
      (shaped.optionalTexts _ (by simp))
  obtain ⟨next, isNext⟩ :=
    (given_asOptionalText_iff fields "next_action").mpr
      (shaped.optionalTexts _ (by simp))
  obtain ⟨response, isResponse⟩ :=
    (given_asOptionalText_iff fields "meeting_ready_response").mpr
      (shaped.optionalTexts _ (by simp))
  have isInfo := (given_missingInfo_iff fields _).mpr shaped.missingInfo
  simp only [entry, Json.get, Option.bind_eq_bind, Option.bind_some, isStatus,
    isConfidence, isId, isText, isWhy, isAnswer, areRefs, isOwner, isNext,
    isResponse, if_pos isInfo]
  exact ⟨_, if_pos inRange⟩

/-- A challenge passes exactly when it has the shape. -/
theorem exists_entry_iff
    (item : Json) :
    (∃ challenge, (entry item).bind modelValidate = some challenge) ↔
      IsChallenge item := by
  cases item with
  | dict fields =>
      exact ⟨fun ⟨_, accepted⟩ => (entry_sound accepted).2, entry_complete⟩
  | _ =>
      simp [entry, Json.get, IsChallenge]

/-! ## A document -/

/-- Challenges are a list: what else can be iterated gives texts. -/
theorem areChallenges_of_elements
    {value : Json}
    {items : List Json}
    (areItems : value.elements = some items)
    (shaped : ∀ item ∈ items, IsChallenge item) :
    IfTruthy AreChallenges value := by
  intro isTrue
  cases value with
  | list elements =>
      cases areItems
      exact shaped
  | text content =>
      cases areItems
      obtain ⟨c, inContent⟩ : ∃ c, c ∈ content.toList :=
        List.exists_mem_of_ne_nil _ (by simpa [truthy] using isTrue)
      exact shaped _ (List.mem_map.mpr ⟨c, inContent, rfl⟩)
  | dict fields =>
      cases areItems
      obtain ⟨field, inFields⟩ : ∃ field, field ∈ fields :=
        List.exists_mem_of_ne_nil _ (by simpa [truthy] using isTrue)
      exact shaped _ (List.mem_map.mpr ⟨field, inFields, rfl⟩)
  | _ =>
      cases areItems

theorem exists_elements_areChallenges_iff
    (value : Json) :
    (∃ items, (value.orElse (.list [])).elements = some items ∧
        ∀ item ∈ items, IsChallenge item) ↔
      IfTruthy AreChallenges value := by
  refine Iff.trans (shape_orElse_iff
    (fun value => ∃ items, value.elements = some items ∧
      ∀ item ∈ items, IsChallenge item)
    ⟨[], rfl, by simp⟩ value) ?_
  constructor
  · intro iterated isTrue
    obtain ⟨items, areItems, shaped⟩ := iterated isTrue
    exact areChallenges_of_elements areItems shaped isTrue
  · intro shaped isTrue
    cases value with
    | list items =>
        exact ⟨items, rfl, shaped isTrue⟩
    | _ =>
        exact (shaped isTrue).elim

theorem exists_challengesOf_iff
    (fields : List (String × Json)) :
    (∃ challenges, challengesOf (.dict fields) = some challenges) ↔
      Given fields "albert_challenges" (IfTruthy AreChallenges) := by
  refine Iff.trans (exists_elements_mapM_iff
    (fun ch => (entry ch).bind modelValidate) _) ?_
  simp only [exists_entry_iff]
  exact (exists_elements_areChallenges_iff _).trans
    (shape_getD_iff (ifTruthy_of_false rfl) fields _)

theorem exists_verdictOf_iff
    (value : Json) :
    (∃ verdict, (value.asText >>= verdictOf) = some verdict) ↔
      value.IsVerdict := by
  cases value with
  | text content =>
      constructor
      · rintro ⟨verdict, isVerdict⟩
        simp only [asText, Option.bind_eq_bind, Option.bind_some,
          verdictOf] at isVerdict
        simp only [IsVerdict, List.mem_cons]
        split_ifs at isVerdict <;> simp [*]
      · intro known
        simp only [IsVerdict, List.mem_cons, List.not_mem_nil,
          or_false] at known
        rcases known with rfl | rfl | rfl <;> simp [asText, verdictOf]
  | _ =>
      simp [asText, IsVerdict]

theorem exists_decision_iff
    (value : Json) :
    (∃ chosen, decision value = some chosen) ↔ value.IsDecision := by
  cases value with
  | text content =>
      constructor
      · rintro ⟨chosen, isChosen⟩
        simp only [decision, decisionOf] at isChosen
        simp only [IsDecision, List.mem_cons]
        split_ifs at isChosen <;> simp_all
      · intro known
        simp only [IsDecision, List.mem_cons, List.not_mem_nil,
          or_false] at known
        rcases known with rfl | rfl | rfl | rfl | rfl | rfl | rfl | rfl <;>
          simp [decision, decisionOf]
  | _ =>
      simp [decision, IsDecision]

theorem exists_risk_iff
    (value : Json) :
    (∃ level, risk value = some level) ↔ value.IsRisk := by
  cases value with
  | dict fields =>
      exact given_lookUp_iff fields "level" riskOf .low "low"
  | text content =>
      simp [risk, riskNode, Json.get, lookUp, IsRisk]
  | _ =>
      simp [risk, riskNode, Json.get, lookUp, IsRisk]

/-- What a table does not name is mapped to its fallback. -/
theorem lookUp_of_unknown
    {α : Type}
    {table : String → α}
    {fallback found : α}
    {names : List String}
    {default : String}
    {value : Option Json}
    (others : ∀ content, content ∉ names → table content = fallback)
    (isDefault : table default = fallback)
    (unknown : ∀ name ∈ names, value ≠ some (.text name))
    (isFound :
      lookUp table fallback (value.getD (.text default)) = some found) :
    found = fallback := by
  cases value with
  | none =>
      cases isFound
      exact isDefault
  | some value =>
      cases value with
      | text content =>
          cases isFound
          exact others content fun named => unknown content named rfl
      | _ =>
          cases isFound <;> rfl

theorem statusOf_unknown
    (status : String)
    (unknown : status ∉ contractStatuses) :
    statusOf status = .open := by
  simp only [contractStatuses, List.mem_cons, not_or] at unknown
  simp [statusOf, unknown]

theorem riskOf_unknown
    (level : String)
    (unknown : level ∉ contractRisks) :
    riskOf level = .low := by
  simp only [contractRisks, List.mem_cons, not_or] at unknown
  simp [riskOf, unknown]

/-- The level of a risk is looked up. -/
theorem risk_eq_lookUp
    (node : Option Json) :
    risk (node.getD .null) =
      lookUp riskOf .low ((node.bind levelOf).getD (.text "low")) := by
  cases node with
  | none =>
      rfl
  | some node =>
      cases node <;> rfl

/-- A risk that the contract does not name is low. -/
theorem risk_of_unknown
    {fields : List (String × Json)}
    {key : String}
    {found : Risk}
    (isRisk : risk ((fields.lookup key).getD .null) = some found)
    (unknown : UnknownRisk fields key) :
    found = .low := by
  rw [risk_eq_lookUp] at isRisk
  exact lookUp_of_unknown riskOf_unknown (by decide) unknown isRisk

/-- An audit has the shape of its document, and its risks were looked up. -/
theorem auditResult_sound
    {intOfText : String → Option Int}
    {fields : List (String × Json)}
    {audit : AuditResult}
    (accepted : auditResult intOfText (.dict fields) = some audit)
    (challenges :
      Given fields "albert_challenges" (IfTruthy AreChallenges)) :
    risk ((fields.lookup "premature_end_risk").getD .null) =
        some audit.prematureEndRisk ∧
      risk ((fields.lookup "research_drift_risk").getD .null) =
        some audit.researchDriftRisk ∧
      DocumentShaped intOfText fields := by
  simp only [auditResult, Json.get, Option.bind_eq_bind, Option.bind_some,
    Option.bind_eq_some_iff] at accepted
  obtain ⟨verdict, isVerdict, weak, areWeak, prematureEnd, isPrematureEnd,
    drift, isDrift, recommended, isRecommended, rationale, isRationale,
    context, isContext, questions, areQuestions, delta, isDelta, probe,
    isProbe, isAudit⟩ := accepted
  cases isAudit
  have lists := And.intro ((given_asTexts_iff fields _).mp ⟨_, isContext⟩)
    ((given_asTexts_iff fields _).mp ⟨_, areQuestions⟩)
  exact
    ⟨isPrematureEnd, isDrift,
      { challenges := challenges
        verdict :=
          (shape_getD_iff (by simp [IsVerdict]) _ _).mp
            ((exists_verdictOf_iff _).mp
              ⟨_, Option.bind_eq_some_iff.mpr isVerdict⟩)
        weakPoints := (given_elements_iff fields _).mp ⟨_, areWeak⟩
        prematureEndRisk :=
          (shape_getD_iff (by trivial) _ _).mp
            ((exists_risk_iff _).mp ⟨_, isPrematureEnd⟩)
        researchDriftRisk :=
          (shape_getD_iff (by trivial) _ _).mp
            ((exists_risk_iff _).mp ⟨_, isDrift⟩)
        recommendedNextAction :=
          (shape_getD_iff (by trivial) _ _).mp
            ((exists_decision_iff _).mp ⟨_, isRecommended⟩)
        rationale := (given_asText_iff fields _ _).mp ⟨_, isRationale⟩
        lists := by simpa using lists
        recommendedNextProbe := (given_elements_iff fields _).mp ⟨_, isProbe⟩
        readinessScoreDelta :=
          (given_toInt_iff fields _ intOfText).mp ⟨_, isDelta⟩ }⟩

/-- A document of the shape has an audit. -/
theorem auditResult_complete
    {intOfText : String → Option Int}
    {fields : List (String × Json)}
    (shaped : DocumentShaped intOfText fields) :
    ∃ audit, auditResult intOfText (.dict fields) = some audit := by
  obtain ⟨verdict, isVerdict⟩ :=
    (exists_verdictOf_iff _).mpr
      ((shape_getD_iff
          (show IsVerdict (.text "rework") by simp [IsVerdict]) _ _).mpr
        shaped.verdict)
  obtain ⟨weak, areWeak⟩ :=
    (given_elements_iff fields "weak_points").mpr shaped.weakPoints
  obtain ⟨prematureEnd, isPrematureEnd⟩ :=
    (exists_risk_iff _).mpr
      ((shape_getD_iff (show IsRisk .null by trivial) _ _).mpr
        shaped.prematureEndRisk)
  obtain ⟨drift, isDrift⟩ :=
    (exists_risk_iff _).mpr
      ((shape_getD_iff (show IsRisk .null by trivial) _ _).mpr
        shaped.researchDriftRisk)
  obtain ⟨recommended, isRecommended⟩ :=
    (exists_decision_iff _).mpr
      ((shape_getD_iff (show IsDecision .null by trivial) _ _).mpr
        shaped.recommendedNextAction)
  obtain ⟨rationale, isRationale⟩ :=
    (given_asText_iff fields "rationale" "").mpr shaped.rationale
  obtain ⟨context, isContext⟩ :=
    (given_asTexts_iff fields "missing_business_context").mpr
      (shaped.lists _ (by simp))
  obtain ⟨questions, areQuestions⟩ :=
    (given_asTexts_iff fields "questions_albert_would_ask").mpr
      (shaped.lists _ (by simp))
  obtain ⟨delta, isDelta⟩ :=
    (given_toInt_iff fields "readiness_score_delta" intOfText).mpr
      shaped.readinessScoreDelta
  obtain ⟨probe, isProbe⟩ :=
    (given_elements_iff fields "recommended_next_probe").mpr
      shaped.recommendedNextProbe
  rw [Option.bind_eq_bind] at isVerdict
  simp only [auditResult, Json.get, Option.bind_eq_bind, Option.bind_some,
    isVerdict, areWeak, isPrematureEnd, isDrift, isRecommended, isRationale,
    isContext, areQuestions, isDelta, isProbe]
  exact ⟨_, rfl⟩

/-- The challenges of an audit are those of the document, in its order. -/
theorem challengesOf_getElem?
    {fields : List (String × Json)}
    {challenges : List AlbertChallenge}
    {items : List Json}
    (accepted : challengesOf (.dict fields) = some challenges)
    (areItems : fields.lookup "albert_challenges" = some (.list items))
    (position : Nat) :
    challenges[position]? =
      items[position]?.bind fun item => (entry item).bind modelValidate := by
  simp only [challengesOf, Json.get, areItems, Option.bind_eq_bind,
    Option.bind_some, Option.getD_some] at accepted
  cases items with
  | nil =>
      cases accepted
      rfl
  | cons first rest =>
      exact getElem?_mapM accepted position

/-- The mapping of a document with the shape is total. -/
theorem mapsTotally_of_documentShaped
    {intOfText : String → Option Int}
    {fields : List (String × Json)}
    (shaped : DocumentShaped intOfText fields) :
    MapsTotally intOfText fields := by
  obtain ⟨challenges, areChallenges⟩ :=
    (exists_challengesOf_iff fields).mpr shaped.challenges
  obtain ⟨audit, isAudit⟩ := auditResult_complete shaped
  obtain ⟨isPrematureEnd, isDrift, _⟩ :=
    auditResult_sound isAudit shaped.challenges
  have mapped :
      toAudit intOfText (.dict fields) =
        some { audit with challenges := challenges } := by
    simp only [toAudit, areChallenges, isAudit, Option.bind_eq_bind,
      Option.bind_some]
  refine ⟨_, mapped, fun _ => mapped, ⟨?_, ?_, ?_⟩⟩
  · intro items position challengeFields challenge areItems isItem
      isChallenge unknown
    rw [challengesOf_getElem? areChallenges areItems, isItem] at isChallenge
    exact lookUp_of_unknown statusOf_unknown (by decide) unknown
      (entry_sound isChallenge).1
  · exact risk_of_unknown isPrematureEnd
  · exact risk_of_unknown isDrift

/--
The mapping is total exactly on the documents of the shape: no other one gets
through the simulated auditor.
-/
theorem mapsTotally_iff_documentShaped
    (intOfText : String → Option Int)
    (fields : List (String × Json)) :
    MapsTotally intOfText fields ↔ DocumentShaped intOfText fields := by
  refine ⟨fun total => ?_, mapsTotally_of_documentShaped⟩
  obtain ⟨_, mapped, _⟩ := total
  obtain ⟨challenges, areChallenges, mapped⟩ :=
    Option.bind_eq_some_iff.mp mapped
  obtain ⟨audit, isAudit, _⟩ := Option.bind_eq_some_iff.mp mapped
  exact (auditResult_sound isAudit
    ((exists_challengesOf_iff fields).mp ⟨_, areChallenges⟩)).2.2

/-- A document whose only challenge is a bare text. -/
def bareChallenge : List (String × Json) :=
  [("verdict", .text "continue"),
    ("albert_challenges", .list [.text "What is the ROI?"])]

/-- A bare text in the place of a challenge raises. -/
theorem not_mapsTotally :
    ¬ ∀ intOfText fields, MapsTotally intOfText fields := by
  intro total
  obtain ⟨audit, mapped, _⟩ := total (fun _ => none) bareChallenge
  cases mapped

end AlbertContract

end ResearchCos
