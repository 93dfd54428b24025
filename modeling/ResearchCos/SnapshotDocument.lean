import ResearchCos.RecordDocuments
import ResearchCos.RunHistory

namespace ResearchCos

open Foundation

/-!
# The snapshot as a document

The state is dumped as one document with everything that it holds.  The entries
of the steering log are dictionaries already; a validation passes them on, and
they are told apart by their kinds.
-/

/-! ## Entries of the steering log -/

namespace SteeringEvent

def criterionFormat : Format Json (List Criterion) :=
  listOf
    (enumeration [.purpose, .scope, .success, .constraints] Criterion.value
      (by intro member; cases member <;> decide))

/-- What each option leads to. -/
def impactsFormat : Format Json (List (String × String)) :=
  .unchecked
    (fun impacts => .dict (impacts.map textFormat.entry.write))
    (fun document =>
      document.asFields.bind fun fields => fields.mapM textFormat.entry.read)
    (by
      intro impacts
      refine (textFormat.entry.mapM_read_iff ?_).mpr
        ⟨rfl, fun impact _ => textFormat_valid impact.2⟩
      rw [List.forall₂_map_left_iff, List.forall₂_same]
      exact fun impact _ => textFormat.entry.carries_write impact)

/-- The kinds of the entries that the program makes. -/
def kinds : List String :=
  ["clarify-assumed", "clarify-ask", "clarify-answer", "plan-assumed",
    "plan-approval", "steer", "request_pull", "pull_answer", "auto-default",
    "auto-review-pass", "review_decision", "notify-supplement"]

/-- An entry of another kind, if it is one, is really of another kind. -/
def Named : SteeringEvent → Prop
  | .other kind => kind ∉ kinds
  | _ => True

instance (event : SteeringEvent) : Decidable event.Named := by
  cases event <;> unfold Named <;> infer_instance

/-- A field that is there only if it has a value. -/
def given (name : String) (value : Option Json) : List (String × Json) :=
  value.elim [] fun document => [(name, document)]

def answerDocument : Answer → Json
  | .text answer => .text answer
  | .reply choice answer =>
      .dict (given "choice" (choice.map .text) ++
        given "answer" (answer.map .text))

def pullFields (request : PullRequest) : List (String × Json) :=
  given "context" (request.context.map .text) ++
    (given "why" (request.why.map .text) ++
      (given "options" (request.options.map textsFormat.write) ++
        (given "ai_recommendation" (request.aiRecommendation.map .text) ++
          (given "impact_per_option"
              (request.impactPerOption.map impactsFormat.write) ++
            given "default_if_no_response"
              (request.defaultIfNoResponse.map .text)))))

/-- The dictionary of a queued request. -/
def pullDict (request : PullRequest) (consumed : Bool) :
    List (String × Json) :=
  ("kind", .text "request_pull") ::
    (pullFields request ++
      given "consumed" (if consumed then some (.bool true) else none))

/-- The dictionary of an entry. -/
def toDict : SteeringEvent → List (String × Json)
  | .clarifyAssumed missing =>
      [("kind", .text "clarify-assumed"),
        ("missing", criterionFormat.write missing)]
  | .clarifyAsk questions missing =>
      [("kind", .text "clarify-ask"),
        ("questions", textsFormat.write questions),
        ("missing", criterionFormat.write missing)]
  | .clarifyAnswer answer forMissing =>
      [("kind", .text "clarify-answer"),
        ("answer", answerDocument answer),
        ("for_missing", criterionFormat.write forMissing)]
  | .planAssumed firstCycle cells =>
      [("kind", .text "plan-assumed"),
        ("first_cycle", .bool firstCycle),
        ("cells", textsFormat.write cells)]
  | .planApproval firstCycle cells =>
      [("kind", .text "plan-approval"),
        ("first_cycle", .bool firstCycle),
        ("cells", textsFormat.write cells)]
  | .planApprovalAnswer answer =>
      [("kind", .text "plan-approval"),
        ("answer", answerDocument answer)]
  | .steer text at_ consumed reranked =>
      [("kind", .text "steer"),
        ("text", .text text),
        ("at", .text at_),
        ("consumed", .bool consumed)] ++
        -- Consuming an entry says whether it has moved an issue.
        given "reranked"
          (if consumed || reranked then some (.bool reranked) else none)
  | .requestPull request consumed =>
      pullDict request consumed
  | .pullAnswer choice answer forContext =>
      [("kind", .text "pull_answer"),
        ("choice", optionalText.write choice),
        ("answer", .text answer),
        ("for_context", .text forContext)]
  | .autoDefault choice answer forContext =>
      [("kind", .text "auto-default"),
        ("choice", .text choice),
        ("answer", .text answer),
        ("for_context", .text forContext)]
  | .autoReviewPass answer =>
      [("kind", .text "auto-review-pass"), ("answer", .text answer)]
  | .reviewDecision answer =>
      [("kind", .text "review_decision"), ("answer", .text answer)]
  | .notifySupplement items =>
      [("kind", .text "notify-supplement"),
        ("items", textsFormat.write items)]
  | .other kind =>
      [("kind", .text kind)]

/-! ## Reading an entry -/

section Reading

variable (fields : List (String × Json))

/-- A field that must be there. -/
def demand {α : Type} (format : Format Json α) (name : String) : Option α :=
  (fields.lookup name).bind format.read

/-- A field that may be left out. -/
def allow
    {α : Type}
    (format : Format Json α)
    (name : String) : Option (Option α) :=
  (fields.lookup name).elim (some none) fun document =>
    (format.read document).map some

/-- A field that counts as false when it is left out. -/
def marked (name : String) : Bool :=
  ((fields.lookup name).getD .null).truthy

end Reading

def asAnswer : Json → Option Answer
  | .text answer => some (.text answer)
  | .dict fields => do
      let choice ← allow fields textFormat "choice"
      let answer ← allow fields textFormat "answer"
      some (.reply choice answer)
  | _ => none

def answerFormat : Format Json Answer :=
  .unchecked answerDocument asAnswer (by
    intro answer
    cases answer with
    | text => rfl
    | reply choice answer => cases choice <;> cases answer <;> rfl)

def asPullRequest (fields : List (String × Json)) : Option PullRequest := do
  let context ← allow fields textFormat "context"
  let why ← allow fields textFormat "why"
  let options ← allow fields textsFormat "options"
  let aiRecommendation ← allow fields textFormat "ai_recommendation"
  let impactPerOption ← allow fields impactsFormat "impact_per_option"
  let defaultIfNoResponse ← allow fields textFormat "default_if_no_response"
  some
    { context, why, options, aiRecommendation, impactPerOption,
      defaultIfNoResponse }

/-- The entry of a dictionary. -/
def ofDict (fields : List (String × Json)) : Option SteeringEvent := do
  let kind ← demand fields textFormat "kind"
  if kind = "clarify-assumed" then
    let missing ← demand fields criterionFormat "missing"
    some (.clarifyAssumed missing)
  else if kind = "clarify-ask" then
    let questions ← demand fields textsFormat "questions"
    let missing ← demand fields criterionFormat "missing"
    some (.clarifyAsk questions missing)
  else if kind = "clarify-answer" then
    let answer ← demand fields answerFormat "answer"
    let forMissing ← demand fields criterionFormat "for_missing"
    some (.clarifyAnswer answer forMissing)
  else if kind = "plan-assumed" then
    let cells ← demand fields textsFormat "cells"
    some (.planAssumed (marked fields "first_cycle") cells)
  else if kind = "plan-approval" then
    -- The ask and its answer are of one kind; only the answer has one.
    match ← allow fields answerFormat "answer" with
    | some answer => some (.planApprovalAnswer answer)
    | none =>
        let cells ← demand fields textsFormat "cells"
        some (.planApproval (marked fields "first_cycle") cells)
  else if kind = "steer" then
    let text ← allow fields textFormat "text"
    let at_ ← allow fields textFormat "at"
    some
      (.steer (text.getD "") (at_.getD "") (marked fields "consumed")
        (marked fields "reranked"))
  else if kind = "request_pull" then
    let request ← asPullRequest fields
    some (.requestPull request (marked fields "consumed"))
  else if kind = "pull_answer" then
    let choice ← demand fields optionalText "choice"
    let answer ← demand fields textFormat "answer"
    let forContext ← demand fields textFormat "for_context"
    some (.pullAnswer choice answer forContext)
  else if kind = "auto-default" then
    let choice ← demand fields textFormat "choice"
    let answer ← demand fields textFormat "answer"
    let forContext ← demand fields textFormat "for_context"
    some (.autoDefault choice answer forContext)
  else if kind = "auto-review-pass" then
    let answer ← demand fields textFormat "answer"
    some (.autoReviewPass answer)
  else if kind = "review_decision" then
    let answer ← demand fields textFormat "answer"
    some (.reviewDecision answer)
  else if kind = "notify-supplement" then
    let items ← demand fields textsFormat "items"
    some (.notifySupplement items)
  else
    some (.other kind)

/-! ## Entries read back -/

@[simp] theorem read_text
    (content : String) :
    textFormat.read (.text content) = some content :=
  rfl

@[simp] theorem read_texts
    (contents : List String) :
    textsFormat.read (textsFormat.write contents) = some contents :=
  (textsFormat.read_iff (textsFormat.carries_write contents)).mpr
    ⟨rfl, textsFormat_valid contents⟩

@[simp] theorem read_optionalText
    (content : Option String) :
    optionalText.read (optionalText.write content) = some content :=
  (optionalText.read_iff (optionalText.carries_write content)).mpr
    ⟨rfl, optionalText_valid content⟩

@[simp] theorem read_criteria
    (criteria : List Criterion) :
    criterionFormat.read (criterionFormat.write criteria) = some criteria :=
  (criterionFormat.read_iff (criterionFormat.carries_write criteria)).mpr
    ⟨rfl, fun criterion _ => enumeration_valid criterion⟩

@[simp] theorem read_answer
    (answer : Answer) :
    answerFormat.read (answerDocument answer) = some answer :=
  (answerFormat.read_iff (answerFormat.carries_write answer)).mpr
    ⟨rfl, trivial⟩

@[simp] theorem read_impacts
    (impacts : List (String × String)) :
    impactsFormat.read (impactsFormat.write impacts) = some impacts :=
  (impactsFormat.read_iff (impactsFormat.carries_write impacts)).mpr
    ⟨rfl, trivial⟩

@[simp] theorem lookup_given_append
    (name query : String)
    (value : Option Json)
    (rest : List (String × Json)) :
    (given name value ++ rest).lookup query =
      if query = name then
        value.or (rest.lookup query)
      else
        rest.lookup query := by
  cases value with
  | none =>
      simp [given]
  | some document =>
      by_cases same : query = name
      · simp [given, same]
      · simp [given, same, List.lookup_cons, beq_eq_false_iff_ne.mpr same]

@[simp] theorem lookup_given
    (name query : String)
    (value : Option Json) :
    (given name value).lookup query = if query = name then value else none := by
  have alone := lookup_given_append name query value []
  simpa using alone

theorem allow_of_lookup
    {α : Type}
    {fields : List (String × Json)}
    {format : Format Json α}
    {name : String}
    {write : α → Json}
    (reads : ∀ value, format.read (write value) = some value)
    {value : Option α}
    (isField : fields.lookup name = value.map write) :
    allow fields format name = some value := by
  rw [allow, isField]
  cases value with
  | none => rfl
  | some stored => simp [reads]

theorem lookup_pullDict
    {request : PullRequest}
    {consumed : Bool}
    {name : String}
    (notKind : name ≠ "kind")
    (notConsumed : name ≠ "consumed") :
    (pullDict request consumed).lookup name =
      (pullFields request).lookup name := by
  rw [pullDict, List.lookup_cons, beq_eq_false_iff_ne.mpr notKind]
  simp [pullFields, notConsumed]

theorem marked_pullDict
    (request : PullRequest)
    (consumed : Bool) :
    marked (pullDict request consumed) "consumed" = consumed := by
  have isField :
      (pullDict request consumed).lookup "consumed" =
        if consumed then some (.bool true) else none := by
    rw [pullDict, List.lookup_cons, beq_eq_false_iff_ne.mpr (by simp)]
    simp [pullFields]
  rw [marked, isField]
  cases consumed <;> rfl

/-- A queued request is read with the fields that it has. -/
theorem asPullRequest_pullDict
    (request : PullRequest)
    (consumed : Bool) :
    asPullRequest (pullDict request consumed) = some request := by
  have context :
      allow (pullDict request consumed) textFormat "context" =
        some request.context :=
    allow_of_lookup read_text
      (by rw [lookup_pullDict (by simp) (by simp)]; simp [pullFields])
  have why :
      allow (pullDict request consumed) textFormat "why" = some request.why :=
    allow_of_lookup read_text
      (by rw [lookup_pullDict (by simp) (by simp)]; simp [pullFields])
  have options :
      allow (pullDict request consumed) textsFormat "options" =
        some request.options :=
    allow_of_lookup read_texts
      (by rw [lookup_pullDict (by simp) (by simp)]; simp [pullFields])
  have recommendation :
      allow (pullDict request consumed) textFormat "ai_recommendation" =
        some request.aiRecommendation :=
    allow_of_lookup read_text
      (by rw [lookup_pullDict (by simp) (by simp)]; simp [pullFields])
  have impacts :
      allow (pullDict request consumed) impactsFormat "impact_per_option" =
        some request.impactPerOption :=
    allow_of_lookup read_impacts
      (by rw [lookup_pullDict (by simp) (by simp)]; simp [pullFields])
  have fallback :
      allow (pullDict request consumed) textFormat
          "default_if_no_response" =
        some request.defaultIfNoResponse :=
    allow_of_lookup read_text
      (by rw [lookup_pullDict (by simp) (by simp)]; simp [pullFields])
  unfold asPullRequest
  rw [context, why, options, recommendation, impacts, fallback]
  rfl

/-- Every entry that can be one is read from its dictionary. -/
theorem ofDict_toDict
    {event : SteeringEvent}
    (named : event.Named) :
    ofDict event.toDict = some event := by
  cases event with
  | steer text at_ consumed reranked =>
      cases consumed <;> cases reranked <;>
        simp [toDict, ofDict, demand, allow, marked, given, List.lookup_cons,
          Json.truthy]
  | requestPull request consumed =>
      have kind :
          demand (pullDict request consumed) textFormat "kind" =
            some "request_pull" :=
        rfl
      simp [toDict, ofDict, kind, asPullRequest_pullDict, marked_pullDict]
  | planApprovalAnswer answer =>
      simp [toDict, ofDict, demand, allow, List.lookup_cons]
  | other kind =>
      simp only [Named, kinds, List.mem_cons, List.not_mem_nil, or_false,
        not_or] at named
      simp [toDict, ofDict, demand, named]
  | _ =>
      simp [toDict, ofDict, demand, allow, marked, List.lookup_cons, Json.truthy]

/-- What a branch that does not give a value leaves for the others. -/
theorem branch_of_eq_some
    {read kind : String}
    {event : SteeringEvent}
    {first others : Option SteeringEvent}
    (isRead : (if read = kind then first else others) = some event)
    (notFirst : first ≠ some event) :
    read ≠ kind ∧ others = some event := by
  split at isRead
  · exact absurd isRead notFirst
  · exact ⟨‹_›, isRead⟩

theorem bind_ne_some
    {α : Type}
    {field : Option α}
    {entry : α → Option SteeringEvent}
    {event : SteeringEvent}
    (never : ∀ value, entry value ≠ some event) :
    field.bind entry ≠ some event := by
  cases field with
  | none => simp
  | some value => exact never value

/-- An entry that is read of another kind is really of another kind. -/
theorem named_of_ofDict
    {fields : List (String × Json)}
    {event : SteeringEvent}
    (isRead : ofDict fields = some event) :
    event.Named := by
  cases event with
  | other kind =>
      have one
          {α : Type}
          {field : Option α}
          {entry : α → SteeringEvent}
          (never : ∀ value, entry value ≠ .other kind) :
          (field.bind fun value => some (entry value)) ≠ some (.other kind) :=
        bind_ne_some fun value same => never value (Option.some.inj same)
      obtain ⟨read, _, isRead⟩ := Option.bind_eq_some_iff.mp isRead
      obtain ⟨notAssumed, isRead⟩ := branch_of_eq_some isRead (one (by simp))
      obtain ⟨notAsk, isRead⟩ :=
        branch_of_eq_some isRead (bind_ne_some fun _ => one (by simp))
      obtain ⟨notAnswer, isRead⟩ :=
        branch_of_eq_some isRead (bind_ne_some fun _ => one (by simp))
      obtain ⟨notPlan, isRead⟩ := branch_of_eq_some isRead (one (by simp))
      obtain ⟨notApproval, isRead⟩ := by
        refine branch_of_eq_some isRead (bind_ne_some fun answer => ?_)
        cases answer with
        | none => exact one (by simp)
        | some answer => simp
      obtain ⟨notSteer, isRead⟩ :=
        branch_of_eq_some isRead (bind_ne_some fun _ => one (by simp))
      obtain ⟨notRequest, isRead⟩ := branch_of_eq_some isRead (one (by simp))
      obtain ⟨notPull, isRead⟩ :=
        branch_of_eq_some isRead
          (bind_ne_some fun _ => bind_ne_some fun _ => one (by simp))
      obtain ⟨notDefault, isRead⟩ :=
        branch_of_eq_some isRead
          (bind_ne_some fun _ => bind_ne_some fun _ => one (by simp))
      obtain ⟨notPass, isRead⟩ := branch_of_eq_some isRead (one (by simp))
      obtain ⟨notReview, isRead⟩ := branch_of_eq_some isRead (one (by simp))
      obtain ⟨notNotified, isRead⟩ := branch_of_eq_some isRead (one (by simp))
      cases isRead
      simp only [Named, kinds, List.mem_cons, List.not_mem_nil, or_false,
        not_or]
      exact
        ⟨notAssumed, notAsk, notAnswer, notPlan, notApproval, notSteer,
          notRequest, notPull, notDefault, notPass, notReview, notNotified⟩
  | _ =>
      trivial

/-- The document of an entry; an entry that is none has no document. -/
def document (event : SteeringEvent) : Json :=
  if event.Named then .dict event.toDict else .null

/-- Entries of the log as documents. -/
def format : Format Json SteeringEvent where
  write := document
  read document := document.asFields.bind ofDict
  Valid := Named
  Carries written event := written = event.document
  carries_write _ := rfl
  valid_of_read := by
    intro written event isRead
    obtain ⟨fields, _, isEvent⟩ := Option.bind_eq_some_iff.mp isRead
    exact named_of_ofDict isEvent
  read_iff := by
    rintro _ event rfl found
    unfold document
    split
    · rename_i named
      rw [Json.asFields, Option.bind_some, ofDict_toDict named,
        Option.some.injEq]
      exact ⟨fun same => ⟨same.symm, named⟩, fun same => same.1.symm⟩
    · rename_i unnamed
      simp [Json.asFields, unnamed]

end SteeringEvent

/-! ## The state -/

abbrev modeFormat : Format Json Mode :=
  enumeration [.interactive, .auto] Mode.value
    (by intro member; cases member <;> decide)

/-- A record is not written as `null`. -/
theorem isNull_of_carries_record
    {α β : Type}
    {fields : Fields Json β}
    {shape : α → β}
    {unshape : β → α}
    {unshape_shape : ∀ value, unshape (shape value) = value}
    {shape_unshape : ∀ value, shape (unshape value) = value}
    {document : Json}
    {value : α}
    (carries :
      (recordOf fields shape unshape unshape_shape shape_unshape).Carries
        document value) :
    document.isNull = false := by
  obtain ⟨stored, isRecord, _⟩ := carries
  cases document with
  | dict => rfl
  | _ => cases isRecord

section Snapshot

variable (tables : TextTables)

def optionalFlag : Format Json (Option Bool) :=
  optionalOf (flagFormat tables) (by rintro _ _ rfl; rfl)

def optionalGrid : Format Json (Option TaskGrid) :=
  optionalOf (gridFormat tables) isNull_of_carries_record

def optionalScore : Format Json (Option ReadinessScore) :=
  optionalOf (scoreFormat tables) isNull_of_carries_record

def optionalAudit : Format Json (Option AuditResult) :=
  optionalOf (auditFormat tables) isNull_of_carries_record

/-- One point of the readiness trend. -/
def readinessFormat : Format Json ReadinessRecord :=
  recordOf
    (required "sum" (integerFormat tables) <|
      required "iteration" (integerFormat tables) .nil)
    (fun point => (point.sum, point.iteration, ()))
    (fun (sum, iteration, _) => { sum, iteration })
    (fun _ => rfl) (fun _ => rfl)

@[simp] theorem optionalFlag_valid
    (flag : Option Bool) :
    (optionalFlag tables).Valid flag :=
  fun stored _ => flagFormat_valid tables stored

@[simp] theorem optionalGrid_valid
    (grid : Option TaskGrid) :
    (optionalGrid tables).Valid grid :=
  fun stored _ => gridFormat_valid tables stored

@[simp] theorem optionalScore_valid_iff
    {score : Option ReadinessScore} :
    (optionalScore tables).Valid score ↔ ∀ stored ∈ score, stored.Valid :=
  forall₂_congr fun _ _ => scoreFormat_valid_iff

@[simp] theorem optionalAudit_valid_iff
    {audit : Option AuditResult} :
    (optionalAudit tables).Valid audit ↔ ∀ stored ∈ audit, stored.Valid :=
  forall₂_congr fun _ _ => auditFormat_valid_iff

theorem integerFormat_valid_zero : (integerFormat tables).Valid 0 :=
  integerFormat_valid tables 0

theorem optionalScore_valid_none : (optionalScore tables).Valid none := by
  simp

theorem optionalAudit_valid_none : (optionalAudit tables).Valid none := by
  simp

@[simp] theorem readinessFormat_valid
    (point : ReadinessRecord) :
    (readinessFormat tables).Valid point := by
  simp [readinessFormat]

@[simp] theorem eventFormat_valid_iff
    {event : SteeringEvent} :
    SteeringEvent.format.Valid event ↔ event.Named :=
  Iff.rfl

def stateFormat : Format Json ResearchState :=
  recordOf
    (required "run_id" textFormat <|
      required "original_question" textFormat <|
      defaulted "mode" modeFormat .interactive (enumeration_valid _) <|
      textsField "available_sources" <|
      defaulted "internal_documents_available" (optionalFlag tables) none
        (optionalFlag_valid _ _) <|
      optionalTextField "default_research_priority" <|
      optionalTextField "fallback_behavior_if_human_unavailable" <|
      optionalTextField "research_brief" <|
      optionalTextField "decision_criterion" <|
      optionalTextField "success_form" <|
      defaulted "clarify_converged" (flagFormat tables) false
        (flagFormat_valid _ _) <|
      defaulted "task_grid" (optionalGrid tables) none
        (optionalGrid_valid _ _) <|
      defaulted "issue_map" (dictOf (issueFormat tables)) ∅
        (dictOf_valid_empty _) <|
      defaulted "albert_challenge_map" (dictOf (challengeFormat tables)) ∅
        (dictOf_valid_empty _) <|
      defaulted "evidence" (listOf (bundleFormat tables)) []
        (listOf_valid_nil _) <|
      defaulted "human_tasks" (dictOf (humanTaskFormat tables)) ∅
        (dictOf_valid_empty _) <|
      defaulted "steering_events" (listOf SteeringEvent.format) []
        (listOf_valid_nil _) <|
      defaulted "readiness_score" (optionalScore tables) none
        (optionalScore_valid_none tables) <|
      defaulted "readiness_history" (listOf (readinessFormat tables)) []
        (listOf_valid_nil _) <|
      defaulted "convergence_history" (listOf (countFormat tables)) []
        (listOf_valid_nil _) <|
      defaulted "iteration_count" (integerFormat tables) 0
        (integerFormat_valid_zero tables) <|
      defaulted "last_audit" (optionalAudit tables) none
        (optionalAudit_valid_none tables) <|
      defaulted "deep_audit_count" (integerFormat tables) 0
        (integerFormat_valid_zero tables) <|
      textsField "researched_queries" <|
      textsField "processed_references" <|
      optionalTextField "final_memo" <|
      optionalTextField "updated_at" <|
      optionalTextField "stop_reason" .nil)
    (fun rs =>
      (rs.runId, rs.originalQuestion, rs.mode, rs.availableSources,
        rs.internalDocumentsAvailable, rs.defaultResearchPriority,
        rs.fallbackBehaviorIfHumanUnavailable, rs.researchBrief,
        rs.decisionCriterion, rs.successForm, rs.clarifyConverged,
        rs.taskGrid, rs.issueMap, rs.albertChallengeMap, rs.evidence,
        rs.humanTasks, rs.steeringEvents, rs.readinessScore,
        rs.readinessHistory, rs.convergenceHistory, rs.iterationCount,
        rs.lastAudit, rs.deepAuditCount, rs.researchedQueries,
        rs.processedReferences, rs.finalMemo, rs.updatedAt, rs.stopReason,
        ()))
    (fun (runId, originalQuestion, mode, availableSources,
        internalDocumentsAvailable, defaultResearchPriority,
        fallbackBehaviorIfHumanUnavailable, researchBrief, decisionCriterion,
        successForm, clarifyConverged, taskGrid, issueMap, albertChallengeMap,
        evidence, humanTasks, steeringEvents, readinessScore,
        readinessHistory, convergenceHistory, iterationCount, lastAudit,
        deepAuditCount, researchedQueries, processedReferences, finalMemo,
        updatedAt, stopReason, _) =>
      { runId, originalQuestion, mode, availableSources,
        internalDocumentsAvailable, defaultResearchPriority,
        fallbackBehaviorIfHumanUnavailable, researchBrief, decisionCriterion,
        successForm, clarifyConverged, taskGrid, issueMap, albertChallengeMap,
        evidence, humanTasks, steeringEvents, readinessScore,
        readinessHistory, convergenceHistory, iterationCount, lastAudit,
        deepAuditCount, researchedQueries, processedReferences, finalMemo,
        updatedAt, stopReason })
    (fun _ => rfl) (fun _ => rfl)

/-- A state is read back within the checked bounds. -/
theorem stateFormat_valid_iff
    {rs : ResearchState} :
    (stateFormat tables).Valid rs ↔
      rs.Valid ∧ ∀ event ∈ rs.steeringEvents, event.Named := by
  rw [ResearchState.valid_iff]
  simp only [stateFormat, recordOf_valid_iff, required_valid_iff,
    defaulted_valid_iff, textsField_valid_iff, optionalTextField_valid_iff]
  simp only [textFormat_valid, enumeration_valid, optionalFlag_valid,
    flagFormat_valid, optionalGrid_valid, dictOf_valid_iff,
    OrderedMap.AllValues, issueFormat_valid_iff, challengeFormat_valid_iff,
    listOf_valid_iff, bundleFormat_valid_iff, humanTaskFormat_valid_iff,
    eventFormat_valid_iff, optionalScore_valid_iff, readinessFormat_valid,
    implies_true, countFormat_valid, integerFormat_valid,
    optionalAudit_valid_iff, nil_valid, and_self, and_true, true_and]
  tauto

end Snapshot

/-! ## The log of a run -/

/-- Every entry of the log can be one. -/
def LogNamed (rs : ResearchState) : Prop :=
  ∀ event ∈ rs.steeringEvents, event.Named

theorem SteeringEvent.MarkedAs.named_iff
    {before after : SteeringEvent}
    (marked : before.MarkedAs after) :
    after.Named ↔ before.Named := by
  cases marked with
  | same => rfl
  | steer => rfl
  | pull => rfl

theorem named_of_marked
    {before after : List SteeringEvent}
    (marked : List.Forall₂ SteeringEvent.MarkedAs before after)
    (named : ∀ event ∈ before, event.Named) :
    ∀ event ∈ after, event.Named := by
  induction marked with
  | nil =>
      exact named
  | cons first _ inductionHypothesis =>
      obtain ⟨namedFirst, namedRest⟩ := List.forall_mem_cons.mp named
      exact
        List.forall_mem_cons.mpr
          ⟨first.named_iff.mpr namedFirst, inductionHypothesis namedRest⟩

theorem LogNamed.append
    {rs after : ResearchState}
    {new : List SteeringEvent}
    (named : LogNamed rs)
    (appended : after.steeringEvents = rs.steeringEvents ++ new)
    (newNamed : ∀ event ∈ new, event.Named) :
    LogNamed after := by
  rw [LogNamed, appended]
  exact List.forall_mem_append.mpr ⟨named, newNamed⟩

theorem LogNamed.consumeSteerEvents
    {rs : ResearchState}
    (named : LogNamed rs) :
    LogNamed (consumeSteerEvents rs) :=
  named_of_marked (marked_consumeSteers _ _) named

theorem LogNamed.consumePull
    {rs : ResearchState}
    {event : SteeringEvent}
    (named : LogNamed rs)
    (isNamed : event.Named) :
    ∀ other ∈ consumePull (rs.steeringEvents ++ [event]), other.Named := by
  refine named_of_marked (marked_consumePull _) ?_
  exact
    List.forall_mem_append.mpr ⟨named, List.forall_mem_singleton.mpr isNamed⟩

theorem relatesAdded_sameLog :
    RelatesAdded fun before after =>
      after.steeringEvents = before.steeringEvents where
  refl := fun _ => rfl
  trans := fun earlier later => later.trans earlier
  add := by
    intro rs after title description now issueType impact confidence added
    simp only [IssueMap.add] at added
    split at added
    · cases added
      rfl
    · cases added

section Runs

variable [PythonText]

/-- Building the memo adds at most a notice. -/
theorem LogNamed.buildAndGateMemo
    {env : StepEnv}
    {state : GraphState}
    {world after : World}
    {rs : ResearchState}
    (named : LogNamed state.researchState)
    (built : buildAndGateMemo env state world = some (rs, after)) :
    LogNamed rs := by
  obtain ⟨_, log, _, rfl, notified⟩ := buildAndGateMemo_eq_some built
  refine named.append rfl ?_
  rcases notified with rfl | ⟨needs, rfl⟩
  · rintro _ ⟨⟩
  · exact List.forall_mem_singleton.mpr trivial

/-- The entries that a node adds are entries. -/
theorem NodeUpdate.logNamed
    {env : StepEnv}
    {state : GraphState}
    {world after : World}
    {node : Node}
    {update : Update}
    (written : NodeUpdate env state world node update after)
    (named : LogNamed state.researchState) :
    LogNamed update.researchState := by
  cases written with
  | clarifyAssumed =>
      exact named.append rfl (by simp [SteeringEvent.Named])
  | clarifyAnswered =>
      exact named.append rfl (by simp [SteeringEvent.Named])
  | planAssumed =>
      exact named.append rfl (by simp [SteeringEvent.Named])
  | planAnswered =>
      exact named.append rfl (by simp [SteeringEvent.Named])
  | issuesPlanned rs expanded
  | cellsPlanned rs _ _ expanded =>
      have same := relatesAdded_sameLog.expandIssues expanded
      have consumed := named.consumeSteerEvents
      unfold LogNamed at consumed ⊢
      exact same ▸ consumed
  | issuesExpanded rs expanded =>
      have same := relatesAdded_sameLog.expandIssues expanded
      unfold LogNamed at named ⊢
      exact same ▸ named
  | supervised =>
      exact named.consumeSteerEvents
  | branched budget =>
      have same :=
        relatesAdded_sameLog.materializeCompetitor state.researchState
          state.config.now budget
      unfold LogNamed at named ⊢
      exact same ▸ named
  | pullDefaulted
  | pullAnswered =>
      exact named.consumePull trivial
  | pushed key target blocked isTarget _ setsBlocked =>
      rw [IssueMap.setStatus_eq_some setsBlocked]
      exact named
  | reviewBuilt _ _ built =>
      exact named.buildAndGateMemo built
  | reviewPassed _ _ _ built
  | reviewAnswered _ _ _ built =>
      exact
        (named.buildAndGateMemo built).append rfl
          (by simp [SteeringEvent.Named])
  | _ =>
      exact named

theorem step_logNamed
    {execution next : Execution}
    {env : StepEnv}
    (named : LogNamed execution.graph.researchState)
    (stepped : step execution env = some next) :
    LogNamed next.graph.researchState := by
  obtain
    ⟨node, seen, _, same | ⟨update, world, after, reason, ran, moved⟩⟩ :=
      step_writes stepped
  · rw [same]
    exact named
  · rw [moved]
    exact (runNode_updates ran).logNamed named

omit [PythonText] in
/-- What a named log has gone on from was named. -/
theorem LogNamed.of_extends
    {before after : ResearchState}
    (named : LogNamed after)
    (extended : before.Extends after) :
    LogNamed before := by
  intro event member
  obtain ⟨index, stands⟩ := List.mem_iff_getElem?.mp member
  obtain ⟨later, standsLater, marked⟩ :=
    extended.steeringEvents index event stands
  exact marked.named_iff.mp (named later (List.mem_of_getElem? standsLater))

omit [PythonText] in
/-- A document of a state is validated as the state is. -/
theorem read_state_document
    {tables : TextTables}
    {rs : ResearchState}
    {document : Json}
    (named : LogNamed rs)
    (carries : (stateFormat tables).Carries document rs) :
    (stateFormat tables).read document = rs.modelValidate := by
  unfold ResearchState.modelValidate
  split
  · rename_i valid
    exact
      ((stateFormat tables).read_iff carries).mpr
        ⟨rfl, (stateFormat_valid_iff tables).mpr ⟨valid, named⟩⟩
  · rename_i invalid
    refine ((stateFormat tables).read_eq_none_iff carries).mpr fun valid => ?_
    exact invalid ((stateFormat_valid_iff tables).mp valid).1

/--
Whatever fields it has outside the records, the document of the last snapshot
of a run is read as the snapshot is loaded.  Every document that is accepted
holds ratings within their bounds, and what is dumped of it is accepted again.
-/
theorem snapshot_document_loads
    {execution final : Execution}
    {envs : List StepEnv}
    {tables : TextTables}
    {saved : ResearchState}
    {document : Json}
    (nothing : NothingMinted execution.graph.researchState)
    (unlogged : execution.graph.researchState.steeringEvents = [])
    (unsaved : execution.world.snapshot = none)
    (ran : exec step execution envs = some final)
    (isSaved : final.world.snapshot = some saved)
    (carries : (stateFormat tables).Carries document saved) :
    (stateFormat tables).read document = loadSnapshot final.world ∧
      ∀ accepted rs,
        (stateFormat tables).read accepted = some rs →
          rs.Valid ∧
            (stateFormat tables).read ((stateFormat tables).write rs) =
              some rs := by
  obtain ⟨noIssues, noChallenges, noTasks⟩ := nothing
  have begins : SnapshotContinued execution := by
    refine
      ⟨ResearchState.numbered_of_empty noIssues noChallenges noTasks, ?_⟩
    intro saved isSaved
    rw [unsaved] at isSaved
    cases isSaved
  have continued :=
    exec_invariant (motive := SnapshotContinued) step_snapshotContinued begins
      ran
  have unnamed : LogNamed execution.graph.researchState := by
    intro event member
    rw [unlogged] at member
    cases member
  have named :=
    exec_invariant (motive := fun reached => LogNamed reached.graph.researchState)
      step_logNamed unnamed ran
  have savedNamed := named.of_extends (continued.saved saved isSaved).2
  refine ⟨?_, ?_⟩
  · rw [read_state_document savedNamed carries, loadSnapshot, isSaved]
    rfl
  · intro accepted rs isRead
    have valid := (stateFormat tables).valid_of_read isRead
    exact
      ⟨((stateFormat_valid_iff tables).mp valid).1,
        (stateFormat tables).read_write_of_read isRead⟩

end Runs

/-- A question whose issue is researched before the snapshot is saved. -/
private def savedQuestion : Execution where
  graph :=
    { researchState := { runId := "run", originalQuestion := "question" }
      config := { assumeBrief := true } }
  control := .at .intake
  world := {}

private def savingBrains : Brains :=
  { Brains.silent with
    issueExpander := fun _ =>
      some
        [{ title := "issue"
           description := ""
           issueType := .market
           impact := 3
           confidence := 2 }]
    researcher := fun rs issueId =>
      some { query := rs.originalQuestion, issueId := some issueId } }

private def plainTables : TextTables where
  intOfText := fun _ => none
  flagOfText := fun _ => none

/-- The first snapshot is read back from its document. -/
theorem snapshot_document_loads_firstPass :
    letI := PythonText.ascii
    ∃ final saved,
      exec step savedQuestion (List.replicate 14 (.calm savingBrains)) =
        some final ∧
      final.world.snapshot = some saved ∧
      saved.evidence.length = 1 ∧
      (stateFormat plainTables).read
          ((stateFormat plainTables).write saved) =
        some saved := by
  let _ := PythonText.ascii
  let final :=
    (exec step savedQuestion
      (List.replicate 14 (.calm savingBrains))).get (by decide +kernel)
  have ran :
      exec step savedQuestion (List.replicate 14 (.calm savingBrains)) =
        some final :=
    (Option.some_get _).symm
  have lengths :
      (final.world.snapshot.map fun saved => saved.evidence.length) =
        some 1 := by
    decide +kernel
  have loaded : loadSnapshot final.world = final.world.snapshot := by
    decide +kernel
  obtain ⟨saved, isSaved, length⟩ := Option.map_eq_some_iff.mp lengths
  have isRead :=
    (snapshot_document_loads ⟨rfl, rfl, rfl⟩ rfl rfl ran isSaved
      ((stateFormat plainTables).carries_write saved)).1
  rw [loaded, isSaved] at isRead
  exact ⟨final, saved, ran, isSaved, length, isRead⟩

end ResearchCos
