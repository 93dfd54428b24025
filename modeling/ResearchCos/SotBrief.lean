import Mathlib.Data.List.Infix
import Mathlib.Data.List.Sort
import ResearchCos.AlbertContract
import ResearchCos.Foundation.InterruptedWrites
import ResearchCos.Text

namespace ResearchCos

open Foundation

/-!
# The brief and its files

A version of the brief is two files of the run directory: a rendering for
readers and a document that is loaded again.  Versions are discovered by the
names of the renderings.  Every file is one write of an action, so a crash
leaves the first writes of it.
-/

inductive BriefStatus where
  | draft
  | confirmed
  | superseded
  deriving Repr, DecidableEq

def BriefStatus.value : BriefStatus → String
  | .draft => "draft"
  | .confirmed => "confirmed"
  | .superseded => "superseded"

def briefStatusOf (status : String) : Option BriefStatus :=
  if status = "draft" then
    some .draft
  else if status = "confirmed" then
    some .confirmed
  else if status = "superseded" then
    some .superseded
  else
    none

theorem briefStatusOf_value
    (status : BriefStatus) :
    briefStatusOf status.value = some status := by
  cases status <;> rfl

theorem one_isPositive : 1 ≤ 1 :=
  Nat.le_refl 1

/-- The brief of a run; its version is positive. -/
structure SOTBrief where
  version : Nat := 1
  objective : String
  background : String := ""
  inScope : List String := []
  outOfScope : List String := []
  constraints : List String := []
  assumptions : List String := []
  forbiddenDirections : List String := []
  availableSources : List String := []
  deliverable : String
  successCriteria : List String := []
  decisionServed : Option String := none
  decisionCriterion : Option String := none
  openQuestions : List String := []
  status : BriefStatus := .draft
  confirmedBy : Option String := none
  createdAt : Option String := none
  isPositive : 1 ≤ version := by decide
  deriving Repr, DecidableEq

namespace SOTBrief

def bullets (items : List String) : String :=
  if items = [] then
    "_(none)_"
  else
    "\n".intercalate (items.map fun item => "- " ++ item)

def toMarkdown (brief : SOTBrief) : String :=
  "\n".intercalate
    ["# SOT Brief v" ++ toString brief.version,
      "",
      "- **status**: " ++ brief.status.value,
      "- **confirmed_by**: " ++ orDefault brief.confirmedBy "_(unconfirmed)_",
      "- **created_at**: " ++ orDefault brief.createdAt "_(unset)_",
      "",
      "## Objective (north-star)",
      brief.objective,
      "",
      "## Background",
      orDefault (some brief.background) "_(none)_",
      "",
      "## In scope",
      bullets brief.inScope,
      "",
      "## Out of scope",
      bullets brief.outOfScope,
      "",
      "## Constraints",
      bullets brief.constraints,
      "",
      "## Assumptions",
      bullets brief.assumptions,
      "",
      "## Forbidden directions",
      bullets brief.forbiddenDirections,
      "",
      "## Available sources",
      bullets brief.availableSources,
      "",
      "## Deliverable",
      brief.deliverable,
      "",
      "## Success criteria",
      bullets brief.successCriteria,
      "",
      "## Decision served",
      orDefault brief.decisionServed "_(none / deferred)_",
      "",
      "## Decision criterion",
      orDefault brief.decisionCriterion "_(deferred to human)_",
      "",
      "## Open questions",
      bullets brief.openQuestions,
      ""]

/-! ## The document of a brief -/

/-- The fields that hold a list. -/
def listFields : List String :=
  ["in_scope", "out_of_scope", "constraints", "assumptions",
    "forbidden_directions", "available_sources", "success_criteria",
    "open_questions"]

def modelFields : List String :=
  ["version", "objective", "background", "in_scope", "out_of_scope",
    "constraints", "assumptions", "forbidden_directions", "available_sources",
    "deliverable", "success_criteria", "decision_served",
    "decision_criterion", "open_questions", "status", "confirmed_by",
    "created_at"]

def ofTexts (items : List String) : Json :=
  .list (items.map .text)

def ofOptional : Option String → Json
  | none => .null
  | some content => .text content

/-- The fields of a brief under their names. -/
def modelDump (brief : SOTBrief) : List (String × Json) :=
  [("version", .int brief.version),
    ("objective", .text brief.objective),
    ("background", .text brief.background),
    ("in_scope", ofTexts brief.inScope),
    ("out_of_scope", ofTexts brief.outOfScope),
    ("constraints", ofTexts brief.constraints),
    ("assumptions", ofTexts brief.assumptions),
    ("forbidden_directions", ofTexts brief.forbiddenDirections),
    ("available_sources", ofTexts brief.availableSources),
    ("deliverable", .text brief.deliverable),
    ("success_criteria", ofTexts brief.successCriteria),
    ("decision_served", ofOptional brief.decisionServed),
    ("decision_criterion", ofOptional brief.decisionCriterion),
    ("open_questions", ofTexts brief.openQuestions),
    ("status", .text brief.status.value),
    ("confirmed_by", ofOptional brief.confirmedBy),
    ("created_at", ofOptional brief.createdAt)]

/-- A number without a fraction; how a text is read is left to a table. -/
def asInteger (intOfText : String → Option Int) : Json → Option Int
  | .bool flag => some (if flag then 1 else 0)
  | .int value => some value
  | .float (some value) => if value.den = 1 then some value.num else none
  | .text content => intOfText content
  | _ => none

/-- A list of texts. -/
def listOfTexts : Json → Option (List String)
  | .list items => items.mapM Json.asText
  | _ => none

section Fields

variable
  (fields : List (String × Json))
  (key : String)

/-- A text that has no default. -/
def requiredText : Option String :=
  (fields.lookup key).bind Json.asText

def textOrEmpty : Option String :=
  ((fields.lookup key).getD (.text "")).asText

def textsOrNone : Option (List String) :=
  listOfTexts ((fields.lookup key).getD (.list []))

def optionalText : Option (Option String) :=
  ((fields.lookup key).getD .null).asOptionalText

end Fields

/-- Construct a brief from a document; `none` when the validation raises. -/
def modelValidate (intOfText : String → Option Int) : Json → Option SOTBrief
  | .dict fields => do
      let version ←
        asInteger intOfText ((fields.lookup "version").getD (.int 1))
      let objective ← requiredText fields "objective"
      let background ← textOrEmpty fields "background"
      let inScope ← textsOrNone fields "in_scope"
      let outOfScope ← textsOrNone fields "out_of_scope"
      let constraints ← textsOrNone fields "constraints"
      let assumptions ← textsOrNone fields "assumptions"
      let forbiddenDirections ← textsOrNone fields "forbidden_directions"
      let availableSources ← textsOrNone fields "available_sources"
      let deliverable ← requiredText fields "deliverable"
      let successCriteria ← textsOrNone fields "success_criteria"
      let decisionServed ← optionalText fields "decision_served"
      let decisionCriterion ← optionalText fields "decision_criterion"
      let openQuestions ← textsOrNone fields "open_questions"
      let status ←
        ((fields.lookup "status").getD (.text "draft")).asText >>= briefStatusOf
      let confirmedBy ← optionalText fields "confirmed_by"
      let createdAt ← optionalText fields "created_at"
      if isPositive : 1 ≤ version.toNat then
        some
          { version := version.toNat
            objective := objective
            background := background
            inScope := inScope
            outOfScope := outOfScope
            constraints := constraints
            assumptions := assumptions
            forbiddenDirections := forbiddenDirections
            availableSources := availableSources
            deliverable := deliverable
            successCriteria := successCriteria
            decisionServed := decisionServed
            decisionCriterion := decisionCriterion
            openQuestions := openQuestions
            status := status
            confirmedBy := confirmedBy
            createdAt := createdAt
            isPositive := isPositive }
      else
        none
  | _ => none

/-- The fields of a document are read as those of a brief. -/
structure Validates
    (intOfText : String → Option Int)
    (fields : List (String × Json))
    (brief : SOTBrief) : Prop where
  version :
    asInteger intOfText ((fields.lookup "version").getD (.int 1)) =
      some (brief.version : Int)
  objective : requiredText fields "objective" = some brief.objective
  background : textOrEmpty fields "background" = some brief.background
  inScope : textsOrNone fields "in_scope" = some brief.inScope
  outOfScope : textsOrNone fields "out_of_scope" = some brief.outOfScope
  constraints : textsOrNone fields "constraints" = some brief.constraints
  assumptions : textsOrNone fields "assumptions" = some brief.assumptions
  forbiddenDirections :
    textsOrNone fields "forbidden_directions" = some brief.forbiddenDirections
  availableSources :
    textsOrNone fields "available_sources" = some brief.availableSources
  deliverable : requiredText fields "deliverable" = some brief.deliverable
  successCriteria :
    textsOrNone fields "success_criteria" = some brief.successCriteria
  decisionServed :
    optionalText fields "decision_served" = some brief.decisionServed
  decisionCriterion :
    optionalText fields "decision_criterion" = some brief.decisionCriterion
  openQuestions :
    textsOrNone fields "open_questions" = some brief.openQuestions
  status :
    (((fields.lookup "status").getD (.text "draft")).asText >>=
      briefStatusOf) = some brief.status
  confirmedBy : optionalText fields "confirmed_by" = some brief.confirmedBy
  createdAt : optionalText fields "created_at" = some brief.createdAt

/-- A document is validated as the brief that its fields are read as. -/
theorem modelValidate_eq_some_iff
    {intOfText : String → Option Int}
    {fields : List (String × Json)}
    {brief : SOTBrief} :
    modelValidate intOfText (.dict fields) = some brief ↔
      Validates intOfText fields brief := by
  constructor
  · intro validated
    obtain ⟨version, isVersion, validated⟩ :=
      Option.bind_eq_some_iff.mp validated
    obtain ⟨objective, isObjective, validated⟩ :=
      Option.bind_eq_some_iff.mp validated
    obtain ⟨background, isBackground, validated⟩ :=
      Option.bind_eq_some_iff.mp validated
    obtain ⟨inScope, isInScope, validated⟩ :=
      Option.bind_eq_some_iff.mp validated
    obtain ⟨outOfScope, isOutOfScope, validated⟩ :=
      Option.bind_eq_some_iff.mp validated
    obtain ⟨constraints, areConstraints, validated⟩ :=
      Option.bind_eq_some_iff.mp validated
    obtain ⟨assumptions, areAssumptions, validated⟩ :=
      Option.bind_eq_some_iff.mp validated
    obtain ⟨forbidden, areForbidden, validated⟩ :=
      Option.bind_eq_some_iff.mp validated
    obtain ⟨sources, areSources, validated⟩ :=
      Option.bind_eq_some_iff.mp validated
    obtain ⟨deliverable, isDeliverable, validated⟩ :=
      Option.bind_eq_some_iff.mp validated
    obtain ⟨criteria, areCriteria, validated⟩ :=
      Option.bind_eq_some_iff.mp validated
    obtain ⟨served, isServed, validated⟩ := Option.bind_eq_some_iff.mp validated
    obtain ⟨criterion, isCriterion, validated⟩ :=
      Option.bind_eq_some_iff.mp validated
    obtain ⟨questions, areQuestions, validated⟩ :=
      Option.bind_eq_some_iff.mp validated
    obtain ⟨status, isStatus, validated⟩ := Option.bind_eq_some_iff.mp validated
    obtain ⟨confirmedBy, isConfirmedBy, validated⟩ :=
      Option.bind_eq_some_iff.mp validated
    obtain ⟨createdAt, isCreatedAt, validated⟩ :=
      Option.bind_eq_some_iff.mp validated
    split at validated
    · rename_i isPositive
      cases validated
      have toNat : (version.toNat : Int) = version := by
        omega
      exact
        { version := by rw [isVersion, toNat]
          objective := isObjective
          background := isBackground
          inScope := isInScope
          outOfScope := isOutOfScope
          constraints := areConstraints
          assumptions := areAssumptions
          forbiddenDirections := areForbidden
          availableSources := areSources
          deliverable := isDeliverable
          successCriteria := areCriteria
          decisionServed := isServed
          decisionCriterion := isCriterion
          openQuestions := areQuestions
          status := isStatus
          confirmedBy := isConfirmedBy
          createdAt := isCreatedAt }
    · cases validated
  · intro validates
    have isStatus := validates.status
    rw [Option.bind_eq_bind] at isStatus
    simp only [modelValidate, Option.bind_eq_bind, Option.bind_some,
      validates.version, validates.objective, validates.background,
      validates.inScope, validates.outOfScope, validates.constraints,
      validates.assumptions, validates.forbiddenDirections,
      validates.availableSources, validates.deliverable,
      validates.successCriteria, validates.decisionServed,
      validates.decisionCriterion, validates.openQuestions, isStatus,
      validates.confirmedBy, validates.createdAt, Int.toNat_natCast]
    exact dif_pos brief.isPositive

/-- Texts that are written as a list are read back. -/
@[simp] theorem listOfTexts_ofTexts
    (items : List String) :
    listOfTexts (ofTexts items) = some items := by
  induction items with
  | nil =>
      rfl
  | cons first rest inductionHypothesis =>
      simp only [listOfTexts, ofTexts] at inductionHypothesis
      simp [listOfTexts, ofTexts, inductionHypothesis, Json.asText]

theorem eq_text_of_asText
    {value : Json}
    {content : String}
    (isRead : value.asText = some content) :
    value = .text content := by
  cases value with
  | text other =>
      cases isRead
      rfl
  | _ =>
      cases isRead

/-- What is read as a list of texts is one. -/
theorem eq_ofTexts_of_listOfTexts
    {value : Json}
    {items : List String}
    (isRead : listOfTexts value = some items) :
    value = ofTexts items := by
  cases value with
  | list elements =>
      refine congrArg Json.list ?_
      induction elements generalizing items with
      | nil =>
          cases isRead
          rfl
      | cons first rest inductionHypothesis =>
          rw [listOfTexts, List.mapM_cons] at isRead
          obtain ⟨head, isHead, isRead⟩ := Option.bind_eq_some_iff.mp isRead
          obtain ⟨tail, isTail, isRead⟩ := Option.bind_eq_some_iff.mp isRead
          cases isRead
          rw [eq_text_of_asText isHead, inductionHypothesis isTail,
            List.map_cons]
  | _ =>
      cases isRead

@[simp] theorem asOptionalText_ofOptional
    (content : Option String) :
    (ofOptional content).asOptionalText = some content := by
  cases content <;> rfl

/-- The fields of a brief are read as the brief. -/
theorem validates_modelDump
    (intOfText : String → Option Int)
    (brief : SOTBrief) :
    Validates intOfText brief.modelDump brief where
  version := rfl
  objective := rfl
  background := rfl
  inScope := listOfTexts_ofTexts _
  outOfScope := listOfTexts_ofTexts _
  constraints := listOfTexts_ofTexts _
  assumptions := listOfTexts_ofTexts _
  forbiddenDirections := listOfTexts_ofTexts _
  availableSources := listOfTexts_ofTexts _
  deliverable := rfl
  successCriteria := listOfTexts_ofTexts _
  decisionServed := asOptionalText_ofOptional _
  decisionCriterion := asOptionalText_ofOptional _
  openQuestions := listOfTexts_ofTexts _
  status := briefStatusOf_value _
  confirmedBy := asOptionalText_ofOptional _
  createdAt := asOptionalText_ofOptional _

/-- The document of a brief is lossless. -/
theorem modelValidate_modelDump
    (intOfText : String → Option Int)
    (brief : SOTBrief) :
    modelValidate intOfText (.dict brief.modelDump) = some brief :=
  modelValidate_eq_some_iff.mpr (validates_modelDump intOfText brief)

/-! ## A brief with other values -/

theorem lookup_cons_of_ne
    {key head : String}
    (other : key ≠ head)
    (value : Json)
    (rest : List (String × Json)) :
    ((head, value) :: rest).lookup key = rest.lookup key := by
  rw [List.lookup_cons, beq_false_of_ne other]

/-- Every value has the type of its field. -/
structure TypedEntries (entries : List (String × Json)) : Prop where
  lists :
    ∀ field ∈ listFields, ∀ value,
      entries.lookup field = some value → ∃ items, value = ofTexts items
  texts :
    ∀ field ∈ ["objective", "background", "deliverable"], ∀ value,
      entries.lookup field = some value → ∃ content, value = .text content
  optionalTexts :
    ∀ field ∈
        ["decision_served", "decision_criterion", "confirmed_by",
          "created_at"],
      ∀ value,
        entries.lookup field = some value →
          ∃ content, value = ofOptional content

section Typed

variable
  {entries : List (String × Json)}
  (typed : TypedEntries entries)
  (brief : SOTBrief)
  (field : String)

include typed

theorem TypedEntries.exists_textsOrNone
    (isList : field ∈ listFields) :
    ∃ items,
      textsOrNone (entries ++ brief.modelDump) field = some items := by
  unfold textsOrNone
  rw [List.lookup_append]
  cases isEntry : entries.lookup field with
  | some value =>
      obtain ⟨items, rfl⟩ := typed.lists field isList value isEntry
      exact ⟨items, listOfTexts_ofTexts items⟩
  | none =>
      simp only [listFields, List.mem_cons, List.not_mem_nil,
        or_false] at isList
      rcases isList with rfl | rfl | rfl | rfl | rfl | rfl | rfl | rfl <;>
        exact ⟨_, listOfTexts_ofTexts _⟩

theorem TypedEntries.exists_text
    (isText : field ∈ ["objective", "background", "deliverable"]) :
    ∃ content,
      (entries ++ brief.modelDump).lookup field = some (.text content) := by
  rw [List.lookup_append]
  cases isEntry : entries.lookup field with
  | some value =>
      obtain ⟨content, rfl⟩ := typed.texts field isText value isEntry
      exact ⟨content, rfl⟩
  | none =>
      simp only [List.mem_cons, List.not_mem_nil, or_false] at isText
      rcases isText with rfl | rfl | rfl <;> exact ⟨_, rfl⟩

theorem TypedEntries.exists_optionalText
    (isOptional :
      field ∈
        ["decision_served", "decision_criterion", "confirmed_by",
          "created_at"]) :
    ∃ content,
      optionalText (entries ++ brief.modelDump) field = some content := by
  unfold optionalText
  rw [List.lookup_append]
  cases isEntry : entries.lookup field with
  | some value =>
      obtain ⟨content, rfl⟩ :=
        typed.optionalTexts field isOptional value isEntry
      exact ⟨content, asOptionalText_ofOptional content⟩
  | none =>
      simp only [List.mem_cons, List.not_mem_nil, or_false] at isOptional
      rcases isOptional with rfl | rfl | rfl | rfl <;>
        exact ⟨_, asOptionalText_ofOptional _⟩

/-- Typed values over the fields of a brief are a brief again. -/
theorem TypedEntries.exists_validates
    {intOfText : String → Option Int}
    {version : Nat}
    (isPositive : 1 ≤ version)
    (isVersion :
      asInteger intOfText
          (((entries ++ brief.modelDump).lookup "version").getD (.int 1)) =
        some (version : Int))
    {status : BriefStatus}
    (isStatus :
      ((((entries ++ brief.modelDump).lookup "status").getD
          (.text "draft")).asText >>= briefStatusOf) = some status) :
    ∃ next,
      Validates intOfText (entries ++ brief.modelDump) next ∧
        next.version = version ∧ next.status = status := by
  have lists := typed.exists_textsOrNone brief
  have texts := typed.exists_text brief
  have optionals := typed.exists_optionalText brief
  obtain ⟨objective, isObjective⟩ := texts "objective" (by decide)
  obtain ⟨background, isBackground⟩ := texts "background" (by decide)
  obtain ⟨deliverable, isDeliverable⟩ := texts "deliverable" (by decide)
  obtain ⟨inScope, isInScope⟩ := lists "in_scope" (by decide)
  obtain ⟨outOfScope, isOutOfScope⟩ := lists "out_of_scope" (by decide)
  obtain ⟨constraints, areConstraints⟩ := lists "constraints" (by decide)
  obtain ⟨assumptions, areAssumptions⟩ := lists "assumptions" (by decide)
  obtain ⟨forbidden, areForbidden⟩ :=
    lists "forbidden_directions" (by decide)
  obtain ⟨sources, areSources⟩ := lists "available_sources" (by decide)
  obtain ⟨criteria, areCriteria⟩ := lists "success_criteria" (by decide)
  obtain ⟨questions, areQuestions⟩ := lists "open_questions" (by decide)
  obtain ⟨served, isServed⟩ := optionals "decision_served" (by decide)
  obtain ⟨criterion, isCriterion⟩ := optionals "decision_criterion" (by decide)
  obtain ⟨confirmedBy, isConfirmedBy⟩ := optionals "confirmed_by" (by decide)
  obtain ⟨createdAt, isCreatedAt⟩ := optionals "created_at" (by decide)
  exact
    ⟨{ version := version
       objective := objective
       background := background
       inScope := inScope
       outOfScope := outOfScope
       constraints := constraints
       assumptions := assumptions
       forbiddenDirections := forbidden
       availableSources := sources
       deliverable := deliverable
       successCriteria := criteria
       decisionServed := served
       decisionCriterion := criterion
       openQuestions := questions
       status := status
       confirmedBy := confirmedBy
       createdAt := createdAt
       isPositive := isPositive },
      { version := isVersion
        objective := by rw [requiredText, isObjective]; rfl
        background := by rw [textOrEmpty, isBackground]; rfl
        inScope := isInScope
        outOfScope := isOutOfScope
        constraints := areConstraints
        assumptions := areAssumptions
        forbiddenDirections := areForbidden
        availableSources := areSources
        deliverable := by rw [requiredText, isDeliverable]; rfl
        successCriteria := areCriteria
        decisionServed := isServed
        decisionCriterion := isCriterion
        openQuestions := areQuestions
        status := isStatus
        confirmedBy := isConfirmedBy
        createdAt := isCreatedAt },
      rfl, rfl⟩

end Typed

theorem eq_ofOptional_of_asOptionalText
    {value : Json}
    {content : Option String}
    (isRead : value.asOptionalText = some content) :
    value = ofOptional content := by
  cases value with
  | null =>
      cases isRead
      rfl
  | text other =>
      cases isRead
      rfl
  | _ =>
      cases isRead

/-- Values that are a brief over the fields of another one are typed. -/
theorem Validates.typedEntries
    {intOfText : String → Option Int}
    {entries fields : List (String × Json)}
    {brief : SOTBrief}
    (validates : Validates intOfText (entries ++ fields) brief) :
    TypedEntries entries := by
  have lookedUp :
      ∀ {field value},
        entries.lookup field = some value →
          (entries ++ fields).lookup field = some value := by
    intro field value isEntry
    rw [List.lookup_append, isEntry]
    rfl
  have readLists :
      ∀ {field items value},
        textsOrNone (entries ++ fields) field = some items →
          entries.lookup field = some value →
            ∃ items, value = ofTexts items := by
    intro field items value isRead isEntry
    rw [textsOrNone, lookedUp isEntry] at isRead
    exact ⟨items, eq_ofTexts_of_listOfTexts isRead⟩
  have readOptionals :
      ∀ {field content value},
        optionalText (entries ++ fields) field = some content →
          entries.lookup field = some value →
            ∃ content, value = ofOptional content := by
    intro field content value isRead isEntry
    rw [optionalText, lookedUp isEntry] at isRead
    exact ⟨content, eq_ofOptional_of_asOptionalText isRead⟩
  have readRequired :
      ∀ {field content value},
        requiredText (entries ++ fields) field = some content →
          entries.lookup field = some value →
            ∃ content, value = .text content := by
    intro field content value isRead isEntry
    rw [requiredText, lookedUp isEntry] at isRead
    exact ⟨content, eq_text_of_asText isRead⟩
  refine ⟨fun field isList value => ?_, fun field isText value => ?_,
    fun field isOptional value => ?_⟩
  · simp only [listFields, List.mem_cons, List.not_mem_nil,
      or_false] at isList
    rcases isList with rfl | rfl | rfl | rfl | rfl | rfl | rfl | rfl
    · exact readLists validates.inScope
    · exact readLists validates.outOfScope
    · exact readLists validates.constraints
    · exact readLists validates.assumptions
    · exact readLists validates.forbiddenDirections
    · exact readLists validates.availableSources
    · exact readLists validates.successCriteria
    · exact readLists validates.openQuestions
  · simp only [List.mem_cons, List.not_mem_nil, or_false] at isText
    rcases isText with rfl | rfl | rfl
    · exact readRequired validates.objective
    · intro isEntry
      have isRead := validates.background
      rw [textOrEmpty, lookedUp isEntry] at isRead
      exact ⟨_, eq_text_of_asText isRead⟩
    · exact readRequired validates.deliverable
  · simp only [List.mem_cons, List.not_mem_nil, or_false] at isOptional
    rcases isOptional with rfl | rfl | rfl | rfl
    · exact readOptionals validates.decisionServed
    · exact readOptionals validates.decisionCriterion
    · exact readOptionals validates.confirmedBy
    · exact readOptionals validates.createdAt

end SOTBrief

/-! ## Files -/

/-- A rendering is a text; documents are kept parsed. -/
inductive FileContent where
  | text (content : String)
  | json (document : Json)

/-- The run directory: its files under their names. -/
abbrev RunDirectory :=
  OrderedMap String FileContent

/-- An action on the run directory. -/
abbrev FileAction :=
  Action String FileContent

/-- What surrounds the files of a brief. -/
structure BriefEnv where
  /-- The integer that a text is read as. -/
  intOfText : String → Option Int
  /-- The snapshot with a brief in it at a time; `none` when it raises. -/
  mirrored : SOTBrief → String → FileContent → Option FileContent

namespace BriefFiles

def mdName (version : Nat) : String :=
  "brief.v" ++ toString version ++ ".md"

def jsonName (version : Nat) : String :=
  "brief.v" ++ toString version ++ ".json"

/-- The version in the name of a rendering; a line end may follow the name. -/
def versionOf (name : String) : Option Nat :=
  if "brief.v".toList <+: name.toList then
    let rest := name.toList.drop 7
    let digits := rest.takeWhile Char.isDigit
    let extension := rest.drop digits.length
    if digits ≠ [] ∧
        (extension = ".md".toList ∨ extension = ".md\n".toList) then
      some (Nat.ofDigitChars 10 digits 0)
    else
      none
  else
    none

theorem toString_injective :
    Function.Injective (toString : Nat → String) := by
  intro first second same
  have digits : Nat.toDigits 10 first = Nat.toDigits 10 second := by
    simpa using congrArg String.toList same
  rw [← Nat.ofDigitChars_ten_toDigits (n := first), digits,
    Nat.ofDigitChars_ten_toDigits]

theorem jsonName_injective : Function.Injective jsonName := by
  intro first second same
  have sameDigits := congrArg String.toList same
  simp only [jsonName, String.toList_append] at sameDigits
  exact toString_injective (String.toList_injective
    (List.append_cancel_left (List.append_cancel_right sameDigits)))

/-- The name of a file of a version is parsed up to its extension. -/
theorem versionOf_named
    (version : Nat)
    (extension : List Char)
    (starts : extension.head? = some '.') :
    versionOf
        (String.ofList
          ("brief.v".toList ++ (toString version).toList ++ extension)) =
      if extension = ".md".toList ∨ extension = ".md\n".toList then
        some version
      else
        none := by
  have digits : ∀ c ∈ (toString version).toList, c.isDigit = true := by
    intro c member
    have inDigits : c ∈ Nat.toDigits 10 version := by
      simpa using member
    exact Nat.isDigit_of_mem_toDigits (by decide) (by decide) inDigits
  have isTaken :
      ((toString version).toList ++ extension).takeWhile Char.isDigit =
        (toString version).toList := by
    rw [List.takeWhile_append_of_pos digits]
    cases extension with
    | nil =>
        cases starts
    | cons c rest =>
        cases starts
        simp
  have isProper : (toString version).toList ≠ [] := by
    simp
  have isNumber : Nat.ofDigitChars 10 (toString version).toList 0 = version := by
    simp
  have isRest :
      ("brief.v".toList ++ (toString version).toList ++ extension).drop 7 =
        (toString version).toList ++ extension := by
    rw [List.append_assoc]
    rfl
  have isPrefix :
      "brief.v".toList <+:
        "brief.v".toList ++ (toString version).toList ++ extension := by
    rw [List.append_assoc]
    exact List.prefix_append _ _
  simp only [versionOf, String.toList_ofList, if_pos isPrefix, isRest, isTaken,
    List.drop_left, isNumber]
  simp only [ne_eq, isProper, not_false_eq_true, true_and]

theorem versionOf_mdName
    (version : Nat) :
    versionOf (mdName version) = some version := by
  have isNamed :
      mdName version =
        String.ofList
          ("brief.v".toList ++ (toString version).toList ++ ".md".toList) :=
    String.toList_injective (by simp [mdName])
  rw [isNamed, versionOf_named version _ rfl]
  exact if_pos (Or.inl rfl)

/-- The documents are no renderings. -/
theorem versionOf_jsonName
    (version : Nat) :
    versionOf (jsonName version) = none := by
  have isNamed :
      jsonName version =
        String.ofList
          ("brief.v".toList ++ (toString version).toList ++ ".json".toList) :=
    String.toList_injective (by simp [jsonName])
  rw [isNamed, versionOf_named version _ rfl]
  exact if_neg (by decide)

theorem mdName_ne_jsonName
    (first second : Nat) :
    mdName first ≠ jsonName second := by
  intro same
  have isVersion := versionOf_mdName first
  rw [same, versionOf_jsonName] at isVersion
  cases isVersion

theorem mdName_injective : Function.Injective mdName := by
  intro first second same
  have isVersion := versionOf_mdName first
  rw [same, versionOf_mdName] at isVersion
  exact (Option.some.inj isVersion).symm

/-- A name that does not begin like a brief is none of its files. -/
theorem versionOf_other
    {name : String}
    (other : ¬ "brief.v".toList <+: name.toList) :
    versionOf name = none :=
  if_neg other

theorem jsonName_ne_other
    {name : String}
    (other : ¬ "brief.v".toList <+: name.toList)
    (version : Nat) :
    jsonName version ≠ name := by
  rintro rfl
  refine other ?_
  simp only [jsonName, String.toList_append, List.append_assoc]
  exact List.prefix_append _ _

/-- Two writes: the rendering first, then the document. -/
def save (brief : SOTBrief) : FileAction Unit := do
  Action.write (mdName brief.version) (.text brief.toMarkdown)
  Action.write (jsonName brief.version) (.json (.dict brief.modelDump))

def comesBefore (first second : Nat × String) : Prop :=
  first.1 < second.1 ∨ first.1 = second.1 ∧ ¬ second.2 < first.2

instance (first second : Nat × String) :
    Decidable (comesBefore first second) :=
  inferInstanceAs (Decidable (_ ∨ _))

/-- The names of the renderings by version. -/
def listVersions (directory : RunDirectory) : List String :=
  let found :=
    directory.keys.filterMap fun name =>
      (versionOf name).map fun version => (version, name)
  (found.insertionSort comesBefore).map Prod.snd

def versions (directory : RunDirectory) : List Nat :=
  ((listVersions directory).filterMap versionOf).insertionSort (· ≤ ·)

section Loading

variable (env : BriefEnv)

/-- Load a version from its document; `none` raises. -/
def loadVersion (version : Nat) (directory : RunDirectory) : Option SOTBrief :=
  match directory.get? (jsonName version) with
  | some (.json document) => SOTBrief.modelValidate env.intOfText document
  | _ => none

def loadLatest (directory : RunDirectory) : Option SOTBrief :=
  (versions directory).getLast?.bind fun version =>
    loadVersion env version directory

/-- Rewrite every listed version up to a bound that is not superseded yet. -/
def supersedeFrom (upToVersion : Nat) : List Nat → FileAction (List Nat)
  | [] => pure []
  | version :: rest =>
      if upToVersion < version then
        supersedeFrom upToVersion rest
      else do
        let brief ← Action.observe (loadVersion env version)
        if brief.status = .superseded then
          supersedeFrom upToVersion rest
        else do
          save { brief with status := .superseded }
          let touched ← supersedeFrom upToVersion rest
          pure (version :: touched)

def supersede (upToVersion : Nat) : FileAction (List Nat) := do
  let listed ← Action.observe fun directory => some (versions directory)
  supersedeFrom env upToVersion listed

/-! ## Revising a brief -/

/-- The parts between commas, without whitespace around them. -/
def commaParts (value : String) : List String :=
  ((value.toList.splitOn ',').map fun part =>
      String.ofList (stripChars part)).filter fun part => part ≠ ""

def newValue (field value : String) : Json :=
  if field ∈ SOTBrief.listFields then
    SOTBrief.ofTexts (commaParts value)
  else
    .text value

/-- A revision of a brief: a field, its value and the time. -/
structure Revision where
  field : String
  value : String
  now : String
  deriving Repr, DecidableEq

/-- What a revision assigns; what is assigned last stands first. -/
def revisionEntries
    (current : SOTBrief)
    (revision : Revision) : List (String × Json) :=
  [("created_at", .text revision.now),
    ("status", .text BriefStatus.draft.value),
    ("version", .int ((current.version + 1 : Nat) : Int)),
    (revision.field, newValue revision.field revision.value)]

def revised (current : SOTBrief) (revision : Revision) : Option SOTBrief :=
  SOTBrief.modelValidate env.intOfText
    (.dict (revisionEntries current revision ++ current.modelDump))

/-- Mirror a brief into the snapshot of the run, when there is one. -/
def mirrorBriefIntoState
    (brief : SOTBrief)
    (now : String) : FileAction Unit := do
  let snapshot ← Action.observe fun directory =>
    some (directory.get? "state.json")
  match snapshot with
  | none => pure ()
  | some content =>
      let changed ← Action.observe fun _ => env.mirrored brief now content
      Action.write "state.json" changed

/-- A conflict with the brief is only shown, so it has no part in this. -/
def reviseBrief (revision : Revision) : FileAction Unit := do
  let current ← Action.observe (loadLatest env)
  if revision.field ∈ SOTBrief.modelFields then do
    let brief ← Action.observe fun _ => revised env current revision
    save brief
    let _ ← supersede env current.version
    mirrorBriefIntoState env brief revision.now
  else
    Action.observe fun _ => none

end Loading

end BriefFiles

end ResearchCos
