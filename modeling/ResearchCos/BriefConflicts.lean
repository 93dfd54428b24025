import ResearchCos.SotBrief

namespace ResearchCos

open Foundation

/-!
# Conflicts of a change with the brief

A change proposes values for fields of the brief.  Each field is checked on its
own against the brief as it is, and the first conflict wins.  An item that is
new to both scopes is seen by neither check.
-/

inductive Severity where
  | high
  | medium
  | low
  deriving Repr, DecidableEq

structure Conflict where
  field : String
  sotValue : Json
  newValue : Json
  source : String := ""
  severity : Severity

/-- What surrounds a detection. -/
structure ConflictEnv where
  /-- The text of an item that is no text. -/
  showItem : Json → String
  /-- The conflict with an attribute of the brief that is no field. -/
  otherConflict : String → Json → String → Option Conflict

namespace Conflict

def highSeverityScalars : List String :=
  ["objective", "deliverable", "decision_criterion", "decision_served"]

def scopeListFields : List String :=
  ["in_scope", "out_of_scope", "forbidden_directions"]

def scopeComplement (field : String) : Option String :=
  if field = "in_scope" then
    some "out_of_scope"
  else if field = "out_of_scope" then
    some "in_scope"
  else
    none

/-- A scalar that counts as not set. -/
def isUnset : Json → Bool
  | .null => true
  | .text content => content = ""
  | _ => false

/-- Whether a proposed value equals a scalar of the brief. -/
def equalsScalar : Json → Json → Bool
  | .text content, .text other => content = other
  | .int value, .int other => value = other
  | .int value, .bool flag => value = if flag then 1 else 0
  | .int value, .float (some other) => (value : ℚ) = other
  | _, _ => false

def scalarConflict
    (field : String)
    (sotValue newValue : Json)
    (source : String) : Option Conflict :=
  if isUnset sotValue then
    none
  else if equalsScalar sotValue newValue then
    none
  else
    some
      { field := field
        sotValue := sotValue
        newValue := newValue
        source := source
        severity := if field ∈ highSeverityScalars then .high else .medium }

section Detecting

variable
  (env : ConflictEnv)
  (brief : SOTBrief)

def itemText : Json → String
  | .text content => content
  | item => env.showItem item

/-- The texts of a list field of the brief. -/
def attributeTexts (field : String) : List String :=
  match brief.modelDump.lookup field with
  | some (.list items) => items.map (itemText env)
  | _ => []

/-- The items of a field that a proposal drops. -/
def removed (field : String) (newSet : List String) : List String :=
  (attributeTexts env brief field).filter fun item => item ∉ newSet

/-- The items that a proposal adds although the other scope has them. -/
def clash (field : String) (newSet : List String) : List String :=
  match scopeComplement field with
  | none => []
  | some complement =>
      newSet.filter fun item =>
        item ∉ attributeTexts env brief field ∧
          item ∈ attributeTexts env brief complement

def listConflict
    (field : String)
    (newList : List Json)
    (source : String) : Option Conflict :=
  let newSet := newList.map (itemText env)
  let conflict (severity : Severity) : Conflict :=
    { field := field
      sotValue := (brief.modelDump.lookup field).getD (.list [])
      newValue := .list newList
      source := source
      severity := severity }
  if field ∈ ["constraints", "assumptions"] ∧
      removed env brief field newSet ≠ [] then
    some (conflict .medium)
  else if clash env brief field newSet ≠ [] then
    some (conflict .high)
  else if field = "forbidden_directions" ∧
      removed env brief field newSet ≠ [] then
    some (conflict .high)
  else
    none

def isList : Json → Bool
  | .list _ => true
  | _ => false

/-- A value that is no list stands for its only item. -/
def asList : Json → List Json
  | .list items => items
  | item => [item]

/-- The check of one proposed value against the brief as it is. -/
def detectField
    (field : String)
    (newValue : Json)
    (source : String) : Option Conflict :=
  match brief.modelDump.lookup field with
  | none => env.otherConflict field newValue source
  | some sotValue =>
      if isList sotValue ∨ field ∈ scopeListFields ∨
          field ∈ ["constraints", "assumptions"] then
        listConflict env brief field (asList newValue) source
      else
        scalarConflict field sotValue newValue source

/-- The first conflict of the proposed values. -/
def detectAll (source : String) : List (String × Json) → Option Conflict
  | [] => none
  | (field, newValue) :: rest =>
      match detectField env brief field newValue source with
      | some conflict => some conflict
      | none => detectAll source rest

def detect
    (change : OrderedMap String Json)
    (source : String) : Option Conflict :=
  detectAll env brief source change.entries

end Detecting

/-! ## What a detection without a conflict promises -/

/-- The brief with all proposed values; `none` when the validation raises. -/
def applied
    (intOfText : String → Option Int)
    (brief : SOTBrief)
    (change : OrderedMap String Json) : Option SOTBrief :=
  SOTBrief.modelValidate intOfText (.dict (change.entries ++ brief.modelDump))

/--
The scopes stay disjoint, no constraint, assumption or forbidden direction is
dropped, and every scalar that was set keeps its value.
-/
structure KeepsSot (brief after : SOTBrief) : Prop where
  scopes : List.Disjoint after.inScope after.outOfScope
  constraints : brief.constraints ⊆ after.constraints
  assumptions : brief.assumptions ⊆ after.assumptions
  forbiddenDirections : brief.forbiddenDirections ⊆ after.forbiddenDirections
  scalars :
    ∀ field value,
      brief.modelDump.lookup field = some value →
        isList value = false → isUnset value = false →
          after.modelDump.lookup field = some value

/-- The value that a change proposes for a field. -/
def proposed
    (change : OrderedMap String Json)
    (field : String) : Option Json :=
  change.entries.lookup field

/-- What is proposed for both scopes is in one of them already. -/
def NoNewSharedItem
    (brief : SOTBrief)
    (change : OrderedMap String Json) : Prop :=
  ∀ ins outs item,
    proposed change "in_scope" = some (SOTBrief.ofTexts ins) →
      proposed change "out_of_scope" = some (SOTBrief.ofTexts outs) →
        item ∈ ins → item ∈ outs →
          item ∈ brief.inScope ∨ item ∈ brief.outOfScope

/-! ## The checks, field by field -/

section Checks

variable
  {env : ConflictEnv}
  {brief : SOTBrief}
  {source : String}

theorem detectField_eq_none
    {entries : List (String × Json)}
    (noConflict : detectAll env brief source entries = none)
    {field : String}
    {value : Json}
    (isProposed : entries.lookup field = some value) :
    detectField env brief field value source = none := by
  induction entries with
  | nil =>
      cases isProposed
  | cons entry rest inductionHypothesis =>
      obtain ⟨head, newValue⟩ := entry
      rw [detectAll] at noConflict
      cases isConflict : detectField env brief head newValue source with
      | some conflict =>
          rw [isConflict] at noConflict
          cases noConflict
      | none =>
          rw [isConflict] at noConflict
          by_cases same : field = head
          · subst field
            rw [List.lookup_cons_self] at isProposed
            cases isProposed
            exact isConflict
          · rw [SOTBrief.lookup_cons_of_ne same] at isProposed
            exact inductionHypothesis noConflict isProposed

theorem itemText_ofTexts
    (items : List String) :
    (items.map Json.text).map (itemText env) = items := by
  rw [List.map_map]
  exact List.map_id' items

theorem attributeTexts_of_lookup
    {field : String}
    {items : List String}
    (isField : brief.modelDump.lookup field = some (SOTBrief.ofTexts items)) :
    attributeTexts env brief field = items := by
  unfold attributeTexts
  rw [isField]
  exact itemText_ofTexts items

/-- No conflict of a list is no dropped item and no clash. -/
theorem listConflict_eq_none_iff
    (field : String)
    (newItems : List String) :
    listConflict env brief field (newItems.map .text) source = none ↔
      (field ∈ ["constraints", "assumptions"] →
          removed env brief field newItems = []) ∧
        clash env brief field newItems = [] ∧
          (field = "forbidden_directions" →
            removed env brief field newItems = []) := by
  simp only [listConflict, itemText_ofTexts]
  by_cases drops :
      field ∈ ["constraints", "assumptions"] ∧
        removed env brief field newItems ≠ []
  · rw [if_pos drops]
    exact iff_of_false (by simp) fun keeps => drops.2 (keeps.1 drops.1)
  · rw [if_neg drops]
    have keeps :
        field ∈ ["constraints", "assumptions"] →
          removed env brief field newItems = [] :=
      fun isField => by_contra fun drop => drops ⟨isField, drop⟩
    by_cases clashes : clash env brief field newItems ≠ []
    · rw [if_pos clashes]
      exact iff_of_false (by simp) fun keeps => clashes keeps.2.1
    · rw [if_neg clashes]
      by_cases reopens :
          field = "forbidden_directions" ∧
            removed env brief field newItems ≠ []
      · rw [if_pos reopens]
        exact iff_of_false (by simp) fun keeps =>
          reopens.2 (keeps.2.2 reopens.1)
      · rw [if_neg reopens]
        exact iff_of_true rfl
          ⟨keeps, not_not.mp clashes, fun isField =>
            by_contra fun drop => reopens ⟨isField, drop⟩⟩

/-- What drops nothing has all items of the field. -/
theorem subset_of_removed_eq_nil
    {field : String}
    {newItems : List String}
    (keeps : removed env brief field newItems = []) :
    attributeTexts env brief field ⊆ newItems := by
  intro item inOld
  have notDropped := List.filter_eq_nil_iff.mp keeps item inOld
  simpa using notDropped

/-- Without a clash an item of the other scope is no new one. -/
theorem mem_of_clash_eq_nil
    {field complement item : String}
    {newItems : List String}
    (isComplement : scopeComplement field = some complement)
    (noClash : clash env brief field newItems = [])
    (inNew : item ∈ newItems)
    (inOther : item ∈ attributeTexts env brief complement) :
    item ∈ attributeTexts env brief field := by
  simp only [clash, isComplement] at noClash
  have notClashing := List.filter_eq_nil_iff.mp noClash item inNew
  by_contra isAdded
  exact notClashing (decide_eq_true ⟨isAdded, inOther⟩)

/-! ## What the fields are read as -/

variable {change : OrderedMap String Json}

theorem lookup_applied
    (field : String) :
    (change.entries ++ brief.modelDump).lookup field =
      (proposed change field).or (brief.modelDump.lookup field) :=
  List.lookup_append

/-- A list field is the proposed list, or it is unchanged. -/
theorem textsOrNone_applied
    {field : String}
    {old items : List String}
    (isField : brief.modelDump.lookup field = some (SOTBrief.ofTexts old))
    (isRead :
      SOTBrief.textsOrNone (change.entries ++ brief.modelDump) field =
        some items) :
    proposed change field = some (SOTBrief.ofTexts items) ∨
      proposed change field = none ∧ items = old := by
  rw [SOTBrief.textsOrNone, lookup_applied, isField] at isRead
  cases isProposed : proposed change field with
  | some value =>
      rw [isProposed] at isRead
      have isList : value = SOTBrief.ofTexts items :=
        SOTBrief.eq_ofTexts_of_listOfTexts isRead
      exact Or.inl (congrArg some isList)
  | none =>
      rw [isProposed, Option.none_or, Option.getD_some,
        SOTBrief.listOfTexts_ofTexts] at isRead
      exact Or.inr ⟨rfl, (Option.some.inj isRead).symm⟩

/-- The check of a list that is proposed for a list field. -/
theorem listConflict_of_detect
    (noConflict : detect env brief change source = none)
    {field : String}
    {old items : List String}
    (isField : brief.modelDump.lookup field = some (SOTBrief.ofTexts old))
    (isProposed : proposed change field = some (SOTBrief.ofTexts items)) :
    listConflict env brief field (items.map .text) source = none := by
  have checked := detectField_eq_none noConflict isProposed
  rw [detectField, isField] at checked
  exact checked

/-- A field that must keep its items keeps them. -/
theorem subset_of_detect
    (noConflict : detect env brief change source = none)
    {field : String}
    (isKept :
      field ∈ ["constraints", "assumptions", "forbidden_directions"])
    {old items : List String}
    (isField : brief.modelDump.lookup field = some (SOTBrief.ofTexts old))
    (isRead :
      SOTBrief.textsOrNone (change.entries ++ brief.modelDump) field =
        some items) :
    old ⊆ items := by
  rcases textsOrNone_applied isField isRead with isProposed | ⟨_, rfl⟩
  · obtain ⟨first, _, last⟩ := (listConflict_eq_none_iff field items).mp
      (listConflict_of_detect noConflict isField isProposed)
    have keeps : removed env brief field items = [] := by
      simp only [List.mem_cons, List.not_mem_nil, or_false] at isKept
      rcases isKept with isField | isField | isField
      · exact first (by simp [isField])
      · exact first (by simp [isField])
      · exact last isField
    have isOld : attributeTexts env brief field = old :=
      attributeTexts_of_lookup isField
    exact isOld ▸ subset_of_removed_eq_nil keeps
  · exact List.Subset.refl _

/-- A proposed item of the other scope was in the scope already. -/
theorem mem_of_detect
    (noConflict : detect env brief change source = none)
    {field complement item : String}
    (isComplement : scopeComplement field = some complement)
    {old others items : List String}
    (isField : brief.modelDump.lookup field = some (SOTBrief.ofTexts old))
    (isOther :
      brief.modelDump.lookup complement = some (SOTBrief.ofTexts others))
    (isProposed : proposed change field = some (SOTBrief.ofTexts items))
    (inItems : item ∈ items)
    (inOthers : item ∈ others) :
    item ∈ old := by
  obtain ⟨_, noClash, _⟩ := (listConflict_eq_none_iff field items).mp
    (listConflict_of_detect noConflict isField isProposed)
  have isOld : attributeTexts env brief field = old :=
    attributeTexts_of_lookup isField
  have areOthers : attributeTexts env brief complement = others :=
    attributeTexts_of_lookup isOther
  exact isOld ▸ mem_of_clash_eq_nil isComplement noClash inItems
    (areOthers.symm ▸ inOthers)

/-! ## Scalars -/

/-- A list is not compared as a scalar. -/
theorem isList_of_listed
    {field : String}
    {value : Json}
    (isField : brief.modelDump.lookup field = some value)
    (listed :
      field ∈ scopeListFields ∨ field ∈ ["constraints", "assumptions"]) :
    isList value = true := by
  simp only [scopeListFields, List.mem_cons, List.not_mem_nil,
    or_false] at listed
  rcases listed with (rfl | rfl | rfl) | rfl | rfl <;>
    · cases isField
      rfl

/-- A scalar that is set is proposed as it is, or not at all. -/
theorem equalsScalar_of_detect
    (noConflict : detect env brief change source = none)
    {field : String}
    {value other : Json}
    (isField : brief.modelDump.lookup field = some value)
    (isScalar : isList value = false)
    (isSet : isUnset value = false)
    (isProposed : proposed change field = some other) :
    equalsScalar value other = true := by
  have checked := detectField_eq_none noConflict isProposed
  have unlisted :
      ¬ (isList value = true ∨ field ∈ scopeListFields ∨
        field ∈ ["constraints", "assumptions"]) := by
    rintro (isList | listed)
    · rw [isScalar] at isList
      cases isList
    · have isList := isList_of_listed isField listed
      rw [isScalar] at isList
      cases isList
  simp only [detectField, isField, if_neg unlisted, scalarConflict, isSet,
    Bool.false_eq_true, if_false] at checked
  by_contra differs
  rw [if_neg differs] at checked
  cases checked

/-- A text that is set is read as it was. -/
theorem lookup_text_of_detect
    (noConflict : detect env brief change source = none)
    {field content : String}
    (isField : brief.modelDump.lookup field = some (.text content))
    (isSet : isUnset (.text content) = false) :
    (change.entries ++ brief.modelDump).lookup field =
      some (.text content) := by
  rw [lookup_applied, isField]
  cases isProposed : proposed change field with
  | none =>
      rfl
  | some value =>
      have same :=
        equalsScalar_of_detect noConflict isField rfl isSet isProposed
      cases value with
      | text other =>
          rw [of_decide_eq_true same]
          rfl
      | _ =>
          cases same

/-- The version is read as it was. -/
theorem version_of_detect
    (noConflict : detect env brief change source = none)
    (intOfText : String → Option Int) :
    SOTBrief.asInteger intOfText
        (((change.entries ++ brief.modelDump).lookup "version").getD
          (.int 1)) =
      some (brief.version : Int) := by
  have isField :
      brief.modelDump.lookup "version" = some (.int brief.version) :=
    rfl
  rw [lookup_applied, isField]
  cases isProposed : proposed change "version" with
  | none =>
      rfl
  | some value =>
      have same :=
        equalsScalar_of_detect noConflict isField rfl rfl isProposed
      show SOTBrief.asInteger intOfText value = some (brief.version : Int)
      cases value with
      | bool flag =>
          exact congrArg some (of_decide_eq_true same).symm
      | int other =>
          exact congrArg some (of_decide_eq_true same).symm
      | float other =>
          cases other with
          | none =>
              cases same
          | some other =>
              obtain rfl := of_decide_eq_true same
              simp [SOTBrief.asInteger]
      | _ =>
          cases same

/-- The status is read as it was. -/
theorem status_of_detect
    (noConflict : detect env brief change source = none) :
    ((((change.entries ++ brief.modelDump).lookup "status").getD
        (.text "draft")).asText >>= briefStatusOf) = some brief.status := by
  have isSet : isUnset (.text brief.status.value) = false := by
    cases brief.status <;> decide
  rw [lookup_text_of_detect noConflict rfl isSet]
  exact briefStatusOf_value brief.status

/-- A text or an optional text that is set is read as it was. -/
theorem requiredText_of_detect
    (noConflict : detect env brief change source = none)
    {field content read : String}
    (isField : brief.modelDump.lookup field = some (.text content))
    (isSet : isUnset (.text content) = false)
    (isRead :
      SOTBrief.requiredText (change.entries ++ brief.modelDump) field =
        some read) :
    read = content := by
  rw [SOTBrief.requiredText, lookup_text_of_detect noConflict isField isSet]
    at isRead
  exact (Option.some.inj isRead).symm

theorem optionalText_of_detect
    (noConflict : detect env brief change source = none)
    {field : String}
    {content read : Option String}
    (isField : brief.modelDump.lookup field = some (SOTBrief.ofOptional content))
    (isSet : isUnset (SOTBrief.ofOptional content) = false)
    (isRead :
      SOTBrief.optionalText (change.entries ++ brief.modelDump) field =
        some read) :
    read = content := by
  cases content with
  | none =>
      cases isSet
  | some content =>
      rw [SOTBrief.optionalText,
        lookup_text_of_detect noConflict isField isSet] at isRead
      exact (Option.some.inj isRead).symm

/-- Every scalar that was set keeps its value. -/
theorem scalars_of_detect
    (noConflict : detect env brief change source = none)
    {intOfText : String → Option Int}
    {after : SOTBrief}
    (validates :
      SOTBrief.Validates intOfText (change.entries ++ brief.modelDump) after)
    {field : String}
    {value : Json}
    (isField : brief.modelDump.lookup field = some value)
    (isScalar : isList value = false)
    (isSet : isUnset value = false) :
    after.modelDump.lookup field = some value := by
  have member : (field, value) ∈ brief.modelDump := by
    obtain ⟨earlier, later, shape, _⟩ := List.lookup_eq_some_iff.mp isField
    rw [shape]
    exact List.mem_append_right _ List.mem_cons_self
  simp only [SOTBrief.modelDump, List.mem_cons, Prod.mk.injEq,
    List.not_mem_nil, or_false] at member
  rcases member with ⟨rfl, rfl⟩ | ⟨rfl, rfl⟩ | ⟨rfl, rfl⟩ | ⟨rfl, rfl⟩ |
    ⟨rfl, rfl⟩ | ⟨rfl, rfl⟩ | ⟨rfl, rfl⟩ | ⟨rfl, rfl⟩ | ⟨rfl, rfl⟩ |
    ⟨rfl, rfl⟩ | ⟨rfl, rfl⟩ | ⟨rfl, rfl⟩ | ⟨rfl, rfl⟩ | ⟨rfl, rfl⟩ |
    ⟨rfl, rfl⟩ | ⟨rfl, rfl⟩ | ⟨rfl, rfl⟩
  · have same : (after.version : Int) = brief.version :=
      Option.some.inj
        (validates.version.symm.trans (version_of_detect noConflict intOfText))
    exact congrArg (fun read => some (Json.int read)) same
  · have same :=
      requiredText_of_detect noConflict rfl isSet validates.objective
    exact congrArg (fun read => some (Json.text read)) same
  · have isText := validates.background
    rw [SOTBrief.textOrEmpty, lookup_text_of_detect noConflict rfl isSet]
      at isText
    exact congrArg (fun read => some (Json.text read))
      (Option.some.inj isText).symm
  · cases isScalar
  · cases isScalar
  · cases isScalar
  · cases isScalar
  · cases isScalar
  · cases isScalar
  · have same :=
      requiredText_of_detect noConflict rfl isSet validates.deliverable
    exact congrArg (fun read => some (Json.text read)) same
  · cases isScalar
  · have same :=
      optionalText_of_detect noConflict rfl isSet validates.decisionServed
    exact congrArg (fun read => some (SOTBrief.ofOptional read)) same
  · have same :=
      optionalText_of_detect noConflict rfl isSet validates.decisionCriterion
    exact congrArg (fun read => some (SOTBrief.ofOptional read)) same
  · cases isScalar
  · have same : after.status = brief.status :=
      Option.some.inj
        (validates.status.symm.trans (status_of_detect noConflict))
    exact congrArg (fun read => some (Json.text (BriefStatus.value read))) same
  · have same :=
      optionalText_of_detect noConflict rfl isSet validates.confirmedBy
    exact congrArg (fun read => some (SOTBrief.ofOptional read)) same
  · have same :=
      optionalText_of_detect noConflict rfl isSet validates.createdAt
    exact congrArg (fun read => some (SOTBrief.ofOptional read)) same

/-! ## Several fields at once -/

/-- Without a new item for both, the scopes stay disjoint. -/
theorem scopes_of_detect
    (noConflict : detect env brief change source = none)
    (disjoint : List.Disjoint brief.inScope brief.outOfScope)
    (noNewItem : NoNewSharedItem brief change)
    {intOfText : String → Option Int}
    {after : SOTBrief}
    (validates :
      SOTBrief.Validates intOfText (change.entries ++ brief.modelDump)
        after) :
    List.Disjoint after.inScope after.outOfScope := by
  have isIn :
      brief.modelDump.lookup "in_scope" =
        some (SOTBrief.ofTexts brief.inScope) :=
    rfl
  have isOut :
      brief.modelDump.lookup "out_of_scope" =
        some (SOTBrief.ofTexts brief.outOfScope) :=
    rfl
  -- An item of the other scope cannot have been added to the brief as it was.
  have notIn :
      ∀ item, proposed change "in_scope" =
          some (SOTBrief.ofTexts after.inScope) →
        item ∈ after.inScope → item ∉ brief.outOfScope :=
    fun item isProposed inNew inOld =>
      disjoint (mem_of_detect noConflict rfl isIn isOut isProposed inNew inOld)
        inOld
  have notOut :
      ∀ item, proposed change "out_of_scope" =
          some (SOTBrief.ofTexts after.outOfScope) →
        item ∈ after.outOfScope → item ∉ brief.inScope :=
    fun item isProposed inNew inOld =>
      disjoint inOld
        (mem_of_detect noConflict rfl isOut isIn isProposed inNew inOld)
  intro item inScope outOfScope
  rcases textsOrNone_applied isIn validates.inScope with ins | ⟨_, sameIn⟩
  · rcases textsOrNone_applied isOut validates.outOfScope with
      outs | ⟨_, sameOut⟩
    · rcases noNewItem _ _ item ins outs inScope outOfScope with old | old
      · exact notOut item outs outOfScope old
      · exact notIn item ins inScope old
    · exact notIn item ins inScope (sameOut ▸ outOfScope)
  · rcases textsOrNone_applied isOut validates.outOfScope with
      outs | ⟨_, sameOut⟩
    · exact notOut item outs outOfScope (sameIn ▸ inScope)
    · exact disjoint (sameIn ▸ inScope) (sameOut ▸ outOfScope)

/-- What is proposed for both scopes is in both of them afterwards. -/
theorem noNewSharedItem_of_scopes
    {intOfText : String → Option Int}
    {after : SOTBrief}
    (validates :
      SOTBrief.Validates intOfText (change.entries ++ brief.modelDump)
        after)
    (disjoint : List.Disjoint after.inScope after.outOfScope) :
    NoNewSharedItem brief change := by
  intro ins outs item isIn isOut inIns inOuts
  have areIns := validates.inScope
  rw [SOTBrief.textsOrNone, lookup_applied, isIn] at areIns
  have areOuts := validates.outOfScope
  rw [SOTBrief.textsOrNone, lookup_applied, isOut] at areOuts
  have sameIns : ins = after.inScope :=
    Option.some.inj ((SOTBrief.listOfTexts_ofTexts ins).symm.trans areIns)
  have sameOuts : outs = after.outOfScope :=
    Option.some.inj ((SOTBrief.listOfTexts_ofTexts outs).symm.trans areOuts)
  exact (disjoint (sameIns ▸ inIns) (sameOuts ▸ inOuts)).elim

end Checks

/--
Where no conflict is detected, all changes can be applied and keep the brief
consistent exactly when every value has the type of its field and no item that
is new to both scopes is proposed for both.
-/
theorem keepsSot_iff
    (env : ConflictEnv)
    (intOfText : String → Option Int)
    (brief : SOTBrief)
    (change : OrderedMap String Json)
    (source : String)
    (disjoint : List.Disjoint brief.inScope brief.outOfScope)
    (noConflict : detect env brief change source = none) :
    (∃ after, applied intOfText brief change = some after ∧
        KeepsSot brief after) ↔
      SOTBrief.TypedEntries change.entries ∧ NoNewSharedItem brief change := by
  constructor
  · rintro ⟨after, isApplied, keeps⟩
    have validates := SOTBrief.modelValidate_eq_some_iff.mp isApplied
    exact ⟨validates.typedEntries,
      noNewSharedItem_of_scopes validates keeps.scopes⟩
  · rintro ⟨typed, noNewItem⟩
    obtain ⟨after, validates, _⟩ :=
      typed.exists_validates brief brief.isPositive
        (version_of_detect noConflict intOfText) (status_of_detect noConflict)
    refine ⟨after, SOTBrief.modelValidate_eq_some_iff.mpr validates, ?_⟩
    exact
      { scopes := scopes_of_detect noConflict disjoint noNewItem validates
        constraints :=
          subset_of_detect noConflict (by simp) rfl validates.constraints
        assumptions :=
          subset_of_detect noConflict (by simp) rfl validates.assumptions
        forbiddenDirections :=
          subset_of_detect noConflict (by simp) rfl
            validates.forbiddenDirections
        scalars := fun _ _ isField isScalar isSet =>
          scalars_of_detect noConflict validates isField isScalar isSet }

/-! ## A change of both scopes -/

def plainConflicts : ConflictEnv where
  showItem := fun _ => ""
  otherConflict := fun _ _ _ => none

def switchBrief : SOTBrief where
  objective := "Pick a switch"
  deliverable := "A comparison"
  inScope := ["TSN"]
  outOfScope := ["Pricing"]
  isPositive := one_isPositive

theorem disjoint_switchBrief :
    List.Disjoint switchBrief.inScope switchBrief.outOfScope := by
  simp [switchBrief]

/-- The values of two fields. -/
def changeOf (ins outs : List String) : OrderedMap String Json :=
  ((∅ : OrderedMap String Json).insert "in_scope"
      (SOTBrief.ofTexts ins)).insert "out_of_scope" (SOTBrief.ofTexts outs)

theorem detect_widened :
    detect plainConflicts switchBrief
      (changeOf ["TSN", "Safety"] ["Pricing", "Cabling"]) "" = none := by
  rfl

/-- The brief with a new item in each of its scopes. -/
def widenedBrief : SOTBrief :=
  { switchBrief with
    inScope := ["TSN", "Safety"]
    outOfScope := ["Pricing", "Cabling"] }

theorem applied_widened :
    applied (fun _ => none) switchBrief
        (changeOf ["TSN", "Safety"] ["Pricing", "Cabling"]) =
      some widenedBrief := by
  rfl

/-- No item is new to both scopes. -/
theorem noNewSharedItem_widened :
    NoNewSharedItem switchBrief
      (changeOf ["TSN", "Safety"] ["Pricing", "Cabling"]) := by
  intro ins outs item isIn isOut inIns inOuts
  have sameIns : ["TSN", "Safety"] = ins :=
    Option.some.inj
      ((SOTBrief.listOfTexts_ofTexts _).symm.trans
        ((congrArg SOTBrief.listOfTexts (Option.some.inj isIn)).trans
          (SOTBrief.listOfTexts_ofTexts _)))
  have sameOuts : ["Pricing", "Cabling"] = outs :=
    Option.some.inj
      ((SOTBrief.listOfTexts_ofTexts _).symm.trans
        ((congrArg SOTBrief.listOfTexts (Option.some.inj isOut)).trans
          (SOTBrief.listOfTexts_ofTexts _)))
  subst sameIns sameOuts
  have apart : List.Disjoint ["TSN", "Safety"] ["Pricing", "Cabling"] := by
    simp
  exact (apart inIns inOuts).elim

/-- Different new items for the scopes are applied and keep the brief. -/
theorem keepsSot_widened :
    applied (fun _ => none) switchBrief
          (changeOf ["TSN", "Safety"] ["Pricing", "Cabling"]) =
        some widenedBrief ∧
      KeepsSot switchBrief widenedBrief := by
  have validates := SOTBrief.modelValidate_eq_some_iff.mp applied_widened
  obtain ⟨after, isApplied, keeps⟩ :=
    (keepsSot_iff plainConflicts (fun _ => none) switchBrief
      (changeOf ["TSN", "Safety"] ["Pricing", "Cabling"]) ""
      disjoint_switchBrief detect_widened).mpr
      ⟨validates.typedEntries, noNewSharedItem_widened⟩
  cases isApplied.symm.trans applied_widened
  exact ⟨applied_widened, keeps⟩

/-- The same new item in both scopes is no conflict, and they are not disjoint. -/
theorem not_keepsSot :
    ¬ ∀ env intOfText brief change source,
      List.Disjoint brief.inScope brief.outOfScope →
        detect env brief change source = none →
          ∃ after, applied intOfText brief change = some after ∧
            KeepsSot brief after := by
  intro keeps
  obtain ⟨after, isApplied, kept⟩ :=
    keeps plainConflicts (fun _ => none) switchBrief
      (changeOf ["TSN", "Cabling"] ["Pricing", "Cabling"]) ""
      disjoint_switchBrief rfl
  have isAfter :
      applied (fun _ => none) switchBrief
          (changeOf ["TSN", "Cabling"] ["Pricing", "Cabling"]) =
        some
          { switchBrief with
            inScope := ["TSN", "Cabling"]
            outOfScope := ["Pricing", "Cabling"] } :=
    rfl
  rw [isAfter] at isApplied
  cases isApplied
  have inScope : "Cabling" ∈ ["TSN", "Cabling"] := by
    decide
  have outOfScope : "Cabling" ∈ ["Pricing", "Cabling"] := by
    decide
  exact kept.scopes inScope outOfScope

end Conflict

end ResearchCos
