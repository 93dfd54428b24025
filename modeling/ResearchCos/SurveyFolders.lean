import ResearchCos.ContractShape
import ResearchCos.EvidenceProducers

namespace ResearchCos

open Foundation

/-!
# Reading a survey folder

A survey folder holds two YAML documents of any shape and the fragments of its
sections.  Reading it uses the dynamic operations of the host language;
whatever raises on the way is `none`.  Which folders can be read depends on the
shape of the documents alone.
-/

/-! ## Parsed documents -/

/--
A parsed YAML value.  A float that is not finite has no value, and a date is
kept as its text.
-/
inductive Yaml where
  | null
  | bool (flag : Bool)
  | int (value : Int)
  | float (value : Option ℚ)
  | text (content : String)
  | bytes (content : ByteArray)
  | date (shown : String)
  | list (items : List Yaml)
  | tuple (items : List Yaml)
  | set (members : List Yaml)
  | dict (entries : List (Yaml × Yaml))

namespace Yaml

/-- A mapping; its keys need not be texts. -/
abbrev Entries := List (Yaml × Yaml)

/-- Whether a value counts as true. -/
def truthy : Yaml → Bool
  | .null => false
  | .bool flag => flag
  | .int value => value ≠ 0
  | .float value => value ≠ some 0
  | .text content => content ≠ ""
  | .bytes content => !content.data.isEmpty
  | .date _ => true
  | .list items
  | .tuple items
  | .set items => !items.isEmpty
  | .dict entries => !entries.isEmpty

/-- A value, or another one instead of a false one. -/
def orElse (value fallback : Yaml) : Yaml :=
  if value.truthy then value else fallback

/-- The elements of a value that can be iterated. -/
def elements : Yaml → Option (List Yaml)
  | .list items
  | .tuple items
  | .set items => some items
  | .text content =>
      some (content.toList.map fun c => .text (String.singleton c))
  | .bytes content =>
      some (content.data.toList.map fun byte => .int byte.toNat)
  | .dict entries => some (entries.map Prod.fst)
  | _ => none

/-- The elements of a value; a false one has none. -/
def listed (value : Yaml) : Option (List Yaml) :=
  (value.orElse (.list [])).elements

/-- The entries of a mapping. -/
def asDict : Yaml → Option Entries
  | .dict entries => some entries
  | _ => none

/-- An integer; a truth value is one. -/
def asInt : Yaml → Option Int
  | .bool flag => some (if flag then 1 else 0)
  | .int value => some value
  | _ => none

/-- A value that is validated as a text. -/
def asText : Yaml → Option String
  | .text content => some content
  | .bytes content => String.fromUTF8? content
  | _ => none

/-- A value that is validated as a text or nothing. -/
def asOptionalText : Yaml → Option (Option String)
  | .null => some none
  | value => value.asText.map some

/-- The value of a key that is a text. -/
def lookup (entries : Entries) (key : String) : Option Yaml :=
  (entries.find? fun entry =>
    match entry.1 with
    | .text name => name = key
    | _ => false).map Prod.snd

/-- The value of a key or a default. -/
def get (entries : Entries) (key : String) (fallback : Yaml) : Yaml :=
  (lookup entries key).getD fallback

/-- A value in a text; the library shows what has no plain text. -/
def str (shown : Yaml → String) : Yaml → String
  | .null => "None"
  | .bool flag => if flag then "True" else "False"
  | .int value => toString value
  | .text content => content
  | .date content => content
  | value => shown value

end Yaml

open Yaml (Entries get str asInt asDict)

/-- What stands under the path of a fragment; reading it may raise. -/
inductive FragmentFile where
  | absent
  | undecodable
  | content (text : String)
  deriving Repr, DecidableEq

/--
What a survey folder holds.  A document that is missing or does not parse is
`none`.
-/
structure SurveyContents where
  referenceMap : Option Yaml := none
  specIndex : Option Yaml := none
  fragments : String → FragmentFile := fun _ => .absent

/-- One section of the spec-index, with the reference it belongs to. -/
structure SurveyPart where
  reference : Entries
  fields : Entries

/-! ## Reading a survey -/

namespace EvidenceMap

/-- The mapping in a document; anything else stands for an empty one. -/
def loadYaml (parsed : Option Yaml) : Entries :=
  (parsed.bind asDict).getD []

/-- The first and the last page of a list of pages. -/
def pagesLabel (sourcePages : Yaml) : Option String :=
  if sourcePages.truthy then
    sourcePages.elements.map fun items =>
      let nums := items.filterMap asInt
      match nums.min?, nums.max? with
      | some lo, some hi =>
          if lo = hi then toString lo else toString lo ++ "-" ++ toString hi
      | _, _ => ""
  else
    some ""

/-- Drop colons and blanks at both ends. -/
def stripColons (text : List Char) : List Char :=
  let dropped (c : Char) : Bool := c = ':' || c = ' '
  ((text.dropWhile dropped).reverse.dropWhile dropped).reverse

section Reading

variable (shown : Yaml → String)

/-- The line of a recorded gap, out of its topic and its note. -/
def gapLine (entries : Entries) (note : String) : Yaml :=
  let topic := get entries "topic" (.text "")
  let noteLine :=
    (stripChars note.toList).map fun c => if c = '\n' then ' ' else c
  let line := (str shown topic).toList ++ [':', ' '] ++ noteLine
  ((Yaml.text (String.ofList (stripChars (stripColons line)))).orElse
    topic).orElse (.text (str shown (.dict entries)))

/-- One recorded gap; a note that is no text has no lines to join. -/
def coverageGap : Yaml → Option (List String)
  | .dict entries =>
      match (get entries "note" .null).orElse (.text "") with
      | .text note => (gapLine shown entries note).asText.map ([·])
      | _ => none
  | value => some (if value.truthy then [str shown value] else [])

/-- The gaps that the reference-map records. -/
def coverageGapsFromMap (refMap : Entries) : Option (List String) := do
  let gaps ← (get refMap "coverage_gaps" .null).listed
  (← gaps.mapM (coverageGap shown)).flatten

/-- The role of each reference; a later one takes the place of an earlier. -/
def roleByReferenceId (refMap : Entries) : Option (OrderedMap String Yaml) := do
  let references ← (get refMap "references" .null).listed
  some
    ((references.filterMap asDict).foldl (fun out ref =>
      let rid := get ref "reference_id" .null
      if rid.truthy then
        out.insert (str shown rid)
          (((get ref "role_confirmed" .null).orElse
            (get ref "role_proposed" .null)).orElse (.text ""))
      else
        out) .empty)

end Reading

/-- The sections of one reference; what is no mapping is skipped. -/
def partsOfReference (ref : Entries) : Option (List SurveyPart) := do
  let parts ← (get ref "sections" .null).listed
  some ((parts.filterMap asDict).map fun sec =>
    { reference := ref, fields := sec })

/-- The sections that a spec-index lists. -/
def surveyParts (specIndex : Entries) : Option (List SurveyPart) := do
  let references ← (get specIndex "references" .null).listed
  let nested ← (references.filterMap asDict).mapM partsOfReference
  some nested.flatten

end EvidenceMap

namespace SurveyPart

section Parts

variable (shown : Yaml → String)

def referenceId (part : SurveyPart) : String :=
  str shown (get part.reference "reference_id" (.text "ref"))

def title (part : SurveyPart) : String :=
  str shown (get part.reference "title" (.text (part.referenceId shown)))

def sectionId (part : SurveyPart) : String :=
  str shown (get part.fields "section_id" (.text "sec"))

def heading (part : SurveyPart) : String :=
  str shown (get part.fields "title" (.text (part.sectionId shown)))

def fragmentPath (part : SurveyPart) : Yaml :=
  get part.fields "fragment_path" (.text "")

def sourceId (part : SurveyPart) (issueId : Option String) : String :=
  EvidenceMap.sourceId issueId
    (part.referenceId shown ++ "-" ++ part.sectionId shown)

/-- What a section is called in a gap: its path, or its identifier. -/
def label (part : SurveyPart) : String :=
  str shown (part.fragmentPath.orElse (.text (part.sectionId shown)))

/-- The gap of a section whose fragment is not on disk. -/
def missingGap (part : SurveyPart) : String :=
  "fragment missing on disk: " ++ part.label shown ++ " (ref " ++
    part.referenceId shown ++ ")"

/-- The role of the reference, as the reference-map or the spec-index has it. -/
def role (part : SurveyPart) (roleById : OrderedMap String Yaml) :
    Option String :=
  let role :=
    (roleById.get? (part.referenceId shown)).getD
      ((get part.reference "role_confirmed" .null).orElse
        (get part.reference "role_proposed" .null))
  if role.truthy then some (str shown role) else none

/-- Where the fragment of a section stands, with its pages if it has any. -/
def locator (part : SurveyPart) (pages : String) : Yaml :=
  if pages = "" then
    part.fragmentPath
  else
    .text (str shown part.fragmentPath ++ "#" ++ pages)

/--
The text of the fragment of a section, if it is on disk.  Only a text can be
joined to the path of the folder.
-/
def fragment (part : SurveyPart) (fragments : String → FragmentFile) :
    Option (Option String) :=
  if part.fragmentPath.truthy then
    match part.fragmentPath with
    | .text path =>
        match fragments path with
        | .absent => some none
        | .undecodable => none
        | .content text => some (some text)
    | _ => none
  else
    some none

variable [PythonText]

/-- The source of a section; its locator is validated. -/
def source
    (part : SurveyPart)
    (issueId : Option String)
    (roleById : OrderedMap String Yaml) : Option Source := do
  let pages ← EvidenceMap.pagesLabel (get part.fields "source_pages" .null)
  let url ← (part.locator shown pages).asOptionalText
  some
    { id := part.sourceId shown issueId
      title := part.title shown ++ " — " ++ part.heading shown
      url := url
      sourceType := EvidenceMap.roleToSourceType (part.role shown roleById)
      origin := "internal" }

/-- The source, the claims and the gaps of a section. -/
def record
    (part : SurveyPart)
    (fragments : String → FragmentFile)
    (issueId : Option String)
    (roleById : OrderedMap String Yaml) :
    Option (Source × List Claim × List String) := do
  let src ← part.source shown issueId roleById
  match ← part.fragment fragments with
  | none => some (src, [], [part.missingGap shown])
  | some text =>
      let quote := EvidenceMap.verbatimQuote text
      some
        (src,
          if quote = "" then
            []
          else
            [{ claim := part.heading shown ++ " (" ++ part.title shown ++ ")"
               sourceRefs := [src.id]
               notes := quote }],
          [])

end Parts

end SurveyPart

namespace EvidenceMap

variable [PythonText]

/-- The bundle of a survey folder. -/
def bundleFromSurvey
    (shown : Yaml → String)
    (survey : SurveyContents)
    (issueId : Option String)
    (query : String) : Option EvidenceBundle := do
  let refMap := loadYaml survey.referenceMap
  let roleById ← roleByReferenceId shown refMap
  let mapGaps ← coverageGapsFromMap shown refMap
  let parts ← surveyParts (loadYaml survey.specIndex)
  let records ←
    parts.mapM fun part =>
      part.record shown survey.fragments issueId roleById
  some
    { query := query
      issueId := issueId
      claims := records.flatMap fun record => record.2.1
      sources := records.map Prod.fst
      coverageGaps := mapGaps ++ records.flatMap fun record => record.2.2 }

end EvidenceMap

/-! ## The quote of a fragment -/

namespace EvidenceMap

/-- A quote is a contiguous piece of the fragment. -/
theorem verbatimQuote_isInfix
    (text : String) :
    (verbatimQuote text).toList <:+: text.toList := by
  simp only [verbatimQuote]
  split
  · rename_i line isFirst
    obtain ⟨raw, isLine, rfl⟩ :=
      List.mem_map.mp (List.mem_of_find?_eq_some isFirst)
    rw [String.toList_ofList]
    exact
      (((stripChars_isInfix _).trans (List.take_prefix _ _).isInfix).trans
        (stripChars_isInfix raw)).trans (infix_of_mem_splitlines isLine)
  · rw [String.toList_ofList]
    exact (List.take_prefix _ _).isInfix.trans (stripChars_isInfix _)

/-- A fragment gives no quote exactly when it is blank. -/
theorem verbatimQuote_eq_empty_iff
    (text : String) :
    verbatimQuote text = "" ↔ strip text = "" := by
  simp only [verbatimQuote]
  split
  · rename_i line isFirst
    obtain ⟨raw, isLine, rfl⟩ :=
      List.mem_map.mp (List.mem_of_find?_eq_some isFirst)
    have isProse := List.find?_some isFirst
    have trimmed := isTrimmed_stripChars raw
    have inside :=
      (stripChars_isInfix raw).trans (infix_of_mem_splitlines isLine)
    cases found : stripChars raw with
    | nil =>
        simp [found] at isProse
    | cons c rest =>
        rw [found] at trimmed inside
        have notSpace : isPySpace c = false := trimmed.1 c rfl
        have quoteNotBlank :
            stripChars ((c :: rest).take ReferenceStore.quoteMaxChars) ≠
              [] := by
          intro blank
          have isSpace := stripChars_eq_nil_iff.mp blank c (by
            simp [ReferenceStore.quoteMaxChars])
          rw [notSpace] at isSpace
          cases isSpace
        have textNotBlank : stripChars text.toList ≠ [] := by
          intro blank
          have isSpace := stripChars_eq_nil_iff.mp blank c
            (inside.subset List.mem_cons_self)
          rw [notSpace] at isSpace
          cases isSpace
        simp [strip, quoteNotBlank, textNotBlank]
  · simp [strip, ReferenceStore.quoteMaxChars]

end EvidenceMap

/-! ## Which surveys can be read -/

/-- Every element of a mapped list is mapped to one of the results. -/
theorem exists_mem_of_mapM
    {α β : Type}
    {f : α → Option β}
    {inputs : List α}
    {outputs : List β}
    (mapped : inputs.mapM f = some outputs)
    {input : α}
    (member : input ∈ inputs) :
    ∃ output, f input = some output ∧ output ∈ outputs := by
  obtain ⟨position, isInput⟩ := List.mem_iff_getElem?.mp member
  obtain ⟨output, isOutput⟩ :=
    (Json.exists_mapM_iff f inputs).mp ⟨outputs, mapped⟩ input member
  have atPosition := AlbertContract.getElem?_mapM mapped position
  rw [isInput, Option.bind_some, isOutput] at atPosition
  exact ⟨output, isOutput, List.mem_of_getElem? atPosition⟩

/-- What the mapping keeps of every element, it keeps of the list. -/
theorem map_eq_map_of_mapM
    {α β γ : Type}
    {f : α → Option β}
    {ofInput : α → γ}
    {ofOutput : β → γ}
    {inputs : List α}
    {outputs : List β}
    (mapped : inputs.mapM f = some outputs)
    (kept : ∀ input ∈ inputs, ∀ output, f input = some output →
      ofOutput output = ofInput input) :
    outputs.map ofOutput = inputs.map ofInput := by
  apply List.ext_getElem?
  intro position
  rw [List.getElem?_map, List.getElem?_map,
    AlbertContract.getElem?_mapM mapped]
  cases isInput : inputs[position]? with
  | none =>
      rfl
  | some input =>
      have member := List.mem_of_getElem? isInput
      obtain ⟨output, isOutput⟩ :=
        (Json.exists_mapM_iff f inputs).mp ⟨outputs, mapped⟩ input member
      simp [isOutput, kept input member output isOutput]

namespace Yaml

def IsIterable : Yaml → Prop
  | .list _
  | .tuple _
  | .set _
  | .text _
  | .bytes _
  | .dict _ => True
  | _ => False

/-- A value that is false or can be iterated. -/
def IsListed (value : Yaml) : Prop :=
  value.truthy = true → value.IsIterable

/-- A value that is false or can be iterated, with elements of one shape. -/
def IsListOf (shape : Yaml → Prop) (value : Yaml) : Prop :=
  value.IsListed ∧
    ∀ items, value.listed = some items → ∀ item ∈ items, shape item

/-- What is no mapping is skipped, so only a mapping needs a shape. -/
def IfMapping (shape : Entries → Prop) (value : Yaml) : Prop :=
  ∀ entries, value.asDict = some entries → shape entries

theorem exists_listed_iff
    (value : Yaml) :
    (∃ items, value.listed = some items) ↔ value.IsListed := by
  unfold listed orElse IsListed
  split
  · rename_i isTrue
    cases value <;> simp [elements, IsIterable, isTrue]
  · rename_i isFalse
    simp [elements, isFalse]

theorem isListOf_iff
    {shape : Yaml → Prop}
    {value : Yaml} :
    value.IsListOf shape ↔
      ∃ items, value.listed = some items ∧ ∀ item ∈ items, shape item := by
  unfold IsListOf
  rw [← exists_listed_iff]
  constructor
  · rintro ⟨⟨items, areItems⟩, shaped⟩
    exact ⟨items, areItems, shaped items areItems⟩
  · rintro ⟨items, areItems, shaped⟩
    refine ⟨⟨items, areItems⟩, ?_⟩
    intro others areOthers
    rw [areItems] at areOthers
    cases areOthers
    exact shaped

/-- A value is mapped when it can be iterated and its elements are mapped. -/
theorem exists_mapM_listed_iff
    {α : Type}
    (f : Yaml → Option α)
    (value : Yaml) :
    (∃ outputs, (value.listed >>= fun items => items.mapM f) = some outputs) ↔
      value.IsListOf fun item => ∃ output, f item = some output := by
  rw [isListOf_iff]
  simp only [Option.bind_eq_bind, Option.bind_eq_some_iff,
    ← Json.exists_mapM_iff]
  exact exists_comm.trans (by simp only [exists_and_left])

end Yaml

namespace EvidenceMap

/-- A mapping among the gaps has a text or nothing as its note. -/
def GapReadable (shown : Yaml → String) : Yaml → Prop :=
  Yaml.IfMapping fun entries =>
    ∃ note,
      (get entries "note" .null).orElse (.text "") = .text note ∧
        (gapLine shown entries note).asText.isSome = true

theorem exists_coverageGap_iff
    (shown : Yaml → String)
    (value : Yaml) :
    (∃ gaps, coverageGap shown value = some gaps) ↔
      GapReadable shown value := by
  cases value with
  | dict entries =>
      simp only [coverageGap, GapReadable, Yaml.IfMapping, asDict,
        Option.some.injEq, forall_eq']
      cases (get entries "note" .null).orElse (.text "") <;>
        simp [Option.isSome_iff_exists]
  | _ =>
      simp [coverageGap, GapReadable, Yaml.IfMapping, asDict]

theorem exists_coverageGapsFromMap_iff
    (shown : Yaml → String)
    (refMap : Entries) :
    (∃ gaps, coverageGapsFromMap shown refMap = some gaps) ↔
      (get refMap "coverage_gaps" .null).IsListOf (GapReadable shown) := by
  have mapped :=
    Yaml.exists_mapM_listed_iff (coverageGap shown)
      (get refMap "coverage_gaps" .null)
  simp only [exists_coverageGap_iff] at mapped
  rw [← mapped]
  simp only [coverageGapsFromMap, Option.bind_eq_bind, Option.bind_eq_some_iff]
  constructor
  · rintro ⟨_, items, listed, lines, areLines, _⟩
    exact ⟨lines, items, listed, areLines⟩
  · rintro ⟨lines, items, listed, areLines⟩
    exact ⟨lines.flatten, items, listed, lines, areLines, rfl⟩

theorem exists_roleByReferenceId_iff
    (shown : Yaml → String)
    (refMap : Entries) :
    (∃ roleById, roleByReferenceId shown refMap = some roleById) ↔
      (get refMap "references" .null).IsListed := by
  rw [← Yaml.exists_listed_iff]
  simp [roleByReferenceId, Option.bind_eq_some_iff]

theorem exists_pagesLabel_iff
    (sourcePages : Yaml) :
    (∃ pages, pagesLabel sourcePages = some pages) ↔
      sourcePages.IsListed := by
  unfold pagesLabel Yaml.IsListed
  split
  · rename_i isTrue
    cases sourcePages <;> simp [Yaml.elements, Yaml.IsIterable, isTrue]
  · rename_i isFalse
    simp [isFalse]

end EvidenceMap

namespace SurveyPart

/--
A section that can be read.  Its pages can be iterated, its path is a text, or
a false value that is a text once the pages are added or is none.
-/
structure Readable
    (part : SurveyPart)
    (fragments : String → FragmentFile) : Prop where
  pages : (get part.fields "source_pages" .null).IsListed
  locator :
    EvidenceMap.pagesLabel (get part.fields "source_pages" .null) =
        some "" →
      part.fragmentPath.asOptionalText.isSome = true
  fragment :
    part.fragmentPath.truthy = true →
      ∃ path, part.fragmentPath = .text path ∧ fragments path ≠ .undecodable

/-- A section has a source unless its pages or its locator are invalid. -/
theorem exists_source_iff
    [PythonText]
    (shown : Yaml → String)
    (part : SurveyPart)
    (issueId : Option String)
    (roleById : OrderedMap String Yaml) :
    (∃ src, part.source shown issueId roleById = some src) ↔
      (get part.fields "source_pages" .null).IsListed ∧
        (EvidenceMap.pagesLabel (get part.fields "source_pages" .null) =
            some "" →
          part.fragmentPath.asOptionalText.isSome = true) := by
  rw [← EvidenceMap.exists_pagesLabel_iff]
  unfold source
  cases EvidenceMap.pagesLabel (get part.fields "source_pages" .null) with
  | none =>
      simp
  | some pages =>
      by_cases noPages : pages = ""
      · subst pages
        cases valid : part.fragmentPath.asOptionalText <;>
          simp [locator, valid]
      · simp [locator, noPages, Yaml.asOptionalText, Yaml.asText]

theorem exists_fragment_iff
    (part : SurveyPart)
    (fragments : String → FragmentFile) :
    (∃ fragment, part.fragment fragments = some fragment) ↔
      (part.fragmentPath.truthy = true →
        ∃ path, part.fragmentPath = .text path ∧
          fragments path ≠ .undecodable) := by
  unfold fragment
  split
  · rename_i isTrue
    simp only [isTrue, true_imp_iff]
    cases part.fragmentPath with
    | text path =>
        cases onDisk : fragments path <;> simp [onDisk]
    | _ =>
        simp
  · rename_i isFalse
    simp [isFalse]

/-- The record of a section puts its source and its fragment together. -/
theorem exists_record_iff
    [PythonText]
    (shown : Yaml → String)
    (part : SurveyPart)
    (fragments : String → FragmentFile)
    (issueId : Option String)
    (roleById : OrderedMap String Yaml) :
    (∃ record, part.record shown fragments issueId roleById = some record) ↔
      part.Readable fragments := by
  have hasBoth :
      (∃ record,
          part.record shown fragments issueId roleById = some record) ↔
        (∃ src, part.source shown issueId roleById = some src) ∧
          ∃ fragment, part.fragment fragments = some fragment := by
    unfold record
    cases part.source shown issueId roleById with
    | none =>
        simp
    | some src =>
        cases part.fragment fragments with
        | none =>
            simp
        | some fragment =>
            cases fragment <;> simp
  rw [hasBoth, exists_source_iff, exists_fragment_iff]
  constructor
  · rintro ⟨⟨pages, locator⟩, fragment⟩
    exact ⟨pages, locator, fragment⟩
  · rintro ⟨pages, locator, fragment⟩
    exact ⟨⟨pages, locator⟩, fragment⟩

end SurveyPart

namespace SurveyContents

/--
A survey that can be read.  The lists of both documents can be iterated, and
the gaps and the sections in them can be read.
-/
structure Readable
    (survey : SurveyContents)
    (shown : Yaml → String) : Prop where
  gaps :
    (get (EvidenceMap.loadYaml survey.referenceMap) "coverage_gaps"
      .null).IsListOf (EvidenceMap.GapReadable shown)
  roles :
    (get (EvidenceMap.loadYaml survey.referenceMap) "references"
      .null).IsListed
  parts :
    (get (EvidenceMap.loadYaml survey.specIndex) "references" .null).IsListOf
      (Yaml.IfMapping fun ref =>
        (get ref "sections" .null).IsListOf
          (Yaml.IfMapping fun sec =>
            SurveyPart.Readable ⟨ref, sec⟩ survey.fragments))

end SurveyContents

namespace EvidenceMap

theorem exists_partsOfReference_iff
    (shape : SurveyPart → Prop)
    (ref : Entries) :
    (∃ parts, partsOfReference ref = some parts ∧
        ∀ part ∈ parts, shape part) ↔
      (get ref "sections" .null).IsListOf
        (Yaml.IfMapping fun sec => shape ⟨ref, sec⟩) := by
  rw [Yaml.isListOf_iff, partsOfReference]
  cases (get ref "sections" .null).listed with
  | none =>
      simp
  | some items =>
      simp only [Option.bind_eq_bind, Option.bind_some, Option.some.injEq,
        exists_eq_left', List.forall_mem_map, List.mem_filterMap,
        Yaml.IfMapping]
      constructor
      · intro shaped item member entries isDict
        exact shaped entries ⟨item, member, isDict⟩
      · rintro shaped entries ⟨item, member, isDict⟩
        exact shaped item member entries isDict

/-- The listed sections have a shape when the documents list only such ones. -/
theorem exists_surveyParts_iff
    (shape : SurveyPart → Prop)
    (specIndex : Entries) :
    (∃ parts, surveyParts specIndex = some parts ∧
        ∀ part ∈ parts, shape part) ↔
      (get specIndex "references" .null).IsListOf
        (Yaml.IfMapping fun ref =>
          (get ref "sections" .null).IsListOf
            (Yaml.IfMapping fun sec => shape ⟨ref, sec⟩)) := by
  simp only [← exists_partsOfReference_iff]
  rw [Yaml.isListOf_iff, surveyParts]
  cases (get specIndex "references" .null).listed with
  | none =>
      simp
  | some references =>
      simp only [Option.bind_eq_bind, Option.bind_some, Option.bind_eq_some_iff,
        Option.some.injEq, exists_eq_left']
      constructor
      · rintro ⟨_, ⟨nested, mapped, rfl⟩, shaped⟩ item member ref isDict
        have listed : ref ∈ references.filterMap asDict :=
          List.mem_filterMap.mpr ⟨item, member, isDict⟩
        obtain ⟨parts, areParts, among⟩ :=
          exists_mem_of_mapM mapped listed
        exact
          ⟨parts, areParts, fun part isPart =>
            shaped part (List.mem_flatten.mpr ⟨parts, among, isPart⟩)⟩
      · intro shaped
        have everyOne :
            ∀ ref ∈ references.filterMap asDict,
              ∃ parts, partsOfReference ref = some parts ∧
                ∀ part ∈ parts, shape part := by
          intro ref listed
          obtain ⟨item, member, isDict⟩ := List.mem_filterMap.mp listed
          exact shaped item member ref isDict
        obtain ⟨nested, mapped⟩ :=
          (Json.exists_mapM_iff partsOfReference _).mpr fun ref listed =>
            (everyOne ref listed).imp fun _ found => found.1
        refine ⟨_, ⟨nested, mapped, rfl⟩, ?_⟩
        intro part member
        obtain ⟨parts, among, isPart⟩ := List.mem_flatten.mp member
        obtain ⟨ref, listed, areParts⟩ :=
          AlbertContract.exists_of_mem_mapM mapped among
        obtain ⟨found, isFound, shaped⟩ := everyOne ref listed
        rw [areParts] at isFound
        cases isFound
        exact shaped part isPart

section Bundles

variable [PythonText]

/-- A bundle is put together from the recorded gaps and the sections. -/
theorem bundleFromSurvey_eq_some_iff
    {shown : Yaml → String}
    {survey : SurveyContents}
    {issueId : Option String}
    {query : String}
    {bundle : EvidenceBundle} :
    bundleFromSurvey shown survey issueId query = some bundle ↔
      ∃ roleById mapGaps parts records,
        roleByReferenceId shown (loadYaml survey.referenceMap) =
            some roleById ∧
          coverageGapsFromMap shown (loadYaml survey.referenceMap) =
            some mapGaps ∧
          surveyParts (loadYaml survey.specIndex) = some parts ∧
          (parts.mapM fun part =>
              part.record shown survey.fragments issueId roleById) =
            some records ∧
          bundle =
            { query := query
              issueId := issueId
              claims := records.flatMap fun record => record.2.1
              sources := records.map Prod.fst
              coverageGaps :=
                mapGaps ++ records.flatMap fun record => record.2.2 } := by
  unfold bundleFromSurvey
  simp only [Option.bind_eq_bind, Option.bind_eq_some_iff, Option.some.injEq]
  constructor
  · rintro ⟨roleById, areRoles, mapGaps, areGaps, parts, areParts, records,
      mapped, rfl⟩
    exact
      ⟨roleById, mapGaps, parts, records, areRoles, areGaps, areParts, mapped,
        rfl⟩
  · rintro ⟨roleById, mapGaps, parts, records, areRoles, areGaps, areParts,
      mapped, rfl⟩
    exact
      ⟨roleById, areRoles, mapGaps, areGaps, parts, areParts, records, mapped,
        rfl⟩

/-- Whether a survey becomes a bundle depends on its shape alone. -/
theorem exists_bundleFromSurvey_iff
    (shown : Yaml → String)
    (survey : SurveyContents)
    (issueId : Option String)
    (query : String) :
    (∃ bundle,
        bundleFromSurvey shown survey issueId query = some bundle) ↔
      survey.Readable shown := by
  constructor
  · rintro ⟨bundle, isBundle⟩
    obtain ⟨roleById, mapGaps, parts, records, areRoles, areGaps, areParts,
      mapped, _⟩ := bundleFromSurvey_eq_some_iff.mp isBundle
    refine
      ⟨(exists_coverageGapsFromMap_iff shown _).mp ⟨mapGaps, areGaps⟩,
        (exists_roleByReferenceId_iff shown _).mp ⟨roleById, areRoles⟩,
        (exists_surveyParts_iff (·.Readable survey.fragments) _).mp
          ⟨parts, areParts, ?_⟩⟩
    intro part member
    exact
      (SurveyPart.exists_record_iff shown part survey.fragments issueId
        roleById).mp
        ((Json.exists_mapM_iff _ _).mp ⟨records, mapped⟩ part member)
  · rintro ⟨gaps, roles, parts⟩
    obtain ⟨mapGaps, areGaps⟩ :=
      (exists_coverageGapsFromMap_iff shown _).mpr gaps
    obtain ⟨roleById, areRoles⟩ :=
      (exists_roleByReferenceId_iff shown _).mpr roles
    obtain ⟨parts, areParts, readable⟩ :=
      (exists_surveyParts_iff (·.Readable survey.fragments) _).mpr parts
    obtain ⟨records, mapped⟩ :=
      (Json.exists_mapM_iff (fun part : SurveyPart =>
        part.record shown survey.fragments issueId roleById) parts).mpr
        fun part member =>
          (SurveyPart.exists_record_iff shown part survey.fragments issueId
            roleById).mpr (readable part member)
    exact
      ⟨_, bundleFromSurvey_eq_some_iff.mpr
        ⟨roleById, mapGaps, parts, records, areRoles, areGaps, areParts,
          mapped, rfl⟩⟩

end Bundles

end EvidenceMap

end ResearchCos
