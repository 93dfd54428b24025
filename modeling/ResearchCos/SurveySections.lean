import ResearchCos.SurveyFolders

namespace ResearchCos

open Foundation

open Yaml (Entries get str asInt asDict)

/-!
# The sections of a survey

The bundle of a survey accounts for a section by a claim that quotes its
fragment, or by a gap that names it.  A section whose fragment is blank has
neither, where the other tier records a gap.
-/

/-! ## The account of a section -/

namespace SurveyPart

/-- A text says that something about a section is not covered. -/
def NamedBy
    (part : SurveyPart)
    (shown : Yaml → String)
    (gap : String) : Prop :=
  ∃ reason,
    gap =
      reason ++ ": " ++ part.label shown ++ " (ref " ++
        part.referenceId shown ++ ")"

/--
A claim cites the source of a section, and no other source under its name, and
quotes the fragment.
-/
def QuotedIn
    (part : SurveyPart)
    (shown : Yaml → String)
    (fragments : String → FragmentFile)
    (issueId : Option String)
    (bundle : EvidenceBundle) : Prop :=
  ∃ claim ∈ bundle.claims,
    claim.sourceRefs = [part.sourceId shown issueId] ∧
      (bundle.sources.map Source.id).count (part.sourceId shown issueId) = 1 ∧
      ∃ text, part.fragment fragments = some (some text) ∧
        claim.notes.toList <:+: text.toList

/-- A missing fragment is recorded under the name of its section. -/
theorem namedBy_missingGap
    (part : SurveyPart)
    (shown : Yaml → String) :
    part.NamedBy shown (part.missingGap shown) :=
  ⟨"fragment missing on disk", rfl⟩

/-- What a section leaves in the bundle, by what stands under its path. -/
inductive RecordOf
    (part : SurveyPart)
    (shown : Yaml → String)
    (fragments : String → FragmentFile)
    (issueId : Option String) :
    Source × List Claim × List String → Prop where
  | missing (src : Source) :
      src.id = part.sourceId shown issueId →
      part.fragment fragments = some none →
      RecordOf part shown fragments issueId
        (src, [], [part.missingGap shown])
  | blank (src : Source) (text : String) :
      src.id = part.sourceId shown issueId →
      part.fragment fragments = some (some text) →
      strip text = "" →
      RecordOf part shown fragments issueId (src, [], [])
  | quoted (src : Source) (text : String) (claim : Claim) :
      src.id = part.sourceId shown issueId →
      part.fragment fragments = some (some text) →
      strip text ≠ "" →
      claim.sourceRefs = [part.sourceId shown issueId] →
      claim.notes.toList <:+: text.toList →
      RecordOf part shown fragments issueId (src, [claim], [])

section Records

variable [PythonText]

theorem source_id
    {shown : Yaml → String}
    {part : SurveyPart}
    {issueId : Option String}
    {roleById : OrderedMap String Yaml}
    {src : Source}
    (isSource : part.source shown issueId roleById = some src) :
    src.id = part.sourceId shown issueId := by
  unfold source at isSource
  obtain ⟨pages, _, isSource⟩ := Option.bind_eq_some_iff.mp isSource
  obtain ⟨url, _, isSource⟩ := Option.bind_eq_some_iff.mp isSource
  cases isSource
  rfl

/-- The three outcomes of a section. -/
theorem recordOf_of_record
    {shown : Yaml → String}
    {part : SurveyPart}
    {fragments : String → FragmentFile}
    {issueId : Option String}
    {roleById : OrderedMap String Yaml}
    {record : Source × List Claim × List String}
    (recorded :
      part.record shown fragments issueId roleById = some record) :
    part.RecordOf shown fragments issueId record := by
  unfold SurveyPart.record at recorded
  obtain ⟨src, isSource, recorded⟩ := Option.bind_eq_some_iff.mp recorded
  obtain ⟨fragment, isFragment, recorded⟩ :=
    Option.bind_eq_some_iff.mp recorded
  have named := source_id isSource
  cases fragment with
  | none =>
      cases recorded
      exact .missing src named isFragment
  | some text =>
      cases recorded
      split
      · rename_i noQuote
        exact
          .blank src text named isFragment
            ((EvidenceMap.verbatimQuote_eq_empty_iff text).mp noQuote)
      · rename_i hasQuote
        exact
          .quoted src text _ named isFragment
            (fun blank => hasQuote
              ((EvidenceMap.verbatimQuote_eq_empty_iff text).mpr blank))
            (by rw [named]) (EvidenceMap.verbatimQuote_isInfix text)

end Records

end SurveyPart

namespace SurveyContents

/--
A survey becomes a bundle with one source for each section in order, and every
section is quoted by a claim or named by a gap.
-/
def AccountsForSections
    [PythonText]
    (survey : SurveyContents)
    (shown : Yaml → String)
    (issueId : Option String)
    (query : String) : Prop :=
  ∃ parts bundle,
    EvidenceMap.surveyParts (EvidenceMap.loadYaml survey.specIndex) =
        some parts ∧
      EvidenceMap.bundleFromSurvey shown survey issueId query = some bundle ∧
      bundle.sources.map Source.id =
        parts.map (fun part => part.sourceId shown issueId) ∧
      ∀ part ∈ parts,
        part.QuotedIn shown survey.fragments issueId bundle ∨
          ∃ gap ∈ bundle.coverageGaps, part.NamedBy shown gap

/-- What accounts for a section among those of its survey. -/
inductive Accountable
    (survey : SurveyContents)
    (shown : Yaml → String)
    (issueId : Option String)
    (parts : List SurveyPart)
    (part : SurveyPart) : Prop where
  | quoted (text : String) :
      part.fragment survey.fragments = some (some text) →
      strip text ≠ "" →
      (parts.map fun other => other.sourceId shown issueId).count
          (part.sourceId shown issueId) =
        1 →
      Accountable survey shown issueId parts part
  | missing :
      part.fragment survey.fragments = some none →
      Accountable survey shown issueId parts part
  | recorded (gaps : List String) (gap : String) :
      EvidenceMap.coverageGapsFromMap shown
          (EvidenceMap.loadYaml survey.referenceMap) =
        some gaps →
      gap ∈ gaps →
      part.NamedBy shown gap →
      Accountable survey shown issueId parts part
  | namesake (other : SurveyPart) :
      other ∈ parts →
      other.fragment survey.fragments = some none →
      part.NamedBy shown (other.missingGap shown) →
      Accountable survey shown issueId parts part

/-- A value that occurs once under a function comes from one element. -/
private theorem eq_of_count_map_eq_one
    {α β : Type}
    [DecidableEq β]
    {f : α → β}
    {items : List α}
    {first second : α}
    (firstMember : first ∈ items)
    (secondMember : second ∈ items)
    (same : f second = f first)
    (once : (items.map f).count (f first) = 1) :
    second = first := by
  have alone : (items.filter fun item => f item == f first).length = 1 := by
    rw [← List.countP_eq_length_filter]
    rw [List.count, List.countP_map] at once
    exact once
  obtain ⟨only, isOnly⟩ := List.length_eq_one_iff.mp alone
  have firstIs : first ∈ [only] := by
    rw [← isOnly]
    exact List.mem_filter.mpr ⟨firstMember, by simp⟩
  have secondIs : second ∈ [only] := by
    rw [← isOnly]
    exact List.mem_filter.mpr ⟨secondMember, by simp [same]⟩
  rw [List.mem_singleton.mp firstIs, List.mem_singleton.mp secondIs]

/-- A claim of the bundle comes from a section and quotes it. -/
theorem exists_of_mem_claims
    {shown : Yaml → String}
    {fragments : String → FragmentFile}
    {issueId : Option String}
    {parts : List SurveyPart}
    {records : List (Source × List Claim × List String)}
    (recordOf : ∀ record ∈ records,
      ∃ part ∈ parts, part.RecordOf shown fragments issueId record)
    {claim : Claim}
    (member : claim ∈ records.flatMap fun record => record.2.1) :
    ∃ part ∈ parts, claim.sourceRefs = [part.sourceId shown issueId] ∧
      ∃ text, part.fragment fragments = some (some text) ∧
        strip text ≠ "" := by
  obtain ⟨record, isRecord, isClaim⟩ := List.mem_flatMap.mp member
  obtain ⟨part, isPart, outcome⟩ := recordOf record isRecord
  cases outcome with
  | missing =>
      cases isClaim
  | blank =>
      cases isClaim
  | quoted src text own _ isFragment notBlank cites _ =>
      rw [List.mem_singleton.mp isClaim]
      exact ⟨part, isPart, cites, text, isFragment, notBlank⟩

/-- A gap of the sections comes from one whose fragment is missing. -/
theorem exists_of_mem_gaps
    {shown : Yaml → String}
    {fragments : String → FragmentFile}
    {issueId : Option String}
    {parts : List SurveyPart}
    {records : List (Source × List Claim × List String)}
    (recordOf : ∀ record ∈ records,
      ∃ part ∈ parts, part.RecordOf shown fragments issueId record)
    {gap : String}
    (member : gap ∈ records.flatMap fun record => record.2.2) :
    ∃ part ∈ parts, part.fragment fragments = some none ∧
      gap = part.missingGap shown := by
  obtain ⟨record, isRecord, isGap⟩ := List.mem_flatMap.mp member
  obtain ⟨part, isPart, outcome⟩ := recordOf record isRecord
  cases outcome with
  | missing src _ isMissing =>
      exact ⟨part, isPart, isMissing, List.mem_singleton.mp isGap⟩
  | blank =>
      cases isGap
  | quoted =>
      cases isGap

/-- A section whose fragment is missing has its gap in the bundle. -/
theorem missingGap_mem_gaps
    {shown : Yaml → String}
    {part : SurveyPart}
    {fragments : String → FragmentFile}
    {issueId : Option String}
    {records : List (Source × List Claim × List String)}
    (hasRecord :
      ∃ record ∈ records, part.RecordOf shown fragments issueId record)
    (isMissing : part.fragment fragments = some none) :
    part.missingGap shown ∈ records.flatMap fun record => record.2.2 := by
  obtain ⟨record, isRecord, outcome⟩ := hasRecord
  refine List.mem_flatMap.mpr ⟨record, isRecord, ?_⟩
  cases outcome with
  | missing =>
      exact List.mem_singleton_self _
  | blank _ _ _ isFragment _
  | quoted _ _ _ _ isFragment _ _ _ =>
      rw [isMissing] at isFragment
      cases isFragment

/-- A section whose fragment is not blank has a claim in the bundle. -/
theorem exists_claim_of_fragment
    {shown : Yaml → String}
    {part : SurveyPart}
    {fragments : String → FragmentFile}
    {issueId : Option String}
    {records : List (Source × List Claim × List String)}
    (hasRecord :
      ∃ record ∈ records, part.RecordOf shown fragments issueId record)
    {text : String}
    (isFragment : part.fragment fragments = some (some text))
    (notBlank : strip text ≠ "") :
    ∃ claim ∈ records.flatMap fun record => record.2.1,
      claim.sourceRefs = [part.sourceId shown issueId] ∧
        claim.notes.toList <:+: text.toList := by
  obtain ⟨record, isRecord, outcome⟩ := hasRecord
  cases outcome with
  | missing _ _ isMissing =>
      rw [isFragment] at isMissing
      cases isMissing
  | blank _ blankText _ isBlank blank =>
      rw [isFragment] at isBlank
      cases isBlank
      exact absurd blank notBlank
  | quoted _ quotedText claim _ isQuoted _ cites quotes =>
      rw [isFragment] at isQuoted
      cases isQuoted
      exact
        ⟨claim,
          List.mem_flatMap.mpr
            ⟨_, isRecord, List.mem_singleton_self claim⟩,
          cites, quotes⟩

section Accounts

variable [PythonText]

/-- The records of the sections are theirs, and in the order of them. -/
theorem records_of_mapM
    {shown : Yaml → String}
    {fragments : String → FragmentFile}
    {issueId : Option String}
    {roleById : OrderedMap String Yaml}
    {parts : List SurveyPart}
    {records : List (Source × List Claim × List String)}
    (mapped :
      (parts.mapM fun part : SurveyPart =>
        part.record shown fragments issueId roleById) = some records) :
    (∀ record ∈ records,
        ∃ part ∈ parts, part.RecordOf shown fragments issueId record) ∧
      (∀ part ∈ parts,
        ∃ record ∈ records, part.RecordOf shown fragments issueId record) ∧
      (records.map Prod.fst).map Source.id =
        parts.map fun part => part.sourceId shown issueId := by
  refine ⟨?_, ?_, ?_⟩
  · intro record member
    obtain ⟨part, isPart, recorded⟩ :=
      AlbertContract.exists_of_mem_mapM mapped member
    exact ⟨part, isPart, SurveyPart.recordOf_of_record recorded⟩
  · intro part member
    obtain ⟨record, recorded, isRecord⟩ := exists_mem_of_mapM mapped member
    exact ⟨record, isRecord, SurveyPart.recordOf_of_record recorded⟩
  · rw [List.map_map]
    refine map_eq_map_of_mapM mapped ?_
    intro part _ record recorded
    cases SurveyPart.recordOf_of_record recorded <;> assumption

/-- What a survey and its sections leave in the bundle, and nothing else. -/
structure Assembles
    (survey : SurveyContents)
    (shown : Yaml → String)
    (issueId : Option String)
    (parts : List SurveyPart)
    (mapGaps : List String)
    (bundle : EvidenceBundle) : Prop where
  sources :
    bundle.sources.map Source.id =
      parts.map fun part => part.sourceId shown issueId
  claimOf :
    ∀ claim ∈ bundle.claims, ∃ part ∈ parts,
      claim.sourceRefs = [part.sourceId shown issueId] ∧
        ∃ text, part.fragment survey.fragments = some (some text) ∧
          strip text ≠ ""
  gapOf :
    ∀ gap ∈ bundle.coverageGaps, gap ∈ mapGaps ∨ ∃ part ∈ parts,
      part.fragment survey.fragments = some none ∧
        gap = part.missingGap shown
  hasClaim :
    ∀ part ∈ parts, ∀ text,
      part.fragment survey.fragments = some (some text) → strip text ≠ "" →
        ∃ claim ∈ bundle.claims,
          claim.sourceRefs = [part.sourceId shown issueId] ∧
            claim.notes.toList <:+: text.toList
  hasMapGap : ∀ gap ∈ mapGaps, gap ∈ bundle.coverageGaps
  hasGap :
    ∀ part ∈ parts, part.fragment survey.fragments = some none →
      part.missingGap shown ∈ bundle.coverageGaps

/-- Every bundle of a survey is assembled from its gaps and its sections. -/
theorem assembles_of_bundle
    {survey : SurveyContents}
    {shown : Yaml → String}
    {issueId : Option String}
    {query : String}
    {bundle : EvidenceBundle}
    (isBundle :
      EvidenceMap.bundleFromSurvey shown survey issueId query =
        some bundle) :
    ∃ parts mapGaps,
      EvidenceMap.surveyParts (EvidenceMap.loadYaml survey.specIndex) =
          some parts ∧
        EvidenceMap.coverageGapsFromMap shown
            (EvidenceMap.loadYaml survey.referenceMap) =
          some mapGaps ∧
        Assembles survey shown issueId parts mapGaps bundle := by
  obtain ⟨roleById, mapGaps, parts, records, _, areGaps, areParts, mapped,
    rfl⟩ := EvidenceMap.bundleFromSurvey_eq_some_iff.mp isBundle
  obtain ⟨recordOf, hasRecord, sameIds⟩ := records_of_mapM mapped
  refine ⟨parts, mapGaps, areParts, areGaps, sameIds, ?_, ?_, ?_, ?_, ?_⟩
  · intro claim isClaim
    exact exists_of_mem_claims recordOf isClaim
  · intro gap isGap
    exact
      (List.mem_append.mp isGap).imp_right fun ofSection =>
        exists_of_mem_gaps recordOf ofSection
  · intro part member text isFragment notBlank
    exact
      exists_claim_of_fragment (hasRecord part member) isFragment notBlank
  · intro gap isGap
    exact List.mem_append_left _ isGap
  · intro part member isMissing
    exact
      List.mem_append_right _
        (missingGap_mem_gaps (hasRecord part member) isMissing)

omit [PythonText] in
/-- A section that has a claim under its own name was quoted. -/
theorem Assembles.accountable_of_quotedIn
    {survey : SurveyContents}
    {shown : Yaml → String}
    {issueId : Option String}
    {parts : List SurveyPart}
    {mapGaps : List String}
    {bundle : EvidenceBundle}
    (assembles : Assembles survey shown issueId parts mapGaps bundle)
    {part : SurveyPart}
    (member : part ∈ parts)
    (quoted : part.QuotedIn shown survey.fragments issueId bundle) :
    survey.Accountable shown issueId parts part := by
  obtain ⟨claim, isClaim, cites, once, _⟩ := quoted
  obtain ⟨other, isOther, citesOther, text, isFragment, notBlank⟩ :=
    assembles.claimOf claim isClaim
  rw [assembles.sources] at once
  have same :
      other.sourceId shown issueId = part.sourceId shown issueId := by
    rw [cites] at citesOther
    exact (List.singleton_inj.mp citesOther).symm
  have isPart : other = part :=
    eq_of_count_map_eq_one
      (f := fun part : SurveyPart => part.sourceId shown issueId)
      member isOther same once
  subst isPart
  exact .quoted text isFragment notBlank once

/--
A survey accounts for its sections exactly when it can be read and no section
is left with a blank fragment or with a name that another one has, unless a gap
names it anyway.
-/
theorem accountsForSections_iff
    (survey : SurveyContents)
    (shown : Yaml → String)
    (issueId : Option String)
    (query : String) :
    survey.AccountsForSections shown issueId query ↔
      survey.Readable shown ∧
        ∀ parts,
          EvidenceMap.surveyParts (EvidenceMap.loadYaml survey.specIndex) =
              some parts →
            ∀ part ∈ parts, survey.Accountable shown issueId parts part := by
  rw [← EvidenceMap.exists_bundleFromSurvey_iff shown survey issueId query]
  constructor
  · rintro ⟨others, bundle, areOthers, isBundle, _, accounted⟩
    refine ⟨⟨bundle, isBundle⟩, ?_⟩
    intro parts areParts part member
    rw [areParts] at areOthers
    cases areOthers
    obtain ⟨read, mapGaps, areRead, areGaps, assembles⟩ :=
      assembles_of_bundle isBundle
    rw [areParts] at areRead
    cases areRead
    rcases accounted part member with quoted | ⟨gap, isGap, named⟩
    · exact assembles.accountable_of_quotedIn member quoted
    · rcases assembles.gapOf gap isGap with
        isRecorded | ⟨other, isOther, isMissing, rfl⟩
      · exact .recorded mapGaps gap areGaps isRecorded named
      · exact .namesake other isOther isMissing named
  · rintro ⟨⟨bundle, isBundle⟩, accountable⟩
    obtain ⟨parts, mapGaps, areParts, areGaps, assembles⟩ :=
      assembles_of_bundle isBundle
    refine ⟨parts, bundle, areParts, isBundle, assembles.sources, ?_⟩
    intro part member
    cases accountable parts areParts part member with
    | quoted text isFragment notBlank once =>
        obtain ⟨claim, isClaim, cites, quotes⟩ :=
          assembles.hasClaim part member text isFragment notBlank
        rw [← assembles.sources] at once
        exact .inl ⟨claim, isClaim, cites, once, text, isFragment, quotes⟩
    | missing isMissing =>
        exact
          .inr
            ⟨_, assembles.hasGap part member isMissing,
              part.namedBy_missingGap shown⟩
    | recorded gaps gap areThese isGap named =>
        rw [areGaps] at areThese
        cases areThese
        exact .inr ⟨gap, assembles.hasMapGap gap isGap, named⟩
    | namesake other isOther isMissing named =>
        exact .inr ⟨_, assembles.hasGap other isOther isMissing, named⟩

end Accounts

/-- A reference with one section, whose fragment is an empty file. -/
def emptyFragment : SurveyContents where
  specIndex :=
    some
      (.dict
        [(.text "references",
          .list
            [.dict
              [(.text "reference_id", .text "r1"),
                (.text "sections",
                  .list
                    [.dict
                      [(.text "section_id", .text "s1"),
                        (.text "fragment_path", .text "s1.md")]])]])])
  fragments := fun path => if path = "s1.md" then .content "" else .absent

/-- The section of an empty fragment has no claim and no gap. -/
theorem emptyFragment_unaccounted :
    ¬ ∀ (survey : SurveyContents) (shown : Yaml → String)
        (issueId : Option String) (query : String),
        @AccountsForSections PythonText.ascii survey shown issueId query := by
  intro always
  have evaluated :
      @EvidenceMap.bundleFromSurvey PythonText.ascii (fun _ => "")
          emptyFragment none "I3C" =
        some
          { query := "I3C"
            sources :=
              [{ id := "S-INT-r1-s1"
                 title := "r1 — s1"
                 url := some "s1.md"
                 origin := "internal" }] } := by
    decide +kernel
  obtain ⟨parts, bundle, _, isBundle, sameIds, accounted⟩ :=
    always emptyFragment (fun _ => "") none "I3C"
  rw [evaluated] at isBundle
  cases isBundle
  cases parts with
  | nil =>
      cases sameIds
  | cons part rest =>
      rcases accounted part List.mem_cons_self with
        ⟨_, isClaim, _⟩ | ⟨_, isGap, _⟩
      · cases isClaim
      · cases isGap

end SurveyContents

/-! ## The other tier and the typed survey -/

namespace EvidenceMap

variable [PythonText]

/-- A generated fragment is quoted by its one claim, or has its one gap. -/
theorem recordFromFragment_accounts
    (issueId : Option String)
    (fragment : GeneratedFragment)
    {source : Source}
    {claims : List Claim}
    {gaps : List String}
    (recorded :
      recordFromFragment issueId fragment = (source, claims, gaps)) :
    (∃ claim text, claims = [claim] ∧ gaps = [] ∧
        claim.sourceRefs = [source.id] ∧ fragment.text = some text ∧
        claim.notes.toList <:+: text.toList) ∨
      claims = [] ∧ ∃ gap, gaps = [gap] := by
  unfold recordFromFragment at recorded
  cases isText : fragment.text with
  | none =>
      simp only [isText, Prod.mk.injEq] at recorded
      obtain ⟨_, rfl, rfl⟩ := recorded
      exact .inr ⟨rfl, _, rfl⟩
  | some text =>
      simp only [isText] at recorded
      split at recorded
      · cases recorded
        exact .inr ⟨rfl, _, rfl⟩
      · cases recorded
        exact .inl ⟨_, text, rfl, rfl, rfl, rfl, verbatimQuote_isInfix text⟩

end EvidenceMap

namespace SurveyPart

variable [PythonText]

/-- A section with a text as its path, once everything is a text. -/
def toReference
    (part : SurveyPart)
    (shown : Yaml → String)
    (fragments : String → FragmentFile)
    (roleById : OrderedMap String Yaml) : SurveyReference where
  referenceId := part.referenceId shown
  title := some (part.title shown)
  role := part.role shown roleById
  sections :=
    [{ sectionId := part.sectionId shown
       title := some (part.heading shown)
       fragmentPath := part.fragmentPath.asText.getD ""
       pages :=
        (EvidenceMap.pagesLabel
          (get part.fields "source_pages" .null)).getD ""
       fragment := (part.fragment fragments).join }]

omit [PythonText] in
/-- A section with a text as its path is named by it, or by its identifier. -/
theorem missingGap_eq
    {shown : Yaml → String}
    {part : SurveyPart}
    {path : String}
    (isPath : part.fragmentPath = .text path) :
    part.missingGap shown =
      "fragment missing on disk: " ++
        orDefault (some path) (part.sectionId shown) ++ " (ref " ++
        part.referenceId shown ++ ")" := by
  have isLabel :
      part.label shown = orDefault (some path) (part.sectionId shown) := by
    unfold label Yaml.orElse
    rw [isPath]
    by_cases noPath : path = ""
    · rw [if_neg (by simp [Yaml.truthy, noPath]), orDefault, if_pos noPath]
      rfl
    · rw [if_pos (by simp [Yaml.truthy, noPath]), orDefault, if_neg noPath]
      rfl
  rw [← isLabel]
  rfl

/-- A section with a text as its path is recorded like a typed one. -/
theorem record_eq_recordFromSection
    {shown : Yaml → String}
    {part : SurveyPart}
    {fragments : String → FragmentFile}
    {issueId : Option String}
    {roleById : OrderedMap String Yaml}
    {path : String}
    (isPath : part.fragmentPath = .text path)
    {record : Source × List Claim × List String}
    (recorded :
      part.record shown fragments issueId roleById = some record) :
    (part.toReference shown fragments roleById).sections.map
        (EvidenceMap.recordFromSection issueId
          (part.toReference shown fragments roleById)) =
      [record] := by
  unfold SurveyPart.record at recorded
  obtain ⟨src, isSource, recorded⟩ := Option.bind_eq_some_iff.mp recorded
  obtain ⟨fragment, isFragment, recorded⟩ :=
    Option.bind_eq_some_iff.mp recorded
  unfold source at isSource
  obtain ⟨pages, arePages, isSource⟩ := Option.bind_eq_some_iff.mp isSource
  obtain ⟨url, isUrl, isSource⟩ := Option.bind_eq_some_iff.mp isSource
  cases isSource
  have isLocator : url = some (EvidenceMap.locator path pages) := by
    by_cases noPages : pages = ""
    · rw [locator, if_pos noPages, isPath] at isUrl
      cases isUrl
      rw [EvidenceMap.locator, if_pos noPages]
    · rw [locator, if_neg noPages, isPath] at isUrl
      cases isUrl
      rw [EvidenceMap.locator, if_neg noPages]
      rfl
  cases fragment with
  | none =>
      have isRecord := Option.some.inj recorded
      rw [← isRecord, missingGap_eq isPath]
      simp only [toReference, List.map_cons, List.map_nil,
        EvidenceMap.recordFromSection, isFragment, isPath, arePages,
        isLocator, Yaml.asText, Option.getD_some, Option.join_some, sourceId]
  | some text =>
      have isRecord := Option.some.inj recorded
      rw [← isRecord]
      simp only [toReference, List.map_cons, List.map_nil,
        EvidenceMap.recordFromSection, isFragment, isPath, arePages,
        isLocator, Yaml.asText, Option.getD_some, Option.join_some, sourceId]

end SurveyPart

namespace EvidenceMap

variable [PythonText]

/--
A survey whose paths are texts becomes the bundle of a typed survey, apart from
the provenance that the internal researcher adds.
-/
theorem exists_internalBundle
    {shown : Yaml → String}
    {survey : SurveyContents}
    {issueId : Option String}
    {query : String}
    {bundle : EvidenceBundle}
    (isBundle :
      bundleFromSurvey shown survey issueId query = some bundle)
    (textPaths :
      ∀ parts, surveyParts (loadYaml survey.specIndex) = some parts →
        ∀ part ∈ parts, ∃ path, part.fragmentPath = .text path) :
    ∃ gaps references, ∀ version,
      internalBundle query issueId (.survey gaps references version) =
        { bundle with
          suggestedFollowups := ["provenance: paperwork v" ++ version] } := by
  obtain ⟨roleById, mapGaps, parts, records, _, _, areParts, mapped, rfl⟩ :=
    bundleFromSurvey_eq_some_iff.mp isBundle
  refine
    ⟨mapGaps,
      parts.map fun part =>
        part.toReference shown survey.fragments roleById, ?_⟩
  intro version
  have sameRecords :
      ((parts.map fun part =>
          part.toReference shown survey.fragments roleById).flatMap
        fun reference =>
          reference.sections.map (recordFromSection issueId reference)) =
        records := by
    have lifted :
        records.map (fun record => [record]) =
          parts.map fun part =>
            (part.toReference shown survey.fragments roleById).sections.map
              (recordFromSection issueId
                (part.toReference shown survey.fragments roleById)) := by
      refine map_eq_map_of_mapM mapped ?_
      intro part member record recorded
      obtain ⟨path, isPath⟩ := textPaths parts areParts part member
      exact (SurveyPart.record_eq_recordFromSection isPath recorded).symm
    rw [List.flatMap_map, List.flatMap_def, ← lifted, ← List.flatMap_def]
    exact List.flatMap_singleton' records
  simp only [internalBundle, bundleOfRecords, sameRecords]

end EvidenceMap

end ResearchCos
