import ResearchCos.EvidenceProducers
import ResearchCos.MintedIds
import ResearchCos.ReferenceScan

namespace ResearchCos

open Foundation

/-!
# The names of sources

A source is named after a group and something in it: after an issue and a
position by the web researcher, after an issue and a document by the internal
one, after the stem of a dropped file by the scan.  Issues are numbered in
digits, so the group and the rest can be read back from the identifier, and
sources of different names have different identifiers.
-/

structure SourceName where
  group : String
  suffix : String
  deriving Repr, DecidableEq

/-- The group of an issue, or of internal research without one. -/
def IsIssueGroup (group : String) : Prop :=
  group = "INT" ∨ ∃ n, group = IssueMap.issueId n

namespace SourceName

def id (name : SourceName) : String :=
  "S-" ++ name.group ++ "-" ++ name.suffix

/-- The group is one that a producer uses. -/
def WellGrouped (name : SourceName) : Prop :=
  name.group = "REF" ∨ IsIssueGroup name.group

/-- Read a group and the rest: an issue ends with its digits. -/
def readBack : List Char → List Char × List Char
  | 'I' :: '-' :: rest =>
      ('I' :: '-' :: rest.takeWhile Char.isDigit,
        (rest.dropWhile Char.isDigit).drop 1)
  | characters => (characters.take 3, characters.drop 4)

theorem toList_id
    (name : SourceName) :
    name.id.toList =
      'S' :: '-' :: (name.group.toList ++ '-' :: name.suffix.toList) := by
  simp [id]

/-- The number of an issue ends where the hyphen stands. -/
theorem readBack_issue
    (n : Nat)
    (suffix : List Char) :
    readBack ((IssueMap.issueId n).toList ++ '-' :: suffix) =
      ((IssueMap.issueId n).toList, suffix) := by
  have digits : ∀ c ∈ (pad3 n).toList, c.isDigit = true :=
    fun c member => isDigit_of_mem_pad3 member
  have shape :
      (IssueMap.issueId n).toList = 'I' :: '-' :: (pad3 n).toList := by
    simp [IssueMap.issueId]
  have hyphen : Char.isDigit '-' = false := rfl
  rw [shape, List.cons_append, List.cons_append]
  simp only [readBack]
  rw [List.takeWhile_append_of_pos digits, List.dropWhile_append_of_pos digits]
  simp [hyphen]

theorem readBack_group
    {name : SourceName}
    (well : name.WellGrouped) :
    readBack (name.group.toList ++ '-' :: name.suffix.toList) =
      (name.group.toList, name.suffix.toList) := by
  rcases well with dropped | internal | ⟨n, issue⟩
  · rw [dropped]
    rfl
  · rw [internal]
    rfl
  · rw [issue]
    exact readBack_issue n _

/-- Sources of one identifier have one name. -/
theorem eq_of_id_eq
    {first second : SourceName}
    (wellFirst : first.WellGrouped)
    (wellSecond : second.WellGrouped)
    (same : first.id = second.id) :
    first = second := by
  have sameCharacters := congrArg String.toList same
  simp only [toList_id, List.cons.injEq, true_and] at sameCharacters
  have readsSame := congrArg readBack sameCharacters
  rw [readBack_group wellFirst, readBack_group wellSecond,
    Prod.mk.injEq, String.toList_inj, String.toList_inj] at readsSame
  cases first
  cases second
  exact (SourceName.mk.injEq ..).mpr readsSame

/-- No issue is numbered like a dropped file. -/
theorem group_ne_of_isIssueGroup
    {group : String}
    (isIssue : IsIssueGroup group) :
    group ≠ "REF" := by
  rintro rfl
  rcases isIssue with internal | ⟨n, issue⟩
  · exact absurd internal (by decide)
  · have sameCharacters := congrArg String.toList issue
    simp [IssueMap.issueId] at sameCharacters

end SourceName

/-! ## The names that a production gives -/

namespace RealResearcher

/-- A research call names its sources by position. -/
def offeredNames (issueId : String) (raw : RawResearch) : List SourceName :=
  (List.range raw.sources.length).map fun index =>
    { group := issueId, suffix := toString index }

/-- The positions that the claims refer to, as far as there are sources. -/
def citedNames (issueId : String) (raw : RawResearch) : List SourceName :=
  raw.claims.flatMap fun claim =>
    claim.sourceIndices.filterMap fun index =>
      index.bind fun position =>
        if 0 ≤ position ∧ position.toNat < raw.sources.length then
          some { group := issueId, suffix := toString position.toNat }
        else
          none

end RealResearcher

namespace InternalFinding

/-- There is a fragment, and it has a line to quote. -/
def quotable (fragment : Option String) : Bool :=
  fragment.any fun text => EvidenceMap.verbatimQuote text ≠ ""

/-- The sections of a survey, or the fragments, of which some are quoted. -/
def names
    (group : String)
    (counts : Option String → Bool) : InternalFinding → List SourceName
  | .survey _ references _ =>
      references.flatMap fun reference =>
        (reference.sections.filter fun part => counts part.fragment).map
          fun part =>
            { group := group
              suffix := reference.referenceId ++ "-" ++ part.sectionId }
  | .generated items _ =>
      items.filterMap fun item =>
        match item with
        | .fragment fragment =>
            if counts fragment.text then
              some { group := group, suffix := fragment.referenceId }
            else
              none
        | .gap _ => none
  | .nothing _ _ => []

end InternalFinding

/-- The name of the source of a dropped file. -/
def ReferenceStore.stemName
    (entry : ReferencePath × ReferenceFile) : SourceName where
  group := "REF"
  suffix := (splitSuffix (fileName entry.1)).1

namespace Production

/-- The issue that a production is for. -/
def group? : Production → Option String
  | .web _ _ issueId _ => some issueId
  | .internal _ issueId _ => some (orDefault issueId "INT")
  | .both _ _ issueId _ _ => some issueId
  | .scan _ _ => none

/-- The names of the sources that research returns. -/
def offers : Production → List SourceName
  | .web raw _ issueId _ => RealResearcher.offeredNames issueId raw
  | .internal _ issueId finding =>
      finding.names (orDefault issueId "INT") fun _ => true
  | .both raw _ issueId _ finding =>
      RealResearcher.offeredNames issueId raw ++
        finding.names (orDefault (some issueId) "INT") fun _ => true
  | .scan _ _ => []

/-- The names of the sources that the claims of research cite. -/
def cites : Production → List SourceName
  | .web raw _ issueId _ => RealResearcher.citedNames issueId raw
  | .internal _ issueId finding =>
      finding.names (orDefault issueId "INT") InternalFinding.quotable
  | .both raw _ issueId _ finding =>
      RealResearcher.citedNames issueId raw ++
        finding.names (orDefault (some issueId) "INT")
          InternalFinding.quotable
  | .scan _ _ => []

section Texts

variable [PythonText]

/-- The files that a scan finds and can convert, with their texts. -/
def droppedTexts :
    Production → List ((ReferencePath × ReferenceFile) × String)
  | .scan converters folder =>
      (ReferenceStore.scanOrder folder).filterMap fun entry =>
        match ReferenceStore.convertToFragment converters entry.1 entry.2 with
        | .fragment text => some (entry, text)
        | _ => none
  | _ => []

end Texts

end Production

/-! ## Groups -/

theorem group_of_mem_names
    {finding : InternalFinding}
    {group : String}
    {counts : Option String → Bool}
    {name : SourceName}
    (member : name ∈ finding.names group counts) :
    name.group = group := by
  cases finding with
  | survey gaps references version =>
      obtain ⟨reference, _, inSections⟩ := List.mem_flatMap.mp member
      obtain ⟨part, _, rfl⟩ := List.mem_map.mp inSections
      rfl
  | generated items version =>
      obtain ⟨item, _, isName⟩ := List.mem_filterMap.mp member
      cases item with
      | gap text =>
          cases isName
      | fragment fragment =>
          simp only [Option.ite_none_right_eq_some, Option.some.injEq]
            at isName
          rw [← isName.2]
  | nothing gaps missing =>
      cases member

theorem group_of_mem_offeredNames
    {issueId : String}
    {raw : RawResearch}
    {name : SourceName}
    (member : name ∈ RealResearcher.offeredNames issueId raw) :
    name.group = issueId := by
  obtain ⟨index, _, rfl⟩ := List.mem_map.mp member
  rfl

theorem group_of_mem_citedNames
    {issueId : String}
    {raw : RawResearch}
    {name : SourceName}
    (member : name ∈ RealResearcher.citedNames issueId raw) :
    name.group = issueId := by
  obtain ⟨claim, _, fromClaim⟩ := List.mem_flatMap.mp member
  obtain ⟨index, _, isName⟩ := List.mem_filterMap.mp fromClaim
  obtain ⟨position, _, isName⟩ := Option.bind_eq_some_iff.mp isName
  simp only [Option.ite_none_right_eq_some, Option.some.injEq] at isName
  rw [← isName.2]

/-- No issue is numbered by nothing. -/
theorem orDefault_of_isIssueGroup
    {issueId : String}
    (isIssue : IsIssueGroup issueId) :
    orDefault (some issueId) "INT" = issueId := by
  have named : issueId ≠ "" := by
    rintro rfl
    rcases isIssue with internal | ⟨n, issue⟩
    · exact absurd internal (by decide)
    · have sameCharacters := congrArg String.toList issue
      simp [IssueMap.issueId] at sameCharacters
  simp only [orDefault, if_neg named]

/-- A production gives names within its issue only. -/
theorem Production.group_of_mem
    {production : Production}
    (grouped : ∀ group ∈ production.group?, IsIssueGroup group)
    {name : SourceName}
    (member : name ∈ production.cites ∨ name ∈ production.offers) :
    IsIssueGroup name.group := by
  cases production with
  | web raw title issueId criteria =>
      have isIssue := grouped issueId rfl
      rcases member with cited | offered
      · rwa [group_of_mem_citedNames cited]
      · rwa [group_of_mem_offeredNames offered]
  | internal query issueId finding =>
      have isIssue := grouped _ rfl
      simp only [cites, offers] at member
      rcases member with cited | offered
      · rwa [group_of_mem_names cited]
      · rwa [group_of_mem_names offered]
  | both raw title issueId criteria finding =>
      have isIssue := grouped issueId rfl
      have sameGroup := orDefault_of_isIssueGroup isIssue
      rcases member with cited | offered
      · rcases List.mem_append.mp cited with onWeb | internal
        · rwa [group_of_mem_citedNames onWeb]
        · rwa [group_of_mem_names internal, sameGroup]
      · rcases List.mem_append.mp offered with onWeb | internal
        · rwa [group_of_mem_offeredNames onWeb]
        · rwa [group_of_mem_names internal, sameGroup]
  | scan converters folder =>
      rcases member with cited | offered
      · cases cited
      · cases offered

/-! ## Bundles by the names of their sources -/

/-- The claims cite, and the sources have, only such names. -/
structure EvidenceBundle.NamedBy
    (bundle : EvidenceBundle)
    (cited offered : List SourceName) : Prop where
  cites :
    ∀ claim ∈ bundle.claims, ∀ ref ∈ claim.sourceRefs,
      ∃ name ∈ cited, ref = name.id
  offers :
    ∀ source ∈ bundle.sources, ∃ name ∈ offered, source.id = name.id

/-- A position that resolves names the source there. -/
theorem name_of_refAt
    {raw : RawResearch}
    {issueId ref : String}
    {index : Option Int}
    (resolved :
      RealResearcher.refAt
          (raw.sources.zipIdx.map fun (source, index) =>
            RealResearcher.buildSource issueId index source)
          index =
        some ref) :
    ∃ position : Int,
      index = some position ∧
        (0 ≤ position ∧ position.toNat < raw.sources.length) ∧
        ref =
          SourceName.id
            { group := issueId, suffix := toString position.toNat } := by
  simp only [RealResearcher.refAt, Option.bind_eq_some_iff] at resolved
  obtain ⟨position, isIndex, found⟩ := resolved
  split at found
  · rename_i natural
    obtain ⟨source, isSource, rfl⟩ := Option.map_eq_some_iff.mp found
    rw [List.getElem?_map, List.getElem?_zipIdx, Option.map_map] at isSource
    obtain ⟨here, isHere, rfl⟩ := Option.map_eq_some_iff.mp isSource
    have inside := (List.getElem?_eq_some_iff.mp isHere).1
    refine ⟨position, isIndex, ⟨natural, inside⟩, ?_⟩
    simp [RealResearcher.buildSource, SourceName.id]
  · cases found

/-- The web researcher names its sources by issue and position. -/
theorem buildBundle_namedBy
    {raw : RawResearch}
    {title issueId : String}
    {criteria : List String}
    {bundle : EvidenceBundle}
    (built :
      RealResearcher.buildBundle raw title issueId criteria = some bundle) :
    bundle.NamedBy (RealResearcher.citedNames issueId raw)
      (RealResearcher.offeredNames issueId raw) := by
  obtain ⟨rfl, _⟩ := EvidenceBundle.modelValidate_eq_some built
  constructor
  · intro claim inClaims ref inRefs
    obtain ⟨rawClaim, isRaw, rfl⟩ := List.mem_map.mp inClaims
    obtain ⟨index, isIndex, resolved⟩ := List.mem_filterMap.mp inRefs
    obtain ⟨position, rfl, inRange, rfl⟩ := name_of_refAt resolved
    refine ⟨_, List.mem_flatMap.mpr ⟨rawClaim, isRaw, ?_⟩, rfl⟩
    refine List.mem_filterMap.mpr ⟨some position, isIndex, ?_⟩
    rw [Option.bind_some, if_pos inRange]
  · intro source isSource
    obtain ⟨⟨rawSource, index⟩, isPlace, rfl⟩ := List.mem_map.mp isSource
    have inside : index < raw.sources.length := by
      have := (List.mem_zipIdx isPlace).2.1
      omega
    exact
      ⟨_, List.mem_map_of_mem (List.mem_range.mpr inside), rfl⟩

section Records

variable [PythonText]

/-- A section is named after its document, and cited when it is quoted. -/
theorem recordFromSection_named
    (issueId : Option String)
    (reference : SurveyReference)
    (part : SurveySection) :
    let record := EvidenceMap.recordFromSection issueId reference part
    let name : SourceName :=
      { group := orDefault issueId "INT"
        suffix := reference.referenceId ++ "-" ++ part.sectionId }
    record.1.id = name.id ∧
      ∀ claim ∈ record.2.1,
        InternalFinding.quotable part.fragment = true ∧
          claim.sourceRefs = [name.id] := by
  simp only [EvidenceMap.recordFromSection, InternalFinding.quotable]
  split
  · exact ⟨rfl, by simp⟩
  · rename_i text isText
    refine ⟨rfl, ?_⟩
    intro claim inClaims
    split at inClaims
    · cases inClaims
    · rename_i quoted
      rw [List.mem_singleton.mp inClaims, isText]
      exact ⟨by simpa using quoted, rfl⟩

/-- A fragment is named after its document, and cited when it is quoted. -/
theorem recordFromFragment_named
    (issueId : Option String)
    (fragment : GeneratedFragment) :
    let record := EvidenceMap.recordFromFragment issueId fragment
    let name : SourceName :=
      { group := orDefault issueId "INT", suffix := fragment.referenceId }
    record.1.id = name.id ∧
      ∀ claim ∈ record.2.1,
        InternalFinding.quotable fragment.text = true ∧
          claim.sourceRefs = [name.id] := by
  simp only [EvidenceMap.recordFromFragment, InternalFinding.quotable]
  split
  · exact ⟨rfl, by simp⟩
  · rename_i text isText
    split
    · exact ⟨rfl, by simp⟩
    · rename_i quoted
      refine ⟨rfl, ?_⟩
      intro claim inClaims
      rw [List.mem_singleton.mp inClaims, isText]
      exact ⟨by simpa using quoted, rfl⟩

omit [PythonText] in
/-- Records that are named make a bundle that is. -/
theorem bundleOfRecords_namedBy
    {query : String}
    {issueId : Option String}
    {gaps : List String}
    {version : String}
    {records : List (Source × List Claim × List String)}
    {cited offered : List SourceName}
    (named :
      ∀ record ∈ records,
        ∃ name ∈ offered,
          record.1.id = name.id ∧
            ∀ claim ∈ record.2.1,
              name ∈ cited ∧ claim.sourceRefs = [name.id]) :
    (EvidenceMap.bundleOfRecords query issueId gaps version records).NamedBy
      cited offered := by
  constructor
  · intro claim inClaims ref inRefs
    obtain ⟨record, isRecord, claimed⟩ := List.mem_flatMap.mp inClaims
    obtain ⟨name, _, _, claims⟩ := named record isRecord
    obtain ⟨isCited, refs⟩ := claims claim claimed
    rw [refs, List.mem_singleton] at inRefs
    exact ⟨name, isCited, inRefs⟩
  · intro source isSource
    obtain ⟨record, isRecord, rfl⟩ := List.mem_map.mp isSource
    obtain ⟨name, isOffered, same, _⟩ := named record isRecord
    exact ⟨name, isOffered, same⟩

/-- The internal researcher names its sources by issue and document. -/
theorem internalBundle_namedBy
    (query : String)
    (issueId : Option String)
    (finding : InternalFinding) :
    (internalBundle query issueId finding).NamedBy
      (finding.names (orDefault issueId "INT") InternalFinding.quotable)
      (finding.names (orDefault issueId "INT") fun _ => true) := by
  cases finding with
  | survey gaps references version =>
      refine bundleOfRecords_namedBy ?_
      intro record isRecord
      obtain ⟨reference, isReference, fromSections⟩ :=
        List.mem_flatMap.mp isRecord
      obtain ⟨part, isPart, rfl⟩ := List.mem_map.mp fromSections
      obtain ⟨same, claims⟩ := recordFromSection_named issueId reference part
      have inNames
          {counts : Option String → Bool}
          (counted : counts part.fragment = true) :
          { group := orDefault issueId "INT"
            suffix := reference.referenceId ++ "-" ++ part.sectionId } ∈
            (InternalFinding.survey gaps references version).names
              (orDefault issueId "INT") counts :=
        List.mem_flatMap.mpr
          ⟨reference, isReference,
            List.mem_map_of_mem (List.mem_filter.mpr ⟨isPart, counted⟩)⟩
      refine ⟨_, inNames rfl, same, ?_⟩
      intro claim claimed
      obtain ⟨quoted, refs⟩ := claims claim claimed
      exact ⟨inNames quoted, refs⟩
  | generated items version =>
      refine bundleOfRecords_namedBy ?_
      intro record isRecord
      obtain ⟨item, isItem, fromItem⟩ := List.mem_filterMap.mp isRecord
      cases item with
      | gap text =>
          cases fromItem
      | fragment fragment =>
          cases fromItem
          obtain ⟨same, claims⟩ := recordFromFragment_named issueId fragment
          refine
            ⟨_, List.mem_filterMap.mpr ⟨_, isItem, if_pos rfl⟩, same, ?_⟩
          intro claim claimed
          obtain ⟨quoted, refs⟩ := claims claim claimed
          exact ⟨List.mem_filterMap.mpr ⟨_, isItem, if_pos quoted⟩, refs⟩
  | nothing gaps missing =>
      exact ⟨nofun, nofun⟩

omit [PythonText] in
/-- A merged bundle has the names of both. -/
theorem mergeBundles_namedBy
    {primary secondary : EvidenceBundle}
    {cited offered moreCited moreOffered : List SourceName}
    (first : primary.NamedBy cited offered)
    (second : secondary.NamedBy moreCited moreOffered) :
    (mergeBundles primary secondary).NamedBy (cited ++ moreCited)
      (offered ++ moreOffered) := by
  constructor
  · intro claim inClaims ref inRefs
    rcases List.mem_append.mp inClaims with inFirst | inSecond
    · obtain ⟨name, isCited, named⟩ := first.cites claim inFirst ref inRefs
      exact ⟨name, List.mem_append_left _ isCited, named⟩
    · obtain ⟨name, isCited, named⟩ := second.cites claim inSecond ref inRefs
      exact ⟨name, List.mem_append_right _ isCited, named⟩
  · intro source isSource
    rcases List.mem_append.mp isSource with inFirst | inSecond
    · obtain ⟨name, isOffered, named⟩ := first.offers source inFirst
      exact ⟨name, List.mem_append_left _ isOffered, named⟩
    · obtain ⟨name, isOffered, named⟩ := second.offers source inSecond
      exact ⟨name, List.mem_append_right _ isOffered, named⟩

omit [PythonText] in
/-- A dropped file is named after its stem, and cited when it has prose. -/
theorem bundleFromFragment_namedBy
    (entry : ReferencePath × ReferenceFile)
    (text : String) :
    (ReferenceStore.bundleFromFragment entry.1 text).NamedBy
      (if ReferenceStore.fragmentQuote text = "" then
        []
      else
        [ReferenceStore.stemName entry])
      [ReferenceStore.stemName entry] := by
  have named :
      "S-REF-" ++ (ReferenceStore.splitSuffix
          (ReferenceStore.fileName entry.1)).1 =
        (ReferenceStore.stemName entry).id := by
    simp only [ReferenceStore.stemName, SourceName.id]
    rfl
  constructor
  · intro claim inClaims ref inRefs
    simp only [ReferenceStore.bundleFromFragment] at inClaims
    split at inClaims
    · cases inClaims
    · rename_i quoted
      rw [List.mem_singleton.mp inClaims, List.mem_singleton] at inRefs
      rw [if_neg quoted]
      exact ⟨_, List.mem_singleton_self _, inRefs.trans named⟩
  · intro source isSource
    rw [List.mem_singleton.mp isSource]
    exact ⟨_, List.mem_singleton_self _, named⟩

end Records

end ResearchCos
