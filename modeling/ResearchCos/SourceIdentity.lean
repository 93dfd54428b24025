import ResearchCos.DecisionMemo
import ResearchCos.EvidenceProducers

namespace ResearchCos

open Foundation

/-!
# Which source a citation leads to

A claim cites the sources of its own bundle.  The citations are checked against
one dictionary of all sources in which a later source replaces an earlier one
of the same identifier, so the claims are checked against their own sources
exactly as long as no bundle brings another source under a cited identifier.
-/

/-! ## The dictionary of sources -/

/-- The last source under an identifier. -/
def lastSource (bundles : List EvidenceBundle) (ref : String) : Option Source :=
  (bundles.flatMap EvidenceBundle.sources).reverse.find? fun source =>
    source.id = ref

theorem lastSource_append
    (earlier later : List EvidenceBundle)
    (ref : String) :
    lastSource (earlier ++ later) ref =
      (lastSource later ref).or (lastSource earlier ref) := by
  simp [lastSource, List.find?_append]

/-- The last source under an identifier carries it and is in some bundle. -/
theorem mem_of_lastSource
    {bundles : List EvidenceBundle}
    {ref : String}
    {source : Source}
    (isLast : lastSource bundles ref = some source) :
    source.id = ref ∧ ∃ bundle ∈ bundles, source ∈ bundle.sources := by
  have named := List.find?_some isLast
  have member := List.mem_of_find?_eq_some isLast
  simp only [List.mem_reverse, List.mem_flatMap] at member
  exact ⟨of_decide_eq_true named, member⟩

/-- Inserting sources one by one leaves the last one of every identifier. -/
theorem get?_insertSources
    (sources : List Source)
    (known : OrderedMap String Source)
    (ref : String) :
    (sources.foldl (fun table source => table.insert source.id source)
        known).get? ref =
      (sources.reverse.find? fun source => source.id = ref).or
        (known.get? ref) := by
  induction sources generalizing known with
  | nil =>
      rfl
  | cons source rest inductionHypothesis =>
      rw [List.foldl_cons, inductionHypothesis, List.reverse_cons,
        List.find?_append, Option.or_assoc]
      congr 1
      by_cases named : source.id = ref
      · subst named
        simp
      · rw [OrderedMap.get?_insert, if_neg named]
        simp [named]

/-- The dictionary leads to the last source of an identifier. -/
theorem collectSources_get?
    (rs : ResearchState)
    (ref : String) :
    (DecisionMemo.collectSources rs).get? ref =
      lastSource rs.evidence ref := by
  rw [DecisionMemo.collectSources, get?_insertSources]
  simp [lastSource]

/-! ## Bundles that cite their own sources -/

/-- Every claim cites sources of its own bundle. -/
def EvidenceBundle.SelfContained (bundle : EvidenceBundle) : Prop :=
  ∀ claim ∈ bundle.claims, ∀ ref ∈ claim.sourceRefs,
    ∃ source ∈ bundle.sources, source.id = ref

/-- No later bundle brings another source under an identifier cited here. -/
def KeepsCited
    (bundle : EvidenceBundle)
    (later : List EvidenceBundle) : Prop :=
  ∀ claim ∈ bundle.claims, ∀ ref ∈ claim.sourceRefs,
    ∀ source ∈ lastSource later ref, source ∈ bundle.sources

instance (bundle : EvidenceBundle) (later : List EvidenceBundle) :
    Decidable (KeepsCited bundle later) :=
  inferInstanceAs (Decidable (∀ claim ∈ _, ∀ ref ∈ _, ∀ source ∈ _, _))

/-- Each of the bundles is kept by those after it. -/
def AllKeepCited : List EvidenceBundle → Prop
  | [] => True
  | bundle :: later => KeepsCited bundle later ∧ AllKeepCited later

instance AllKeepCited.decidable :
    ∀ bundles, Decidable (AllKeepCited bundles)
  | [] => inferInstanceAs (Decidable True)
  | _ :: later =>
      have := AllKeepCited.decidable later
      inferInstanceAs (Decidable (_ ∧ AllKeepCited later))

/-- Every citation leads to a source of the bundle that it is in. -/
def ClaimsResolveOwn (rs : ResearchState) : Prop :=
  ∀ bundle ∈ rs.evidence, ∀ claim ∈ bundle.claims,
    ∀ ref ∈ claim.sourceRefs,
      ∃ source ∈ bundle.sources,
        source.id = ref ∧
          (DecisionMemo.collectSources rs).get? ref = some source

instance : DecidablePred ClaimsResolveOwn := fun _ =>
  inferInstanceAs
    (Decidable (∀ bundle ∈ _, ∀ claim ∈ _, ∀ ref ∈ _, ∃ source ∈ _, _ ∧ _))

/-- A citation leads to an own source exactly when no later bundle hides it. -/
theorem resolves_iff
    {earlier later : List EvidenceBundle}
    {bundle : EvidenceBundle}
    (contained : bundle.SelfContained) :
    (∀ claim ∈ bundle.claims, ∀ ref ∈ claim.sourceRefs,
        ∃ source ∈ bundle.sources,
          source.id = ref ∧
            lastSource (earlier ++ bundle :: later) ref = some source) ↔
      KeepsCited bundle later := by
  constructor
  · intro resolves claim inClaims ref inRefs source isLast
    obtain ⟨own, isOwn, _, resolved⟩ := resolves claim inClaims ref inRefs
    have shape :
        earlier ++ bundle :: later = (earlier ++ [bundle]) ++ later := by
      simp
    rw [shape, lastSource_append, isLast, Option.some_or] at resolved
    cases resolved
    exact isOwn
  · intro kept claim inClaims ref inRefs
    have shape :
        earlier ++ bundle :: later = earlier ++ ([bundle] ++ later) := by
      simp
    rw [shape]
    cases after : lastSource later ref with
    | some source =>
        refine ⟨source, kept claim inClaims ref inRefs source after,
          (mem_of_lastSource after).1, ?_⟩
        rw [lastSource_append, lastSource_append, after]
        rfl
    | none =>
        obtain ⟨own, isOwn, named⟩ := contained claim inClaims ref inRefs
        cases within : lastSource [bundle] ref with
        | some source =>
            obtain ⟨sameName, holder, isHolder, held⟩ :=
              mem_of_lastSource within
            rw [List.mem_singleton.mp isHolder] at held
            refine ⟨source, held, sameName, ?_⟩
            rw [lastSource_append, lastSource_append, after, within]
            rfl
        | none =>
            have absent := List.find?_eq_none.mp within own (by simp [isOwn])
            simp [named] at absent

/-- Every citation of the evidence leads to an own source, bundle by bundle. -/
theorem allResolve_iff
    {earlier bundles : List EvidenceBundle}
    (contained : ∀ bundle ∈ bundles, bundle.SelfContained) :
    (∀ bundle ∈ bundles, ∀ claim ∈ bundle.claims,
        ∀ ref ∈ claim.sourceRefs,
          ∃ source ∈ bundle.sources,
            source.id = ref ∧
              lastSource (earlier ++ bundles) ref = some source) ↔
      AllKeepCited bundles := by
  induction bundles generalizing earlier with
  | nil =>
      simp [AllKeepCited]
  | cons bundle later inductionHypothesis =>
      have shape :
          earlier ++ bundle :: later = (earlier ++ [bundle]) ++ later := by
        simp
      have containedLater :
          ∀ other ∈ later, EvidenceBundle.SelfContained other :=
        fun other member => contained other (List.mem_cons_of_mem _ member)
      rw [List.forall_mem_cons, AllKeepCited,
        resolves_iff (contained bundle List.mem_cons_self), shape,
        inductionHypothesis containedLater]

/-- Bundles that come later keep what is cited when each earlier one is kept. -/
theorem allKeepCited_append
    {earlier brought : List EvidenceBundle}
    (kept : AllKeepCited earlier) :
    AllKeepCited (earlier ++ brought) ↔
      (∀ bundle ∈ earlier, KeepsCited bundle brought) ∧
        AllKeepCited brought := by
  induction earlier with
  | nil =>
      simp
  | cons bundle later inductionHypothesis =>
      obtain ⟨keptByLater, keptLater⟩ := kept
      have first :
          KeepsCited bundle (later ++ brought) ↔
            KeepsCited bundle brought := by
        constructor
        · intro keeps claim inClaims ref inRefs source isLast
          refine keeps claim inClaims ref inRefs source ?_
          rw [lastSource_append, isLast]
          rfl
        · intro keeps claim inClaims ref inRefs source isLast
          rw [lastSource_append] at isLast
          cases brings : lastSource brought ref with
          | some other =>
              rw [brings] at isLast
              cases isLast
              exact keeps claim inClaims ref inRefs source brings
          | none =>
              rw [brings] at isLast
              exact keptByLater claim inClaims ref inRefs source isLast
      rw [List.cons_append, AllKeepCited, first,
        inductionHypothesis keptLater, List.forall_mem_cons, and_assoc]

/-! ## The producers -/

section Producers

variable [PythonText]

omit [PythonText] in
/-- A position leads to the identifier of a source. -/
theorem mem_of_refAt
    {sources : List Source}
    {index : Option Int}
    {ref : String}
    (resolved : RealResearcher.refAt sources index = some ref) :
    ∃ source ∈ sources, source.id = ref := by
  simp only [RealResearcher.refAt, Option.bind_eq_some_iff] at resolved
  obtain ⟨position, _, found⟩ := resolved
  split at found
  · obtain ⟨source, isSource, rfl⟩ := Option.map_eq_some_iff.mp found
    exact ⟨source, List.mem_of_getElem? isSource, rfl⟩
  · cases found

omit [PythonText] in
/-- The web researcher cites the sources that it returns. -/
theorem buildBundle_selfContained
    {raw : RawResearch}
    {title issueId : String}
    {criteria : List String}
    {bundle : EvidenceBundle}
    (built :
      RealResearcher.buildBundle raw title issueId criteria = some bundle) :
    bundle.SelfContained := by
  obtain ⟨rfl, _⟩ := EvidenceBundle.modelValidate_eq_some built
  intro claim inClaims ref inRefs
  obtain ⟨rawClaim, _, rfl⟩ := List.mem_map.mp inClaims
  obtain ⟨index, _, resolved⟩ := List.mem_filterMap.mp inRefs
  exact mem_of_refAt resolved

/-- A record cites the source that it is about. -/
def CitesItself (record : Source × List Claim × List String) : Prop :=
  ∀ claim ∈ record.2.1, claim.sourceRefs = [record.1.id]

omit [PythonText] in
/-- A bundle of records that cite themselves cites its own sources. -/
theorem bundleOfRecords_selfContained
    {records : List (Source × List Claim × List String)}
    (query : String)
    (issueId : Option String)
    (gaps : List String)
    (version : String)
    (cites : ∀ record ∈ records, CitesItself record) :
    (EvidenceMap.bundleOfRecords query issueId gaps version
      records).SelfContained := by
  intro claim inClaims ref inRefs
  obtain ⟨record, isRecord, claimed⟩ := List.mem_flatMap.mp inClaims
  rw [cites record isRecord claim claimed, List.mem_singleton] at inRefs
  exact ⟨record.1, List.mem_map_of_mem isRecord, inRefs.symm⟩

theorem recordFromSection_citesItself
    (issueId : Option String)
    (reference : SurveyReference)
    (part : SurveySection) :
    CitesItself (EvidenceMap.recordFromSection issueId reference part) := by
  intro claim
  simp only [EvidenceMap.recordFromSection]
  split
  · simp
  · split
    · simp
    · simp only [List.mem_singleton]
      rintro rfl
      rfl

theorem recordFromFragment_citesItself
    (issueId : Option String)
    (fragment : GeneratedFragment) :
    CitesItself (EvidenceMap.recordFromFragment issueId fragment) := by
  intro claim
  simp only [EvidenceMap.recordFromFragment]
  split
  · simp
  · split
    · simp
    · simp only [List.mem_singleton]
      rintro rfl
      rfl

/-- The internal researcher cites the sources that it returns. -/
theorem internalBundle_selfContained
    (query : String)
    (issueId : Option String)
    (finding : InternalFinding) :
    (internalBundle query issueId finding).SelfContained := by
  cases finding with
  | survey gaps references version =>
      refine bundleOfRecords_selfContained _ _ _ _ ?_
      intro record member
      obtain ⟨reference, _, fromSections⟩ := List.mem_flatMap.mp member
      obtain ⟨part, _, rfl⟩ := List.mem_map.mp fromSections
      exact recordFromSection_citesItself issueId reference part
  | generated items version =>
      refine bundleOfRecords_selfContained _ _ _ _ ?_
      intro record member
      obtain ⟨item, _, isRecord⟩ := List.mem_filterMap.mp member
      cases item with
      | fragment fragment =>
          cases isRecord
          exact recordFromFragment_citesItself issueId fragment
      | gap text =>
          cases isRecord
  | nothing gaps missing =>
      intro claim inClaims
      cases inClaims

omit [PythonText] in
/-- Merging keeps the citations of both bundles. -/
theorem mergeBundles_selfContained
    {primary secondary : EvidenceBundle}
    (first : primary.SelfContained)
    (second : secondary.SelfContained) :
    (mergeBundles primary secondary).SelfContained := by
  intro claim inClaims ref inRefs
  rcases List.mem_append.mp inClaims with inFirst | inSecond
  · obtain ⟨source, isSource, named⟩ := first claim inFirst ref inRefs
    exact ⟨source, List.mem_append_left _ isSource, named⟩
  · obtain ⟨source, isSource, named⟩ := second claim inSecond ref inRefs
    exact ⟨source, List.mem_append_right _ isSource, named⟩

omit [PythonText] in
/-- A dropped file cites itself. -/
theorem bundleFromFragment_selfContained
    (path : ReferencePath)
    (fragment : String) :
    (ReferenceStore.bundleFromFragment path fragment).SelfContained := by
  intro claim inClaims ref inRefs
  simp only [ReferenceStore.bundleFromFragment] at inClaims ⊢
  split at inClaims
  · cases inClaims
  · rw [List.mem_singleton.mp inClaims] at inRefs
    exact ⟨_, List.mem_singleton_self _, (List.mem_singleton.mp inRefs).symm⟩

omit [PythonText] in
/-- The evidence of a dropped file cites itself, however it was converted. -/
theorem bundleOf_selfContained
    {path : ReferencePath}
    {conversion : Conversion}
    {bundle : EvidenceBundle}
    (isBundle : ReferenceStore.bundleOf path conversion = some bundle) :
    bundle.SelfContained := by
  cases conversion with
  | fragment text =>
      cases isBundle
      exact bundleFromFragment_selfContained path text
  | unsupported message =>
      cases isBundle
      intro claim inClaims
      cases inClaims
  | scriptError message =>
      cases isBundle
      intro claim inClaims
      cases inClaims
  | unexpected =>
      cases isBundle

/-- A scan brings bundles that cite themselves. -/
theorem scanFiles_selfContained
    {converters : Converters}
    {files : List (ReferencePath × ReferenceFile)}
    {processed : List String}
    {known scanned : List EvidenceBundle}
    (contained : ∀ bundle ∈ known, EvidenceBundle.SelfContained bundle)
    (completes :
      (ReferenceStore.scanFiles converters files processed known).result =
        some scanned) :
    ∀ bundle ∈ scanned, EvidenceBundle.SelfContained bundle := by
  induction files generalizing processed known with
  | nil =>
      cases completes
      exact contained
  | cons entry rest inductionHypothesis =>
      obtain ⟨path, file⟩ := entry
      simp only [ReferenceStore.scanFiles] at completes
      split at completes
      · exact inductionHypothesis contained completes
      · split at completes
        · cases completes
        · rename_i bundle isBundle
          refine inductionHypothesis ?_ completes
          intro other member
          rcases List.mem_append.mp member with before | new
          · exact contained other before
          · rw [List.mem_singleton.mp new]
            exact bundleOf_selfContained isBundle

/-- Every producer brings bundles that cite themselves. -/
theorem broughtBundles_selfContained
    {rs : ResearchState}
    {production : Production}
    {brought : List EvidenceBundle}
    (brings : broughtBundles rs production = some brought) :
    ∀ bundle ∈ brought, EvidenceBundle.SelfContained bundle := by
  intro bundle member
  cases production with
  | web raw title issueId criteria =>
      obtain ⟨built, isBuilt, rfl⟩ := Option.map_eq_some_iff.mp brings
      rw [List.mem_singleton.mp member]
      exact buildBundle_selfContained isBuilt
  | internal query issueId finding =>
      cases brings
      rw [List.mem_singleton.mp member]
      exact internalBundle_selfContained query issueId finding
  | both raw title issueId criteria finding =>
      obtain ⟨built, isBuilt, rfl⟩ := Option.map_eq_some_iff.mp brings
      rw [List.mem_singleton.mp member]
      exact
        mergeBundles_selfContained (buildBundle_selfContained isBuilt)
          (internalBundle_selfContained title (some issueId) finding)
  | scan converters folder =>
      cases brings
      cases completes :
          (ReferenceStore.scanReferenceFolder converters folder
            rs.processedReferences).result with
      | none =>
          rw [completes] at member
          cases member
      | some scanned =>
          rw [completes] at member
          have nothingYet :
              ∀ known ∈ ([] : List EvidenceBundle), known.SelfContained := by
            simp
          exact scanFiles_selfContained nothingYet completes bundle member

/-- A production appends the bundles that it brings. -/
theorem produce_evidence
    {rs after : ResearchState}
    {production : Production}
    (produced : produce rs production = some after) :
    ∃ brought,
      broughtBundles rs production = some brought ∧
        after.evidence = rs.evidence ++ brought := by
  cases production with
  | scan converters folder =>
      cases produced
      exact ⟨_, rfl, rfl⟩
  | internal query issueId finding =>
      cases produced
      exact ⟨_, rfl, rfl⟩
  | _ =>
      obtain ⟨brought, brings, rfl⟩ := Option.map_eq_some_iff.mp produced
      exact ⟨brought, brings, rfl⟩

/-! ## Runs of the producers -/

/--
A production brings no other source under an identifier that a claim cites, be
it a claim of the evidence so far or of a bundle brought before.
-/
def BringsNoOther (rs : ResearchState) (production : Production) : Prop :=
  ∀ brought ∈ broughtBundles rs production,
    (∀ bundle ∈ rs.evidence, KeepsCited bundle brought) ∧
      AllKeepCited brought

instance (rs : ResearchState) (production : Production) :
    Decidable (BringsNoOther rs production) :=
  inferInstanceAs (Decidable (∀ brought ∈ _, (∀ bundle ∈ _, _) ∧ _))

/-- The evidence of a run cites itself, bundle by bundle. -/
theorem selfContained_of_run
    {start final : ResearchState}
    {productions : List Production}
    (fresh : start.evidence = [])
    (ran : exec produce start productions = some final) :
    ∀ bundle ∈ final.evidence, EvidenceBundle.SelfContained bundle := by
  refine exec_invariant
    (motive := fun rs : ResearchState =>
      ∀ bundle ∈ rs.evidence, EvidenceBundle.SelfContained bundle)
    ?_ ?_ ran
  · intro rs production after contained produced
    obtain ⟨brought, brings, evidence⟩ := produce_evidence produced
    rw [evidence]
    intro bundle member
    rcases List.mem_append.mp member with before | new
    · exact contained bundle before
    · exact broughtBundles_selfContained brings bundle new
  · rw [fresh]
    simp

omit [PythonText] in
/-- For evidence that cites itself the dictionary is a matter of the order. -/
theorem claimsResolveOwn_iff_kept
    {rs : ResearchState}
    (contained :
      ∀ bundle ∈ rs.evidence, EvidenceBundle.SelfContained bundle) :
    ClaimsResolveOwn rs ↔ AllKeepCited rs.evidence := by
  have byOrder := @allResolve_iff [] rs.evidence contained
  rw [List.nil_append] at byOrder
  simp only [ClaimsResolveOwn, collectSources_get?]
  exact byOrder

/--
Along a run of the producers every claim is checked against its own sources
exactly when no production brings another source under a cited identifier.
-/
theorem claimsResolveOwn_iff
    {start final : ResearchState}
    {productions : List Production}
    (fresh : start.evidence = [])
    (ran : exec produce start productions = some final) :
    (∀ earlier later rs,
        productions = earlier ++ later →
        exec produce start earlier = some rs →
        ClaimsResolveOwn rs) ↔
      AllSteps produce BringsNoOther start productions := by
  have start_resolves : ClaimsResolveOwn start := by
    intro bundle member
    rw [fresh] at member
    cases member
  refine
    everyState_iff_allSteps
      (motive := fun _ rs => ClaimsResolveOwn rs) start_resolves ?_ ran
  intro earlier middle production next reached resolves produced
  have reachedNext :
      exec produce start (earlier ++ [production]) = some next := by
    simp [exec_append, reached, produced]
  obtain ⟨brought, brings, evidence⟩ := produce_evidence produced
  have kept : AllKeepCited middle.evidence :=
    (claimsResolveOwn_iff_kept (selfContained_of_run fresh reached)).mp
      resolves
  rw [claimsResolveOwn_iff_kept (selfContained_of_run fresh reachedNext),
    evidence, allKeepCited_append kept, BringsNoOther, brings]
  simp

end Producers

end ResearchCos
