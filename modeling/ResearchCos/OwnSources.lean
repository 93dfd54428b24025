import ResearchCos.SourceIdentity
import ResearchCos.SourceNames

namespace ResearchCos

open Foundation

/-!
# Sources that keep their names

Whether a claim is checked against its own sources is decided by what the
producers are given: the issues that are researched, the documents that are
found for them, and the stems of the files that are dropped.  As long as these
give no cited name twice, no later bundle replaces a source that a claim cites.
-/

section Producers

variable [PythonText]

/-! ## Bundles that spare each other -/

omit [PythonText] in
/-- No source of the later bundle has an identifier that the earlier one cites. -/
def EvidenceBundle.Spares (later earlier : EvidenceBundle) : Prop :=
  ∀ claim ∈ earlier.claims, ∀ ref ∈ claim.sourceRefs,
    ∀ source ∈ later.sources, source.id ≠ ref

omit [PythonText] in
/-- A bundle is kept by those that spare it. -/
theorem keepsCited_of_spares
    {bundle : EvidenceBundle}
    {later : List EvidenceBundle}
    (spared : ∀ other ∈ later, other.Spares bundle) :
    KeepsCited bundle later := by
  intro claim inClaims ref inRefs source isLast
  obtain ⟨named, other, isOther, held⟩ := mem_of_lastSource isLast
  exact absurd named (spared other isOther claim inClaims ref inRefs source held)

omit [PythonText] in
theorem allKeepCited_of_pairwise
    {bundles : List EvidenceBundle}
    (spared :
      bundles.Pairwise fun earlier later =>
        EvidenceBundle.Spares later earlier) :
    AllKeepCited bundles := by
  induction spared with
  | nil =>
      trivial
  | cons spares _ inductionHypothesis =>
      exact ⟨keepsCited_of_spares spares, inductionHypothesis⟩

omit [PythonText] in
/-- Bundles of different names spare each other. -/
theorem EvidenceBundle.NamedBy.spares
    {earlier later : EvidenceBundle}
    {cited offered lateCited lateOffered : List SourceName}
    (early : earlier.NamedBy cited offered)
    (late : later.NamedBy lateCited lateOffered)
    (apart :
      ∀ name ∈ cited, ∀ other ∈ lateOffered, other.id ≠ name.id) :
    later.Spares earlier := by
  intro claim inClaims ref inRefs source isSource same
  obtain ⟨name, isCited, named⟩ := early.cites claim inClaims ref inRefs
  obtain ⟨other, isOffered, namedOther⟩ := late.offers source isSource
  exact
    apart name isCited other isOffered
      ((namedOther.symm.trans same).trans named)

omit [PythonText] in
/-- A bundle without sources spares every other. -/
theorem EvidenceBundle.spares_of_noSources
    {earlier later : EvidenceBundle}
    (noSources : later.sources = []) :
    later.Spares earlier := by
  intro claim inClaims ref inRefs source isSource
  rw [noSources] at isSource
  cases isSource

omit [PythonText] in
/-- A bundle without claims is spared by every other. -/
theorem EvidenceBundle.spares_of_noClaims
    {earlier later : EvidenceBundle}
    (noClaims : earlier.claims = []) :
    later.Spares earlier := by
  intro claim inClaims
  rw [noClaims] at inClaims
  cases inClaims

/-! ## Names that are given once -/

/--
The producers give a cited name once: research is for issues of the map or for
none, no source is offered under an issue and a position or document that an
earlier claim cites, and a dropped file with prose shares its stem with no
other file, nor with a later version of itself.
-/
structure NamedApart (productions : List Production) : Prop where
  grouped :
    ∀ production ∈ productions, ∀ group ∈ production.group?,
      IsIssueGroup group
  apart :
    productions.Pairwise fun earlier later =>
      ∀ name ∈ earlier.cites, name ∉ later.offers
  stems :
    ∀ cited ∈ productions.flatMap Production.droppedTexts,
      ReferenceStore.fragmentQuote cited.2 ≠ "" →
      ∀ other ∈ productions.flatMap Production.droppedTexts,
        ReferenceStore.stemName other.1 = ReferenceStore.stemName cited.1 →
        ReferenceStore.keyOf other.1 = ReferenceStore.keyOf cited.1

/-- Which production a bundle of the evidence is from. -/
inductive ComesFrom
    (productions : List Production)
    (processed : List String)
    (bundle : EvidenceBundle) : Prop where
  | research (production : Production) :
      production ∈ productions →
      bundle.NamedBy production.cites production.offers →
      ComesFrom productions processed bundle
  | file (entry : ReferencePath × ReferenceFile) (text : String) :
      (entry, text) ∈ productions.flatMap Production.droppedTexts →
      ReferenceStore.keyOf entry ∈ processed →
      bundle = ReferenceStore.bundleFromFragment entry.1 text →
      ComesFrom productions processed bundle
  | unconverted :
      bundle.claims = [] →
      bundle.sources = [] →
      ComesFrom productions processed bundle

/-- A bundle comes from a production whatever was produced before. -/
theorem ComesFrom.after
    {productions : List Production}
    {processed : List String}
    {bundle : EvidenceBundle}
    (comes : ComesFrom productions processed bundle)
    (earlier : List Production) :
    ComesFrom (earlier ++ productions) processed bundle := by
  cases comes with
  | research production isProduction named =>
      exact .research production (List.mem_append_right _ isProduction) named
  | file entry text isText isRecorded isBundle =>
      refine .file entry text ?_ isRecorded isBundle
      rw [List.flatMap_append]
      exact List.mem_append_right _ isText
  | unconverted noClaims noSources =>
      exact .unconverted noClaims noSources

/-- A later production leaves a bundle where it comes from. -/
theorem ComesFrom.mono
    {productions later : List Production}
    {processed recorded : List String}
    {bundle : EvidenceBundle}
    (comes : ComesFrom productions processed bundle)
    (recordsMore : processed ⊆ recorded) :
    ComesFrom (productions ++ later) recorded bundle := by
  cases comes with
  | research production isProduction named =>
      exact .research production (List.mem_append_left _ isProduction) named
  | file entry text isText isRecorded isBundle =>
      refine .file entry text ?_ (recordsMore isRecorded) isBundle
      rw [List.flatMap_append]
      exact List.mem_append_left _ isText
  | unconverted noClaims noSources =>
      exact .unconverted noClaims noSources

/-- The evidence of a file is that of its text, or it has no sources. -/
theorem bundleOfFile_cases
    {converters : Converters}
    {entry : ReferencePath × ReferenceFile}
    {bundle : EvidenceBundle}
    (isBundle :
      ReferenceStore.bundleOfFile converters entry = some bundle) :
    (∃ text,
        ReferenceStore.convertToFragment converters entry.1 entry.2 =
            .fragment text ∧
          bundle = ReferenceStore.bundleFromFragment entry.1 text) ∨
      bundle.claims = [] ∧ bundle.sources = [] := by
  simp only [ReferenceStore.bundleOfFile] at isBundle
  cases converted :
      ReferenceStore.convertToFragment converters entry.1 entry.2 with
  | fragment text =>
      rw [converted] at isBundle
      exact Or.inl ⟨text, rfl, (Option.some.inj isBundle).symm⟩
  | unsupported message =>
      rw [converted] at isBundle
      cases isBundle
      exact Or.inr ⟨rfl, rfl⟩
  | scriptError message =>
      rw [converted] at isBundle
      cases isBundle
      exact Or.inr ⟨rfl, rfl⟩
  | unexpected =>
      rw [converted] at isBundle
      cases isBundle

/-- A converted file of the folder is among the dropped texts. -/
theorem mem_droppedTexts
    {converters : Converters}
    {folder : ReferenceFolder}
    {entry : ReferencePath × ReferenceFile}
    {text : String}
    (isFile : entry ∈ ReferenceStore.scanOrder folder)
    (converted :
      ReferenceStore.convertToFragment converters entry.1 entry.2 =
        .fragment text) :
    (entry, text) ∈ (Production.scan converters folder).droppedTexts :=
  List.mem_filterMap.mpr ⟨entry, isFile, by rw [converted]⟩

/-- What a production other than a scan brings is named after its issue. -/
theorem broughtBundles_namedBy
    {rs : ResearchState}
    {production : Production}
    {brought : List EvidenceBundle}
    (researches : ∀ converters folder, production ≠ .scan converters folder)
    (brings : broughtBundles rs production = some brought) :
    ∃ bundle,
      brought = [bundle] ∧
        bundle.NamedBy production.cites production.offers := by
  cases production with
  | web raw title issueId criteria =>
      obtain ⟨built, isBuilt, rfl⟩ := Option.map_eq_some_iff.mp brings
      exact ⟨built, rfl, buildBundle_namedBy isBuilt⟩
  | internal query issueId finding =>
      cases brings
      exact ⟨_, rfl, internalBundle_namedBy query issueId finding⟩
  | both raw title issueId criteria finding =>
      obtain ⟨built, isBuilt, rfl⟩ := Option.map_eq_some_iff.mp brings
      exact
        ⟨_, rfl,
          mergeBundles_namedBy (buildBundle_namedBy isBuilt)
            (internalBundle_namedBy title (some issueId) finding)⟩
  | scan converters folder =>
      exact absurd rfl (researches converters folder)

/-- What a scan brings is the evidence of its fresh files, or nothing. -/
theorem broughtBundles_scan
    (rs : ResearchState)
    (converters : Converters)
    (folder : ReferenceFolder) :
    broughtBundles rs (.scan converters folder) = some [] ∨
      ReferenceStore.ScanCompletes converters folder rs.processedReferences ∧
        broughtBundles rs (.scan converters folder) =
          some
            ((ReferenceStore.freshFiles (ReferenceStore.scanOrder folder)
              rs.processedReferences).filterMap
                (ReferenceStore.bundleOfFile converters)) := by
  simp only [broughtBundles, ReferenceStore.scanReferenceFolder,
    ReferenceStore.scanFiles_eq]
  split
  · rename_i completes
    exact Or.inr ⟨completes, rfl⟩
  · exact Or.inl rfl

/-- A scan that completes records the key of every fresh file. -/
theorem key_of_scanCompletes
    {rs : ResearchState}
    {converters : Converters}
    {folder : ReferenceFolder}
    {entry : ReferencePath × ReferenceFile}
    (completes :
      ReferenceStore.ScanCompletes converters folder rs.processedReferences)
    (fresh :
      entry ∈
        ReferenceStore.freshFiles (ReferenceStore.scanOrder folder)
          rs.processedReferences) :
    ReferenceStore.keyOf entry ∈
      (collectReferences converters folder rs).processedReferences := by
  rw [ReferenceStore.processedReferences_collectReferences]
  refine List.mem_append_right _ (List.mem_map_of_mem ?_)
  rw [ReferenceStore.convertedFiles,
    List.takeWhile_eq_self_iff.mpr fun other member =>
      decide_eq_true (completes other member)]
  exact fresh

/-- No production forgets a key. -/
theorem produce_keepsKeys
    {rs after : ResearchState}
    {production : Production}
    (produced : produce rs production = some after) :
    rs.processedReferences ⊆ after.processedReferences := by
  cases production with
  | scan converters folder =>
      cases produced
      rw [ReferenceStore.processedReferences_collectReferences]
      exact List.subset_append_left _ _
  | internal query issueId finding =>
      cases produced
      exact List.Subset.refl _
  | _ =>
      obtain ⟨brought, _, rfl⟩ := Option.map_eq_some_iff.mp produced
      exact List.Subset.refl _

/-- What a production brings comes from it. -/
theorem comesFrom_of_produce
    {rs after : ResearchState}
    {production : Production}
    {brought : List EvidenceBundle}
    (produced : produce rs production = some after)
    (brings : broughtBundles rs production = some brought) :
    ∀ bundle ∈ brought,
      ComesFrom [production] after.processedReferences bundle := by
  intro bundle member
  by_cases scans : ∃ converters folder, production = .scan converters folder
  · obtain ⟨converters, folder, rfl⟩ := scans
    cases produced
    rcases broughtBundles_scan rs converters folder with
        nothing | ⟨completes, evidence⟩
    · cases brings.symm.trans nothing
      cases member
    · cases brings.symm.trans evidence
      obtain ⟨entry, fresh, isBundle⟩ := List.mem_filterMap.mp member
      rcases bundleOfFile_cases isBundle with
          ⟨text, converted, isText⟩ | ⟨noClaims, noSources⟩
      · refine
          .file entry text ?_ (key_of_scanCompletes completes fresh) isText
        rw [List.flatMap_singleton]
        exact
          mem_droppedTexts (ReferenceStore.mem_of_mem_freshFiles fresh)
            converted
      · exact .unconverted noClaims noSources
  · simp only [not_exists] at scans
    obtain ⟨built, rfl, named⟩ := broughtBundles_namedBy scans brings
    rw [List.mem_singleton.mp member]
    exact .research production (List.mem_singleton_self _) named

/-- Every bundle of a run comes from one of its productions. -/
theorem comesFrom_of_run
    {start final : ResearchState}
    {productions : List Production}
    (fresh : start.evidence = [])
    (ran : exec produce start productions = some final) :
    ∀ bundle ∈ final.evidence,
      ComesFrom productions final.processedReferences bundle := by
  induction productions using List.reverseRecOn generalizing final with
  | nil =>
      cases ran
      rw [fresh]
      simp
  | append_singleton earlier production inductionHypothesis =>
      obtain ⟨middle, reached, produced⟩ := exec_snoc_eq_some ran
      obtain ⟨brought, brings, evidence⟩ := produce_evidence produced
      rw [evidence]
      intro bundle member
      rcases List.mem_append.mp member with before | new
      · exact
          (inductionHypothesis reached bundle before).mono
            (produce_keepsKeys produced)
      · exact (comesFrom_of_produce produced brings bundle new).after earlier

/-! ## Names that differ -/

omit [PythonText] in
/-- Research and dropped files never share an identifier. -/
theorem id_ne_of_isIssueGroup
    {name : SourceName}
    (isIssue : IsIssueGroup name.group)
    (entry : ReferencePath × ReferenceFile) :
    name.id ≠ (ReferenceStore.stemName entry).id := by
  intro same
  have sameName :=
    SourceName.eq_of_id_eq (Or.inr isIssue) (Or.inl rfl) same
  exact
    SourceName.group_ne_of_isIssueGroup isIssue
      (congrArg SourceName.group sameName)

/-- Research later in the run spares a bundle of a production before. -/
theorem NamedApart.research_spares
    {productions earlier later : List Production}
    {production : Production}
    {processed : List String}
    {known bundle : EvidenceBundle}
    (apart : NamedApart productions)
    (shape : productions = earlier ++ production :: later)
    (comes : ComesFrom earlier processed known)
    (named : bundle.NamedBy production.cites production.offers) :
    bundle.Spares known := by
  have isProduction : production ∈ productions :=
    shape ▸ List.mem_append_right _ List.mem_cons_self
  have grouped := apart.grouped production isProduction
  cases comes with
  | research first isFirst namedFirst =>
      refine namedFirst.spares named ?_
      intro name isCited other isOffered same
      have wasProduction : first ∈ productions :=
        shape ▸ List.mem_append_left _ isFirst
      have sameName :=
        SourceName.eq_of_id_eq
          (Or.inr (Production.group_of_mem grouped (Or.inr isOffered)))
          (Or.inr
            (Production.group_of_mem (apart.grouped first wasProduction)
              (Or.inl isCited)))
          same
      have pairs := apart.apart
      rw [shape] at pairs
      have disjoint :=
        (List.pairwise_append.mp pairs).2.2 first isFirst production
          List.mem_cons_self
      exact disjoint name isCited (sameName ▸ isOffered)
  | file entry text _ _ isBundle =>
      rw [isBundle]
      refine (bundleFromFragment_namedBy entry text).spares named ?_
      intro name isCited other isOffered
      split at isCited
      · cases isCited
      · rw [List.mem_singleton.mp isCited]
        exact
          id_ne_of_isIssueGroup
            (Production.group_of_mem grouped (Or.inr isOffered)) entry
  | unconverted noClaims _ =>
      exact EvidenceBundle.spares_of_noClaims noClaims

/-- A file of another key spares the bundle of a file. -/
theorem NamedApart.file_spares
    {productions : List Production}
    {first second : ReferencePath × ReferenceFile}
    {text later : String}
    (apart : NamedApart productions)
    (isFirst : (first, text) ∈ productions.flatMap Production.droppedTexts)
    (isSecond : (second, later) ∈ productions.flatMap Production.droppedTexts)
    (otherKey :
      ReferenceStore.keyOf second ≠ ReferenceStore.keyOf first) :
    (ReferenceStore.bundleFromFragment second.1 later).Spares
      (ReferenceStore.bundleFromFragment first.1 text) := by
  refine
    (bundleFromFragment_namedBy first text).spares
      (bundleFromFragment_namedBy second later) ?_
  intro name isCited other isOffered same
  split at isCited
  · cases isCited
  · rename_i hasProse
    rw [List.mem_singleton.mp isCited, List.mem_singleton.mp isOffered] at same
    exact
      otherKey
        (apart.stems _ isFirst hasProse _ isSecond
          (SourceName.eq_of_id_eq (Or.inl rfl) (Or.inl rfl) same))

/-- A fresh file spares what was there before the scan. -/
theorem NamedApart.scan_spares
    {productions earlier later : List Production}
    {converters : Converters}
    {folder : ReferenceFolder}
    {processed : List String}
    {known : EvidenceBundle}
    {entry : ReferencePath × ReferenceFile}
    {text : String}
    (apart : NamedApart productions)
    (shape : productions = earlier ++ .scan converters folder :: later)
    (comes : ComesFrom earlier processed known)
    (isText : (entry, text) ∈ productions.flatMap Production.droppedTexts)
    (keyNew : ReferenceStore.keyOf entry ∉ processed) :
    (ReferenceStore.bundleFromFragment entry.1 text).Spares known := by
  cases comes with
  | research first isFirst namedFirst =>
      refine
        namedFirst.spares (bundleFromFragment_namedBy entry text) ?_
      intro name isCited other isOffered
      have wasProduction : first ∈ productions :=
        shape ▸ List.mem_append_left _ isFirst
      rw [List.mem_singleton.mp isOffered]
      exact
        (id_ne_of_isIssueGroup
          (Production.group_of_mem (apart.grouped first wasProduction)
            (Or.inl isCited)) entry).symm
  | file other otherText wasText isRecorded isBundle =>
      rw [isBundle]
      refine apart.file_spares ?_ isText ?_
      · rw [shape, List.flatMap_append]
        exact List.mem_append_left _ wasText
      · exact fun same => keyNew (same ▸ isRecorded)
  | unconverted noClaims _ =>
      exact EvidenceBundle.spares_of_noClaims noClaims

/-- What a fresh file brings is from one of the dropped texts, or it is bare. -/
theorem droppedText_of_fresh
    {productions : List Production}
    {converters : Converters}
    {folder : ReferenceFolder}
    {processed : List String}
    {entry : ReferencePath × ReferenceFile}
    {bundle : EvidenceBundle}
    (isProduction : .scan converters folder ∈ productions)
    (fresh :
      entry ∈
        ReferenceStore.freshFiles (ReferenceStore.scanOrder folder) processed)
    (isBundle :
      ReferenceStore.bundleOfFile converters entry = some bundle) :
    (∃ text,
        (entry, text) ∈ productions.flatMap Production.droppedTexts ∧
          bundle = ReferenceStore.bundleFromFragment entry.1 text) ∨
      bundle.claims = [] ∧ bundle.sources = [] := by
  rcases bundleOfFile_cases isBundle with ⟨text, converted, isText⟩ | bare
  · have isFile := ReferenceStore.mem_of_mem_freshFiles fresh
    exact
      Or.inl
        ⟨text,
          List.mem_flatMap.mpr
            ⟨_, isProduction, mem_droppedTexts isFile converted⟩,
          isText⟩
  · exact Or.inr bare

/-- The fresh files of a scan spare the evidence so far. -/
theorem NamedApart.fresh_spare_known
    {productions earlier later : List Production}
    {converters : Converters}
    {folder : ReferenceFolder}
    {processed : List String}
    {known : EvidenceBundle}
    (apart : NamedApart productions)
    (shape : productions = earlier ++ .scan converters folder :: later)
    (comes : ComesFrom earlier processed known) :
    ∀ bundle ∈
        (ReferenceStore.freshFiles (ReferenceStore.scanOrder folder)
          processed).filterMap (ReferenceStore.bundleOfFile converters),
      bundle.Spares known := by
  intro bundle member
  obtain ⟨entry, fresh, isBundle⟩ := List.mem_filterMap.mp member
  have isProduction : .scan converters folder ∈ productions :=
    shape ▸ List.mem_append_right _ List.mem_cons_self
  rcases droppedText_of_fresh isProduction fresh isBundle with
      ⟨text, isText, rfl⟩ | ⟨_, noSources⟩
  · exact
      apart.scan_spares shape comes isText
        (ReferenceStore.find?_of_mem_freshFiles fresh).2
  · exact EvidenceBundle.spares_of_noSources noSources

/-- The fresh files of a scan spare each other. -/
theorem NamedApart.fresh_spare_each_other
    {productions : List Production}
    {converters : Converters}
    {folder : ReferenceFolder}
    (apart : NamedApart productions)
    (isProduction : .scan converters folder ∈ productions)
    (processed : List String) :
    ((ReferenceStore.freshFiles (ReferenceStore.scanOrder folder)
      processed).filterMap (ReferenceStore.bundleOfFile converters)).Pairwise
      fun earlier later => EvidenceBundle.Spares later earlier := by
  refine List.pairwise_filterMap.mpr ?_
  refine (ReferenceStore.pairwise_freshFiles _ _).imp_of_mem ?_
  intro first second firstFresh secondFresh otherKey bundle isBundle other
    isOther
  rcases droppedText_of_fresh isProduction secondFresh isOther with
      ⟨later, isLater, rfl⟩ | ⟨_, noSources⟩
  · rcases droppedText_of_fresh isProduction firstFresh isBundle with
        ⟨text, isText, rfl⟩ | ⟨noClaims, _⟩
    · exact apart.file_spares isText isLater otherKey.symm
    · exact EvidenceBundle.spares_of_noClaims noClaims
  · exact EvidenceBundle.spares_of_noSources noSources

/-- A production whose names are given once brings no other source. -/
theorem NamedApart.bringsNoOther
    {productions earlier later : List Production}
    {production : Production}
    {rs : ResearchState}
    (apart : NamedApart productions)
    (shape : productions = earlier ++ production :: later)
    (comes :
      ∀ bundle ∈ rs.evidence,
        ComesFrom earlier rs.processedReferences bundle) :
    BringsNoOther rs production := by
  intro brought brings
  by_cases scans : ∃ converters folder, production = .scan converters folder
  · obtain ⟨converters, folder, rfl⟩ := scans
    rcases broughtBundles_scan rs converters folder with
        nothing | ⟨_, evidence⟩
    · cases brings.symm.trans nothing
      exact ⟨fun bundle _ => keepsCited_of_spares nofun, trivial⟩
    · cases brings.symm.trans evidence
      have isProduction : .scan converters folder ∈ productions :=
        shape ▸ List.mem_append_right _ List.mem_cons_self
      constructor
      · intro known isKnown
        exact
          keepsCited_of_spares
            (apart.fresh_spare_known shape (comes known isKnown))
      · exact
          allKeepCited_of_pairwise
            (apart.fresh_spare_each_other isProduction _)
  · simp only [not_exists] at scans
    obtain ⟨bundle, rfl, named⟩ := broughtBundles_namedBy scans brings
    constructor
    · intro known isKnown
      refine keepsCited_of_spares ?_
      intro other member
      rw [List.mem_singleton.mp member]
      exact apart.research_spares shape (comes known isKnown) named
    · exact allKeepCited_of_pairwise (List.pairwise_singleton _ _)

/--
Along a run of the producers in which cited names are given once, every claim
is checked against its own sources in every state that is reached.
-/
theorem claims_resolve_own_of_namedApart
    {start final : ResearchState}
    {productions : List Production}
    (fresh : start.evidence = [])
    (ran : exec produce start productions = some final)
    (apart : NamedApart productions) :
    ∀ earlier later rs,
      productions = earlier ++ later →
      exec produce start earlier = some rs →
      ClaimsResolveOwn rs := by
  refine (claimsResolveOwn_iff fresh ran).mpr ?_
  intro earlier production later middle shape reached
  exact apart.bringsNoOther shape (comesFrom_of_run fresh reached)

end Producers

/-- Two dropped files. -/
private def droppedFiles (first second : String) : ReferenceFolder :=
  ((∅ : ReferenceFolder).insert [first]
      { text := some "the first text", mtime := 1, writer := .human }).insert
    [second] { text := some "the second text", mtime := 2, writer := .human }

/-- A run that has no evidence yet. -/
private def unresearchedRun : ResearchState where
  runId := "run"
  originalQuestion := "question"

/-- Of two files with the same stem the first is checked against the second. -/
theorem sameStem_replaces_source :
    letI := PythonText.ascii
    ∃ rs,
      exec produce unresearchedRun
          [.scan (StepEnv.calm Brains.silent).converters
            (droppedFiles "a.md" "a.txt")] =
        some rs ∧
        ¬ClaimsResolveOwn rs ∧
        (rs.evidence.head?.map fun bundle =>
            bundle.claims.flatMap Claim.sourceRefs) = some ["S-REF-a"] ∧
        ((DecisionMemo.collectSources rs).get? "S-REF-a").map
            Source.excerpt = some "the second text" := by
  let _ := PythonText.ascii
  let rs :=
    (exec produce unresearchedRun
      [.scan (StepEnv.calm Brains.silent).converters
        (droppedFiles "a.md" "a.txt")]).get (by decide +kernel)
  exact ⟨rs, (Option.some_get _).symm, by decide +kernel, by decide +kernel,
    by decide +kernel⟩

/-- A call that returns one source and a claim about it. -/
private def oneSource : RawResearch where
  sources := [{ title := some "Datasheet", excerpt := some "four lanes" }]
  claims :=
    [{ claim := "It has four lanes."
       quote := some "four lanes"
       sourceIndices := [some 0] }]

/-- A page of a document, converted. -/
private def onePage : InternalFinding :=
  .generated
    [.fragment
      { referenceId := "manual-0-0"
        title := "manual"
        role := "datasheet"
        fileName := "p1.md"
        pages := "1"
        text := some "The bus is wide." }]
    "1"

/-- Research for two issues, and two scans of a folder of two stems. -/
private def differentNames : List Production :=
  [.web oneSource "lanes" "I-001" [],
    .both oneSource "width" "I-002" [] onePage,
    .scan (StepEnv.calm Brains.silent).converters (droppedFiles "a.md" "b.txt"),
    .scan (StepEnv.calm Brains.silent).converters (droppedFiles "a.md" "b.txt")]

private theorem differentNames_namedApart :
    letI := PythonText.ascii
    NamedApart differentNames := by
  let _ := PythonText.ascii
  refine ⟨?_, by decide +kernel, by decide +kernel⟩
  simp only [differentNames, List.forall_mem_cons, Production.group?,
    Option.mem_def, Option.some.injEq, forall_eq', reduceCtorEq]
  exact
    ⟨Or.inr ⟨1, by decide⟩, Or.inr ⟨2, by decide⟩, nofun, nofun, nofun⟩

/-- Issues and files of different names are checked against themselves. -/
theorem differentNames_resolve :
    letI := PythonText.ascii
    ∃ rs,
      exec produce unresearchedRun differentNames = some rs ∧
        (rs.evidence.flatMap fun bundle =>
            bundle.claims.flatMap Claim.sourceRefs) =
          ["S-I-001-0", "S-I-002-0", "S-I-002-manual-0-0", "S-REF-a",
            "S-REF-b"] ∧
        ClaimsResolveOwn rs := by
  let _ := PythonText.ascii
  let rs :=
    (exec produce unresearchedRun differentNames).get (by decide +kernel)
  have ran : exec produce unresearchedRun differentNames = some rs :=
    (Option.some_get _).symm
  have fresh : unresearchedRun.evidence = [] := rfl
  exact
    ⟨rs, ran, by decide +kernel,
      claims_resolve_own_of_namedApart fresh ran differentNames_namedApart _ []
        rs (List.append_nil _).symm ran⟩

end ResearchCos
