import ResearchCos.InternalResearch

namespace ResearchCos

open Foundation

/-!
# What the researcher of internal documents accounts for

Its claims quote texts that stand on disk, and no attempt is lost: every
document has an outcome, and every range that is tried ends in a claim or in a
gap.  The two marks say exactly what they are meant to say.
-/

namespace InternalDocResearcher

section Marks

/-! ## What the marks say -/

/-- Where a text occurs in another one. -/
theorem isSubstring_iff
    (needle text : String) :
    isSubstring needle text = true ↔ needle.toList <:+: text.toList := by
  simp only [isSubstring, occursIn, List.any_eq_true, List.mem_tails,
    List.isPrefixOf_iff_prefix]
  rw [List.infix_iff_prefix_suffix]
  exact ⟨fun ⟨rest, isSuffix, isPrefix⟩ => ⟨rest, isPrefix, isSuffix⟩,
    fun ⟨rest, isPrefix, isSuffix⟩ => ⟨rest, isSuffix, isPrefix⟩⟩

/-- The mark of a failed script stands in a text. -/
def Marked (text : String) : Prop :=
  extractionFailureMarker.toList <:+: text.toList

theorem hasExtractionFailure_iff
    (bundle : EvidenceBundle) :
    hasExtractionFailure bundle = true ↔
      ∃ gap ∈ bundle.coverageGaps, Marked gap := by
  simp only [hasExtractionFailure, List.any_eq_true, isSubstring_iff, Marked]

instance (text : String) : Decidable (Marked text) :=
  inferInstanceAs (Decidable (_ <:+: _))

/-- The gap of a failed script has the mark. -/
theorem marked_recordScriptFailure
    (stage pdfName issueId reason : String) :
    Marked (recordScriptFailure stage pdfName issueId reason) := by
  refine
    ⟨("internal-doc " ++ stage ++ " ").toList,
      (" for " ++ pdfName ++ " issue " ++ issueId ++ ": " ++ reason).toList,
      ?_⟩
  unfold recordScriptFailure
  simp only [String.toList_append, List.append_assoc]

/-- A number has no mark. -/
theorem not_marked_number
    (n : Nat) :
    ¬Marked (toString n) := by
  intro marked
  have isLetter : 'e' ∈ extractionFailureMarker.toList := by
    decide +kernel
  have inNumber := marked.subset isLetter
  have ofDigits : 'e' ∈ Nat.toDigits 10 n := by
    simpa using inNumber
  have digit :=
    Nat.isDigit_of_mem_toDigits (by decide) (by decide) ofDigits
  exact absurd digit (by decide)

/-- The stem of a file name begins the name. -/
theorem stem_isPrefix
    (name : String) :
    (ReferenceStore.splitSuffix name).1.toList <+: name.toList := by
  simp only [ReferenceStore.splitSuffix]
  split
  · exact List.prefix_rfl
  · rename_i dot stem isRest
    split
    · exact List.prefix_rfl
    · have split :=
        List.takeWhile_append_dropWhile (p := (· ≠ '.'))
          (l := name.toList.reverse)
      rw [isRest] at split
      have whole := congrArg List.reverse split
      rw [List.reverse_reverse, List.reverse_append, List.reverse_cons,
        List.append_assoc] at whole
      rw [String.toList_ofList]
      exact ⟨_, whole⟩

/-- A stem has a mark only in a name that has it. -/
theorem not_marked_stem
    {name : String}
    (unmarked : ¬Marked name) :
    ¬Marked (ReferenceStore.splitSuffix name).1 :=
  fun marked => unmarked (marked.trans (stem_isPrefix name).isInfix)

/-- The fixed pieces of the gaps that tell of no failure. -/
def fixedPieces : List String :=
  ["no relevant page range identified in ",
    "skipped unbounded/invalid page spec ", " in ", "empty fragment for ",
    "fragment not produced for ", "-", " pages ",
    "no internal survey matched and no internal PDF supplied for: "]

theorem separates_fixedPieces :
    ∀ piece ∈ fixedPieces,
      MarkedTexts.Separates extractionFailureMarker.toList piece.toList := by
  decide +kernel

/-- A fixed piece brings no mark to the text after it. -/
theorem not_marked_after
    (piece : String)
    {field : String}
    (fixed : piece ∈ fixedPieces)
    (unmarked : ¬Marked field) :
    ¬Marked (piece ++ field) := by
  have nonempty : extractionFailureMarker.toList ≠ [] := by
    decide +kernel
  unfold Marked
  rw [String.toList_append,
    MarkedTexts.infix_after_iff nonempty (separates_fixedPieces piece fixed)]
  exact unmarked

/-- A fixed piece brings no mark to the texts around it. -/
theorem not_marked_join
    {before after : String}
    (piece : String)
    (fixed : piece ∈ fixedPieces)
    (unmarkedBefore : ¬Marked before)
    (unmarkedAfter : ¬Marked after) :
    ¬Marked (before ++ piece ++ after) := by
  unfold Marked
  rw [String.toList_append, String.toList_append, List.append_assoc,
    MarkedTexts.infix_separated_iff (separates_fixedPieces piece fixed)]
  exact not_or.mpr ⟨unmarkedBefore, unmarkedAfter⟩

theorem not_marked_degradedGap : ¬Marked degradedGap := by
  unfold Marked
  decide +kernel

theorem isDegraded_iff
    {bundle : EvidenceBundle} :
    isDegraded bundle = true ↔ degradedGap ∈ bundle.coverageGaps := by
  simp [isDegraded]

/-- A text opens as the text that it begins with. -/
theorem opens_append
    {opening rest : String}
    {c : Char}
    (opens : opening.toList.head? = some c) :
    (opening ++ rest).toList.head? = some c := by
  rw [String.toList_append, List.head?_append, opens]
  rfl

theorem ne_degradedGap_of_opens
    {gap : String}
    {c : Char}
    (opens : gap.toList.head? = some c)
    (differs : c ≠ 'p') :
    gap ≠ degradedGap := by
  intro same
  have degradedOpens : degradedGap.toList.head? = some 'p' := by
    decide +kernel
  rw [same, degradedOpens] at opens
  exact differs (Option.some.inj opens).symm

end Marks

section Accounts

variable [PythonText]

/-! ## The tiers -/

/-- The tier that a bundle comes from. -/
inductive Gathers
    (setting : InternalSetting)
    (state : ResearchState)
    (issueId : String)
    (pdfs : List ReferencePath) : EvidenceBundle → Prop where
  | degraded :
      setting.home = none →
      Gathers setting state issueId pdfs
        (degradedBundle (issueText state issueId).1 issueId)
  | consumed (home : String) (bundle : EvidenceBundle) :
      setting.home = some home →
      tier1Consume setting state issueId (issueText state issueId).1
          (issueText state issueId).2 =
        some (some bundle) →
      Gathers setting state issueId pdfs
        (stampProvenance setting home bundle)
  | generated (home : String) (bundle : EvidenceBundle) :
      setting.home = some home →
      tier1Consume setting state issueId (issueText state issueId).1
          (issueText state issueId).2 =
        some none →
      tier2Generate setting home issueId (issueText state issueId).1
          (issueText state issueId).2 (candidatePdfs setting state pdfs) =
        some bundle →
      Gathers setting state issueId pdfs
        (stampProvenance setting home bundle)
  | nothing (home : String) :
      setting.home = some home →
      tier1Consume setting state issueId (issueText state issueId).1
          (issueText state issueId).2 =
        some none →
      candidatePdfs setting state pdfs = [] →
      Gathers setting state issueId pdfs
        (nothingBundle (issueText state issueId).1 issueId)

/-- Every bundle comes from one of the tiers. -/
theorem gathers
    {setting : InternalSetting}
    {state : ResearchState}
    {issueId : String}
    {pdfs : List ReferencePath}
    {bundle : EvidenceBundle}
    (gathered : gather setting state issueId pdfs = some bundle) :
    Gathers setting state issueId pdfs bundle := by
  simp only [gather] at gathered
  cases isHome : setting.home with
  | none =>
      rw [isHome] at gathered
      cases gathered
      exact .degraded isHome
  | some home =>
      rw [isHome] at gathered
      obtain ⟨found, consumed, gathered⟩ :=
        Option.bind_eq_some_iff.mp gathered
      cases found with
      | some survey =>
          cases gathered
          exact .consumed home survey isHome consumed
      | none =>
          dsimp only at gathered
          split at gathered
          · rename_i noCandidates
            cases gathered
            exact .nothing home isHome consumed noCandidates
          · obtain ⟨generated, isGenerated, rfl⟩ :=
              Option.map_eq_some_iff.mp gathered
            exact .generated home generated isHome consumed isGenerated

omit [PythonText] in
/-- The provenance changes nothing that is found. -/
@[simp]
theorem stampProvenance_claims
    (setting : InternalSetting)
    (home : String)
    (bundle : EvidenceBundle) :
    (stampProvenance setting home bundle).claims = bundle.claims := by
  simp only [stampProvenance]
  split <;> rfl

omit [PythonText] in
@[simp]
theorem stampProvenance_sources
    (setting : InternalSetting)
    (home : String)
    (bundle : EvidenceBundle) :
    (stampProvenance setting home bundle).sources = bundle.sources := by
  simp only [stampProvenance]
  split <;> rfl

omit [PythonText] in
@[simp]
theorem stampProvenance_coverageGaps
    (setting : InternalSetting)
    (home : String)
    (bundle : EvidenceBundle) :
    (stampProvenance setting home bundle).coverageGaps =
      bundle.coverageGaps := by
  simp only [stampProvenance]
  split <;> rfl

/-- A survey that is consumed is one of the folders, and it has sources. -/
theorem exists_survey_of_consumeSurveys
    {shown : Yaml → String}
    {issueId title desc : String}
    {surveys : List SurveyFile}
    {bundle : EvidenceBundle}
    (consumed :
      consumeSurveys shown issueId title desc surveys = some (some bundle)) :
    bundle.sources ≠ [] ∧
      ∃ survey, .readable survey ∈ surveys ∧
        EvidenceMap.bundleFromSurvey shown survey (some issueId) title =
          some bundle := by
  fun_induction consumeSurveys shown issueId title desc surveys with
  | case1 =>
      cases consumed
  | case2 =>
      cases consumed
  | case3 survey rest _ inductionHypothesis =>
      obtain ⟨hasSources, other, member, isBundle⟩ :=
        inductionHypothesis consumed
      exact ⟨hasSources, other, List.mem_cons_of_mem _ member, isBundle⟩
  | case4 survey rest parsed _ inductionHypothesis =>
      obtain ⟨refMap, _, consumed⟩ := Option.bind_eq_some_iff.mp consumed
      obtain ⟨covers, _, consumed⟩ := Option.bind_eq_some_iff.mp consumed
      have later
          (consumedLater :
            consumeSurveys shown issueId title desc rest =
              some (some bundle)) :
          bundle.sources ≠ [] ∧
            ∃ other, .readable other ∈ .readable survey :: rest ∧
              EvidenceMap.bundleFromSurvey shown other (some issueId) title =
                some bundle := by
        obtain ⟨hasSources, other, member, isBundle⟩ :=
          inductionHypothesis consumedLater
        exact ⟨hasSources, other, List.mem_cons_of_mem _ member, isBundle⟩
      split at consumed
      · obtain ⟨read, isRead, consumed⟩ :=
          Option.bind_eq_some_iff.mp consumed
        split at consumed
        · exact later consumed
        · rename_i hasSources
          cases consumed
          refine ⟨?_, survey, List.mem_cons_self, isRead⟩
          simpa using hasSources
      · exact later consumed

/-- A survey that is consumed stands in a folder of the brief. -/
theorem exists_folder_of_tier1Consume
    {setting : InternalSetting}
    {state : ResearchState}
    {issueId title desc : String}
    {bundle : EvidenceBundle}
    (consumed :
      tier1Consume setting state issueId title desc = some (some bundle)) :
    ∃ raw ∈ state.availableSources, ∃ path survey names,
      setting.disk raw = .folder path (some (.readable survey)) names ∧
        EvidenceMap.bundleFromSurvey setting.shown survey (some issueId)
            title =
          some bundle := by
  obtain ⟨_, survey, member, isBundle⟩ :=
    exists_survey_of_consumeSurveys consumed
  obtain ⟨raw, isSource, leads⟩ := List.mem_filterMap.mp member
  split at leads
  · rename_i path found names isFolder
    subst leads
    exact ⟨raw, isSource, path, survey, names, isFolder, isBundle⟩
  · cases leads

/-! ## The outcomes of a document -/

/-- The outline of a document. -/
def scanned
    (setting : InternalSetting)
    (home title desc : String)
    (document : ReferencePath × Nat) : Option (Except String String) :=
  Scripts.outlineScan setting.machine home (shownPath document.1)
    (keywords title desc)
    (setting.temporary ++ "/outline_" ++ toString document.2 ++ ".md")

/-- A range that is picked from the outline of a document. -/
def Picks
    (setting : InternalSetting)
    (home title desc : String)
    (document : ReferencePath × Nat)
    (picked : InternalDoc.PickedRange × Nat) : Prop :=
  ∃ text ranges,
    scanned setting home title desc document = some (.ok text) ∧
      setting.pickPageRanges text title desc = some ranges ∧
      picked ∈ ranges.zipIdx

/-- What an outcome of a document says. -/
inductive Outcome
    (setting : InternalSetting)
    (home issueId title desc : String)
    (document : ReferencePath × Nat) : GeneratedItem → Prop where
  | notScanned (reason : String) :
      scanned setting home title desc document = some (.error reason) →
      Outcome setting home issueId title desc document
        (.gap
          (recordScriptFailure "outline_scan"
            (ReferenceStore.fileName document.1) issueId reason))
  | nothingPicked :
      Outcome setting home issueId title desc document
        (.gap
          ("no relevant page range identified in " ++
            ReferenceStore.fileName document.1))
  | skipped (picked : InternalDoc.PickedRange × Nat) :
      Picks setting home title desc document picked →
      Outcome setting home issueId title desc document
        (.gap
          ("skipped unbounded/invalid page spec " ++
            PythonText.quoted (strip picked.1.pages) ++ " in " ++
            ReferenceStore.fileName document.1))
  | notConverted (picked : InternalDoc.PickedRange × Nat) (reason : String) :
      Picks setting home title desc document picked →
      InternalDoc.isBoundedPages setting.unicodeDigit
          (strip picked.1.pages) =
        true →
      extraction setting home document.1 document.2 picked.2
          (strip picked.1.pages) =
        some (.failed reason) →
      Outcome setting home issueId title desc document
        (.gap
          (recordScriptFailure
            ("extract/convert (" ++ strip picked.1.pages ++ ")")
            (ReferenceStore.fileName document.1) issueId reason))
  | converted (picked : InternalDoc.PickedRange × Nat)
      (text : Option String) :
      Picks setting home title desc document picked →
      InternalDoc.isBoundedPages setting.unicodeDigit
          (strip picked.1.pages) =
        true →
      extraction setting home document.1 document.2 picked.2
          (strip picked.1.pages) =
        some (.converted text) →
      Outcome setting home issueId title desc document
        (.fragment
          { referenceId :=
              (ReferenceStore.splitSuffix
                  (ReferenceStore.fileName document.1)).1 ++
                "-" ++ toString document.2 ++ "-" ++ toString picked.2
            title := ReferenceStore.fileName document.1
            role := picked.1.role
            fileName :=
              "frag_" ++ toString document.2 ++ "_" ++ toString picked.2 ++
                ".md"
            pages := strip picked.1.pages
            text := text })

omit [PythonText] in
/-- The gap of pages that are not converted is that of a failed script. -/
theorem conversionGap_eq
    (pages name issueId reason : String) :
    "internal-doc extract/convert (" ++ pages ++
        ") extraction FAILED for " ++ name ++ " issue " ++ issueId ++ ": " ++
        reason =
      recordScriptFailure ("extract/convert (" ++ pages ++ ")") name issueId
        reason := by
  unfold recordScriptFailure extractionFailureMarker
  apply String.toList_injective
  simp

/-- A picked range is skipped, or its pages are extracted. -/
theorem outcome_of_rangeItem
    {setting : InternalSetting}
    {home issueId title desc : String}
    {document : ReferencePath × Nat}
    {picked : InternalDoc.PickedRange × Nat}
    (isPicked : Picks setting home title desc document picked)
    {item : GeneratedItem}
    (isItem :
      rangeItem setting home issueId document.1 document.2 picked =
        some item) :
    Outcome setting home issueId title desc document item := by
  simp only [rangeItem] at isItem
  obtain ⟨outcome, extracted, rfl⟩ := Option.map_eq_some_iff.mp isItem
  simp only [InternalDoc.generatedItem]
  split
  · rename_i bounded
    rw [if_pos bounded] at extracted
    cases outcome with
    | failed reason =>
        dsimp only
        rw [conversionGap_eq]
        exact .notConverted picked reason isPicked bounded extracted
    | converted fragment =>
        exact .converted picked fragment isPicked bounded extracted
  · exact .skipped picked isPicked

/-- What a document gives are outcomes of it, at least one. -/
theorem outcomes_of_documentItems
    {setting : InternalSetting}
    {home issueId title desc : String}
    {document : ReferencePath × Nat}
    {items : List GeneratedItem}
    (given :
      documentItems setting home issueId title desc document = some items) :
    items ≠ [] ∧
      ∀ item ∈ items,
        Outcome setting home issueId title desc document item := by
  simp only [documentItems] at given
  obtain ⟨outline, isScanned, given⟩ := Option.bind_eq_some_iff.mp given
  cases outline with
  | error reason =>
      cases given
      refine ⟨List.cons_ne_nil _ _, ?_⟩
      intro item member
      rw [List.mem_singleton.mp member]
      exact .notScanned reason isScanned
  | ok text =>
      obtain ⟨ranges, isPicked, given⟩ := Option.bind_eq_some_iff.mp given
      split at given
      · cases given
        refine ⟨List.cons_ne_nil _ _, ?_⟩
        intro item member
        rw [List.mem_singleton.mp member]
        exact .nothingPicked
      · rename_i someRange
        refine ⟨?_, ?_⟩
        · intro noItems
          subst noItems
          cases ranges with
          | nil =>
              exact someRange rfl
          | cons first rest =>
              obtain ⟨output, _, member⟩ :=
                exists_mem_of_mapM given List.mem_cons_self
              cases member
        · intro item member
          obtain ⟨picked, isRange, isItem⟩ :=
            AlbertContract.exists_of_mem_mapM given member
          exact
            outcome_of_rangeItem ⟨text, ranges, isScanned, isPicked, isRange⟩
              isItem

omit [PythonText] in
/-- A mapped list is as long as before. -/
theorem length_eq_of_mapM
    {α β : Type}
    {f : α → Option β}
    {inputs : List α}
    {outputs : List β}
    (mapped : inputs.mapM f = some outputs) :
    outputs.length = inputs.length := by
  have sameMarks :
      outputs.map (fun _ => ()) = inputs.map (fun _ => ()) :=
    map_eq_map_of_mapM mapped fun _ _ _ _ => rfl
  simpa only [List.length_map] using congrArg List.length sameMarks

/-- The number of outcomes of a document. -/
def attempts
    (setting : InternalSetting)
    (home title desc : String)
    (document : ReferencePath × Nat) : Nat :=
  match scanned setting home title desc document with
  | some (.ok text) =>
      max 1 ((setting.pickPageRanges text title desc).getD []).length
  | _ => 1

theorem length_documentItems
    {setting : InternalSetting}
    {home issueId title desc : String}
    {document : ReferencePath × Nat}
    {items : List GeneratedItem}
    (given :
      documentItems setting home issueId title desc document = some items) :
    items.length = attempts setting home title desc document := by
  simp only [documentItems] at given
  obtain ⟨outline, isScanned, given⟩ := Option.bind_eq_some_iff.mp given
  unfold attempts scanned
  rw [isScanned]
  cases outline with
  | error reason =>
      cases given
      rfl
  | ok text =>
      obtain ⟨ranges, isPicked, given⟩ := Option.bind_eq_some_iff.mp given
      dsimp only
      rw [isPicked, Option.getD_some]
      split at given
      · rename_i noRange
        cases given
        rw [noRange]
        rfl
      · rename_i someRange
        rw [length_eq_of_mapM given, List.length_zipIdx]
        have nonempty := List.length_pos_iff.mpr someRange
        omega

/-- Every outcome is a claim or a gap. -/
theorem claims_add_gaps_of_item
    (issueId : String)
    (item : GeneratedItem) :
    (itemClaims issueId item).length + (itemGaps issueId item).length = 1 := by
  cases item with
  | gap text =>
      rfl
  | fragment fragment =>
      rcases recorded :
          EvidenceMap.recordFromFragment (some issueId) fragment with
        ⟨source, claims, gaps⟩
      simp only [itemClaims, itemGaps, recorded]
      rcases EvidenceMap.recordFromFragment_accounts (some issueId) fragment
          recorded with
        ⟨claim, text, rfl, rfl, _⟩ | ⟨rfl, gap, rfl⟩
      · rfl
      · rfl

/-- As many claims and gaps as there are items. -/
theorem claims_add_gaps
    (issueId : String)
    (items : List GeneratedItem) :
    (items.flatMap (itemClaims issueId)).length +
        (items.flatMap (itemGaps issueId)).length =
      items.length := by
  induction items with
  | nil =>
      rfl
  | cons item rest inductionHypothesis =>
      have counted := claims_add_gaps_of_item issueId item
      simp only [List.flatMap_cons, List.length_append, List.length_cons]
      omega

/-- The outcomes of all documents. -/
theorem items_of_tier2Generate
    {setting : InternalSetting}
    {home issueId title desc : String}
    {pdfs : List ReferencePath}
    {bundle : EvidenceBundle}
    (generated :
      tier2Generate setting home issueId title desc pdfs = some bundle) :
    ∃ items,
      pdfs.zipIdx.mapM (documentItems setting home issueId title desc) =
          some items ∧
        bundle =
          { query := title
            issueId := some issueId
            claims := items.flatten.flatMap (itemClaims issueId)
            sources := items.flatten.flatMap (itemSources issueId)
            coverageGaps := items.flatten.flatMap (itemGaps issueId) } := by
  obtain ⟨items, areItems, rfl⟩ := Option.map_eq_some_iff.mp generated
  exact ⟨items, areItems, rfl⟩

/-- Every attempt on a document is a claim or a gap of the bundle. -/
theorem claims_add_gaps_of_tier2Generate
    {setting : InternalSetting}
    {home issueId title desc : String}
    {pdfs : List ReferencePath}
    {bundle : EvidenceBundle}
    (generated :
      tier2Generate setting home issueId title desc pdfs = some bundle) :
    bundle.claims.length + bundle.coverageGaps.length =
      (pdfs.zipIdx.map (attempts setting home title desc)).sum := by
  obtain ⟨items, areItems, rfl⟩ := items_of_tier2Generate generated
  have lengths :
      items.map List.length =
        pdfs.zipIdx.map (attempts setting home title desc) :=
    map_eq_map_of_mapM areItems fun document _ given isGiven =>
      length_documentItems isGiven
  rw [claims_add_gaps, List.length_flatten, lengths]

/-! ## Where the claims stand -/

/-- A text on disk that the researcher may quote for an issue. -/
inductive Supports
    (setting : InternalSetting)
    (state : ResearchState)
    (pdfs : List ReferencePath)
    (text : String) : Prop where
  | surveyed (raw : String) (path : ReferencePath) (survey : SurveyContents)
      (names : List String) (part : SurveyPart) :
      raw ∈ state.availableSources →
      setting.disk raw = .folder path (some (.readable survey)) names →
      part.fragment survey.fragments = some (some text) →
      Supports setting state pdfs text
  | converted (home pages : String) (document : ReferencePath × Nat)
      (index : Nat) :
      setting.home = some home →
      document ∈ (candidatePdfs setting state pdfs).zipIdx →
      InternalDoc.isBoundedPages setting.unicodeDigit pages = true →
      extraction setting home document.1 document.2 index pages =
        some (.converted (some text)) →
      Supports setting state pdfs text

/-- Every claim cites a source of the bundle and quotes a text on disk. -/
structure Grounded
    (setting : InternalSetting)
    (state : ResearchState)
    (pdfs : List ReferencePath)
    (bundle : EvidenceBundle) : Prop where
  sources : ∀ source ∈ bundle.sources, source.origin = "internal"
  cites :
    ∀ claim ∈ bundle.claims, ∃ source ∈ bundle.sources,
      claim.sourceRefs = [source.id]
  quotes :
    ∀ claim ∈ bundle.claims, ∃ text,
      Supports setting state pdfs text ∧ claim.notes ≠ "" ∧
        claim.notes.toList <:+: text.toList

omit [PythonText] in
/-- A bundle that finds nothing is grounded. -/
theorem Grounded.of_empty
    {bundle : EvidenceBundle}
    [PythonText]
    {setting : InternalSetting}
    {state : ResearchState}
    {pdfs : List ReferencePath}
    (noSources : bundle.sources = [])
    (noClaims : bundle.claims = []) :
    Grounded setting state pdfs bundle where
  sources := by
    intro source member
    rw [noSources] at member
    cases member
  cites := by
    intro claim member
    rw [noClaims] at member
    cases member
  quotes := by
    intro claim member
    rw [noClaims] at member
    cases member

/-- The provenance does not change what is grounded. -/
theorem Grounded.stamp
    {setting : InternalSetting}
    {state : ResearchState}
    {pdfs : List ReferencePath}
    {bundle : EvidenceBundle}
    (grounded : Grounded setting state pdfs bundle)
    (home : String) :
    Grounded setting state pdfs (stampProvenance setting home bundle) where
  sources := by
    rw [stampProvenance_sources]
    exact grounded.sources
  cites := by
    rw [stampProvenance_sources, stampProvenance_claims]
    exact grounded.cites
  quotes := by
    rw [stampProvenance_claims]
    exact grounded.quotes

/-- The sections of a survey leave internal sources and quotes of them. -/
theorem record_grounded
    {shown : Yaml → String}
    {part : SurveyPart}
    {fragments : String → FragmentFile}
    {issueId : Option String}
    {roleById : OrderedMap String Yaml}
    {record : Source × List Claim × List String}
    (recorded :
      part.record shown fragments issueId roleById = some record) :
    record.1.origin = "internal" ∧
      ∀ claim ∈ record.2.1,
        claim.sourceRefs = [record.1.id] ∧ claim.notes ≠ "" ∧
          ∃ text, part.fragment fragments = some (some text) ∧
            claim.notes.toList <:+: text.toList := by
  unfold SurveyPart.record at recorded
  obtain ⟨src, isSource, recorded⟩ := Option.bind_eq_some_iff.mp recorded
  obtain ⟨fragment, isFragment, recorded⟩ :=
    Option.bind_eq_some_iff.mp recorded
  have internal : src.origin = "internal" := by
    unfold SurveyPart.source at isSource
    obtain ⟨pages, _, isSource⟩ := Option.bind_eq_some_iff.mp isSource
    obtain ⟨url, _, isSource⟩ := Option.bind_eq_some_iff.mp isSource
    cases isSource
    rfl
  cases fragment with
  | none =>
      cases recorded
      refine ⟨internal, fun claim member => ?_⟩
      cases member
  | some text =>
      cases recorded
      refine ⟨internal, fun claim member => ?_⟩
      dsimp only at member
      split at member
      · cases member
      · rename_i hasQuote
        rw [List.mem_singleton.mp member]
        exact
          ⟨rfl, hasQuote, text, isFragment,
            EvidenceMap.verbatimQuote_isInfix text⟩

/-- A survey that is consumed is grounded in its fragments. -/
theorem grounded_of_tier1Consume
    {setting : InternalSetting}
    {state : ResearchState}
    {issueId title desc : String}
    {bundle : EvidenceBundle}
    (consumed :
      tier1Consume setting state issueId title desc = some (some bundle))
    (pdfs : List ReferencePath) :
    Grounded setting state pdfs bundle := by
  obtain ⟨raw, isSource, path, survey, names, isFolder, isBundle⟩ :=
    exists_folder_of_tier1Consume consumed
  obtain ⟨roleById, mapGaps, parts, records, _, _, _, mapped, rfl⟩ :=
    EvidenceMap.bundleFromSurvey_eq_some_iff.mp isBundle
  have recorded :
      ∀ record ∈ records, ∃ part : SurveyPart,
        part.record setting.shown survey.fragments (some issueId) roleById =
          some record := by
    intro record member
    obtain ⟨part, _, isRecord⟩ :=
      AlbertContract.exists_of_mem_mapM mapped member
    exact ⟨part, isRecord⟩
  refine ⟨?_, ?_, ?_⟩
  · intro source member
    obtain ⟨record, isRecord, rfl⟩ := List.mem_map.mp member
    obtain ⟨part, ofPart⟩ := recorded record isRecord
    exact (record_grounded ofPart).1
  · intro claim member
    obtain ⟨record, isRecord, isClaim⟩ := List.mem_flatMap.mp member
    obtain ⟨part, ofPart⟩ := recorded record isRecord
    exact
      ⟨record.1, List.mem_map_of_mem isRecord,
        ((record_grounded ofPart).2 claim isClaim).1⟩
  · intro claim member
    obtain ⟨record, isRecord, isClaim⟩ := List.mem_flatMap.mp member
    obtain ⟨part, ofPart⟩ := recorded record isRecord
    obtain ⟨_, notBlank, text, isFragment, quotes⟩ :=
      (record_grounded ofPart).2 claim isClaim
    exact
      ⟨text,
        .surveyed raw path survey names part isSource isFolder isFragment,
        notBlank, quotes⟩

/-- An outcome leaves internal sources and quotes of what was converted. -/
theorem Outcome.grounded
    {setting : InternalSetting}
    {home issueId title desc : String}
    {document : ReferencePath × Nat}
    {item : GeneratedItem}
    (outcome : Outcome setting home issueId title desc document item) :
    (∀ source ∈ itemSources issueId item, source.origin = "internal") ∧
      ∀ claim ∈ itemClaims issueId item,
        (∃ source ∈ itemSources issueId item,
            claim.sourceRefs = [source.id]) ∧
          claim.notes ≠ "" ∧
          ∃ pages index text,
            InternalDoc.isBoundedPages setting.unicodeDigit pages = true ∧
              extraction setting home document.1 document.2 index pages =
                some (.converted (some text)) ∧
              claim.notes.toList <:+: text.toList := by
  cases outcome with
  | converted picked fragment _ bounded extracted =>
      cases fragment with
      | none =>
          refine ⟨fun source member => ?_, fun claim member => ?_⟩
          · rw [List.mem_singleton.mp member]
            rfl
          · cases member
      | some text =>
          simp only [itemSources, itemClaims, EvidenceMap.recordFromFragment]
          split
          · refine ⟨fun source member => ?_, fun claim member => ?_⟩
            · rw [List.mem_singleton.mp member]
            · cases member
          · rename_i hasQuote
            refine ⟨fun source member => ?_, fun claim member => ?_⟩
            · rw [List.mem_singleton.mp member]
            · rw [List.mem_singleton.mp member]
              exact
                ⟨⟨_, List.mem_singleton_self _, rfl⟩, hasQuote,
                  strip picked.1.pages, picked.2, text, bounded, extracted,
                  EvidenceMap.verbatimQuote_isInfix text⟩
  | _ =>
      refine ⟨fun source member => ?_, fun claim member => ?_⟩
      · cases member
      · cases member

/-- What is generated is grounded in bounded ranges of the documents. -/
theorem grounded_of_tier2Generate
    {setting : InternalSetting}
    {state : ResearchState}
    {home issueId title desc : String}
    {pdfs : List ReferencePath}
    {bundle : EvidenceBundle}
    (isHome : setting.home = some home)
    (generated :
      tier2Generate setting home issueId title desc
          (candidatePdfs setting state pdfs) =
        some bundle) :
    Grounded setting state pdfs bundle := by
  obtain ⟨items, areItems, rfl⟩ := items_of_tier2Generate generated
  have outcomes :
      ∀ item ∈ items.flatten,
        ∃ document ∈ (candidatePdfs setting state pdfs).zipIdx,
          Outcome setting home issueId title desc document item := by
    intro item member
    obtain ⟨given, isGiven, inGiven⟩ := List.mem_flatten.mp member
    obtain ⟨document, isDocument, ofDocument⟩ :=
      AlbertContract.exists_of_mem_mapM areItems isGiven
    exact
      ⟨document, isDocument,
        (outcomes_of_documentItems ofDocument).2 item inGiven⟩
  refine ⟨?_, ?_, ?_⟩
  · intro source member
    obtain ⟨item, isItem, isSource⟩ := List.mem_flatMap.mp member
    obtain ⟨document, _, outcome⟩ := outcomes item isItem
    exact outcome.grounded.1 source isSource
  · intro claim member
    obtain ⟨item, isItem, isClaim⟩ := List.mem_flatMap.mp member
    obtain ⟨document, _, outcome⟩ := outcomes item isItem
    obtain ⟨⟨source, isSource, cites⟩, _⟩ := outcome.grounded.2 claim isClaim
    exact ⟨source, List.mem_flatMap.mpr ⟨item, isItem, isSource⟩, cites⟩
  · intro claim member
    obtain ⟨item, isItem, isClaim⟩ := List.mem_flatMap.mp member
    obtain ⟨document, isDocument, outcome⟩ := outcomes item isItem
    obtain ⟨_, notBlank, pages, index, text, bounded, extracted, quotes⟩ :=
      outcome.grounded.2 claim isClaim
    exact
      ⟨text,
        .converted home pages document index isHome isDocument bounded
          extracted,
        notBlank, quotes⟩

/-! ## No document is passed over -/

/-- A document has a source under its position, or a gap that names it. -/
def AccountedFor
    (issueId : String)
    (bundle : EvidenceBundle)
    (document : ReferencePath × Nat) : Prop :=
  (∃ source ∈ bundle.sources, ∃ index : Nat,
      source.title = ReferenceStore.fileName document.1 ∧
        source.id =
          EvidenceMap.sourceId (some issueId)
            ((ReferenceStore.splitSuffix
                (ReferenceStore.fileName document.1)).1 ++
              "-" ++ toString document.2 ++ "-" ++ toString index)) ∨
    ∃ gap ∈ bundle.coverageGaps,
      (ReferenceStore.fileName document.1).toList <:+: gap.toList

/-- An outcome leaves a source of its document, or a gap that names it. -/
theorem Outcome.names
    {setting : InternalSetting}
    {home issueId title desc : String}
    {document : ReferencePath × Nat}
    {item : GeneratedItem}
    (outcome : Outcome setting home issueId title desc document item) :
    (∃ source ∈ itemSources issueId item, ∃ index : Nat,
        source.title = ReferenceStore.fileName document.1 ∧
          source.id =
            EvidenceMap.sourceId (some issueId)
              ((ReferenceStore.splitSuffix
                  (ReferenceStore.fileName document.1)).1 ++
                "-" ++ toString document.2 ++ "-" ++ toString index)) ∨
      ∃ gap ∈ itemGaps issueId item,
        (ReferenceStore.fileName document.1).toList <:+: gap.toList := by
  have failureNames (stage reason : String) :
      (ReferenceStore.fileName document.1).toList <:+:
        (recordScriptFailure stage (ReferenceStore.fileName document.1)
          issueId reason).toList := by
    refine
      ⟨("internal-doc " ++ stage ++ " " ++ extractionFailureMarker ++
          " for ").toList,
        (" issue " ++ issueId ++ ": " ++ reason).toList, ?_⟩
    unfold recordScriptFailure
    simp only [String.toList_append, List.append_assoc]
  cases outcome with
  | notScanned reason =>
      exact .inr ⟨_, List.mem_singleton_self _, failureNames _ _⟩
  | notConverted picked reason =>
      exact .inr ⟨_, List.mem_singleton_self _, failureNames _ _⟩
  | nothingPicked =>
      refine .inr ⟨_, List.mem_singleton_self _, ?_⟩
      rw [String.toList_append]
      exact List.infix_append_right
  | skipped =>
      refine .inr ⟨_, List.mem_singleton_self _, ?_⟩
      rw [String.toList_append]
      exact List.infix_append_right
  | converted picked text =>
      left
      refine ⟨_, List.mem_singleton_self _, picked.2, ?_⟩
      unfold EvidenceMap.recordFromFragment
      cases text with
      | none =>
          exact ⟨rfl, rfl⟩
      | some text =>
          dsimp only
          split <;> exact ⟨rfl, rfl⟩

/-- Every document that is searched is accounted for. -/
theorem accountedFor_of_tier2Generate
    {setting : InternalSetting}
    {home issueId title desc : String}
    {pdfs : List ReferencePath}
    {bundle : EvidenceBundle}
    (generated :
      tier2Generate setting home issueId title desc pdfs = some bundle)
    {document : ReferencePath × Nat}
    (searched : document ∈ pdfs.zipIdx) :
    AccountedFor issueId bundle document := by
  obtain ⟨items, areItems, rfl⟩ := items_of_tier2Generate generated
  obtain ⟨given, isGiven, inItems⟩ := exists_mem_of_mapM areItems searched
  obtain ⟨someItem, outcomes⟩ := outcomes_of_documentItems isGiven
  obtain ⟨item, isItem⟩ := List.exists_mem_of_ne_nil given someItem
  have inAll : item ∈ items.flatten :=
    List.mem_flatten.mpr ⟨given, inItems, isItem⟩
  rcases (outcomes item isItem).names with
    ⟨source, isSource, named⟩ | ⟨gap, isGap, named⟩
  · exact
      .inl ⟨source, List.mem_flatMap.mpr ⟨item, inAll, isSource⟩, named⟩
  · exact .inr ⟨gap, List.mem_flatMap.mpr ⟨item, inAll, isGap⟩, named⟩

omit [PythonText] in
theorem AccountedFor.stamp
    {issueId : String}
    {bundle : EvidenceBundle}
    {document : ReferencePath × Nat}
    (accounted : AccountedFor issueId bundle document)
    (setting : InternalSetting)
    (home : String) :
    AccountedFor issueId (stampProvenance setting home bundle) document := by
  unfold AccountedFor
  rw [stampProvenance_sources, stampProvenance_coverageGaps]
  exact accounted

/--
Whatever is gathered is grounded.  Without the plugin nothing is found.  When
no survey is consumed, every attempt on a document is a claim or a gap, and no
document is passed over.
-/
theorem gather_accounts
    {setting : InternalSetting}
    {state : ResearchState}
    {issueId : String}
    {pdfs : List ReferencePath}
    {bundle : EvidenceBundle}
    (gathered : gather setting state issueId pdfs = some bundle) :
    Grounded setting state pdfs bundle ∧
      (setting.home = none → bundle.sources = [] ∧ bundle.claims = []) ∧
      ∀ home, setting.home = some home →
        tier1Consume setting state issueId (issueText state issueId).1
            (issueText state issueId).2 =
          some none →
        candidatePdfs setting state pdfs ≠ [] →
        bundle.claims.length + bundle.coverageGaps.length =
            ((candidatePdfs setting state pdfs).zipIdx.map
              (attempts setting home (issueText state issueId).1
                (issueText state issueId).2)).sum ∧
          ∀ document ∈ (candidatePdfs setting state pdfs).zipIdx,
            AccountedFor issueId bundle document := by
  cases gathers gathered with
  | degraded noHome =>
      refine ⟨.of_empty rfl rfl, fun _ => ⟨rfl, rfl⟩, ?_⟩
      intro home isHome
      rw [noHome] at isHome
      cases isHome
  | consumed home survey isHome consumed =>
      refine ⟨(grounded_of_tier1Consume consumed pdfs).stamp home, ?_, ?_⟩
      · intro noHome
        rw [isHome] at noHome
        cases noHome
      · intro _ _ notConsumed
        rw [consumed] at notConsumed
        cases notConsumed
  | generated home found isHome _ generated =>
      refine ⟨(grounded_of_tier2Generate isHome generated).stamp home, ?_, ?_⟩
      · intro noHome
        rw [isHome] at noHome
        cases noHome
      · intro other isOther _ _
        rw [isHome] at isOther
        cases isOther
        refine ⟨?_, fun document searched => ?_⟩
        · rw [stampProvenance_claims, stampProvenance_coverageGaps]
          exact claims_add_gaps_of_tier2Generate generated
        · exact
            (accountedFor_of_tier2Generate generated searched).stamp setting
              home
  | nothing home isHome _ noCandidates =>
      refine ⟨.of_empty rfl rfl, ?_, ?_⟩
      · intro noHome
        rw [isHome] at noHome
        cases noHome
      · intro _ _ _ someCandidate
        exact absurd noCandidates someCandidate

end Accounts

/-- One bounded range and one that is not, of a document of the brief. -/
private def twoRanges : InternalSetting where
  paperworkHome := some "/paperwork"
  isValidHome := fun _ => true
  machine :=
    { interpreter := "python"
      shownCommand := fun _ => ""
      run := fun _ => .exited 0 "" ""
      written := fun out =>
        if out = "/tmp/frag_0_0.md" then
          .content "# Bus\nThe bus runs at 400 kHz."
        else
          .content "Total pages: 12" }
  temporary := "/tmp"
  disk := fun _ => .file ["docs", "bus.pdf"]
  shown := fun _ => ""
  pickPageRanges := fun _ _ _ =>
    some [{ pages := "3-5" }, { pages := "all" }]

/-- A brief with one document. -/
private def oneDocument : ResearchState where
  runId := "run"
  originalQuestion := "question"
  availableSources := ["docs/bus.pdf"]

/-- The bounded range is quoted, and the other one is a gap. -/
theorem gather_accounts_twoRanges :
    letI := PythonText.ascii
    ∃ bundle,
      gather twoRanges oneDocument "bus speed" [] = some bundle ∧
        bundle.claims.map Claim.notes = ["The bus runs at 400 kHz."] ∧
        bundle.coverageGaps.length = 1 ∧
        Grounded twoRanges oneDocument [] bundle := by
  let _ := PythonText.ascii
  let bundle :=
    (gather twoRanges oneDocument "bus speed" []).get (by decide +kernel)
  have gathered :
      gather twoRanges oneDocument "bus speed" [] = some bundle :=
    (Option.some_get _).symm
  exact
    ⟨bundle, gathered, by decide +kernel, by decide +kernel,
      (gather_accounts gathered).1⟩


/-! ## When the marks are set -/

section Failures

variable [PythonText]

/-- A script fails on a document. -/
def ScriptFails
    (setting : InternalSetting)
    (home title desc : String)
    (document : ReferencePath × Nat) : Prop :=
  (∃ reason,
      scanned setting home title desc document = some (.error reason)) ∨
    ∃ picked reason,
      Picks setting home title desc document picked ∧
        InternalDoc.isBoundedPages setting.unicodeDigit
            (strip picked.1.pages) =
          true ∧
        extraction setting home document.1 document.2 picked.2
            (strip picked.1.pages) =
          some (.failed reason)

/-- Nothing that the gaps are filled with has a mark of its own. -/
structure Unmarked
    (setting : InternalSetting)
    (state : ResearchState)
    (issueId : String)
    (pdfs : List ReferencePath) : Prop where
  title : ¬Marked (issueText state issueId).1
  names :
    ∀ path ∈ candidatePdfs setting state pdfs,
      ¬Marked (ReferenceStore.fileName path)
  picks :
    ∀ text ranges,
      setting.pickPageRanges text (issueText state issueId).1
          (issueText state issueId).2 =
        some ranges →
      ∀ picked ∈ ranges,
        ¬Marked (strip picked.pages) ∧
          ¬Marked (PythonText.quoted (strip picked.pages))
  surveys :
    ∀ bundle,
      tier1Consume setting state issueId (issueText state issueId).1
          (issueText state issueId).2 =
        some (some bundle) →
      ∀ gap ∈ bundle.coverageGaps, ¬Marked gap ∧ gap ≠ degradedGap

/-- A failure on a document is among its outcomes. -/
theorem marked_of_scriptFails
    {setting : InternalSetting}
    {home issueId title desc : String}
    {document : ReferencePath × Nat}
    {items : List GeneratedItem}
    (given :
      documentItems setting home issueId title desc document = some items)
    (fails : ScriptFails setting home title desc document) :
    ∃ gap, .gap gap ∈ items ∧ Marked gap := by
  rcases fails with ⟨reason, isScanned⟩ |
    ⟨picked, reason, ⟨text, ranges, isScanned, isPicked, isRange⟩, bounded,
      extracted⟩
  · unfold documentItems at given
    unfold scanned at isScanned
    dsimp only at given
    rw [isScanned] at given
    cases given
    exact
      ⟨_, List.mem_singleton_self _, marked_recordScriptFailure _ _ _ _⟩
  · unfold documentItems at given
    unfold scanned at isScanned
    dsimp only at given
    rw [isScanned] at given
    dsimp only [Option.bind_some] at given
    rw [isPicked, Option.bind_some] at given
    have someRange : ranges ≠ [] := by
      intro noRange
      rw [noRange] at isRange
      cases isRange
    rw [if_neg someRange] at given
    obtain ⟨item, isItem, member⟩ := exists_mem_of_mapM given isRange
    simp only [rangeItem] at isItem
    rw [if_pos bounded, extracted, Option.map_some] at isItem
    simp only [InternalDoc.generatedItem] at isItem
    rw [if_pos bounded, conversionGap_eq] at isItem
    cases isItem
    exact ⟨_, member, marked_recordScriptFailure _ _ _ _⟩

/-- An outcome with a mark tells of a script that failed. -/
theorem Outcome.scriptFails
    {setting : InternalSetting}
    {home issueId title desc : String}
    {document : ReferencePath × Nat}
    {item : GeneratedItem}
    (outcome : Outcome setting home issueId title desc document item)
    (unmarkedName : ¬Marked (ReferenceStore.fileName document.1))
    (unmarkedPicks :
      ∀ text ranges,
        setting.pickPageRanges text title desc = some ranges →
        ∀ picked ∈ ranges,
          ¬Marked (strip picked.pages) ∧
            ¬Marked (PythonText.quoted (strip picked.pages)))
    {gap : String}
    (member : gap ∈ itemGaps issueId item)
    (marked : Marked gap) :
    ScriptFails setting home title desc document := by
  have unmarkedPages
      {picked : InternalDoc.PickedRange × Nat}
      (isPicked : Picks setting home title desc document picked) :
      ¬Marked (strip picked.1.pages) ∧
        ¬Marked (PythonText.quoted (strip picked.1.pages)) := by
    obtain ⟨text, ranges, _, arePicked, isRange⟩ := isPicked
    exact
      unmarkedPicks text ranges arePicked picked.1
        (List.fst_mem_of_mem_zipIdx isRange)
  cases outcome with
  | notScanned reason isScanned =>
      exact .inl ⟨reason, isScanned⟩
  | notConverted picked reason isPicked bounded extracted =>
      exact .inr ⟨picked, reason, isPicked, bounded, extracted⟩
  | nothingPicked =>
      rw [List.mem_singleton.mp member] at marked
      exact
        absurd marked (not_marked_after _ (by decide +kernel) unmarkedName)
  | skipped picked isPicked =>
      rw [List.mem_singleton.mp member] at marked
      have opening :=
        not_marked_after "skipped unbounded/invalid page spec "
          (by decide +kernel) (unmarkedPages isPicked).2
      exact
        absurd marked
          (not_marked_join " in " (by decide +kernel) opening unmarkedName)
  | converted picked text isPicked =>
      have unmarkedPlace :=
        not_marked_join "-" (by decide +kernel)
          (not_marked_stem unmarkedName) (not_marked_number document.2)
      have unmarkedId :=
        not_marked_join "-" (by decide +kernel) unmarkedPlace
          (not_marked_number picked.2)
      have unmarkedGap
          (opening : String)
          (fixed : opening ∈ fixedPieces) :=
        not_marked_join " pages " (by decide +kernel)
          (not_marked_after opening fixed unmarkedId)
          (unmarkedPages isPicked).1
      unfold itemGaps EvidenceMap.recordFromFragment at member
      cases text with
      | none =>
          rw [List.mem_singleton.mp member] at marked
          exact absurd marked (unmarkedGap _ (by decide +kernel))
      | some text =>
          dsimp only at member
          split at member
          · rw [List.mem_singleton.mp member] at marked
            exact absurd marked (unmarkedGap _ (by decide +kernel))
          · cases member

/-- A gap of a document is not the gap of a bundle without the plugin. -/
theorem Outcome.ne_degradedGap
    {setting : InternalSetting}
    {home issueId title desc : String}
    {document : ReferencePath × Nat}
    {item : GeneratedItem}
    (outcome : Outcome setting home issueId title desc document item)
    {gap : String}
    (member : gap ∈ itemGaps issueId item) :
    gap ≠ degradedGap := by
  cases outcome with
  | notScanned
  | notConverted =>
      rw [List.mem_singleton.mp member]
      unfold recordScriptFailure
      refine ne_degradedGap_of_opens (c := 'i') ?_ (by decide)
      repeat apply opens_append
      decide +kernel
  | nothingPicked =>
      rw [List.mem_singleton.mp member]
      refine ne_degradedGap_of_opens (c := 'n') ?_ (by decide)
      apply opens_append
      decide +kernel
  | skipped =>
      rw [List.mem_singleton.mp member]
      refine ne_degradedGap_of_opens (c := 's') ?_ (by decide)
      repeat apply opens_append
      decide +kernel
  | converted picked text =>
      unfold itemGaps EvidenceMap.recordFromFragment at member
      cases text with
      | none =>
          rw [List.mem_singleton.mp member]
          refine ne_degradedGap_of_opens (c := 'f') ?_ (by decide)
          repeat apply opens_append
          decide +kernel
      | some text =>
          dsimp only at member
          split at member
          · rw [List.mem_singleton.mp member]
            refine ne_degradedGap_of_opens (c := 'e') ?_ (by decide)
            repeat apply opens_append
            decide +kernel
          · cases member

/--
Where nothing has the marks of its own, a bundle tells of a failure exactly when
a script fails on a document that is searched, and it counts as degraded exactly
without the plugin.
-/
theorem marks_exact
    {setting : InternalSetting}
    {state : ResearchState}
    {issueId : String}
    {pdfs : List ReferencePath}
    {bundle : EvidenceBundle}
    (gathered : gather setting state issueId pdfs = some bundle)
    (unmarked : Unmarked setting state issueId pdfs) :
    (hasExtractionFailure bundle = true ↔
        ∃ home, setting.home = some home ∧
          tier1Consume setting state issueId (issueText state issueId).1
              (issueText state issueId).2 =
            some none ∧
          ∃ document ∈ (candidatePdfs setting state pdfs).zipIdx,
            ScriptFails setting home (issueText state issueId).1
              (issueText state issueId).2 document) ∧
      (isDegraded bundle = true ↔ setting.home = none) := by
  rw [hasExtractionFailure_iff]
  cases gathers gathered with
  | degraded noHome =>
      refine ⟨⟨?_, ?_⟩, ⟨fun _ => noHome, fun _ => ?_⟩⟩
      · rintro ⟨gap, isGap, marked⟩
        rw [List.mem_singleton.mp isGap] at marked
        exact absurd marked not_marked_degradedGap
      · rintro ⟨home, isHome, _⟩
        rw [noHome] at isHome
        cases isHome
      · exact isDegraded_iff.mpr (List.mem_singleton_self _)
  | consumed home survey isHome consumed =>
      rw [stampProvenance_coverageGaps, isDegraded_iff,
        stampProvenance_coverageGaps, isHome]
      refine ⟨⟨?_, ?_⟩, ⟨?_, fun noHome => by cases noHome⟩⟩
      · rintro ⟨gap, isGap, marked⟩
        exact absurd marked (unmarked.surveys survey consumed gap isGap).1
      · rintro ⟨_, _, notConsumed, _⟩
        rw [consumed] at notConsumed
        cases notConsumed
      · intro isGap
        exact absurd rfl (unmarked.surveys survey consumed _ isGap).2
  | generated home found isHome notConsumed generated =>
      rw [stampProvenance_coverageGaps, isDegraded_iff,
        stampProvenance_coverageGaps, isHome]
      obtain ⟨items, areItems, rfl⟩ := items_of_tier2Generate generated
      have ofDocument :
          ∀ gap ∈ items.flatten.flatMap (itemGaps issueId),
            ∃ document ∈ (candidatePdfs setting state pdfs).zipIdx,
              ∃ item, gap ∈ itemGaps issueId item ∧
                Outcome setting home issueId (issueText state issueId).1
                  (issueText state issueId).2 document item := by
        intro gap isGap
        obtain ⟨item, isItem, inItem⟩ := List.mem_flatMap.mp isGap
        obtain ⟨given, isGiven, inGiven⟩ := List.mem_flatten.mp isItem
        obtain ⟨document, isDocument, ofDocument⟩ :=
          AlbertContract.exists_of_mem_mapM areItems isGiven
        exact
          ⟨document, isDocument, item, inItem,
            (outcomes_of_documentItems ofDocument).2 item inGiven⟩
      refine ⟨⟨?_, ?_⟩, ⟨?_, fun noHome => by cases noHome⟩⟩
      · rintro ⟨gap, isGap, marked⟩
        obtain ⟨document, searched, item, inItem, outcome⟩ :=
          ofDocument gap isGap
        have isCandidate := List.fst_mem_of_mem_zipIdx searched
        exact
          ⟨home, rfl, notConsumed, document, searched,
            outcome.scriptFails (unmarked.names _ isCandidate) unmarked.picks
              inItem marked⟩
      · rintro ⟨other, isOther, _, document, searched, fails⟩
        cases isOther
        obtain ⟨given, isGiven, inItems⟩ :=
          exists_mem_of_mapM areItems searched
        obtain ⟨gap, inGiven, marked⟩ := marked_of_scriptFails isGiven fails
        refine ⟨gap, List.mem_flatMap.mpr ⟨.gap gap, ?_, ?_⟩, marked⟩
        · exact List.mem_flatten.mpr ⟨given, inItems, inGiven⟩
        · exact List.mem_singleton_self _
      · intro isGap
        obtain ⟨_, _, item, inItem, outcome⟩ := ofDocument _ isGap
        exact absurd rfl (outcome.ne_degradedGap inItem)
  | nothing home isHome _ noCandidates =>
      rw [isDegraded_iff, isHome]
      refine ⟨⟨?_, ?_⟩, ⟨?_, fun noHome => by cases noHome⟩⟩
      · rintro ⟨gap, isGap, marked⟩
        rw [List.mem_singleton.mp isGap] at marked
        exact
          absurd marked
            (not_marked_after _ (by decide +kernel) unmarked.title)
      · rintro ⟨_, _, _, document, searched, _⟩
        rw [noCandidates] at searched
        cases searched
      · intro isGap
        have same := List.mem_singleton.mp isGap
        refine absurd same.symm (ne_degradedGap_of_opens (c := 'n') ?_ ?_)
        · apply opens_append
          decide +kernel
        · decide

end Failures

/-- The pages of the document cannot be extracted. -/
private def failingExtraction : InternalSetting :=
  { twoRanges with
    machine :=
      { twoRanges.machine with
        run := fun cmd =>
          if "--pages" ∈ cmd then .exited 2 "" "no such page"
          else .exited 0 "" "" } }

private theorem failingExtraction_unmarked :
    letI := PythonText.ascii
    Unmarked failingExtraction oneDocument "bus speed" [] := by
  let _ := PythonText.ascii
  refine ⟨by decide +kernel, by decide +kernel, ?_, ?_⟩
  · intro text ranges arePicked
    cases arePicked
    decide +kernel
  · intro bundle consumed
    have noSurvey :
        tier1Consume failingExtraction oneDocument "bus speed"
            (issueText oneDocument "bus speed").1
            (issueText oneDocument "bus speed").2 =
          some none := by
      decide +kernel
    rw [noSurvey] at consumed
    cases consumed

/-- The failure is marked, and the bundle does not count as degraded. -/
theorem marks_exact_failingExtraction :
    letI := PythonText.ascii
    ∃ bundle,
      gather failingExtraction oneDocument "bus speed" [] = some bundle ∧
        hasExtractionFailure bundle = true ∧
        isDegraded bundle = false ∧
        ∃ document ∈ (candidatePdfs failingExtraction oneDocument []).zipIdx,
          ScriptFails failingExtraction "/paperwork"
            (issueText oneDocument "bus speed").1
            (issueText oneDocument "bus speed").2 document := by
  let _ := PythonText.ascii
  let bundle :=
    (gather failingExtraction oneDocument "bus speed" []).get
      (by decide +kernel)
  have gathered :
      gather failingExtraction oneDocument "bus speed" [] = some bundle :=
    (Option.some_get _).symm
  have exact_ := marks_exact gathered failingExtraction_unmarked
  have marked : hasExtractionFailure bundle = true := by
    decide +kernel
  obtain ⟨home, isHome, _, fails⟩ := exact_.1.mp marked
  cases isHome
  exact ⟨bundle, gathered, marked, by decide +kernel, fails⟩

/-! ## The finder of a run -/

section Finder

variable [PythonText]

/-- The sections of the surveys of the brief have texts for their paths. -/
def TextPaths
    (setting : InternalSetting)
    (state : ResearchState) : Prop :=
  ∀ raw ∈ state.availableSources, ∀ path survey names,
    setting.disk raw = .folder path (some (.readable survey)) names →
    ∀ parts,
      EvidenceMap.surveyParts (EvidenceMap.loadYaml survey.specIndex) =
        some parts →
      ∀ part ∈ parts, ∃ fragmentPath, part.fragmentPath = .text fragmentPath

/-- What the items of a document leave in the bundle of a run. -/
theorem internalBundle_generated_sources
    (title issueId version : String)
    (items : List GeneratedItem) :
    (internalBundle title (some issueId) (.generated items version)).sources =
      items.flatMap (itemSources issueId) := by
  induction items with
  | nil =>
      rfl
  | cons item rest inductionHypothesis =>
      simp only [internalBundle, EvidenceMap.bundleOfRecords]
        at inductionHypothesis ⊢
      cases item <;> simp [itemSources, inductionHypothesis]

theorem internalBundle_generated_claims
    (title issueId version : String)
    (items : List GeneratedItem) :
    (internalBundle title (some issueId) (.generated items version)).claims =
      items.flatMap (itemClaims issueId) := by
  induction items with
  | nil =>
      rfl
  | cons item rest inductionHypothesis =>
      simp only [internalBundle, EvidenceMap.bundleOfRecords]
        at inductionHypothesis ⊢
      cases item <;> simp [itemClaims, inductionHypothesis]

theorem internalBundle_generated_coverageGaps
    (title issueId version : String)
    (items : List GeneratedItem) :
    (internalBundle title (some issueId)
        (.generated items version)).coverageGaps =
      items.flatMap (itemGaps issueId) := by
  induction items with
  | nil =>
      rfl
  | cons item rest inductionHypothesis =>
      simp only [internalBundle, EvidenceMap.bundleOfRecords]
        at inductionHypothesis ⊢
      cases item <;> simp [itemGaps, inductionHypothesis]

/-- The version of the plugin, as it is noted. -/
def notedVersion (setting : InternalSetting) (home : String) : String :=
  orDefault (setting.paperworkVersion home) "unknown"

/-- Every tier gives a bundle of the form that a run expects. -/
theorem Gathers.exists_finding
    {setting : InternalSetting}
    {state : ResearchState}
    {issueId : String}
    {pdfs : List ReferencePath}
    {bundle : EvidenceBundle}
    (textPaths : TextPaths setting state)
    (tier : Gathers setting state issueId pdfs bundle) :
    ∃ finding,
      bundle =
        internalBundle (issueText state issueId).1 (some issueId) finding := by
  cases tier with
  | degraded =>
      exact ⟨.nothing _ _, rfl⟩
  | nothing =>
      exact ⟨.nothing _ _, rfl⟩
  | consumed home survey _ consumed =>
      obtain ⟨raw, isSource, path, contents, names, isFolder, isBundle⟩ :=
        exists_folder_of_tier1Consume consumed
      obtain ⟨gaps, references, sameBundle⟩ :=
        EvidenceMap.exists_internalBundle isBundle
          (textPaths raw isSource path contents names isFolder)
      refine ⟨.survey gaps references (notedVersion setting home), ?_⟩
      rw [sameBundle]
      obtain ⟨_, _, _, _, _, _, _, _, rfl⟩ :=
        EvidenceMap.bundleFromSurvey_eq_some_iff.mp isBundle
      rfl
  | generated home found _ _ generated =>
      obtain ⟨items, _, rfl⟩ := items_of_tier2Generate generated
      let title := (issueText state issueId).1
      let version := notedVersion setting home
      refine ⟨.generated items.flatten version, ?_⟩
      rw [← internalBundle_generated_sources title issueId version,
        ← internalBundle_generated_claims title issueId version,
        ← internalBundle_generated_coverageGaps title issueId version]
      rfl

omit [PythonText] in
/-- The title is that of the prompts. -/
theorem issueText_title
    (state : ResearchState)
    (issueId : String) :
    (issueText state issueId).1 =
      (RealResearcher.userPrompt state issueId).1 := by
  unfold issueText RealResearcher.userPrompt
  cases state.issueMap.get? issueId <;> rfl

/--
What a run takes as found by its internal researcher covers the researcher:
there is a finder with which both give the same bundles.
-/
theorem exists_finder
    {setting : InternalSetting}
    {state : ResearchState}
    (textPaths : TextPaths setting state) :
    ∃ found, ∀ issueId,
      gather setting state issueId [] =
        internalResearch found state issueId := by
  have finding :
      ∀ issueId, ∃ found : Option InternalFinding,
        gather setting state issueId [] =
          found.map
            (internalBundle (issueText state issueId).1 (some issueId)) := by
    intro issueId
    cases gathered : gather setting state issueId [] with
    | none =>
        exact ⟨none, rfl⟩
    | some bundle =>
        obtain ⟨finding, isBundle⟩ :=
          (gathers gathered).exists_finding textPaths
        exact ⟨some finding, congrArg some isBundle⟩
  choose found isFound using finding
  refine ⟨found, fun issueId => ?_⟩
  rw [isFound, internalResearch, issueText_title]

end Finder

/-- A survey of one section. -/
private def busSurvey : SurveyContents where
  referenceMap :=
    some (.dict [(.text "requirement_topics", .list [.text "bus"])])
  specIndex :=
    some
      (.dict
        [(.text "references",
          .list
            [.dict
              [(.text "reference_id", .text "manual"),
                (.text "sections",
                  .list
                    [.dict
                      [(.text "section_id", .text "s1"),
                        (.text "fragment_path", .text "s1.md")]])]])])
  fragments := fun _ => .content "The bus runs at 400 kHz."

private def surveyedBus : InternalSetting :=
  { twoRanges with
    disk := fun _ => .folder ["docs"] (some (.readable busSurvey)) [] }

/-- A survey that names its fragments by texts is found as a run finds it. -/
theorem exists_finder_surveyedBus :
    letI := PythonText.ascii
    ((gather surveyedBus oneDocument "bus speed" []).map fun bundle =>
        bundle.claims.map Claim.notes) =
      some ["The bus runs at 400 kHz."] ∧
      ∃ found, ∀ issueId,
        gather surveyedBus oneDocument issueId [] =
          internalResearch found oneDocument issueId := by
  let _ := PythonText.ascii
  refine ⟨by decide +kernel, exists_finder ?_⟩
  intro raw _ path survey names isFolder parts areParts part member
  cases isFolder
  cases areParts
  rw [List.mem_singleton.mp member]
  exact ⟨"s1.md", rfl⟩

end InternalDocResearcher

end ResearchCos
