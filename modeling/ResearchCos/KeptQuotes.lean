import ResearchCos.CitationSoundness
import ResearchCos.DocumentRounds
import ResearchCos.VerbatimQuotes

namespace ResearchCos

open Foundation
open Foundation.SequenceMatcher
open CellGates

/-!
# What a fetched document leaves of the quotes

The model is shown the first 20000 characters of a document, and the search has
shown it an excerpt.  Afterwards the source keeps the first 2000 characters of
the document only, so a quote from further on, or from the search, may have
nothing left that it is checked against.
-/

section Quotes

variable [PythonText]

/-! ## Quotes that occur letter by letter -/

/-- A quote that occurs in a text is covered by it. -/
theorem quoteCoverage_of_occurs
    {quote text : String}
    (nonempty : normalizedQuote quote ≠ [])
    (occurs : normalizedQuote quote <:+: normalizedQuote text) :
    matchThreshold ≤ quoteCoverage quote text := by
  rw [quoteCoverage_eq_one nonempty occurs]
  norm_num [matchThreshold]

/-- A quote that occurs in a text is found in it. -/
theorem quoteMatches_of_occurs
    {quote text : String}
    (quoted : quote ≠ "")
    (present : text ≠ "")
    (nonempty : normalizedQuote quote ≠ [])
    (occurs : normalizedQuote quote <:+: normalizedQuote text) :
    quoteMatches quote text = true := by
  rw [quoteMatches, if_neg (not_or.mpr ⟨quoted, present⟩)]
  exact decide_eq_true (quoteCoverage_of_occurs nonempty occurs)

/-- A text that shares no character with a quote does not cover it. -/
theorem not_quoteCoverage_of_disjoint
    {quote text : String}
    (disjoint :
      ∀ c ∈ normalizedQuote quote, c ∉ normalizedQuote text) :
    ¬matchThreshold ≤ quoteCoverage quote text := by
  intro covered
  obtain ⟨quoteThere, textThere, window, member, reaches⟩ :=
    le_quoteCoverage_iff.mp covered
  have inProbed := (alignedWindow_bounds member).1
  obtain ⟨common, inProbe, inWindow, commonLength⟩ :=
    matchingBlocks_commonSubsequence false
      (probe (normalizedQuote quote) (normalizedQuote text)) window
  have nothing : common = [] := by
    rw [List.eq_nil_iff_forall_not_mem]
    intro c inCommon
    have first := inProbe.subset inCommon
    have second := inProbed.subset (inWindow.subset inCommon)
    unfold probe at first
    unfold probed at second
    split at first
    · rename_i quoteFirst
      rw [if_pos quoteFirst] at second
      exact disjoint c first second
    · rename_i textFirst
      rw [if_neg textFirst] at second
      exact disjoint c second first
  have someLength :
      0 < (probe (normalizedQuote quote) (normalizedQuote text)).length +
        window.length := by
    have probeThere :
        probe (normalizedQuote quote) (normalizedQuote text) ≠ [] := by
      unfold probe
      split
      · exact quoteThere
      · exact textThere
    have := List.length_pos_iff.mpr probeThere
    omega
  rw [le_ratio_iff someLength, ← commonLength, nothing] at reaches
  have positive :
      (0 : ℚ) <
        ((probe (normalizedQuote quote) (normalizedQuote text)).length +
          window.length : Nat) := by
    exact_mod_cast someLength
  have := mul_pos matchThreshold_bounds.1 positive
  simp only [List.length_nil, Nat.cast_zero, mul_zero] at reaches
  linarith

/-! ## Quotes that were shown -/

omit [PythonText] in
/-- A quote that occurs in a text letter by letter. -/
def OccursIn (quote text : String) : Prop :=
  quote ≠ "" ∧ quote.toList <:+: text.toList

omit [PythonText] in
/--
The quote of a claim occurs in what the model was shown of its source: in the
excerpt of the search, or in the first 20000 characters of the document.
-/
inductive ShownQuote
    (searched : EvidenceBundle)
    (calls : List FetchCall)
    (claim : Claim) : Prop where
  | searched
      (source : Source)
      (isClaim : claim ∈ searched.claims)
      (isSource : source ∈ searched.sources)
      (cited : source.id ∈ claim.sourceRefs)
      (occurs : OccursIn (quoteOf claim) source.excerpt)
  | extracted
      (call : FetchCall)
      (isCall : call ∈ calls)
      (isClaim : claim ∈ call.claims)
      (occurs :
        OccursIn (quoteOf claim)
          (String.ofList (call.text.toList.take 20000)))

omit [PythonText] in
/-- The sources of a bundle by identifier. -/
def sourcesById (sources : List Source) : OrderedMap String Source :=
  sources.foldl (fun known source => known.insert source.id source) ∅

/-- A claim passes the citation check against the excerpts of some sources. -/
def VerifiesAgainst (sources : List Source) (claim : Claim) : Prop :=
  (verifyClaim claim (sourcesById sources)
    (DecisionMemo.sourceTexts (sourcesById sources))).verified = true

/-- Every claim whose quote was shown is verified afterwards. -/
def QuotesVerify (searched : EvidenceBundle) (done : Escalation) : Prop :=
  ∀ claim,
    ShownQuote searched done.calls claim →
    VerifiesAgainst done.bundle.sources claim

omit [PythonText] in
/-- What is kept of the text under an identifier. -/
def keptText
    (searched : EvidenceBundle)
    (read : List Reading)
    (ref : String) : Option String :=
  ((keptSources searched read).reverse.find? fun source =>
    source.id = ref).map Source.excerpt

/--
Every quote that was shown is found again in what is kept of a cited text, or
its claim cites internal sources only.
-/
def QuotesKept
    (env : RetrievalEnv)
    (proxy : ResearchState)
    (searched : EvidenceBundle)
    (documents : List (String × Option RawExtraction)) : Prop :=
  let read := readings env searched documents
  ∀ claim,
    ShownQuote searched
        (read.map (callOf (Escalation.found env proxy searched).criteria))
        claim →
    originOf claim (sourcesById searched.sources) = .internal ∨
      ∃ ref ∈ claim.sourceRefs, ∃ text,
        keptText searched read ref = some text ∧
          quoteMatches (quoteOf claim) text = true

/-- A claim is verified when it is internal or a cited text has its quote. -/
theorem verifiesAgainst_iff
    {sources : List Source}
    {claim : Claim}
    (quoted : quoteOf claim ≠ "") :
    VerifiesAgainst sources claim ↔
      originOf claim (sourcesById sources) = .internal ∨
        ∃ ref ∈ claim.sourceRefs, ∃ text,
          (sources.reverse.find? fun source => source.id = ref).map
              Source.excerpt = some text ∧
            quoteMatches (quoteOf claim) text = true := by
  have textOf (ref : String) :
      (DecisionMemo.sourceTexts (sourcesById sources)).get? ref =
        (sources.reverse.find? fun source => source.id = ref).map
          Source.excerpt := by
    rw [DecisionMemo.sourceTexts, OrderedMap.get?_mapValues, sourcesById,
      get?_insertSources]
    simp
  cases governed : originOf claim (sourcesById sources) with
  | internal =>
      exact iff_of_true (verifyClaim_internal _ governed).1 (Or.inl rfl)
  | web =>
      rw [VerifiesAgainst, verifyClaim_web_verified_iff governed]
      simp only [PassesTextCheck, IsCitedText, textOf, quoteMatches, quoted,
        false_or]
      constructor
      · rintro ⟨text, ⟨present, ref, cited, found⟩, covers⟩
        refine Or.inr ⟨ref, cited, text, found, ?_⟩
        rw [if_neg present]
        exact decide_eq_true covers
      · rintro (impossible | ⟨ref, cited, text, found, isMatch⟩)
        · cases impossible
        · by_cases present : text = ""
          · rw [if_pos present] at isMatch
            cases isMatch
          · rw [if_neg present] at isMatch
            exact
              ⟨text, ⟨present, ref, cited, found⟩, of_decide_eq_true isMatch⟩

omit [PythonText] in
/-- Other excerpts leave a claim its origin. -/
theorem originOf_keptSources
    (claim : Claim)
    (searched : EvidenceBundle)
    (read : List Reading) :
    originOf claim (sourcesById (keptSources searched read)) =
      originOf claim (sourcesById searched.sources) := by
  refine originOf_congr fun ref => ?_
  simp only [sourcesById, get?_insertSources, OrderedMap.get?_empty,
    Option.or_none]
  exact find?_keptSources (fun _ _ => rfl) _ _ _

/-- What a researcher returns keeps the excerpts and the calls of its round. -/
theorem escalated_keeps
    {env : RetrievalEnv}
    {proxy : ResearchState}
    {searched : EvidenceBundle}
    {documents : List (String × Option RawExtraction)}
    {done : Escalation}
    (returns :
      RealResearcher.escalated documents
          (Escalation.start env proxy searched) =
        some done) :
    done.bundle.sources =
        keptSources searched (readings env searched documents) ∧
      done.calls =
        (readings env searched documents).map
          (callOf (Escalation.found env proxy searched).criteria) := by
  by_cases rounds : env.maxRounds = 0
  · rw [escalated_start_of_noRounds rounds returns, readings, if_pos rounds]
    refine ⟨?_, rfl⟩
    refine List.ext_getElem? fun position => ?_
    simp [Escalation.stampExhausted, Escalation.found, keptSources,
      keptExcerpt]
  · obtain ⟨_, roundDone⟩ := escalated_start rounds returns
    refine ⟨?_, roundDone.calls⟩
    rw [roundDone.bundle]
    exact sources_gathered (readings_nodup env searched documents)

/--
After the fetch every quote that was shown is verified exactly when it is
found again in what is kept of a cited text.
-/
theorem quotesVerify_iff
    {env : RetrievalEnv}
    {proxy : ResearchState}
    {searched : EvidenceBundle}
    {documents : List (String × Option RawExtraction)}
    {done : Escalation}
    (returns :
      RealResearcher.escalated documents
          (Escalation.start env proxy searched) =
        some done) :
    QuotesVerify searched done ↔ QuotesKept env proxy searched documents := by
  obtain ⟨sources, calls⟩ := escalated_keeps returns
  rw [QuotesVerify, QuotesKept, sources, calls]
  refine forall_congr' fun claim => imp_congr_right fun shown => ?_
  have quoted : quoteOf claim ≠ "" := by
    cases shown with
    | searched source isClaim isSource cited occurs => exact occurs.1
    | extracted call isCall isClaim occurs => exact occurs.1
  rw [verifiesAgainst_iff quoted, originOf_keptSources]
  rfl

end Quotes

private def bufferClaim : Claim where
  claim := "The buffer holds 128 kB"
  sourceRefs := ["S-1"]
  notes := "128 kB"

private def clockClaim : Claim where
  claim := "It runs at 64 MHz"
  sourceRefs := ["S-1"]
  notes := "64 MHz"

/-- A search that quotes the excerpt of a datasheet. -/
private def quotedDatasheet : EvidenceBundle where
  query := "buffer"
  sources :=
    [{ id := "S-1"
       title := "Datasheet"
       url := some "https://vendor.example/datasheet.pdf"
       excerpt := "holds 128 kB" }]
  claims := [bufferClaim]

private def oneRound : RetrievalEnv where
  download := fun _ => .unreachable
  useDocling := false
  docling := fun _ => none
  pymupdf4llm := fun _ => none
  pypdf := fun _ => none
  maxRounds := 1

private def anyProxy : ResearchState where
  runId := "run"
  originalQuestion := "question"

/-- A datasheet that begins with the dots of a table of contents. -/
private def longDatasheet (dots : Nat) : String :=
  String.ofList (List.replicate dots '.' ++ "64 MHz".toList)

/-- The clock that is read from the end of a datasheet. -/
private def clockFound : RawExtraction where
  claims := [{ claim := "It runs at 64 MHz", quote := some "64 MHz" }]

private theorem longDatasheet_ne_empty
    (dots : Nat) :
    longDatasheet dots ≠ "" := by
  intro nothing
  have noText := congrArg String.toList nothing
  rw [longDatasheet, String.toList_ofList, String.toList_empty,
    List.append_eq_nil_iff] at noText
  exact absurd noText.2 (by decide)

/-- What a quoted datasheet is read as. -/
private def readDatasheet (text : String) :
    List (String × Option RawExtraction) :=
  [(text, some clockFound)]

private theorem readings_quotedDatasheet
    (text : String) :
    letI := PythonText.ascii
    readings oneRound quotedDatasheet (readDatasheet text) =
      [((0, quotedDatasheet.sources.head (by decide)), text,
        some clockFound)] := by
  let _ := PythonText.ascii
  have toFetch :
      Escalation.docsToFetch quotedDatasheet [] =
        [(0, quotedDatasheet.sources.head (by decide))] := by
    decide +kernel
  rw [readings, toFetch]
  rfl

private theorem readDatasheet_returns
    (text : String) :
    letI := PythonText.ascii
    ∃ done,
      RealResearcher.escalated (readDatasheet text)
          (Escalation.start oneRound anyProxy quotedDatasheet) =
        some done := by
  let _ := PythonText.ascii
  have oneDocument :
      (Escalation.docsToFetch quotedDatasheet []).length = 1 := by
    decide +kernel
  have extracts :
      (Escalation.extractFromText "S-1"
        (Escalation.found oneRound anyProxy quotedDatasheet).criteria
        (some clockFound)).isSome = true := by
    decide +kernel
  refine escalated_start_returns oneDocument.le ?_
  intro reading member
  rw [readings_quotedDatasheet, List.mem_singleton] at member
  rw [member]
  exact Or.inr extracts

/-- The datasheet keeps the beginning of its text. -/
private theorem keptText_quotedDatasheet
    {text : String}
    (nonempty : text ≠ "") :
    letI := PythonText.ascii
    keptText quotedDatasheet
        (readings oneRound quotedDatasheet (readDatasheet text)) "S-1" =
      some (String.ofList (text.toList.take 2000)) := by
  let _ := PythonText.ascii
  rw [readings_quotedDatasheet]
  simp [keptText, keptSources, quotedDatasheet, keptExcerpt_cons, nonempty]

/-- The clock is extracted in the call of the datasheet. -/
private theorem clockCall
    {text : String}
    (nonempty : text ≠ "") :
    letI := PythonText.ascii
    ∀ {done : Escalation},
      RealResearcher.escalated (readDatasheet text)
          (Escalation.start oneRound anyProxy quotedDatasheet) =
        some done →
      ∃ call ∈ done.calls, call.text = text ∧ clockClaim ∈ call.claims := by
  let _ := PythonText.ascii
  intro done returns
  obtain ⟨_, calls⟩ := escalated_keeps returns
  rw [readings_quotedDatasheet, List.map_singleton] at calls
  refine ⟨_, calls ▸ List.mem_singleton_self _, rfl, ?_⟩
  have extracted :
      clockClaim ∈
        ((Escalation.extractFromText "S-1"
          (Escalation.found oneRound anyProxy quotedDatasheet).criteria
          (some clockFound)).map Prod.fst).getD [] := by
    decide +kernel
  simp only [callOf, nonempty, if_false]
  exact extracted

/-- The clock stands at the end of what is shown of the datasheet. -/
private theorem clock_occurs
    {dots shown : Nat}
    (enough : dots + 6 ≤ shown) :
    OccursIn (quoteOf clockClaim)
      (String.ofList ((longDatasheet dots).toList.take shown)) := by
  have isQuote : (quoteOf clockClaim).toList = "64 MHz".toList := by
    decide +kernel
  have isText :
      (longDatasheet dots).toList =
        List.replicate dots '.' ++ "64 MHz".toList :=
    String.toList_ofList
  have isShort : (longDatasheet dots).toList.length ≤ shown := by
    rw [isText, List.length_append, List.length_replicate]
    exact enough
  refine ⟨by decide +kernel, ?_⟩
  rw [String.toList_ofList, List.take_of_length_le isShort, isQuote, isText]
  exact (List.suffix_append _ _).isInfix

/-- Of a text that begins with dots only dots are kept. -/
private theorem eq_dot_of_kept
    {dots : Nat}
    {c : Char}
    (member :
      letI := PythonText.ascii
      c ∈ normalizedQuote
        (String.ofList ((longDatasheet dots).toList.take dots))) :
    c = '.' := by
  have isKept :
      (longDatasheet dots).toList.take dots = List.replicate dots '.' := by
    rw [longDatasheet, String.toList_ofList,
      List.take_left' List.length_replicate]
  have within (text : List Char) :
      ∀ c ∈ stripChars text, c ∈ text := by
    intro c member
    rw [stripChars, List.mem_reverse] at member
    have inner := (List.dropWhile_sublist _).subset member
    rw [List.mem_reverse] at inner
    exact (List.dropWhile_sublist _).subset inner
  rw [isKept] at member
  obtain ⟨original, isOriginal, rfl⟩ := List.mem_map.mp member
  rw [strip, String.toList_ofList, String.toList_ofList] at isOriginal
  rw [List.eq_of_mem_replicate (within _ original isOriginal)]
  decide

/-- Nothing that is quoted from the datasheet is found in its dots. -/
private theorem dots_verify_nothing
    {claim : Claim}
    {done : Escalation}
    (cites : claim.sourceRefs = ["S-1"])
    (quoted : quoteOf claim ≠ "") :
    letI := PythonText.ascii
    RealResearcher.escalated (readDatasheet (longDatasheet 2000))
        (Escalation.start oneRound anyProxy quotedDatasheet) =
      some done →
    originOf claim (sourcesById quotedDatasheet.sources) = .web →
    '.' ∉ normalizedQuote (quoteOf claim) →
    ¬VerifiesAgainst done.bundle.sources claim := by
  let _ := PythonText.ascii
  intro returns web noDots verified
  obtain ⟨sources, _⟩ := escalated_keeps returns
  rw [verifiesAgainst_iff quoted, sources, originOf_keptSources, web] at verified
  obtain ⟨ref, cited, text, isKept, isMatch⟩ :=
    verified.resolve_left (by decide)
  rw [cites, List.mem_singleton] at cited
  subst cited
  have onlyDots :
      text = String.ofList ((longDatasheet 2000).toList.take 2000) :=
    Option.some.inj
      (isKept.symm.trans
        (keptText_quotedDatasheet (longDatasheet_ne_empty 2000)))
  have noCoverage : ¬matchThreshold ≤ quoteCoverage (quoteOf claim) text := by
    refine not_quoteCoverage_of_disjoint ?_
    intro c inQuote inText
    rw [onlyDots] at inText
    rw [eq_dot_of_kept inText] at inQuote
    exact noDots inQuote
  unfold quoteMatches at isMatch
  split at isMatch
  · cases isMatch
  · exact noCoverage (of_decide_eq_true isMatch)

/--
After the fetch neither the claim of the search nor the new one is verified,
although the quote of each was shown.
-/
theorem longDatasheet_loses_quotes :
    letI := PythonText.ascii
    ∃ done,
      RealResearcher.escalated (readDatasheet (longDatasheet 2000))
          (Escalation.start oneRound anyProxy quotedDatasheet) =
        some done ∧
      (∃ claim ∈ quotedDatasheet.claims,
        ShownQuote quotedDatasheet [] claim ∧
          ¬VerifiesAgainst done.bundle.sources claim) ∧
      (∃ call ∈ done.calls, ∃ claim ∈ call.claims,
        OccursIn (quoteOf claim)
            (String.ofList (call.text.toList.take 20000)) ∧
          ¬VerifiesAgainst done.bundle.sources claim) ∧
      ¬QuotesVerify quotedDatasheet done := by
  let _ := PythonText.ascii
  obtain ⟨done, returns⟩ := readDatasheet_returns (longDatasheet 2000)
  have bufferWeb :
      originOf bufferClaim (sourcesById quotedDatasheet.sources) = .web := by
    decide +kernel
  have clockWeb :
      originOf clockClaim (sourcesById quotedDatasheet.sources) = .web := by
    decide +kernel
  have bufferDots : '.' ∉ normalizedQuote (quoteOf bufferClaim) := by
    decide +kernel
  have clockDots : '.' ∉ normalizedQuote (quoteOf clockClaim) := by
    decide +kernel
  have bufferLost : ¬VerifiesAgainst done.bundle.sources bufferClaim :=
    dots_verify_nothing rfl (by decide +kernel) returns bufferWeb bufferDots
  have clockLost : ¬VerifiesAgainst done.bundle.sources clockClaim :=
    dots_verify_nothing rfl (by decide +kernel) returns clockWeb clockDots
  have bufferShown : ShownQuote quotedDatasheet [] bufferClaim :=
    .searched (quotedDatasheet.sources.head (by decide)) (by decide)
      (by decide) (by decide) ⟨by decide +kernel, by decide +kernel⟩
  obtain ⟨call, isCall, isText, isClaim⟩ := clockCall (longDatasheet_ne_empty 2000) returns
  have clockShown :
      OccursIn (quoteOf clockClaim)
        (String.ofList (call.text.toList.take 20000)) := by
    rw [isText]
    exact clock_occurs (by omega)
  refine
    ⟨done, returns, ⟨bufferClaim, List.mem_singleton_self _, bufferShown,
        bufferLost⟩,
      ⟨call, isCall, clockClaim, isClaim, clockShown, clockLost⟩, ?_⟩
  intro verify
  exact clockLost (verify clockClaim (.extracted call isCall isClaim clockShown))

/-- A short datasheet that has both quotes. -/
private def shortDatasheet : String :=
  "holds 128 kB at 64 MHz"

private theorem shortDatasheet_keeps :
    letI := PythonText.ascii
    QuotesKept oneRound anyProxy quotedDatasheet
      (readDatasheet shortDatasheet) := by
  let _ := PythonText.ascii
  have isShort : shortDatasheet ≠ "" := by
    decide +kernel
  have isKept := keptText_quotedDatasheet isShort
  have occurs :
      ∀ claim ∈ [bufferClaim, clockClaim],
        quoteOf claim ≠ "" ∧
          normalizedQuote (quoteOf claim) ≠ [] ∧
            normalizedQuote (quoteOf claim) <:+:
              normalizedQuote
                (String.ofList (shortDatasheet.toList.take 2000)) := by
    decide +kernel
  have present : String.ofList (shortDatasheet.toList.take 2000) ≠ "" := by
    decide +kernel
  have cites :
      ∀ claim ∈ [bufferClaim, clockClaim], "S-1" ∈ claim.sourceRefs := by
    decide
  have covered {claim : Claim} (isOne : claim ∈ [bufferClaim, clockClaim]) :
      ∃ ref ∈ claim.sourceRefs, ∃ text,
        keptText quotedDatasheet
            (readings oneRound quotedDatasheet (readDatasheet shortDatasheet))
            ref = some text ∧
          quoteMatches (quoteOf claim) text = true := by
    obtain ⟨quoted, nonempty, isInfix⟩ := occurs claim isOne
    exact
      ⟨"S-1", cites claim isOne, _, isKept,
        quoteMatches_of_occurs quoted present nonempty isInfix⟩
  intro claim shown
  refine Or.inr (covered ?_)
  cases shown with
  | searched source isClaim isSource cited occurs =>
      rw [List.mem_singleton.mp isClaim]
      exact List.mem_cons_self
  | extracted call isCall isClaim occurs =>
      rw [readings_quotedDatasheet, List.map_singleton,
        List.mem_singleton] at isCall
      subst isCall
      have extracted :
          ((Escalation.extractFromText "S-1"
            (Escalation.found oneRound anyProxy quotedDatasheet).criteria
            (some clockFound)).map Prod.fst).getD [] = [clockClaim] := by
        decide +kernel
      simp only [callOf, isShort, if_false] at isClaim
      have isClock : claim ∈ [clockClaim] := extracted ▸ isClaim
      rw [List.mem_singleton.mp isClock]
      exact List.mem_cons_of_mem _ (List.mem_singleton_self _)

/-- After a fetch of the short datasheet both claims are verified. -/
theorem shortDatasheet_verifies :
    letI := PythonText.ascii
    ∃ done,
      RealResearcher.escalated (readDatasheet shortDatasheet)
          (Escalation.start oneRound anyProxy quotedDatasheet) =
        some done ∧
      clockClaim ∈ done.bundle.claims ∧
      QuotesVerify quotedDatasheet done := by
  let _ := PythonText.ascii
  let done :=
    (RealResearcher.escalated (readDatasheet shortDatasheet)
      (Escalation.start oneRound anyProxy quotedDatasheet)).get
        (by decide +kernel)
  have returns :
      RealResearcher.escalated (readDatasheet shortDatasheet)
          (Escalation.start oneRound anyProxy quotedDatasheet) =
        some done :=
    (Option.some_get _).symm
  have isClaim : clockClaim ∈ done.bundle.claims := by
    decide +kernel
  exact
    ⟨done, returns, isClaim,
      (quotesVerify_iff returns).mpr shortDatasheet_keeps⟩

end ResearchCos
