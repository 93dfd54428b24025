import ResearchCos.CitationVerify

namespace ResearchCos

open Foundation
open Foundation.SequenceMatcher

/-!
# What a verified citation guarantees

A window as long as the quote that is accepted contains most of the quote.  A
shorter window does not: the probe is then the source text, or the window runs
over the end of the source text.  The first part separates the two; the second
part does the same for the routing by origin.
-/

section Presence

open List

/-- Most of the quote is spread over the text, in order. -/
def PresentIn (q t : List Char) : Prop :=
  ∃ common,
    common <+ q ∧
      common <+ t ∧
      matchThreshold * (q.length : ℚ) ≤ (common.length : ℚ)

/-- A text that is present in part is not much shorter than the quote. -/
theorem length_le_of_presentIn
    {q t : List Char}
    (present : PresentIn q t) :
    matchThreshold * (q.length : ℚ) ≤ (t.length : ℚ) := by
  obtain ⟨common, _, withinText, longEnough⟩ := present
  have noLonger : (common.length : ℚ) ≤ (t.length : ℚ) := by
    exact_mod_cast withinText.length_le
  exact le_trans longEnough noLonger

/-- What is present in part takes its characters from both. -/
theorem length_bagInter_of_presentIn
    {q t : List Char}
    (present : PresentIn q t) :
    matchThreshold * (q.length : ℚ) ≤ ((q.bagInter t).length : ℚ) := by
  obtain ⟨common, withinQuote, withinText, longEnough⟩ := present
  have inBoth : (common : Multiset Char) ≤ (q : Multiset Char) ∩ t :=
    Multiset.le_inter withinQuote.subperm withinText.subperm
  have noMore : common.length ≤ (q.bagInter t).length := by
    simpa [Multiset.coe_inter] using Multiset.card_le_card inBoth
  exact le_trans longEnough (by exact_mod_cast noMore)

/-- A window is a part of the longer text and no longer than the probe. -/
theorem alignedWindow_bounds
    {shorter longer window : List Char}
    (member : window ∈ alignedWindows shorter longer) :
    window <+ longer ∧ window.length ≤ shorter.length := by
  simp only [alignedWindows, List.mem_map] at member
  obtain ⟨block, _, rfl⟩ := member
  constructor
  · exact (List.take_sublist _ _).trans (List.drop_sublist _ _)
  · exact List.length_take_le _ _

/-- An accepted window as long as the quote has most of the quote in it. -/
theorem presentIn_of_fullWindow
    {q window : List Char}
    (nonempty : q ≠ [])
    (full : window.length = q.length)
    (accepted : matchThreshold ≤ ratio false q window) :
    PresentIn q window := by
  obtain ⟨common, withinQuote, withinWindow, commonLength⟩ :=
    matchingBlocks_commonSubsequence false q window
  refine ⟨common, withinQuote, withinWindow, ?_⟩
  have positive : 0 < q.length + window.length := by
    have := List.length_pos_iff.mpr nonempty
    omega
  have matched := (le_ratio_iff positive matchThreshold).mp accepted
  rw [full] at matched
  push_cast at matched
  rw [commonLength]
  linarith

/-- A window as long as the quote is only reached when the quote is the probe. -/
theorem probe_eq_of_fullWindow
    {q t window : List Char}
    (member : window ∈ alignedWindows (probe q t) (probed q t))
    (notShort : ¬window.length < q.length) :
    probe q t = q ∧ probed q t = t ∧ window.length = q.length := by
  have withinProbe := (alignedWindow_bounds member).2
  by_cases quoteFirst : q.length ≤ t.length
  · simp only [probe, quoteFirst, ↓reduceIte] at withinProbe
    simp only [probe, probed, quoteFirst, ↓reduceIte, true_and]
    exact Nat.le_antisymm withinProbe (Nat.not_lt.mp notShort)
  · simp only [probe, quoteFirst, ↓reduceIte] at withinProbe
    omega

end Presence

section Verification

variable [PythonText]

/-- A text accepts a quote on a window shorter than the quote. -/
def AcceptsOnShortWindow (quote text : String) : Prop :=
  let q := normalizedQuote quote
  let t := normalizedQuote text
  q ≠ [] ∧ t ≠ [] ∧
    ∃ window ∈ alignedWindows (probe q t) (probed q t),
      window.length < q.length ∧
        matchThreshold ≤ ratio false (probe q t) window

instance (quote text : String) : Decidable (AcceptsOnShortWindow quote text) :=
  inferInstanceAs (Decidable (_ ∧ _ ∧ _))

/-- Coverage reaches the threshold exactly when some aligned window does. -/
theorem le_quoteCoverage_iff
    {quote text : String} :
    matchThreshold ≤ quoteCoverage quote text ↔
      normalizedQuote quote ≠ [] ∧ normalizedQuote text ≠ [] ∧
        ∃ window ∈
            alignedWindows
              (probe (normalizedQuote quote) (normalizedQuote text))
              (probed (normalizedQuote quote) (normalizedQuote text)),
          matchThreshold ≤
            ratio false
              (probe (normalizedQuote quote) (normalizedQuote text))
              window := by
  have notBelow : ¬matchThreshold ≤ 0 :=
    not_le.mpr matchThreshold_bounds.1
  simp only [quoteCoverage]
  split
  · rename_i degenerate
    constructor
    · intro reached
      exact absurd reached notBelow
    · rintro ⟨quoteThere, textThere, _⟩
      exact absurd degenerate (by simp [quoteThere, textThere])
  · rename_i proper
    rw [not_or] at proper
    rw [le_bestWindow_iff matchThreshold_bounds.2]
    simp [notBelow, proper.1, proper.2]

/-- Acceptance comes from a short window or from real presence. -/
theorem accepted_on_shortWindow_or_present
    {quote text : String}
    (accepted : matchThreshold ≤ quoteCoverage quote text) :
    AcceptsOnShortWindow quote text ∨
      PresentIn (normalizedQuote quote) (normalizedQuote text) := by
  obtain ⟨quoteThere, textThere, window, member, reaches⟩ :=
    le_quoteCoverage_iff.mp accepted
  by_cases short : window.length < (normalizedQuote quote).length
  · exact Or.inl
      ⟨quoteThere, textThere, window, member, short, reaches⟩
  · obtain ⟨probeIsQuote, probedIsText, full⟩ :=
      probe_eq_of_fullWindow member short
    rw [probeIsQuote] at reaches
    obtain ⟨common, withinQuote, withinWindow, longEnough⟩ :=
      presentIn_of_fullWindow quoteThere full reaches
    have windowInText := (alignedWindow_bounds member).1
    rw [probedIsText] at windowInText
    exact Or.inr
      ⟨common, withinQuote, withinWindow.trans windowInText, longEnough⟩

/-- A short accepted window makes the text accept the quote. -/
theorem accepted_of_shortWindow
    {quote text : String}
    (short : AcceptsOnShortWindow quote text) :
    matchThreshold ≤ quoteCoverage quote text := by
  obtain ⟨quoteThere, textThere, window, member, _, reaches⟩ := short
  exact le_quoteCoverage_iff.mpr
    ⟨quoteThere, textThere, window, member, reaches⟩

/-- Some cited text really contains most of the claim's quote. -/
def QuotePresent
    (claim : Claim)
    (sourceTexts : OrderedMap String String) : Prop :=
  ∃ text, IsCitedText claim sourceTexts text ∧
    PresentIn (normalizedQuote (quoteOf claim)) (normalizedQuote text)

/-- The text has too few of the quote's characters, whatever their order. -/
def FewCommonCharacters (quote text : String) : Prop :=
  let q := normalizedQuote quote
  let t := normalizedQuote text
  ((q.bagInter t).length : ℚ) < matchThreshold * (q.length : ℚ)

instance (quote text : String) : Decidable (FewCommonCharacters quote text) :=
  inferInstanceAs (Decidable (_ < _))

/-- Too few common characters are never most of the quote. -/
theorem FewCommonCharacters.not_presentIn
    {quote text : String}
    (few : FewCommonCharacters quote text) :
    ¬PresentIn (normalizedQuote quote) (normalizedQuote text) := by
  intro present
  exact absurd (length_bagInter_of_presentIn present) (not_le.mpr few)

/--
A verified web claim has its quote in a cited text when no cited text accepts
the quote on a window shorter than the quote.  Of texts that have too few of
the quote's characters this is also necessary.
-/
theorem verifyClaim_sound_of_noShortWindow
    {claim : Claim}
    {sources : OrderedMap String Source}
    {sourceTexts : OrderedMap String String}
    (web : originOf claim sources = .web) :
    ((∀ text, IsCitedText claim sourceTexts text →
          ¬AcceptsOnShortWindow (quoteOf claim) text) →
        (verifyClaim claim sources sourceTexts).verified = true →
        QuotePresent claim sourceTexts) ∧
      ((∀ text, IsCitedText claim sourceTexts text →
            FewCommonCharacters (quoteOf claim) text) →
        (((verifyClaim claim sources sourceTexts).verified = true →
            QuotePresent claim sourceTexts) ↔
          ∀ text, IsCitedText claim sourceTexts text →
            ¬AcceptsOnShortWindow (quoteOf claim) text)) := by
  rw [verifyClaim_web_verified_iff web]
  have enough :
      (∀ text, IsCitedText claim sourceTexts text →
          ¬AcceptsOnShortWindow (quoteOf claim) text) →
        PassesTextCheck claim sourceTexts →
        QuotePresent claim sourceTexts := by
    rintro noShortWindow ⟨text, cited, accepted⟩
    rcases accepted_on_shortWindow_or_present accepted with
        short | present
    · exact absurd short (noShortWindow text cited)
    · exact ⟨text, cited, present⟩
  refine ⟨enough, fun few => ⟨fun sound text cited short => ?_, enough⟩⟩
  obtain ⟨holder, holderCited, present⟩ :=
    sound ⟨text, cited, accepted_of_shortWindow short⟩
  exact (few holder holderCited).not_presentIn present

end Verification

/-- A source text of one letter. -/
private def oneLetterText : OrderedMap String String :=
  (∅ : OrderedMap String String).insert "S-1" "a"

private def oneLetterSource : OrderedMap String Source :=
  (∅ : OrderedMap String Source).insert "S-1"
    { id := "S-1", title := "t", url := some "https://x" }

private def quoting (quote : String) : Claim where
  claim := "claim"
  sourceRefs := ["S-1"]
  notes := quote

/-- The only text that is cited is the one that is stored. -/
private theorem eq_of_isCitedText
    {sourceTexts : OrderedMap String String}
    {quote text stored : String}
    (isStored : sourceTexts.get? "S-1" = some stored)
    (cited : IsCitedText (quoting quote) sourceTexts text) :
    text = stored := by
  obtain ⟨_, ref, refCited, found⟩ := cited
  have refIs : ref = "S-1" := by simpa [quoting] using refCited
  subst ref
  exact Option.some.inj (found.symm.trans isStored)

private theorem oneLetterText_stored :
    oneLetterText.get? "S-1" = some "a" := by
  decide

/-- A one-letter source text verifies a quote of ten letters. -/
theorem oneLetter_verifies_tenLetters :
    letI := PythonText.ascii
    originOf (quoting "abcdefghij") oneLetterSource = .web ∧
      (verifyClaim (quoting "abcdefghij") oneLetterSource
        oneLetterText).verified = true ∧
      ¬QuotePresent (quoting "abcdefghij") oneLetterText := by
  let _ := PythonText.ascii
  refine ⟨by decide +kernel, by decide +kernel, ?_⟩
  rintro ⟨text, cited, present⟩
  have textIs := eq_of_isCitedText oneLetterText_stored cited
  subst textIs
  exact absurd (length_le_of_presentIn present) (by decide +kernel)

/-- A source text that is longer than what is quoted from it. -/
private def sentenceText : OrderedMap String String :=
  (∅ : OrderedMap String String).insert "S-1" "The bus has four lanes."

private theorem sentenceText_stored :
    sentenceText.get? "S-1" = some "The bus has four lanes." := by
  decide

/-- A misspelt quote is in its sentence; ten letters are not in the one. -/
theorem misspelt_verifies_sentence :
    letI := PythonText.ascii
    QuotePresent (quoting "bus has fuor lanes") sentenceText ∧
      ¬((verifyClaim (quoting "abcdefghij") oneLetterSource
            oneLetterText).verified = true →
          QuotePresent (quoting "abcdefghij") oneLetterText) := by
  let _ := PythonText.ascii
  constructor
  · have web :
        originOf (quoting "bus has fuor lanes") oneLetterSource = .web := by
      decide +kernel
    refine (verifyClaim_sound_of_noShortWindow web).1 ?_ (by decide +kernel)
    intro text cited
    rw [eq_of_isCitedText sentenceText_stored cited]
    decide +kernel
  · have web : originOf (quoting "abcdefghij") oneLetterSource = .web := by
      decide +kernel
    have few :
        ∀ text, IsCitedText (quoting "abcdefghij") oneLetterText text →
          FewCommonCharacters (quoteOf (quoting "abcdefghij")) text := by
      intro text cited
      rw [eq_of_isCitedText oneLetterText_stored cited]
      decide +kernel
    rw [(verifyClaim_sound_of_noShortWindow web).2 few]
    intro noShortWindow
    have cited : IsCitedText (quoting "abcdefghij") oneLetterText "a" :=
      ⟨by decide, "S-1", by simp [quoting], oneLetterText_stored⟩
    exact absurd (by decide +kernel) (noShortWindow "a" cited)

/-! ## Routing by origin -/

/-- The claim has a ref, and every ref resolves to an internal source. -/
def AllRefsInternal
    (claim : Claim)
    (sources : OrderedMap String Source) : Prop :=
  claim.sourceRefs ≠ [] ∧
    ∀ ref ∈ claim.sourceRefs,
      ∃ source, sources.get? ref = some source ∧ source.origin = "internal"

/-- Some ref does not resolve, or resolves to a source from outside. -/
def HasWebOrUnknownRef
    (claim : Claim)
    (sources : OrderedMap String Source) : Prop :=
  ∃ ref ∈ claim.sourceRefs,
    ∀ source, sources.get? ref = some source → source.origin ≠ "internal"

/-- Some ref resolves, those that do are internal, and some ref does not. -/
def UnknownRefBesideInternal
    (claim : Claim)
    (sources : OrderedMap String Source) : Prop :=
  resolvedSources claim sources ≠ [] ∧
    (∀ source ∈ resolvedSources claim sources, source.origin = "internal") ∧
      ∃ ref ∈ claim.sourceRefs, sources.get? ref = none

/-- A resolved source is one that some ref of the claim resolves to. -/
theorem mem_resolvedSources_iff
    {claim : Claim}
    {sources : OrderedMap String Source}
    {source : Source} :
    source ∈ resolvedSources claim sources ↔
      ∃ ref ∈ claim.sourceRefs, sources.get? ref = some source := by
  simp [resolvedSources]

section Routing

variable [PythonText]

/-- Verification without a text check is reserved to wholly internal claims. -/
structure EarnedVerification
    (claim : Claim)
    (sources : OrderedMap String Source)
    (sourceTexts : OrderedMap String String) : Prop where
  carriedIsInternal :
    (verifyClaim claim sources sourceTexts).verified = true →
    (verifyClaim claim sources sourceTexts).method = .paperwork →
    AllRefsInternal claim sources
  othersAreChecked :
    HasWebOrUnknownRef claim sources →
    ((verifyClaim claim sources sourceTexts).verified = true ↔
      PassesTextCheck claim sourceTexts)

omit [PythonText] in
/-- The internal origin, spelled out. -/
theorem originOf_internal_iff
    {claim : Claim}
    {sources : OrderedMap String Source} :
    originOf claim sources = .internal ↔
      resolvedSources claim sources ≠ [] ∧
        ∀ source ∈ resolvedSources claim sources,
          source.origin = "internal" := by
  simp only [originOf]
  split <;> simp_all

/-- Verification is earned except when an unknown ref stands beside internal ones. -/
theorem verifyClaim_earned_iff
    (claim : Claim)
    (sources : OrderedMap String Source)
    (sourceTexts : OrderedMap String String) :
    EarnedVerification claim sources sourceTexts ↔
      ¬UnknownRefBesideInternal claim sources := by
  constructor
  · rintro earned ⟨somethingResolves, allInternal, ref, cited, unknown⟩
    have carried : originOf claim sources = .internal :=
      originOf_internal_iff.mpr ⟨somethingResolves, allInternal⟩
    obtain ⟨verified, method⟩ := verifyClaim_internal sourceTexts carried
    obtain ⟨source, found, _⟩ :=
      (earned.carriedIsInternal verified method).2 ref cited
    simp [unknown] at found
  · intro noUnknownRef
    refine
      { carriedIsInternal := fun _ method => ?_
        othersAreChecked := fun webOrUnknown => ?_ }
    · obtain ⟨somethingResolves, allInternal⟩ :=
        originOf_internal_iff.mp (verifyClaim_method_paperwork_iff.mp method)
      refine ⟨?_, fun ref cited => ?_⟩
      · intro noRefs
        simp [resolvedSources, noRefs] at somethingResolves
      · cases found : sources.get? ref with
        | none =>
            exact absurd
              ⟨somethingResolves, allInternal, ref, cited, found⟩
              noUnknownRef
        | some source =>
            exact ⟨source, rfl,
              allInternal source
                (mem_resolvedSources_iff.mpr ⟨ref, cited, found⟩)⟩
    · obtain ⟨ref, cited, notInternal⟩ := webOrUnknown
      apply verifyClaim_web_verified_iff
      cases governed : originOf claim sources with
      | web =>
          rfl
      | internal =>
          obtain ⟨somethingResolves, allInternal⟩ :=
            originOf_internal_iff.mp governed
          cases found : sources.get? ref with
          | none =>
              exact absurd
                ⟨somethingResolves, allInternal, ref, cited, found⟩
                noUnknownRef
          | some source =>
              exact absurd
                (allInternal source
                  (mem_resolvedSources_iff.mpr ⟨ref, cited, found⟩))
                (notInternal source found)

end Routing

/-- One internal ref carries a claim whose other ref is unknown. -/
theorem unknownRef_carried_as_internal :
    letI := PythonText.ascii
    ¬EarnedVerification
      { claim := "claim", sourceRefs := ["S-1", "gone"] }
      ((∅ : OrderedMap String Source).insert "S-1"
        { id := "S-1", title := "t", origin := "internal" })
      ∅ := by
  let _ := PythonText.ascii
  intro earned
  obtain ⟨source, found, _⟩ :=
    (earned.carriedIsInternal (by decide +kernel) (by decide +kernel)).2
      "gone" (by simp)
  have absent :
      ((∅ : OrderedMap String Source).insert "S-1"
        { id := "S-1", title := "t", origin := "internal" }).get? "gone" =
        none := by
    decide
  simp [absent] at found

end ResearchCos
