import ResearchCos.CitationVerify

namespace ResearchCos

open Foundation
open Foundation.SequenceMatcher

/-!
# Quotes that occur verbatim

A quote that occurs in a cited text is the probe, its longest match is the whole
quote, and the window aligned to that match is the quote itself.  Stripping the
text and lower-casing both sides keep the occurrence.
-/

section Windows

/-- The best similarity of a probe is at most one. -/
theorem bestWindow_le_one
    {shorter : List Char}
    {windows : List (List Char)}
    {best : ℚ}
    (atMost : best ≤ 1) :
    bestWindow shorter windows best ≤ 1 := by
  induction windows generalizing best with
  | nil =>
      exact atMost
  | cons window rest inductionHypothesis =>
      have thisOne := ratio_le_one false shorter window
      simp only [bestWindow]
      split
      · split
        · exact thisOne
        · exact inductionHypothesis thisOne
      · exact inductionHypothesis atMost

/-- A probe that occurs in the longer text is found in full. -/
theorem bestWindow_of_occurs
    {shorter longer : List Char}
    (nonempty : shorter ≠ [])
    (occurs : shorter <:+: longer) :
    bestWindow shorter (alignedWindows shorter longer) 0 = 1 := by
  obtain ⟨start, blocks, window⟩ := matchingBlocks_of_occurs nonempty occurs
  have first :
      alignedWindows shorter longer =
        shorter :: (alignedWindows shorter longer).tail := by
    rw [alignedWindows, blocks, List.map_cons, Nat.sub_zero, window,
      List.tail_cons]
  have exits : exactEnough ≤ 1 := by
    norm_num [exactEnough]
  rw [first, bestWindow, ratio_self, if_pos zero_lt_one, if_pos exits]

end Windows

section Quotes

variable [PythonText]

/-- Lower-casing replaces every character by one or more of its own. -/
def LowersByCharacter : Prop :=
  ∃ lowerChar : Char → List Char,
    (∀ c, lowerChar c ≠ []) ∧
      ∀ text, PythonText.lower text = text.flatMap lowerChar

/-- No coverage is above one. -/
theorem quoteCoverage_le_one
    (quote text : String) :
    quoteCoverage quote text ≤ 1 := by
  rw [quoteCoverage]
  split
  · exact zero_le_one
  · exact bestWindow_le_one zero_le_one

/-- A quote that occurs in a text is covered in full. -/
theorem quoteCoverage_eq_one
    {quote text : String}
    (nonempty : normalizedQuote quote ≠ [])
    (occurs : normalizedQuote quote <:+: normalizedQuote text) :
    quoteCoverage quote text = 1 := by
  have textThere : normalizedQuote text ≠ [] := by
    intro nothing
    rw [nothing, List.infix_nil] at occurs
    exact nonempty occurs
  have noLonger := occurs.length_le
  rw [quoteCoverage, if_neg (not_or.mpr ⟨nonempty, textThere⟩), probe, probed,
    if_pos noLonger, if_pos noLonger]
  exact bestWindow_of_occurs nonempty occurs

/-- Stripping and lower-casing keep an occurrence of a stripped quote. -/
theorem normalizedQuote_occurs
    (byCharacter : LowersByCharacter)
    {quote text : String}
    (trimmed : IsTrimmed quote.toList)
    (occurs : quote.toList <:+: text.toList) :
    normalizedQuote quote <:+: normalizedQuote text := by
  obtain ⟨lowerChar, _, lowers⟩ := byCharacter
  obtain ⟨before, after, whole⟩ := infix_stripChars trimmed occurs
  refine ⟨before.flatMap lowerChar, after.flatMap lowerChar, ?_⟩
  rw [normalizedQuote, normalizedQuote, strip, strip, String.toList_ofList,
    String.toList_ofList, lowers, lowers, stripChars_of_isTrimmed trimmed,
    ← whole, List.flatMap_append, List.flatMap_append]

/-- A quote that is not blank is not blank in lower case. -/
theorem normalizedQuote_ne_nil
    (byCharacter : LowersByCharacter)
    {quote : String}
    (trimmed : IsTrimmed quote.toList)
    (quoted : quote ≠ "") :
    normalizedQuote quote ≠ [] := by
  obtain ⟨lowerChar, someCharacter, lowers⟩ := byCharacter
  intro nothing
  rw [normalizedQuote, strip, String.toList_ofList,
    stripChars_of_isTrimmed trimmed, lowers, List.flatMap_eq_nil_iff] at nothing
  have noCharacter : quote.toList = [] := by
    rw [List.eq_nil_iff_forall_not_mem]
    intro c member
    exact someCharacter c (nothing c member)
  exact quoted (String.toList_eq_nil_iff.mp noCharacter)

/-- The best coverage is at most one. -/
theorem bestCoverage_le_one
    {quote : String}
    {sourceTexts : OrderedMap String String}
    {refs : List String}
    {best : ℚ}
    (atMost : best ≤ 1) :
    bestCoverage quote sourceTexts refs best ≤ 1 := by
  induction refs generalizing best with
  | nil =>
      exact atMost
  | cons ref rest inductionHypothesis =>
      simp only [bestCoverage]
      split
      · exact inductionHypothesis atMost
      · split
        · exact inductionHypothesis (quoteCoverage_le_one quote _)
        · exact inductionHypothesis atMost

omit [PythonText] in
/-- The quote of a claim is stripped. -/
theorem isTrimmed_quoteOf
    (claim : Claim) :
    IsTrimmed (quoteOf claim).toList := by
  rw [quoteOf, strip, String.toList_ofList]
  exact isTrimmed_stripChars _

/--
A web claim whose quote occurs in the text of a cited source is verified in
full.
-/
theorem verifyClaim_of_verbatim
    (byCharacter : LowersByCharacter)
    {claim : Claim}
    {sources : OrderedMap String Source}
    {sourceTexts : OrderedMap String String}
    {ref text : String}
    (web : originOf claim sources = .web)
    (quoted : quoteOf claim ≠ "")
    (cited : ref ∈ claim.sourceRefs)
    (isText : sourceTexts.get? ref = some text)
    (occurs : (quoteOf claim).toList <:+: text.toList) :
    (verifyClaim claim sources sourceTexts).verified = true ∧
      (verifyClaim claim sources sourceTexts).status = .verified ∧
        (verifyClaim claim sources sourceTexts).ratio = 1 := by
  have trimmed := isTrimmed_quoteOf claim
  have covered : quoteCoverage (quoteOf claim) text = 1 :=
    quoteCoverage_eq_one (normalizedQuote_ne_nil byCharacter trimmed quoted)
      (normalizedQuote_occurs byCharacter trimmed occurs)
  have present : text ≠ "" := by
    rintro rfl
    rw [String.toList_empty, List.infix_nil, String.toList_eq_nil_iff] at occurs
    exact quoted occurs
  have full :
      bestCoverage (quoteOf claim) sourceTexts claim.sourceRefs 0 = 1 := by
    apply le_antisymm (bestCoverage_le_one zero_le_one)
    rw [le_bestCoverage_iff]
    exact Or.inr ⟨ref, cited, text, present, isText, covered.ge⟩
  have reaches : matchThreshold ≤ 1 := by
    norm_num [matchThreshold]
  have rounded : (roundHalfEven ((1 : ℚ) * 1000) : ℚ) / 1000 = 1 := by
    norm_num [roundHalfEven]
  simp only [verifyClaim, web, full, reaches, decide_true, if_true, rounded,
    and_self]

end Quotes

/-- A claim with a quote from the middle of its web source. -/
theorem verifyClaim_of_verbatim_middle :
    letI := PythonText.ascii
    (verifyClaim
        { claim := "fast", sourceRefs := ["S-1"], notes := " Quick Fox " }
        ⟨[("S-1", { id := "S-1", title := "Tale" })], by simp⟩
        ⟨[("S-1", "The Quick Fox jumps")], by simp⟩).verified = true := by
  let _ := PythonText.ascii
  have byCharacter : LowersByCharacter :=
    ⟨fun c => [c.toLower], fun _ => List.cons_ne_nil _ _, fun text => by
      rw [← List.map_eq_flatMap]
      rfl⟩
  have isText :
      OrderedMap.get? ⟨[("S-1", "The Quick Fox jumps")], by simp⟩ "S-1" =
        some "The Quick Fox jumps" := by
    decide
  exact (verifyClaim_of_verbatim byCharacter (by decide) (by decide)
    (by decide) isText ⟨"The ".toList, " jumps".toList, by decide⟩).1

end ResearchCos
