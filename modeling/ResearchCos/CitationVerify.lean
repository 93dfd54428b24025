import ResearchCos.Foundation.SequenceMatcher
import ResearchCos.Text
import ResearchCos.Models

namespace ResearchCos

open Foundation
open Foundation.SequenceMatcher

/-!
# Citation verification

A claim whose cited sources are internal is carried as verified.  Any other
claim is compared with the texts of its cited sources: the shorter of quote and
text probes the longer one, and the best window decides.  Similarity is an
exact rational here, so the comparison with the threshold is exact.
-/

inductive Origin where
  | web
  | internal
  deriving Repr, DecidableEq

inductive VerifyMethod where
  | difflib
  | paperwork
  deriving Repr, DecidableEq

inductive CitationStatus where
  | verified
  | unverified
  | escalated
  | flagged
  deriving Repr, DecidableEq

structure VerifyResult where
  claim : String
  origin : Origin
  verified : Bool
  method : VerifyMethod
  quote : String
  sourceRefs : List String
  ratio : ℚ
  status : CitationStatus
  reason : String
  deriving Repr, DecidableEq

/-- Coverage from which on a quote counts as present. -/
def matchThreshold : ℚ :=
  17 / 20

/-- Similarity from which on no better window is looked for. -/
def exactEnough : ℚ :=
  999 / 1000

/-- The window of the longer text that each matching block aligns the probe to. -/
def alignedWindows (shorter longer : List Char) : List (List Char) :=
  (matchingBlocks false shorter longer).map fun block =>
    (longer.drop (block.b - block.a)).take shorter.length

/-- The best similarity of the probe over a list of windows. -/
def bestWindow (shorter : List Char) : List (List Char) → ℚ → ℚ
  | [], best => best
  | window :: rest, best =>
      let r := ratio false shorter window
      if best < r then
        if exactEnough ≤ r then r else bestWindow shorter rest r
      else
        bestWindow shorter rest best

/-- The shorter of quote and text, which is used as the probe. -/
def probe (q t : List Char) : List Char :=
  if q.length ≤ t.length then q else t

/-- The other one, in which the probe is aligned. -/
def probed (q t : List Char) : List Char :=
  if q.length ≤ t.length then t else q

section Verification

variable [PythonText]

/-- Coverage of a quote by a text. -/
def quoteCoverage (quote text : String) : ℚ :=
  let q := normalizedQuote quote
  let t := normalizedQuote text
  if q = [] ∨ t = [] then
    0
  else
    bestWindow (probe q t) (alignedWindows (probe q t) (probed q t)) 0

/-- Whether a quote counts as present in a source text. -/
def quoteMatches (quote sourceText : String) : Bool :=
  if quote = "" ∨ sourceText = "" then
    false
  else
    matchThreshold ≤ quoteCoverage quote sourceText

omit [PythonText] in
/-- The cited sources that resolve. -/
def resolvedSources
    (claim : Claim)
    (sources : OrderedMap String Source) :
    List Source :=
  claim.sourceRefs.filterMap sources.get?

/-- The origin that governs a claim. -/
def originOf (claim : Claim) (sources : OrderedMap String Source) : Origin :=
  let resolved := resolvedSources claim sources
  if resolved ≠ [] ∧ ∀ source ∈ resolved, source.origin = "internal" then
    .internal
  else
    .web

/-- The quote of a claim: its notes, or its text when it has none. -/
def quoteOf (claim : Claim) : String :=
  strip (if claim.notes = "" then claim.claim else claim.notes)

/-- The best coverage of a quote over the cited texts that are present. -/
def bestCoverage
    (quote : String)
    (sourceTexts : OrderedMap String String) :
    List String → ℚ → ℚ
  | [], best => best
  | ref :: rest, best =>
      let text := (sourceTexts.get? ref).getD ""
      if text = "" then
        bestCoverage quote sourceTexts rest best
      else if best < quoteCoverage quote text then
        bestCoverage quote sourceTexts rest (quoteCoverage quote text)
      else
        bestCoverage quote sourceTexts rest best

/-- Route a claim by the origin of its cited sources. -/
def verifyClaim
    (claim : Claim)
    (sources : OrderedMap String Source)
    (sourceTexts : OrderedMap String String) :
    VerifyResult :=
  match originOf claim sources with
  | .internal =>
      { claim := claim.claim
        origin := .internal
        verified := true
        method := .paperwork
        quote := quoteOf claim
        sourceRefs := claim.sourceRefs
        ratio := 1
        status := .verified
        reason :=
          "internal: paperwork-verified verbatim quote + [[ref]] carried" }
  | .web =>
      let best := bestCoverage (quoteOf claim) sourceTexts claim.sourceRefs 0
      let verified := decide (matchThreshold ≤ best)
      { claim := claim.claim
        origin := .web
        verified := verified
        method := .difflib
        quote := quoteOf claim
        sourceRefs := claim.sourceRefs
        ratio := (roundHalfEven (best * 1000) : ℚ) / 1000
        status := if verified then .verified else .unverified
        reason :=
          if verified then
            "web: quote present in source (coverage >= 0.85)"
          else
            "web: quote NOT present in cited source (coverage < 0.85)" }

end Verification

/-! ## What the loops compute -/

/-- Replacing the best value by a larger one reaches no less. -/
private theorem reach_of_improved
    {threshold best r : ℚ}
    {later : Prop}
    (improves : best < r) :
    threshold ≤ r ∨ later ↔ threshold ≤ best ∨ threshold ≤ r ∨ later := by
  constructor
  · exact Or.inr
  · rintro (already | current)
    · exact Or.inl (le_trans already (le_of_lt improves))
    · exact current

/-- Keeping the best value over a smaller one reaches no less. -/
private theorem reach_of_kept
    {threshold best r : ℚ}
    {later : Prop}
    (noBetter : ¬best < r) :
    threshold ≤ best ∨ later ↔ threshold ≤ best ∨ threshold ≤ r ∨ later := by
  constructor
  · rintro (already | remaining)
    · exact Or.inl already
    · exact Or.inr (Or.inr remaining)
  · rintro (already | current | remaining)
    · exact Or.inl already
    · exact Or.inl (le_trans current (not_lt.mp noBetter))
    · exact Or.inr remaining

/-- A threshold below the exit bound is reached exactly when some window reaches it. -/
theorem le_bestWindow_iff
    {shorter : List Char}
    {windows : List (List Char)}
    {best threshold : ℚ}
    (belowExit : threshold ≤ exactEnough) :
    threshold ≤ bestWindow shorter windows best ↔
      threshold ≤ best ∨
        ∃ window ∈ windows, threshold ≤ ratio false shorter window := by
  induction windows generalizing best with
  | nil =>
      simp [bestWindow]
  | cons window rest inductionHypothesis =>
      simp only [bestWindow, List.mem_cons, exists_eq_or_imp]
      split
      · rename_i improves
        rw [← reach_of_improved improves]
        split
        · rename_i exits
          have reached : threshold ≤ ratio false shorter window :=
            le_trans belowExit exits
          simp [reached]
        · exact inductionHypothesis
      · rename_i noBetter
        rw [← reach_of_kept noBetter]
        exact inductionHypothesis

/-- The threshold lies strictly between nothing and the exit bound. -/
theorem matchThreshold_bounds :
    0 < matchThreshold ∧ matchThreshold ≤ exactEnough := by
  norm_num [matchThreshold, exactEnough]

section Verification

variable [PythonText]

/-- A cited text that is present and not empty. -/
def IsCitedText
    (claim : Claim)
    (sourceTexts : OrderedMap String String)
    (text : String) : Prop :=
  text ≠ "" ∧ ∃ ref ∈ claim.sourceRefs, sourceTexts.get? ref = some text

/-- The best coverage reaches a threshold exactly when some cited text does. -/
theorem le_bestCoverage_iff
    {quote : String}
    {sourceTexts : OrderedMap String String}
    {refs : List String}
    {best threshold : ℚ} :
    threshold ≤ bestCoverage quote sourceTexts refs best ↔
      threshold ≤ best ∨
        ∃ ref ∈ refs, ∃ text, text ≠ "" ∧
          sourceTexts.get? ref = some text ∧
            threshold ≤ quoteCoverage quote text := by
  induction refs generalizing best with
  | nil =>
      simp [bestCoverage]
  | cons ref rest inductionHypothesis =>
      simp only [bestCoverage, List.mem_cons, exists_eq_or_imp]
      cases found : sourceTexts.get? ref with
      | none =>
          simp [inductionHypothesis]
      | some text =>
          by_cases empty : text = ""
          · simp [empty, inductionHypothesis]
          · simp only [Option.getD_some, empty, ↓reduceIte,
              Option.some.injEq, ne_eq]
            have here :
                (∃ candidate, ¬candidate = "" ∧ text = candidate ∧
                  threshold ≤ quoteCoverage quote candidate) ↔
                  threshold ≤ quoteCoverage quote text := by
              constructor
              · rintro ⟨_, _, rfl, reaches⟩
                exact reaches
              · intro reaches
                exact ⟨text, empty, rfl, reaches⟩
            rw [here]
            split
            · rename_i improves
              rw [← reach_of_improved improves]
              exact inductionHypothesis
            · rename_i noBetter
              rw [← reach_of_kept noBetter]
              exact inductionHypothesis

/-- The text check: some cited text covers the quote up to the threshold. -/
def PassesTextCheck
    (claim : Claim)
    (sourceTexts : OrderedMap String String) : Prop :=
  ∃ text, IsCitedText claim sourceTexts text ∧
    matchThreshold ≤ quoteCoverage (quoteOf claim) text

/-- A web claim is verified exactly when it passes the text check. -/
theorem verifyClaim_web_verified_iff
    {claim : Claim}
    {sources : OrderedMap String Source}
    {sourceTexts : OrderedMap String String}
    (web : originOf claim sources = .web) :
    (verifyClaim claim sources sourceTexts).verified = true ↔
      PassesTextCheck claim sourceTexts := by
  have notBelow : ¬matchThreshold ≤ 0 :=
    not_le.mpr matchThreshold_bounds.1
  simp only [verifyClaim, web, decide_eq_true_eq, le_bestCoverage_iff,
    notBelow, false_or, PassesTextCheck, IsCitedText]
  constructor
  · rintro ⟨ref, cited, text, present, found, reaches⟩
    exact ⟨text, ⟨present, ref, cited, found⟩, reaches⟩
  · rintro ⟨text, ⟨present, ref, cited, found⟩, reaches⟩
    exact ⟨ref, cited, text, present, found, reaches⟩

/-- An internal claim is carried: verified, by paperwork, without a text check. -/
theorem verifyClaim_internal
    {claim : Claim}
    {sources : OrderedMap String Source}
    (sourceTexts : OrderedMap String String)
    (carried : originOf claim sources = .internal) :
    (verifyClaim claim sources sourceTexts).verified = true ∧
      (verifyClaim claim sources sourceTexts).method = .paperwork := by
  simp [verifyClaim, carried]

/-- The method of a result tells the origin that governed the claim. -/
theorem verifyClaim_method_paperwork_iff
    {claim : Claim}
    {sources : OrderedMap String Source}
    {sourceTexts : OrderedMap String String} :
    (verifyClaim claim sources sourceTexts).method = .paperwork ↔
      originOf claim sources = .internal := by
  cases governed : originOf claim sources <;> simp [verifyClaim, governed]

end Verification

/-! ## What a verdict depends on -/

/-- The origin of a claim depends on the origins of its sources only. -/
theorem originOf_congr
    {claim : Claim}
    {first second : OrderedMap String Source}
    (sameOrigins :
      ∀ ref,
        (first.get? ref).map Source.origin =
          (second.get? ref).map Source.origin) :
    originOf claim first = originOf claim second := by
  have byOrigins (sources : OrderedMap String Source) :
      originOf claim sources =
        if (resolvedSources claim sources).map Source.origin ≠ [] ∧
            ∀ origin ∈ (resolvedSources claim sources).map Source.origin,
              origin = "internal" then
          .internal
        else
          .web := by
    simp only [originOf, ne_eq, List.map_eq_nil_iff, List.forall_mem_map]
  have sameResolved :
      (resolvedSources claim first).map Source.origin =
        (resolvedSources claim second).map Source.origin := by
    rw [resolvedSources, resolvedSources, List.map_filterMap,
      List.map_filterMap]
    exact List.filterMap_congr fun ref _ => sameOrigins ref
  rw [byOrigins, byOrigins, sameResolved]

section Verification

variable [PythonText]

/-- The best coverage depends on the texts that are found only. -/
theorem bestCoverage_congr
    {quote : String}
    {first second : OrderedMap String String}
    (sameTexts : ∀ ref, first.get? ref = second.get? ref)
    (refs : List String)
    (best : ℚ) :
    bestCoverage quote first refs best =
      bestCoverage quote second refs best := by
  induction refs generalizing best with
  | nil =>
      rfl
  | cons ref rest inductionHypothesis =>
      simp only [bestCoverage, sameTexts, inductionHypothesis]

/-- A verdict depends on the origins and the texts of the sources only. -/
theorem verifyClaim_congr
    {claim : Claim}
    {sources otherSources : OrderedMap String Source}
    {texts otherTexts : OrderedMap String String}
    (sameOrigins :
      ∀ ref,
        (sources.get? ref).map Source.origin =
          (otherSources.get? ref).map Source.origin)
    (sameTexts : ∀ ref, texts.get? ref = otherTexts.get? ref) :
    verifyClaim claim sources texts =
      verifyClaim claim otherSources otherTexts := by
  simp only [verifyClaim, originOf_congr sameOrigins,
    bestCoverage_congr sameTexts]

end Verification

end ResearchCos
