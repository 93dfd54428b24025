import ResearchCos.KeptQuotes
import ResearchCos.UncheckedRatings

namespace ResearchCos

open Foundation

/-!
# What the source critic leaves alone

The critic rates the sources and the claims of a bundle.  Its remark on a claim
goes to the field that holds the verbatim quote of the claim, which is what the
citation is verified against later.
-/

/-! ## A bundle without its ratings -/

/-- A source as it is without what the critic says about it. -/
def Source.withoutRating (source : Source) : Source :=
  { source with quality := .unknown, sourceType := .secondary }

/-- A claim as it is without its confidence. -/
def Claim.withoutRating (claim : Claim) : Claim :=
  { claim with confidence := 0 }

/-- A bundle as it is without its ratings. -/
def EvidenceBundle.withoutRatings (bundle : EvidenceBundle) : EvidenceBundle :=
  { bundle with
    sources := bundle.sources.map Source.withoutRating
    claims := bundle.claims.map Claim.withoutRating }

/-- The last remark of the critic on the claim at a position. -/
def IsLastRemark
    (position : Nat)
    (ratings : List RatedClaim)
    (remark : String) : Prop :=
  ∃ earlier rated later,
    ratings = earlier ++ rated :: later ∧
      rated.index = some (position : Int) ∧
      rated.notes = some remark ∧ remark ≠ "" ∧
      ∀ other ∈ later,
        other.index = some (position : Int) → isSet other.notes = false

/-- The last remark on every claim, if there is one, repeats its quote. -/
def RawCritique.RemarksRepeatQuotes
    (critique : RawCritique)
    (bundle : EvidenceBundle) : Prop :=
  ∀ position claim remark,
    bundle.claims[position]? = some claim →
    IsLastRemark position critique.claims remark →
    remark = claim.notes

/-! ## What one rating does -/

/-- A source keeps everything but its ratings. -/
theorem withoutRating_rateSource
    (sources : List Source)
    (rated : RatedSource) :
    (RealSourceCritic.rateSource sources rated).map Source.withoutRating =
      sources.map Source.withoutRating := by
  unfold RealSourceCritic.rateSource
  split
  · rfl
  · rename_i position _
    refine List.ext_getElem? fun other => ?_
    rw [List.getElem?_map, List.getElem?_map, List.getElem?_modify,
      Option.map_eq_map, Option.map_map]
    congr 1
    funext source
    by_cases here : position = other
    · simp [here, RealSourceCritic.annotate, Source.withoutRating]
    · simp [here]

/-- All ratings leave everything of the sources but the ratings. -/
theorem withoutRating_foldl_rateSource
    (ratings : List RatedSource)
    (sources : List Source) :
    (ratings.foldl RealSourceCritic.rateSource sources).map
        Source.withoutRating =
      sources.map Source.withoutRating := by
  induction ratings generalizing sources with
  | nil =>
      rfl
  | cons rated later inductionHypothesis =>
      rw [List.foldl_cons, inductionHypothesis, withoutRating_rateSource]

/-- The remark that is kept for the claim at a position. -/
def lastRemark (position : Nat) : List RatedClaim → Option String
  | [] => none
  | rated :: later =>
      (lastRemark position later).or
        (if rated.index = some (position : Int) ∧ isSet rated.notes then
          rated.notes
        else
          none)

/-- There is no remark exactly when no rating of the position has one. -/
theorem lastRemark_eq_none_iff
    {position : Nat}
    {ratings : List RatedClaim} :
    lastRemark position ratings = none ↔
      ∀ rated ∈ ratings,
        rated.index = some (position : Int) → isSet rated.notes = false := by
  induction ratings with
  | nil =>
      simp [lastRemark]
  | cons rated later inductionHypothesis =>
      simp only [lastRemark, Option.or_eq_none_iff, inductionHypothesis,
        List.forall_mem_cons]
      have thisOne :
          (if rated.index = some (position : Int) ∧ isSet rated.notes then
              rated.notes
            else
              none) = none ↔
            (rated.index = some (position : Int) →
              isSet rated.notes = false) := by
        cases rated.notes <;> simp [isSet]
      rw [thisOne, and_comm]

/-- The kept remark is the last one. -/
theorem lastRemark_eq_some_iff
    {position : Nat}
    {ratings : List RatedClaim}
    {remark : String} :
    lastRemark position ratings = some remark ↔
      IsLastRemark position ratings remark := by
  induction ratings with
  | nil =>
      simp [lastRemark, IsLastRemark]
  | cons rated later inductionHypothesis =>
      rw [lastRemark, Option.or_eq_some_iff, inductionHypothesis,
        lastRemark_eq_none_iff]
      constructor
      · rintro (⟨earlier, last, rest, rfl, isLast⟩ | ⟨noneLater, thisOne⟩)
        · exact ⟨rated :: earlier, last, rest, rfl, isLast⟩
        · split at thisOne
          · rename_i here
            refine ⟨[], rated, later, rfl, here.1, thisOne, ?_, noneLater⟩
            rintro rfl
            rw [thisOne] at here
            cases here.2
          · cases thisOne
      · rintro ⟨earlier, last, rest, same, index, notes, proper, noneLater⟩
        cases earlier with
        | nil =>
            cases same
            refine Or.inr ⟨noneLater, ?_⟩
            rw [if_pos ⟨index, by simp [notes, isSet, proper]⟩, notes]
        | cons first earlier =>
            cases same
            exact
              Or.inl
                ⟨earlier, last, rest, rfl, index, notes, proper, noneLater⟩

/-- One rating leaves a claim everything but its confidence and its remark. -/
theorem withoutRating_rateClaim
    (claims : List Claim)
    (rated : RatedClaim)
    (position : Nat) :
    (RealSourceCritic.rateClaim claims rated)[position]?.map
        Claim.withoutRating =
      claims[position]?.map fun claim =>
        { claim.withoutRating with
          notes := (lastRemark position [rated]).getD claim.notes } := by
  rw [RealSourceCritic.getElem?_rateClaim, Option.map_map]
  congr 1
  funext claim
  by_cases here : rated.index = some (position : Int)
  · cases notes : rated.notes with
    | none =>
        simp [here, notes, lastRemark, isSet, orDefault, Claim.withoutRating]
    | some text =>
        by_cases blank : text = ""
        · simp [here, notes, blank, lastRemark, isSet, orDefault,
            Claim.withoutRating]
        · simp [here, notes, blank, lastRemark, isSet, orDefault,
            Claim.withoutRating]
  · simp [here, lastRemark, Claim.withoutRating]

/-- All ratings leave a claim everything but these, with the last remark. -/
theorem withoutRating_foldl_rateClaim
    (ratings : List RatedClaim)
    (claims : List Claim)
    (position : Nat) :
    (ratings.foldl RealSourceCritic.rateClaim claims)[position]?.map
        Claim.withoutRating =
      claims[position]?.map fun claim =>
        { claim.withoutRating with
          notes := (lastRemark position ratings).getD claim.notes } := by
  induction ratings generalizing claims with
  | nil =>
      rfl
  | cons rated later inductionHypothesis =>
      have first := withoutRating_rateClaim claims rated position
      have laterRemark :
          (fun claim : Claim =>
              { claim.withoutRating with
                notes := (lastRemark position later).getD claim.notes }) =
            (fun claim : Claim =>
              { claim with
                notes := (lastRemark position later).getD claim.notes }) ∘
              Claim.withoutRating := rfl
      rw [List.foldl_cons, inductionHypothesis, laterRemark, ← Option.map_map,
        first, Option.map_map]
      simp only [lastRemark, Option.none_or, Option.getD_or]
      rfl

/-! ## The verdicts -/

/-- The last source of an identifier, by its rating-free form. -/
private theorem get?_sourcesById_withoutRating
    (sources : List Source)
    (ref : String) :
    ((sourcesById sources).get? ref).map Source.withoutRating =
      (sources.map Source.withoutRating).reverse.find? fun source =>
        source.id = ref := by
  rw [sourcesById, get?_insertSources, OrderedMap.get?_empty, Option.or_none,
    ← List.map_reverse, List.find?_map]
  rfl

section Verdicts

variable [PythonText]

/-- The verdict on a claim against some sources and their texts. -/
def verdict (sources : List Source) (claim : Claim) : VerifyResult :=
  verifyClaim claim (sourcesById sources)
    (DecisionMemo.sourceTexts (sourcesById sources))

/-- The ratings of the sources do not decide a verdict. -/
theorem verdict_withoutRatings
    {sources rated : List Source}
    (same :
      rated.map Source.withoutRating = sources.map Source.withoutRating)
    (claim : Claim) :
    verdict rated claim = verdict sources claim := by
  have sameSource (ref : String) :
      ((sourcesById rated).get? ref).map Source.withoutRating =
        ((sourcesById sources).get? ref).map Source.withoutRating := by
    rw [get?_sourcesById_withoutRating, get?_sourcesById_withoutRating, same]
  refine verifyClaim_congr (fun ref => ?_) fun ref => ?_
  · have sameOrigin := congrArg (Option.map Source.origin) (sameSource ref)
    rw [Option.map_map, Option.map_map] at sameOrigin
    exact sameOrigin
  · have sameText := congrArg (Option.map Source.excerpt) (sameSource ref)
    rw [Option.map_map, Option.map_map] at sameText
    rw [DecisionMemo.sourceTexts, DecisionMemo.sourceTexts,
      OrderedMap.get?_mapValues, OrderedMap.get?_mapValues]
    exact sameText

/--
A review changes nothing but the ratings, and every claim has the same verdict
as before, whatever other sources are known.
-/
structure KeepsVerdicts (bundle reviewed : EvidenceBundle) : Prop where
  onlyRatings : reviewed.withoutRatings = bundle.withoutRatings
  sameVerdicts :
    ∀ (before after : List Source) (position : Nat),
      reviewed.claims[position]?.map
          (verdict (before ++ reviewed.sources ++ after)) =
        bundle.claims[position]?.map
          (verdict (before ++ bundle.sources ++ after))

/-- Verdicts are kept when nothing but the ratings changes. -/
theorem KeepsVerdicts.of_onlyRatings
    {bundle reviewed : EvidenceBundle}
    (onlyRatings : reviewed.withoutRatings = bundle.withoutRatings) :
    KeepsVerdicts bundle reviewed := by
  refine ⟨onlyRatings, ?_⟩
  intro before after position
  have sameClaims := congrArg EvidenceBundle.claims onlyRatings
  have sameSources := congrArg EvidenceBundle.sources onlyRatings
  simp only [EvidenceBundle.withoutRatings] at sameClaims sameSources
  have sameKnown :
      (before ++ reviewed.sources ++ after).map Source.withoutRating =
        (before ++ bundle.sources ++ after).map Source.withoutRating := by
    rw [List.map_append, List.map_append, sameSources, ← List.map_append,
      ← List.map_append]
  have here := congrArg (fun claims => claims[position]?) sameClaims
  simp only [List.getElem?_map] at here
  have judged :=
    congrArg (Option.map (verdict (before ++ bundle.sources ++ after))) here
  rw [Option.map_map, Option.map_map] at judged
  calc
    _ =
        reviewed.claims[position]?.map
          (verdict (before ++ bundle.sources ++ after)) := by
      congr 1
      funext claim
      exact verdict_withoutRatings sameKnown claim
    _ = _ := judged

omit [PythonText] in
/-- The remarks decide whether a review changes nothing but ratings. -/
theorem onlyRatings_iff
    (critique : RawCritique)
    (bundle : EvidenceBundle) :
    EvidenceBundle.withoutRatings
          { bundle with
            sources :=
              critique.sources.foldl RealSourceCritic.rateSource bundle.sources
            claims :=
              critique.claims.foldl RealSourceCritic.rateClaim
                bundle.claims } =
        bundle.withoutRatings ↔
      critique.RemarksRepeatQuotes bundle := by
  have assigned := withoutRating_foldl_rateClaim critique.claims bundle.claims
  simp only [EvidenceBundle.withoutRatings, withoutRating_foldl_rateSource,
    EvidenceBundle.mk.injEq, true_and, and_true]
  constructor
  · intro same position claim remark isClaim isLast
    have here := congrArg (fun claims => claims[position]?) same
    simp only [List.getElem?_map] at here
    rw [assigned, isClaim, lastRemark_eq_some_iff.mpr isLast, Option.map_some,
      Option.map_some, Option.some.injEq] at here
    exact congrArg Claim.notes here
  · intro repeats
    refine List.ext_getElem? fun position => ?_
    rw [List.getElem?_map, List.getElem?_map, assigned]
    cases isClaim : bundle.claims[position]? with
    | none =>
        rfl
    | some claim =>
        cases remarked : lastRemark position critique.claims with
        | none =>
            rfl
        | some remark =>
            have same :=
              repeats position claim remark isClaim
                (lastRemark_eq_some_iff.mp remarked)
            rw [Option.map_some, Option.map_some, Option.getD_some, same]
            rfl

/--
A review leaves everything but the ratings, and every verdict, exactly when the
last remark on every claim repeats its quote.
-/
theorem review_keepsVerdicts_iff
    (critique : RawCritique)
    (bundle : EvidenceBundle) :
    (∃ reviewed,
        RealSourceCritic.review (fun _ => some critique) bundle =
            some reviewed ∧
          KeepsVerdicts bundle reviewed) ↔
      critique.RemarksRepeatQuotes bundle := by
  by_cases nothing : bundle.sources = [] ∧ bundle.claims = []
  · refine iff_of_true ⟨bundle, ?_, .of_onlyRatings rfl⟩ ?_
    · rw [RealSourceCritic.review, if_pos nothing]
    · intro position claim remark isClaim
      rw [nothing.2] at isClaim
      cases isClaim
  · rw [RealSourceCritic.review, if_neg nothing, Option.map_some]
    simp only [Option.some.injEq, exists_eq_left']
    rw [← onlyRatings_iff]
    exact ⟨KeepsVerdicts.onlyRatings, .of_onlyRatings⟩

end Verdicts

/-! ## A remark in place of a quote -/

/-- A claim with the quote of its source. -/
def quotedBundle : EvidenceBundle where
  query := "fox"
  claims := [{ claim := "it is fast", sourceRefs := ["S-1"], notes := "fox" }]
  sources := [{ id := "S-1", title := "Tale", excerpt := "fox" }]

/-- The critic rates the claim and says why. -/
def remarkingCritique : RawCritique where
  claims := [{ index := some 0, confidence := some 2, notes := some "ad" }]

/-- The reviewed bundle: the quote is gone. -/
def remarkedBundle : EvidenceBundle :=
  { quotedBundle with
    claims :=
      [{ claim := "it is fast"
         sourceRefs := ["S-1"]
         confidence := 2
         notes := "ad" }] }

/-- The quote of the claim is verified, and the remark on it is not. -/
theorem remark_loses_verification :
    letI := PythonText.ascii
    RealSourceCritic.review (fun _ => some remarkingCritique) quotedBundle =
        some remarkedBundle ∧
      ¬KeepsVerdicts quotedBundle remarkedBundle ∧
      (quotedBundle.claims.map (verdict quotedBundle.sources)).map
          VerifyResult.verified = [true] ∧
      (remarkedBundle.claims.map (verdict remarkedBundle.sources)).map
          VerifyResult.verified = [false] := by
  let _ := PythonText.ascii
  have reviewed :
      RealSourceCritic.review (fun _ => some remarkingCritique) quotedBundle =
        some remarkedBundle := by
    decide
  have before :
      (quotedBundle.claims.map (verdict quotedBundle.sources)).map
        VerifyResult.verified = [true] := by
    decide +kernel
  have after :
      (remarkedBundle.claims.map (verdict remarkedBundle.sources)).map
        VerifyResult.verified = [false] := by
    decide +kernel
  refine ⟨reviewed, ?_, before, after⟩
  intro keeps
  have changed := congrArg EvidenceBundle.claims keeps.onlyRatings
  revert changed
  decide

end ResearchCos
