import Mathlib.Data.List.Dedup
import ResearchCos.Foundation.FirstOccurrence
import ResearchCos.Foundation.StableSort
import ResearchCos.Ranking

namespace ResearchCos

open Foundation
open Foundation.FirstOccurrence
open Foundation.StableSort

/-!
# The ranking is a stable top-k

The heuristic deduplicates in one loop and sorts in reverse by relevance,
authority and the negated position.  Read as a whole it is the stable order of
the first sources of every address, cut off at `top_k`.  The normalization of
addresses is a parameter here.
-/

namespace Ranking

section Heuristic

variable [PythonText]

/-- The lower-cased keywords, without empty ones, each of them once. -/
def keywordSet (issueKeywords : List (List Char)) : List (List Char) :=
  ((issueKeywords.filter fun keyword => keyword ≠ []).map
    PythonText.lower).dedup

/-- The number of keywords in the title; nothing is relevant to no keywords. -/
def overlap (keywords : List (List Char)) (source : Source) : Nat :=
  if keywords = [] then 0 else relevance keywords source

/-- Drop junk, and keep the first source of every normalized address. -/
def survivorsBy
    (normalize : Option String → Option String) :
    List Source → List String → List Source
  | [], _ => []
  | source :: rest, seenUrls =>
      if isJunk source then
        survivorsBy normalize rest seenUrls
      else
        match normalize source.url with
        | none => source :: survivorsBy normalize rest seenUrls
        | some norm =>
            if norm ∈ seenUrls then
              survivorsBy normalize rest seenUrls
            else
              source :: survivorsBy normalize rest (norm :: seenUrls)

/-- The key of a source at its position among the survivors. -/
def sortKey
    (keywords : List (List Char))
    (place : Source × Nat) : Nat × Nat × Int :=
  (overlap keywords place.1, authority place.1, -(place.2 : Int))

omit [PythonText] in
/-- Keys are compared component by component. -/
def keyLe (first second : Nat × Nat × Int) : Prop :=
  first.1 < second.1 ∨
    first.1 = second.1 ∧
      (first.2.1 < second.2.1 ∨
        first.2.1 = second.2.1 ∧ first.2.2 ≤ second.2.2)

omit [PythonText] in
instance : DecidableRel keyLe := fun _ _ =>
  inferInstanceAs (Decidable (_ ∨ _ ∧ (_ ∨ _ ∧ _)))

/-- The first `topK` sources by descending key. -/
def rankBy
    (normalize : Option String → Option String)
    (sources : List Source)
    (issueKeywords : List (List Char))
    (topK : Int) : List Source :=
  if sources = [] then
    []
  else
    let keywords := keywordSet issueKeywords
    let indexed := (survivorsBy normalize sources []).zipIdx
    let ordered :=
      (indexed.insertionSort fun first second =>
        keyLe (sortKey keywords second) (sortKey keywords first)).map Prod.fst
    ordered.take (max 0 topK).toNat

/-! ## The loop and the sort -/

/-- The sources that are no junk. -/
def withoutJunk (sources : List Source) : List Source :=
  sources.filter fun source => !isJunk source

/-- The first source of every address, and every source without one. -/
def firstOfAddress
    (normalize : Option String → Option String)
    (sources : List Source) : List Source :=
  firsts (fun source => normalize source.url) sources

/-- The loop keeps the first sources of an address among those without junk. -/
theorem survivorsBy_eq_keepFirst
    (normalize : Option String → Option String)
    (sources : List Source)
    (seenUrls : List String) :
    survivorsBy normalize sources seenUrls =
      keepFirst (fun source => normalize source.url) (withoutJunk sources)
        seenUrls := by
  induction sources generalizing seenUrls with
  | nil =>
      rfl
  | cons source rest inductionHypothesis =>
      rw [survivorsBy, withoutJunk, List.filter_cons]
      by_cases junk : isJunk source = true
      · rw [if_pos junk, inductionHypothesis, junk]
        rfl
      · have proper : (!isJunk source) = true := by
          simpa using junk
        rw [if_neg junk, if_pos proper, keepFirst]
        simp only [inductionHypothesis]
        cases normalize source.url with
        | none =>
            rfl
        | some norm =>
            rfl

/-- No keywords count nothing, with or without the shortcut. -/
theorem overlap_eq_relevance
    (keywords : List (List Char))
    (source : Source) :
    overlap keywords source = relevance keywords source := by
  unfold overlap
  split
  · rename_i noKeywords
    simp [noKeywords, relevance]
  · rfl

/-- The reversed comparison of keys is the order with ties by position. -/
theorem keyLe_sortKey_iff
    {keywords : List (List Char)}
    {first second : Source × Nat} :
    keyLe (sortKey keywords second) (sortKey keywords first) ↔
      InOrder (ranksBefore keywords) first second := by
  simp only [keyLe, sortKey, overlap_eq_relevance, InOrder, ranksBefore]
  constructor
  · rintro (better | ⟨sameRelevance, better | ⟨sameAuthority, later⟩⟩)
    · exact ⟨Or.inl better, by omega⟩
    · exact ⟨Or.inr ⟨sameRelevance, better.le⟩, by omega⟩
    · exact ⟨Or.inr ⟨sameRelevance, sameAuthority.le⟩, by omega⟩
  · rintro ⟨better | ⟨sameRelevance, authoritative⟩, tie⟩
    · exact Or.inl better
    · refine Or.inr ⟨sameRelevance, ?_⟩
      rcases Nat.lt_or_eq_of_le authoritative with more | same
      · exact Or.inl more
      · have later := tie (Or.inr ⟨sameRelevance.symm, same.ge⟩)
        exact Or.inr ⟨same, by omega⟩

instance ranksBefore_total (keywords : List (List Char)) :
    Std.Total (ranksBefore keywords) where
  total first second := by
    simp only [ranksBefore]
    omega

instance ranksBefore_trans (keywords : List (List Char)) :
    IsTrans Source (ranksBefore keywords) where
  trans first second third := by
    simp only [ranksBefore]
    omega

/-- The ranking sorts the first sources of every address and cuts them off. -/
theorem rankBy_eq_take
    (normalize : Option String → Option String)
    (sources : List Source)
    (issueKeywords : List (List Char))
    (topK : Int) :
    rankBy normalize sources issueKeywords topK =
      ((firstOfAddress normalize (withoutJunk sources)).insertionSort
        (ranksBefore (keywordSet issueKeywords))).take topK.toNat := by
  have limit : (max 0 topK).toNat = topK.toNat := by
    omega
  have sameOrder (places : List (Source × Nat)) :
      (places.insertionSort fun first second =>
          keyLe (sortKey (keywordSet issueKeywords) second)
            (sortKey (keywordSet issueKeywords) first)) =
        places.insertionSort
          (InOrder (ranksBefore (keywordSet issueKeywords))) :=
    insertionSort_congr _ (fun _ _ => keyLe_sortKey_iff) places
  unfold rankBy
  split
  · rename_i noSources
    simp [noSources, firstOfAddress, withoutJunk, firsts]
  · rw [survivorsBy_eq_keepFirst, keepFirst_nil, limit,
      ← map_insertionSort_zipIdx _ _ 0]
    simp only [sameOrder]
    rfl

/--
The ranking is the stable top-k of the first sources of every address.  It has
no address twice and no junk, and only sources that were given.
-/
theorem rankBy_isStableTopK
    (normalize : Option String → Option String)
    (sources : List Source)
    (issueKeywords : List (List Char))
    (topK : Int) :
    (∃ ordered,
        IsStableOrder (ranksBefore (keywordSet issueKeywords))
            (firstOfAddress normalize (withoutJunk sources)) ordered ∧
          rankBy normalize sources issueKeywords topK =
            ordered.take (max 0 topK).toNat) ∧
      ((rankBy normalize sources issueKeywords topK).filterMap
        fun source => normalize source.url).Nodup ∧
      (∀ source ∈ rankBy normalize sources issueKeywords topK,
        isJunk source = false) ∧
      (rankBy normalize sources issueKeywords topK).Subperm sources := by
  have limit : (max 0 topK).toNat = topK.toNat := by
    omega
  have isKept :
      firstOfAddress normalize (withoutJunk sources) =
        keepFirst (fun source => normalize source.url) (withoutJunk sources)
          [] :=
    (keepFirst_nil _).symm
  have inKept :
      (rankBy normalize sources issueKeywords topK).Subperm
        (firstOfAddress normalize (withoutJunk sources)) := by
    rw [rankBy_eq_take]
    exact
      (List.take_sublist _ _).subperm.trans
        (List.perm_insertionSort _ _).subperm
  have inSources :
      (firstOfAddress normalize (withoutJunk sources)).Sublist
        (withoutJunk sources) := by
    rw [isKept]
    exact keepFirst_sublist _ _
  refine ⟨⟨_, isStableOrder_insertionSort _ _, ?_⟩, ?_, ?_, ?_⟩
  · rw [rankBy_eq_take, limit]
  · have distinct :
        ((firstOfAddress normalize (withoutJunk sources)).filterMap
          fun source => normalize source.url).Nodup := by
      rw [isKept]
      exact (nodup_keys_keepFirst (withoutJunk sources) []).1
    obtain ⟨arranged, permuted, part⟩ := inKept
    have permutedKeys :=
      permuted.filterMap fun source : Source => normalize source.url
    exact permutedKeys.nodup_iff.mp (distinct.sublist (part.filterMap _))
  · intro source member
    have proper :=
      List.of_mem_filter (inSources.subset (inKept.subset member))
    simpa using proper
  · exact
      inKept.trans
        ((inSources.trans List.filter_sublist).subperm)

/-! ## The ranking of the pipeline -/

/-- The deduplication of the pipeline is the loop with its normalization. -/
theorem survivorsBy_normalizeUrl
    (sources : List Source)
    (seenUrls : List String) :
    survivorsBy normalizeUrl sources seenUrls =
      dedupSources sources seenUrls := by
  induction sources generalizing seenUrls with
  | nil =>
      rfl
  | cons source rest inductionHypothesis =>
      cases address : normalizeUrl source.url with
      | none =>
          simp only [survivorsBy, dedupSources, address, inductionHypothesis]
      | some norm =>
          simp only [survivorsBy, dedupSources, address, inductionHypothesis]

/-- For keywords that are not empty the ranking is the one of the pipeline. -/
theorem rankBy_normalizeUrl
    {issueKeywords : List (List Char)}
    (proper : ∀ keyword ∈ issueKeywords, keyword ≠ [])
    (sources : List Source)
    (topK : Nat) :
    rankBy normalizeUrl sources issueKeywords topK =
      rank sources issueKeywords topK := by
  have allProper :
      (issueKeywords.filter fun keyword => keyword ≠ []) = issueKeywords :=
    List.filter_eq_self.mpr fun keyword member =>
      decide_eq_true (proper keyword member)
  rw [rankBy_eq_take, rank, ← survivorsBy_normalizeUrl,
    survivorsBy_eq_keepFirst, keepFirst_nil, Int.toNat_natCast]
  congr 1
  refine insertionSort_congr _ (fun first second => ?_) _
  simp only [ranksBefore, relevance, keywordSet, allProper, List.mem_dedup]

end Heuristic

end Ranking

end ResearchCos
