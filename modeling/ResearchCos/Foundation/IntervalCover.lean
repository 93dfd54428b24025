import Mathlib.Algebra.Order.BigOperators.Group.Finset
import Mathlib.Data.Finset.Prod
import Mathlib.Order.Interval.Finset.Basic

namespace Foundation.IntervalCover

/-!
# What a list of intervals covers

The intervals of a list may overlap, repeat and run backwards.  A list covers
few points exactly when each of its intervals is short and only a few of them
are different, where one that runs backwards counts for nothing.
-/

variable {α : Type} [LinearOrder α] [LocallyFiniteOrder α]

/-- The points that a list of intervals covers. -/
def covered (ranges : List (α × α)) : Finset α :=
  ranges.toFinset.biUnion fun range => Finset.Icc range.1 range.2

/-- The different intervals of a list that do not run backwards. -/
def forward (ranges : List (α × α)) : Finset (α × α) :=
  ranges.toFinset.filter fun range => range.1 ≤ range.2

/-- An interval of a list is covered. -/
theorem Icc_subset_covered
    {ranges : List (α × α)}
    {range : α × α}
    (member : range ∈ ranges) :
    Finset.Icc range.1 range.2 ⊆ covered ranges :=
  Finset.subset_biUnion_of_mem
    (fun range : α × α => Finset.Icc range.1 range.2)
    (List.mem_toFinset.mpr member)

/-- No interval is longer than what the list covers. -/
theorem card_Icc_le_card_covered
    {ranges : List (α × α)}
    {range : α × α}
    (member : range ∈ ranges) :
    (Finset.Icc range.1 range.2).card ≤ (covered ranges).card :=
  Finset.card_le_card (Icc_subset_covered member)

/-- An interval is given by two points that it covers. -/
theorem forward_subset_product
    (ranges : List (α × α)) :
    forward ranges ⊆ covered ranges ×ˢ covered ranges := by
  intro range member
  obtain ⟨isListed, isForward⟩ := Finset.mem_filter.mp member
  have inside := Icc_subset_covered (List.mem_toFinset.mp isListed)
  exact
    Finset.mem_product.mpr
      ⟨inside (Finset.left_mem_Icc.mpr isForward),
        inside (Finset.right_mem_Icc.mpr isForward)⟩

/-- Few points leave room for few intervals. -/
theorem card_forward_le
    (ranges : List (α × α)) :
    (forward ranges).card ≤ (covered ranges).card * (covered ranges).card := by
  rw [← Finset.card_product]
  exact Finset.card_le_card (forward_subset_product ranges)

/-- The intervals that run backwards cover nothing. -/
theorem covered_eq_biUnion_forward
    (ranges : List (α × α)) :
    covered ranges =
      (forward ranges).biUnion fun range => Finset.Icc range.1 range.2 := by
  ext point
  simp only [covered, forward, Finset.mem_biUnion, Finset.mem_filter,
    Finset.mem_Icc]
  constructor
  · rintro ⟨range, isListed, after, before⟩
    exact ⟨range, ⟨isListed, after.trans before⟩, after, before⟩
  · rintro ⟨range, ⟨isListed, _⟩, after, before⟩
    exact ⟨range, isListed, after, before⟩

/-- A few short intervals cover a few points. -/
theorem card_covered_le
    {ranges : List (α × α)}
    {span : Nat}
    (short : ∀ range ∈ ranges, (Finset.Icc range.1 range.2).card ≤ span) :
    (covered ranges).card ≤ (forward ranges).card * span := by
  rw [covered_eq_biUnion_forward]
  apply Finset.card_biUnion_le_card_mul
  intro range member
  exact short range (List.mem_toFinset.mp (Finset.mem_filter.mp member).1)

/--
The lists of a family cover boundedly many points exactly when their intervals
have a bounded length and a bounded number.
-/
theorem covered_bounded_iff
    (family : Set (List (α × α))) :
    (∃ bound, ∀ ranges ∈ family, (covered ranges).card ≤ bound) ↔
      ∃ cap, ∀ ranges ∈ family,
        (∀ range ∈ ranges, (Finset.Icc range.1 range.2).card ≤ cap) ∧
          (forward ranges).card ≤ cap := by
  constructor
  · rintro ⟨bound, bounded⟩
    refine ⟨bound + bound * bound, ?_⟩
    intro ranges member
    have few := bounded ranges member
    refine ⟨?_, ?_⟩
    · intro range isListed
      exact
        ((card_Icc_le_card_covered isListed).trans few).trans
          (Nat.le_add_right _ _)
    · exact
        ((card_forward_le ranges).trans (Nat.mul_le_mul few few)).trans
          (Nat.le_add_left _ _)
  · rintro ⟨cap, capped⟩
    refine ⟨cap * cap, ?_⟩
    intro ranges member
    obtain ⟨short, few⟩ := capped ranges member
    exact (card_covered_le short).trans (Nat.mul_le_mul_right cap few)

end Foundation.IntervalCover
