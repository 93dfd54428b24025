import Mathlib.Data.List.Sort

namespace Foundation.StableSort

open List

/-!
# The best few of a list

A stable sort puts the elements of a part of a list in the order that they have
in the sorted whole.  So the best few of a part are the best few of the whole
exactly when these lie in the part.  Whether a place of a list is one of the
best few is a matter of how many places are ahead of it.
-/

variable {α : Type}
variable (r : α → α → Prop) [DecidableRel r]

omit [DecidableRel r] in
/-- Equivalent comparisons sort alike. -/
theorem insertionSort_congr
    {s : α → α → Prop}
    [DecidableRel r]
    [DecidableRel s]
    (same : ∀ first second, r first second ↔ s first second)
    (items : List α) :
    items.insertionSort r = items.insertionSort s := by
  have sameRelation : r = s := by
    funext first second
    exact propext (same first second)
  subst sameRelation
  congr

section Filter

variable [Std.Total r] [IsTrans α r]

omit [Std.Total r] in
/-- Inserting in order commutes with a filter. -/
theorem filter_orderedInsert
    {keep : α → Bool}
    (item : α)
    {items : List α}
    (sorted : items.Pairwise r) :
    (items.orderedInsert r item).filter keep =
      if keep item then
        (items.filter keep).orderedInsert r item
      else
        items.filter keep := by
  induction items with
  | nil =>
      simp [List.filter_cons]
  | cons head rest inductionHypothesis =>
      have restSorted := (List.pairwise_cons.mp sorted).2
      have afterHead := (List.pairwise_cons.mp sorted).1
      by_cases here : r item head
      · -- everything from here on comes after the item, kept or not
        rw [List.orderedInsert_cons_of_le r rest here, List.filter_cons]
        split
        · have behind :
              ∀ other ∈ (head :: rest).filter keep, r item other := by
            intro other member
            rcases List.mem_cons.mp (List.mem_of_mem_filter member) with
              rfl | inRest
            · exact here
            · exact IsTrans.trans _ _ _ here (afterHead other inRest)
          cases kept : (head :: rest).filter keep with
          | nil =>
              rfl
          | cons next later =>
              rw [List.orderedInsert_cons_of_le r later
                (behind next (kept ▸ List.mem_cons_self))]
        · rfl
      · rw [List.orderedInsert_of_not_le r rest here, List.filter_cons,
          inductionHypothesis restSorted]
        by_cases keptHead : keep head = true
        · rw [if_pos keptHead, List.filter_cons_of_pos keptHead]
          split
          · rw [List.orderedInsert_of_not_le r _ here]
          · rfl
        · rw [if_neg keptHead, List.filter_cons_of_neg keptHead]

/-- A stable sort commutes with a filter. -/
theorem filter_insertionSort
    (keep : α → Bool)
    (items : List α) :
    (items.insertionSort r).filter keep =
      (items.filter keep).insertionSort r := by
  induction items with
  | nil =>
      rfl
  | cons head rest inductionHypothesis =>
      rw [List.insertionSort_cons,
        filter_orderedInsert r head (List.pairwise_insertionSort r rest),
        List.filter_cons, inductionHypothesis]
      split
      · rfl
      · rfl

/-- The best few of a part are those of the whole when these lie in the part. -/
theorem take_insertionSort_filter_iff
    (keep : α → Bool)
    (items : List α)
    (count : Nat) :
    ((items.filter keep).insertionSort r).take count =
        (items.insertionSort r).take count ↔
      ∀ item ∈ (items.insertionSort r).take count, keep item = true := by
  rw [← filter_insertionSort]
  constructor
  · intro same item member
    rw [← same] at member
    exact List.of_mem_filter (List.mem_of_mem_take member)
  · intro allKept
    nth_rewrite 1 [← List.take_append_drop count (items.insertionSort r)]
    rw [List.filter_append, List.filter_eq_self.mpr allKept]
    rcases Nat.le_total count (items.insertionSort r).length with
      enough | tooFew
    · exact List.take_left' (List.length_take_of_le enough)
    · rw [List.drop_eq_nil_of_le tooFew, List.filter_nil, List.append_nil,
        List.take_take, Nat.min_self]

end Filter

/-! ## Ranks -/

section Rank

/-- One place is sorted before another: it is better, or as good and no later. -/
def InOrder (first second : α × Nat) : Prop :=
  r first.1 second.1 ∧ (r second.1 first.1 → first.2 ≤ second.2)

/-- One place is ahead of another: it is better, or as good and earlier. -/
def Ahead (first second : α × Nat) : Prop :=
  r first.1 second.1 ∧ (r second.1 first.1 → first.2 < second.2)

instance : DecidableRel (InOrder r) := fun _ _ =>
  inferInstanceAs (Decidable (_ ∧ _))

instance : DecidableRel (Ahead r) := fun _ _ =>
  inferInstanceAs (Decidable (_ ∧ _))

/-- How many places of a list are ahead of one of them. -/
def rank (items : List α) (place : α × Nat) : Nat :=
  items.zipIdx.countP fun other => decide (Ahead r other place)

/-- Places are sorted as the items are: a later item never overtakes. -/
theorem map_orderedInsert_places
    {item : α}
    {position : Nat}
    {places : List (α × Nat)}
    (later : ∀ place ∈ places, position ≤ place.2) :
    (places.orderedInsert (InOrder r) (item, position)).map Prod.fst =
      (places.map Prod.fst).orderedInsert r item := by
  induction places with
  | nil =>
      rfl
  | cons head rest inductionHypothesis =>
      have sameTest : InOrder r (item, position) head ↔ r item head.1 :=
        ⟨fun inOrder => inOrder.1,
          fun better => ⟨better, fun _ => later head List.mem_cons_self⟩⟩
      rw [List.orderedInsert_cons, List.map_cons, List.orderedInsert_cons]
      by_cases here : r item head.1
      · rw [if_pos (sameTest.mpr here), if_pos here]
        rfl
      · rw [if_neg fun inOrder => here (sameTest.mp inOrder), if_neg here,
          List.map_cons,
          inductionHypothesis fun place member =>
            later place (List.mem_cons_of_mem _ member)]

/-- Sorting the places sorts the items. -/
theorem map_insertionSort_zipIdx
    (items : List α)
    (start : Nat) :
    ((items.zipIdx start).insertionSort (InOrder r)).map Prod.fst =
      items.insertionSort r := by
  induction items generalizing start with
  | nil =>
      rfl
  | cons head rest inductionHypothesis =>
      rw [List.zipIdx_cons, List.insertionSort_cons, List.insertionSort_cons,
        map_orderedInsert_places, inductionHypothesis]
      intro place member
      rw [List.mem_insertionSort] at member
      exact Nat.le_of_succ_le (List.le_snd_of_mem_zipIdx member)

variable [Std.Total r] [IsTrans α r]

instance : Std.Total (InOrder r) where
  total first second := by
    by_cases forward : r first.1 second.1
    · by_cases backward : r second.1 first.1
      · rcases Nat.le_total first.2 second.2 with earlier | later
        · exact Or.inl ⟨forward, fun _ => earlier⟩
        · exact Or.inr ⟨backward, fun _ => later⟩
      · exact Or.inl ⟨forward, fun other => absurd other backward⟩
    · have backward := (Std.Total.total first.1 second.1).resolve_left forward
      exact Or.inr ⟨backward, fun other => absurd other forward⟩

omit [DecidableRel r] [Std.Total r] in
instance : IsTrans (α × Nat) (InOrder r) where
  trans first second third := by
    rintro ⟨firstBetter, firstTie⟩ ⟨secondBetter, secondTie⟩
    refine ⟨IsTrans.trans _ _ _ firstBetter secondBetter, fun back => ?_⟩
    exact
      (firstTie (IsTrans.trans _ _ _ secondBetter back)).trans
        (secondTie (IsTrans.trans _ _ _ back firstBetter))

omit [Std.Total r] [IsTrans α r] in
/-- In a sorted list of places the ones ahead of a place stand before it. -/
theorem countP_ahead
    {front back : List (α × Nat)}
    {place : α × Nat}
    (sorted : (front ++ place :: back).Pairwise (InOrder r))
    (distinct : ((front ++ place :: back).map Prod.snd).Nodup) :
    (front ++ place :: back).countP
        (fun other => decide (Ahead r other place)) =
      front.length := by
  obtain ⟨_, afterFront, beforePlace⟩ := List.pairwise_append.mp sorted
  have behind := (List.pairwise_cons.mp afterFront).1
  rw [List.map_append, List.map_cons] at distinct
  have apart := (List.nodup_append.mp distinct).2.2
  have frontAhead :
      ∀ other ∈ front, decide (Ahead r other place) = true := by
    intro other member
    obtain ⟨better, tie⟩ := beforePlace other member place List.mem_cons_self
    have notSame : other.2 ≠ place.2 :=
      apart _ (List.mem_map_of_mem member) _ List.mem_cons_self
    exact
      decide_eq_true
        ⟨better, fun back => Nat.lt_of_le_of_ne (tie back) notSame⟩
  have notAhead : ¬Ahead r place place := fun ⟨better, tie⟩ =>
    Nat.lt_irrefl _ (tie better)
  have backBehind :
      ∀ other ∈ back, ¬decide (Ahead r other place) = true := by
    intro other member isAhead
    obtain ⟨better, tie⟩ := behind other member
    obtain ⟨backwards, earlier⟩ := of_decide_eq_true isAhead
    exact Nat.not_le_of_lt (earlier better) (tie backwards)
  rw [List.countP_append, List.countP_cons_of_neg (by simpa using notAhead),
    List.countP_eq_length.mpr frontAhead, List.countP_eq_zero.mpr backBehind,
    Nat.add_zero]

/-- The places that a sort puts first are those with few ahead of them. -/
theorem mem_take_insertionSort_iff
    {items : List α}
    {place : α × Nat}
    (member : place ∈ items.zipIdx)
    (count : Nat) :
    place ∈ (items.zipIdx.insertionSort (InOrder r)).take count ↔
      rank r items place < count := by
  have permuted := List.perm_insertionSort (InOrder r) items.zipIdx
  have sorted := List.pairwise_insertionSort (InOrder r) items.zipIdx
  have distinct :
      ((items.zipIdx.insertionSort (InOrder r)).map Prod.snd).Nodup := by
    rw [(permuted.map Prod.snd).nodup_iff, List.zipIdx_map_snd]
    exact List.nodup_range'
  obtain ⟨front, back, shape⟩ :=
    List.append_of_mem (permuted.mem_iff.mpr member)
  rw [rank, ← permuted.countP_eq]
  rw [shape] at sorted distinct ⊢
  rw [countP_ahead r sorted distinct]
  have notInFront : place ∉ front := by
    intro inFront
    have nodup := List.Nodup.of_map _ distinct
    exact
      (List.nodup_append.mp nodup).2.2 _ inFront _ List.mem_cons_self rfl
  rw [List.take_append, List.mem_append]
  constructor
  · rintro (inFront | inRest)
    · exact absurd (List.mem_of_mem_take inFront) notInFront
    · by_contra few
      rw [Nat.sub_eq_zero_of_le (Nat.le_of_not_lt few)] at inRest
      cases inRest
  · intro few
    refine Or.inr ?_
    rw [← Nat.succ_pred_eq_of_pos (Nat.sub_pos_of_lt few),
      List.take_succ_cons]
    exact List.mem_cons_self

/--
The best few of a list carry different keys exactly when, of any two places
with the same key, one has enough places ahead of it.
-/
theorem nodup_take_insertionSort_iff
    {β : Type}
    (key : α → β)
    (items : List α)
    (count : Nat) :
    (((items.insertionSort r).take count).map key).Nodup ↔
      ∀ first ∈ items.zipIdx, ∀ second ∈ items.zipIdx,
        first.2 < second.2 → key first.1 = key second.1 →
        count ≤ rank r items first ∨ count ≤ rank r items second := by
  have permuted := List.perm_insertionSort (InOrder r) items.zipIdx
  have distinct : items.zipIdx.Nodup := by
    refine List.Nodup.of_map Prod.snd ?_
    rw [List.zipIdx_map_snd]
    exact List.nodup_range'
  have distinctBest :
      ((items.zipIdx.insertionSort (InOrder r)).take count).Nodup :=
    (permuted.nodup_iff.mpr distinct).sublist (List.take_sublist _ _)
  rw [← map_insertionSort_zipIdx r items 0, ← List.map_take, List.map_map,
    List.nodup_map_iff_inj_on distinctBest]
  constructor
  · intro injective first isFirst second isSecond earlier sameKey
    by_contra few
    rw [not_or, Nat.not_le, Nat.not_le] at few
    have same :=
      injective first ((mem_take_insertionSort_iff r isFirst count).mpr few.1)
        second ((mem_take_insertionSort_iff r isSecond count).mpr few.2)
        sameKey
    rw [same] at earlier
    exact Nat.lt_irrefl _ earlier
  · intro apart first isFirst second isSecond sameKey
    have firstIn := permuted.mem_iff.mp (List.mem_of_mem_take isFirst)
    have secondIn := permuted.mem_iff.mp (List.mem_of_mem_take isSecond)
    have fewFirst := (mem_take_insertionSort_iff r firstIn count).mp isFirst
    have fewSecond := (mem_take_insertionSort_iff r secondIn count).mp isSecond
    rcases Nat.lt_trichotomy first.2 second.2 with earlier | same | later
    · rcases apart first firstIn second secondIn earlier sameKey with
        many | many
      · exact absurd many (Nat.not_le_of_lt fewFirst)
      · exact absurd many (Nat.not_le_of_lt fewSecond)
    · have sameItem :=
        (List.mk_mem_zipIdx_iff_getElem?.mp firstIn).symm.trans
          (same ▸ List.mk_mem_zipIdx_iff_getElem?.mp secondIn)
      exact Prod.ext (Option.some.inj sameItem) same
    · rcases apart second secondIn first firstIn later sameKey.symm with
        many | many
      · exact absurd many (Nat.not_le_of_lt fewSecond)
      · exact absurd many (Nat.not_le_of_lt fewFirst)

/-! ## Stable orders -/

/--
A list in order, ties as they come: its places are arranged so that each one is
ahead of those behind it.
-/
def IsStableOrder (items ordered : List α) : Prop :=
  ∃ places : List (α × Nat),
    places.Perm items.zipIdx ∧
      places.Pairwise (Ahead r) ∧
      ordered = places.map Prod.fst

omit [DecidableRel r] [Std.Total r] [IsTrans α r] in
/-- There is only one stable order of a list. -/
theorem IsStableOrder.unique
    {items first second : List α}
    (isFirst : IsStableOrder r items first)
    (isSecond : IsStableOrder r items second) :
    first = second := by
  obtain ⟨places, permuted, inOrder, rfl⟩ := isFirst
  obtain ⟨others, otherPermuted, otherInOrder, rfl⟩ := isSecond
  have same : places = others := by
    refine
      List.Perm.eq_of_pairwise (fun one other _ _ forward backward => ?_)
        inOrder otherInOrder (permuted.trans otherPermuted.symm)
    exact
      absurd (forward.2 backward.1) (Nat.lt_asymm (backward.2 forward.1))
  rw [same]

/-- The sorted list is the stable order. -/
theorem isStableOrder_insertionSort
    (items : List α) :
    IsStableOrder r items (items.insertionSort r) := by
  have permuted := List.perm_insertionSort (InOrder r) items.zipIdx
  have distinct :
      ((items.zipIdx.insertionSort (InOrder r)).map Prod.snd).Nodup := by
    rw [(permuted.map Prod.snd).nodup_iff, List.zipIdx_map_snd]
    exact List.nodup_range'
  refine ⟨_, permuted, ?_, (map_insertionSort_zipIdx r items 0).symm⟩
  rw [List.Nodup, List.pairwise_map] at distinct
  refine (List.pairwise_insertionSort (InOrder r) _).imp₂ ?_ distinct
  rintro first second ⟨better, tie⟩ apart
  exact ⟨better, fun back => Nat.lt_of_le_of_ne (tie back) apart⟩

/-- An item is among the best few when few places are ahead of one of its own. -/
theorem mem_take_items_iff
    {items : List α}
    {item : α}
    {count : Nat} :
    item ∈ (items.insertionSort r).take count ↔
      ∃ position,
        items[position]? = some item ∧
          rank r items (item, position) < count := by
  have permuted := List.perm_insertionSort (InOrder r) items.zipIdx
  rw [← map_insertionSort_zipIdx r items 0, ← List.map_take, List.mem_map]
  constructor
  · rintro ⟨⟨_, position⟩, member, rfl⟩
    have isPlace := permuted.mem_iff.mp (List.mem_of_mem_take member)
    exact
      ⟨position, List.mk_mem_zipIdx_iff_getElem?.mp isPlace,
        (mem_take_insertionSort_iff r isPlace count).mp member⟩
  · rintro ⟨position, isItem, few⟩
    have isPlace : (item, position) ∈ items.zipIdx :=
      List.mk_mem_zipIdx_iff_getElem?.mpr isItem
    exact
      ⟨(item, position), (mem_take_insertionSort_iff r isPlace count).mpr few,
        rfl⟩

end Rank

end Foundation.StableSort
