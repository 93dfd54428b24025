import Mathlib.Data.List.Infix
import ResearchCos.Foundation.OrderedMap

namespace Foundation

/-!
# Grouping and choosing

A pass over a list that keeps one accumulated value per key, with the keys in
the order of their first items, and a scan for the first best element under a
strict comparison that is transitive in both directions.
-/

/-! ## Accumulation by key -/

namespace OrderedMap

variable {α κ ν : Type} [DecidableEq κ]

/-- Absorb one item into the value under its key. -/
def absorbItem
    (key : α → κ)
    (absorb : Option ν → α → ν)
    (groups : OrderedMap κ ν)
    (item : α) : OrderedMap κ ν :=
  groups.insert (key item) (absorb (groups.get? (key item)) item)

/-- Absorb every item into the value under its key. -/
def accumulate
    (key : α → κ)
    (absorb : Option ν → α → ν)
    (items : List α) : OrderedMap κ ν :=
  items.foldl (absorbItem key absorb) ∅

theorem accumulate_snoc
    (key : α → κ)
    (absorb : Option ν → α → ν)
    (items : List α)
    (item : α) :
    accumulate key absorb (items ++ [item]) =
      absorbItem key absorb (accumulate key absorb items) item := by
  rw [accumulate, List.foldl_append]
  rfl

/-- The value under a key comes from the items of that key only. -/
theorem get?_accumulate
    (key : α → κ)
    (absorb : Option ν → α → ν)
    (items : List α)
    (query : κ) :
    (accumulate key absorb items).get? query =
      (items.filter fun item => key item = query).foldl
        (fun known item => some (absorb known item)) none := by
  induction items using List.reverseRecOn with
  | nil =>
      rfl
  | append_singleton earlier item inductionHypothesis =>
      rw [accumulate_snoc, absorbItem, get?_insert, List.filter_append,
        List.foldl_append, ← inductionHypothesis]
      by_cases same : key item = query
      · subst same
        simp
      · simp [same]

/-- No value is stored under a key exactly when no item has it. -/
theorem get?_accumulate_eq_none_iff
    {key : α → κ}
    {absorb : Option ν → α → ν}
    {items : List α}
    {query : κ} :
    (accumulate key absorb items).get? query = none ↔
      ∀ item ∈ items, key item ≠ query := by
  have nothing :
      (items.filter fun item => key item = query) = [] ↔
        ∀ item ∈ items, key item ≠ query := by
    simp [List.filter_eq_nil_iff]
  rw [get?_accumulate, ← nothing]
  induction items.filter fun item => key item = query
      using List.reverseRecOn with
  | nil =>
      simp
  | append_singleton earlier item _ =>
      simp [List.foldl_append]

/-- The keys are those of the items. -/
theorem mem_keys_accumulate
    {key : α → κ}
    {absorb : Option ν → α → ν}
    {items : List α}
    {query : κ} :
    query ∈ (accumulate key absorb items).keys ↔
      ∃ item ∈ items, key item = query := by
  rw [← not_iff_not]
  have absent :
      (accumulate key absorb items).get? query = none ↔
        query ∉ (accumulate key absorb items).keys :=
    assoc?_eq_none_iff
  rw [← absent, get?_accumulate_eq_none_iff]
  simp

/-- The keys stand in the order of their first items. -/
theorem keys_accumulate_pairwise
    (key : α → κ)
    (absorb : Option ν → α → ν)
    (items : List α) :
    (accumulate key absorb items).keys.Pairwise fun first second =>
      items.findIdx (fun item => key item = first) <
        items.findIdx fun item => key item = second := by
  induction items using List.reverseRecOn with
  | nil =>
      exact List.Pairwise.nil
  | append_singleton earlier item inductionHypothesis =>
      have keysAfter :
          (accumulate key absorb (earlier ++ [item])).keys =
            if key item ∈ (accumulate key absorb earlier).keys then
              (accumulate key absorb earlier).keys
            else
              (accumulate key absorb earlier).keys ++ [key item] := by
        rw [accumulate_snoc]
        exact keys_assign _ _ _
      -- a key that was there before has its first item where it was
      have foundBefore {query : κ}
          (known : query ∈ (accumulate key absorb earlier).keys) :
          (earlier ++ [item]).findIdx (fun other => key other = query) =
              earlier.findIdx (fun other => key other = query) ∧
            earlier.findIdx (fun other => key other = query) <
              earlier.length := by
        obtain ⟨other, member, named⟩ := mem_keys_accumulate.mp known
        have within :
            earlier.findIdx (fun other => key other = query) <
              earlier.length :=
          List.findIdx_lt_length_of_exists
            ⟨other, member, decide_eq_true named⟩
        exact ⟨by simp [List.findIdx_append, within], within⟩
      have inOrder :
          (accumulate key absorb earlier).keys.Pairwise fun first second =>
            (earlier ++ [item]).findIdx (fun other => key other = first) <
              (earlier ++ [item]).findIdx fun other => key other = second := by
        refine inductionHypothesis.imp_of_mem ?_
        intro first second isFirst isSecond before
        rw [(foundBefore isFirst).1, (foundBefore isSecond).1]
        exact before
      rw [keysAfter]
      split
      · exact inOrder
      · rename_i fresh
        refine List.pairwise_append.mpr ⟨inOrder, by simp, ?_⟩
        intro query known last isLast
        rw [List.mem_singleton.mp isLast, (foundBefore known).1]
        have notBefore :
            earlier.findIdx (fun other => key other = key item) =
              earlier.length := by
          refine List.findIdx_eq_length.mpr fun other member => ?_
          exact
            decide_eq_false fun named =>
              fresh (mem_keys_accumulate.mpr ⟨other, member, named⟩)
        have atEnd :
            (earlier ++ [item]).findIdx (fun other => key other = key item) =
              earlier.length := by
          simp [List.findIdx_append, notBefore]
        rw [atEnd]
        exact (foundBefore known).2

omit [DecidableEq κ] in
/-- A map has several keys exactly when two of its keys differ. -/
theorem one_lt_size_iff
    {map : OrderedMap κ ν} :
    1 < map.size ↔
      ∃ first ∈ map.keys, ∃ second ∈ map.keys, first ≠ second := by
  have distinct : map.keys.Nodup := map.nodupKeys
  have counted : map.size = map.keys.length := by
    simp [size, keys]
  rw [counted]
  generalize map.keys = keys at distinct
  cases keys with
  | nil =>
      simp
  | cons first others =>
      cases others with
      | nil =>
          simp
      | cons second rest =>
          have different : first ≠ second := by
            rintro rfl
            simp at distinct
          refine ⟨fun _ => ⟨first, by simp, second, by simp, different⟩, ?_⟩
          simp

end OrderedMap

/-! ## The first best element -/

section Choice

variable {α : Type}

/-- Keep an element until a strictly better one comes. -/
def firstBest (less : α → α → Bool) (best : α) (later : List α) : α :=
  later.foldl (fun best next => if less best next then next else best) best

/--
The chosen element beats everything before it, and nothing after it beats it.
-/
theorem firstBest_spec
    (less : α → α → Bool)
    (asymmetric :
      ∀ {first second}, less first second = true → less second first = false)
    (notLess_trans :
      ∀ {first second third},
        less first second = false →
        less second third = false →
        less first third = false)
    (head : α)
    (rest : List α) :
    ∃ before after,
      head :: rest = before ++ firstBest less head rest :: after ∧
        (∀ other ∈ before,
          less other (firstBest less head rest) = true) ∧
        ∀ other ∈ after, less (firstBest less head rest) other = false := by
  induction rest using List.reverseRecOn with
  | nil =>
      exact ⟨[], [], rfl, by simp, by simp⟩
  | append_singleton earlier next inductionHypothesis =>
      obtain ⟨before, after, shape, beaten, unbeaten⟩ := inductionHypothesis
      have chosen :
          firstBest less head (earlier ++ [next]) =
            if less (firstBest less head earlier) next then next
            else firstBest less head earlier := by
        rw [firstBest, List.foldl_append]
        rfl
      rw [chosen]
      split
      · rename_i better
        refine ⟨head :: earlier, [], by simp, ?_, by simp⟩
        -- what does not beat the best so far is beaten by what does
        have beats {other : α}
            (noBetter : less (firstBest less head earlier) other = false) :
            less other next = true := by
          by_contra notBeaten
          rw [Bool.not_eq_true] at notBeaten
          rw [notLess_trans noBetter notBeaten] at better
          cases better
        intro other member
        rw [shape, List.mem_append, List.mem_cons] at member
        rcases member with isBefore | isBest | isAfter
        · exact beats (asymmetric (beaten other isBefore))
        · rw [isBest]
          exact better
        · exact beats (unbeaten other isAfter)
      · rename_i noBetter
        rw [Bool.not_eq_true] at noBetter
        refine ⟨before, after ++ [next], ?_, beaten, ?_⟩
        · rw [← List.cons_append, shape, List.append_assoc, List.cons_append]
        intro other member
        rcases List.mem_append.mp member with isAfter | isLast
        · exact unbeaten other isAfter
        · rw [List.mem_singleton.mp isLast]
          exact noBetter

/-- The first best value of a map stands under some key, with all others. -/
theorem firstBest_entries
    {κ : Type}
    (less : α → α → Bool)
    (asymmetric :
      ∀ {first second}, less first second = true → less second first = false)
    (notLess_trans :
      ∀ {first second third},
        less first second = false →
        less second third = false →
        less first third = false)
    {map : OrderedMap κ α}
    {head : α}
    {rest : List α}
    (values : map.values = head :: rest) :
    ∃ before key after,
      map.entries = before ++ (key, firstBest less head rest) :: after ∧
        (∀ entry ∈ before,
          less entry.2 (firstBest less head rest) = true) ∧
        ∀ entry ∈ after,
          less (firstBest less head rest) entry.2 = false := by
  obtain ⟨before, after, shape, beaten, unbeaten⟩ :=
    firstBest_spec less asymmetric notLess_trans head rest
  rw [← values, OrderedMap.values, List.map_eq_append_iff] at shape
  obtain ⟨entriesBefore, fromBest, entries, rfl, isFromBest⟩ := shape
  obtain ⟨entry, entriesAfter, rfl, isBest, rfl⟩ :=
    List.map_eq_cons_iff.mp isFromBest
  refine ⟨entriesBefore, entry.1, entriesAfter, ?_, ?_, ?_⟩
  · rw [← isBest]
    exact entries
  · exact fun other member => beaten other.2 (List.mem_map_of_mem member)
  · exact fun other member => unbeaten other.2 (List.mem_map_of_mem member)

end Choice

end Foundation
