import Mathlib.Data.List.Basic
import ResearchCos.Foundation.OrderedMap

namespace Foundation

/-!
# Items in buckets

A pass over a list that appends a name of each item to the bucket of its key.
The buckets stand from the start, and every item whose key has one is in one.
-/

/-- The buckets of all keys hold all items. -/
theorem flatMap_filter_perm
    {α κ : Type}
    [DecidableEq κ]
    (key : α → κ)
    {keys : List κ}
    (distinct : keys.Nodup)
    {items : List α}
    (covered : ∀ item ∈ items, key item ∈ keys) :
    (keys.flatMap fun bucket => items.filter fun item => key item = bucket).Perm
      items := by
  induction keys generalizing items with
  | nil =>
      cases items with
      | nil => exact .nil
      | cons item rest => cases covered item List.mem_cons_self
  | cons head keys inductionHypothesis =>
      obtain ⟨unlisted, distinctRest⟩ := List.nodup_cons.mp distinct
      let others := items.filter fun item => !decide (key item = head)
      have coveredRest : ∀ item ∈ others, key item ∈ keys := by
        intro item member
        obtain ⟨inItems, other⟩ := List.mem_filter.mp member
        have listed := List.mem_cons.mp (covered item inItems)
        exact listed.resolve_left (by simpa using other)
      have sameBuckets :
          (keys.flatMap fun bucket =>
              items.filter fun item => key item = bucket) =
            keys.flatMap fun bucket =>
              others.filter fun item => key item = bucket := by
        refine List.flatMap_congr fun bucket member => ?_
        rw [List.filter_filter]
        refine List.filter_congr fun item _ => ?_
        by_cases same : key item = bucket
        · have notHead : bucket ≠ head := by
            rintro rfl
            exact unlisted member
          simp [same, notHead]
        · simp [same]
      rw [List.flatMap_cons, sameBuckets]
      have restInBuckets := inductionHypothesis distinctRest coveredRest
      exact
        (restInBuckets.append_left _).trans
          (List.filter_append_perm (fun item => decide (key item = head)) items)

namespace OrderedMap

variable {α β κ : Type} [DecidableEq κ]

/-- Append the names of the items to the buckets of their keys. -/
def appendItems
    (key : α → κ)
    (name : α → β)
    (items : List α)
    (buckets : OrderedMap κ (List β)) : OrderedMap κ (List β) :=
  items.foldl
    (fun buckets item => buckets.modify (key item) (· ++ [name item])) buckets

@[simp] theorem keys_appendItems
    (key : α → κ)
    (name : α → β)
    (items : List α)
    (buckets : OrderedMap κ (List β)) :
    (appendItems key name items buckets).keys = buckets.keys := by
  induction items generalizing buckets with
  | nil =>
      rfl
  | cons item rest inductionHypothesis =>
      rw [appendItems, List.foldl_cons]
      exact (inductionHypothesis _).trans (keys_modify _ _ _)

/-- A bucket gets the items of its key, in order. -/
theorem get?_appendItems
    (key : α → κ)
    (name : α → β)
    (items : List α)
    (buckets : OrderedMap κ (List β))
    (bucket : κ) :
    (appendItems key name items buckets).get? bucket =
      (buckets.get? bucket).map
        (· ++ (items.filter fun item => key item = bucket).map name) := by
  induction items generalizing buckets with
  | nil =>
      simp [appendItems]
  | cons item rest inductionHypothesis =>
      rw [appendItems, List.foldl_cons]
      refine (inductionHypothesis _).trans ?_
      rw [get?_modify]
      by_cases same : key item = bucket
      · cases buckets.get? bucket <;> simp [same]
      · simp [same]

/-- The values stand in the order of their keys. -/
theorem values_eq_map_keys
    {ν : Type}
    {map : OrderedMap κ ν}
    {value : κ → ν}
    (stored : ∀ key ∈ map.keys, map.get? key = some (value key)) :
    map.values = map.keys.map value := by
  rw [values, keys, List.map_map]
  refine List.map_congr_left fun entry member => ?_
  have found := get?_of_mem_entries member
  rw [stored entry.1 (List.mem_map_of_mem member)] at found
  exact (Option.some.inj found).symm

/-- Values under their own names are named as their keys. -/
theorem KeyedBy.map_name_values
    {ν : Type}
    {name : ν → κ}
    {map : OrderedMap κ ν}
    (keyed : KeyedBy name map) :
    map.values.map name = map.keys := by
  rw [values, keys, List.map_map]
  refine List.map_congr_left fun entry member => ?_
  exact keyed entry.1 entry.2 (get?_of_mem_entries member)

/-- A value that is stored under its name is found by its name. -/
theorem KeyedBy.exists_named_iff
    {ν : Type}
    {name : ν → κ}
    {map : OrderedMap κ ν}
    (keyed : KeyedBy name map)
    (property : ν → Prop)
    (key : κ) :
    (∃ value ∈ map.values, property value ∧ name value = key) ↔
      ∃ value, (key, value) ∈ map.entries ∧ property value := by
  constructor
  · rintro ⟨value, member, has, rfl⟩
    obtain ⟨⟨other, stored⟩, isEntry, rfl⟩ := List.mem_map.mp member
    have isKey := keyed other stored (get?_of_mem_entries isEntry)
    exact ⟨stored, isKey ▸ isEntry, has⟩
  · rintro ⟨value, isEntry, has⟩
    have isKey := keyed key value (get?_of_mem_entries isEntry)
    exact ⟨value, List.mem_map_of_mem isEntry, has, isKey⟩

end OrderedMap

end Foundation
