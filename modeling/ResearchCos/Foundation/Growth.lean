import Mathlib.Data.List.Infix
import ResearchCos.Foundation.OrderedMap

namespace Foundation

/-!
# Records that only grow

A record grows by new entries at its end, and its old entries keep their
positions; a map grows by new keys.  A reader that shows what is new since its
last look shows every entry once, however many arrive between two looks.
-/

variable {α β : Type}

/-! ## Kept positions -/

/-- Every position keeps its entry, changed at most in the allowed way. -/
def KeepsPositions (allowed : α → α → Prop) (before after : List α) : Prop :=
  ∀ (index : Nat) old, before[index]? = some old →
    ∃ new, after[index]? = some new ∧ allowed old new

section Positions

variable {allowed : α → α → Prop} {before middle after : List α}

theorem KeepsPositions.refl
    (same : ∀ entry, allowed entry entry)
    (record : List α) :
    KeepsPositions allowed record record :=
  fun _ old stands => ⟨old, stands, same old⟩

theorem KeepsPositions.trans
    (compose :
      ∀ {old mid new}, allowed old mid → allowed mid new → allowed old new)
    (earlier : KeepsPositions allowed before middle)
    (later : KeepsPositions allowed middle after) :
    KeepsPositions allowed before after := by
  intro index old stands
  obtain ⟨mid, standsMiddle, toMiddle⟩ := earlier index old stands
  obtain ⟨new, standsAfter, toNew⟩ := later index mid standsMiddle
  exact ⟨new, standsAfter, compose toMiddle toNew⟩

/-- Appending entries. -/
theorem KeepsPositions.append
    (kept : KeepsPositions allowed before after)
    (added : List α) :
    KeepsPositions allowed before (after ++ added) := by
  intro index old stands
  obtain ⟨new, standsAfter, toNew⟩ := kept index old stands
  have inside : index < after.length :=
    (List.getElem?_eq_some_iff.mp standsAfter).1
  exact
    ⟨new, (List.getElem?_append_left inside).trans standsAfter, toNew⟩

/-- Entries that correspond one to one. -/
theorem KeepsPositions.of_forall₂
    (related : List.Forall₂ allowed before after) :
    KeepsPositions allowed before after := by
  induction related with
  | nil =>
      intro index old stands
      simp at stands
  | cons toNew _ inductionHypothesis =>
      intro index old stands
      cases index with
      | zero =>
          simp only [List.getElem?_cons_zero, Option.some.injEq] at stands
          exact ⟨_, rfl, stands ▸ toNew⟩
      | succ earlier =>
          exact inductionHypothesis earlier old stands

/-- No entry is lost. -/
theorem KeepsPositions.length_le
    (kept : KeepsPositions allowed before after) :
    before.length ≤ after.length := by
  by_contra shorter
  rw [Nat.not_le] at shorter
  obtain ⟨new, stands, _⟩ :=
    kept after.length before[after.length] (List.getElem?_eq_getElem shorter)
  simp at stands

end Positions

/-! ## Growing maps -/

namespace OrderedMap

variable {κ ν : Type} [DecidableEq κ]

/-- The values in the order of their keys. -/
theorem values_eq_filterMap
    (map : OrderedMap κ ν) :
    map.values = map.keys.filterMap map.get? := by
  have stored :
      ∀ entry ∈ map.entries, map.get? entry.1 = some entry.2 :=
    fun entry member => get?_of_mem_entries member
  rw [values, keys, List.filterMap_map]
  generalize map.entries = entries at stored
  induction entries with
  | nil =>
      rfl
  | cons entry rest inductionHypothesis =>
      have head := stored entry List.mem_cons_self
      have tail :=
        inductionHypothesis fun other member =>
          stored other (List.mem_cons_of_mem _ member)
      rw [List.map_cons, tail,
        List.filterMap_cons_some (Function.comp_apply.trans head)]

/-- Old keys keep their places and values, changed at most as is allowed. -/
structure Grows
    (allowed : ν → ν → Prop)
    (isNew : ν → Prop)
    (before after : OrderedMap κ ν) : Prop where
  keys : before.keys <+: after.keys
  kept : Keeps allowed before after
  added :
    ∀ key value, after.get? key = some value →
      before.get? key = none → isNew value

namespace Grows

variable {allowed : ν → ν → Prop} {isNew : ν → Prop}
  {before middle after : OrderedMap κ ν}

theorem refl
    (same : ∀ value, allowed value value)
    (map : OrderedMap κ ν) :
    Grows allowed isNew map map := by
  refine ⟨List.prefix_rfl, .refl same map, ?_⟩
  intro key value stored absent
  rw [absent] at stored
  cases stored

/-- Growing composes when what is allowed keeps new values new. -/
theorem trans
    (compose :
      ∀ {old mid new}, allowed old mid → allowed mid new → allowed old new)
    (stays : ∀ {old new}, allowed old new → isNew old → isNew new)
    (earlier : Grows allowed isNew before middle)
    (later : Grows allowed isNew middle after) :
    Grows allowed isNew before after := by
  refine
    ⟨earlier.keys.trans later.keys, earlier.kept.trans later.kept compose, ?_⟩
  intro key value stored absent
  cases between : middle.get? key with
  | none =>
      exact later.added key value stored between
  | some mid =>
      obtain ⟨new, storedNew, changed⟩ := later.kept key mid between
      rw [stored] at storedNew
      cases storedNew
      exact stays changed (earlier.added key mid between absent)

theorem mapValues
    {change : ν → ν}
    (changes : ∀ value, allowed value (change value))
    (map : OrderedMap κ ν) :
    Grows allowed isNew map (map.mapValues change) := by
  refine ⟨?_, .mapValues changes map, ?_⟩
  · rw [OrderedMap.mapValues, keys_mapEntries]
  · intro key value stored absent
    rw [get?_mapValues, absent] at stored
    cases stored

/-- Changing one value. -/
theorem modify
    {map : OrderedMap κ ν}
    {key : κ}
    {change : ν → ν}
    (same : ∀ value, allowed value value)
    (changes :
      ∀ value, map.get? key = some value → allowed value (change value)) :
    Grows allowed isNew map (map.modify key change) := by
  refine ⟨?_, ?_, ?_⟩
  · rw [keys_modify]
  · intro other old stored
    rw [get?_modify, stored]
    by_cases isKey : key = other
    · subst isKey
      exact ⟨change old, by simp, changes old stored⟩
    · exact ⟨old, by simp [isKey], same old⟩
  · intro other value stored absent
    rw [get?_modify, absent] at stored
    simp at stored

theorem insert
    {map : OrderedMap κ ν}
    {key : κ}
    {value : ν}
    (same : ∀ value, allowed value value)
    (absent : map.get? key = none)
    (new : isNew value) :
    Grows allowed isNew map (map.insert key value) := by
  refine ⟨keys_prefix_insert map key value, .insert same absent value, ?_⟩
  intro other stored isStored isAbsent
  rw [get?_insert] at isStored
  split at isStored
  · cases isStored
    exact new
  · rw [isAbsent] at isStored
    cases isStored

/-- The old values correspond one to one, and the new ones stand behind them. -/
theorem values
    (grows : Grows allowed isNew before after) :
    ∃ kept added,
      after.values = kept ++ added ∧
        List.Forall₂ allowed before.values kept ∧
        ∀ value ∈ added, isNew value := by
  obtain ⟨newKeys, isKeys⟩ := grows.keys
  have nodup : (before.keys ++ newKeys).Nodup := by
    rw [isKeys]
    exact after.nodupKeys
  refine
    ⟨before.keys.filterMap after.get?, newKeys.filterMap after.get?, ?_, ?_, ?_⟩
  · rw [values_eq_filterMap, ← isKeys, List.filterMap_append]
  · rw [values_eq_filterMap]
    have stored :
        ∀ key ∈ before.keys, ∃ value, before.get? key = some value :=
      fun key member =>
        Option.isSome_iff_exists.mp
          (Option.isSome_iff_ne_none.mpr fun absent =>
            assoc?_eq_none_iff.mp absent member)
    generalize before.keys = keys at stored
    induction keys with
    | nil =>
        exact .nil
    | cons key rest inductionHypothesis =>
        obtain ⟨old, storedOld⟩ := stored key List.mem_cons_self
        obtain ⟨new, storedNew, changed⟩ := grows.kept key old storedOld
        rw [List.filterMap_cons_some storedOld,
          List.filterMap_cons_some storedNew]
        exact
          .cons changed
            (inductionHypothesis fun other member =>
              stored other (List.mem_cons_of_mem _ member))
  · intro value member
    obtain ⟨key, isNewKey, storedValue⟩ := List.mem_filterMap.mp member
    refine grows.added key value storedValue ?_
    refine assoc?_eq_none_iff.mpr fun isOld => ?_
    exact List.disjoint_of_nodup_append nodup isOld isNewKey

end Grows

end OrderedMap

/-! ## Unchanged values -/

/-- A change that changes no value of the map. -/
theorem OrderedMap.mapValues_of_unchanged
    {κ ν : Type}
    {change : ν → ν}
    {map : OrderedMap κ ν}
    (unchanged : ∀ value ∈ map.values, change value = value) :
    map.mapValues change = map := by
  apply OrderedMap.ext_entries
  have entries :
      ∀ entry ∈ map.entries, (entry.1, change entry.2) = entry :=
    fun entry member =>
      Prod.ext rfl (unchanged entry.2 (List.mem_map_of_mem member))
  exact List.map_congr_left entries |>.trans (List.map_id _)

/-! ## Consecutive keys -/

namespace OrderedMap

variable {κ ν : Type} [DecidableEq κ]

/-- The keys are the first names, in order. -/
def Consecutive (name : Nat → κ) (map : OrderedMap κ ν) : Prop :=
  map.keys = (List.range map.size).map fun n => name (n + 1)

namespace Consecutive

variable {name : Nat → κ} {map after : OrderedMap κ ν}

omit [DecidableEq κ] in
theorem empty :
    Consecutive name (∅ : OrderedMap κ ν) :=
  rfl

omit [DecidableEq κ] in
/-- A change that keeps the keys. -/
theorem congr
    (consecutive : Consecutive name map)
    (sameKeys : after.keys = map.keys) :
    Consecutive name after := by
  have sizes : after.size = map.size := by
    simpa only [keys, size, List.length_map] using
      congrArg List.length sameKeys
  rw [Consecutive, sameKeys, sizes]
  exact consecutive

omit [DecidableEq κ] in
theorem mapValues
    (consecutive : Consecutive name map)
    (change : ν → ν) :
    Consecutive name (map.mapValues change) :=
  consecutive.congr (by rw [OrderedMap.mapValues, keys_mapEntries])

theorem modify
    (consecutive : Consecutive name map)
    (key : κ)
    (change : ν → ν) :
    Consecutive name (map.modify key change) :=
  consecutive.congr (keys_modify map key change)

/-- The next name is unused. -/
theorem next_absent
    (consecutive : Consecutive name map)
    (injective : Function.Injective name) :
    map.get? (name (map.size + 1)) = none := by
  have unused : name (map.size + 1) ∉ map.keys := by
    rw [consecutive]
    intro member
    obtain ⟨n, inRange, same⟩ := List.mem_map.mp member
    have isNext := injective same
    have before := List.mem_range.mp inRange
    omega
  exact assoc?_eq_none_iff.mpr unused

/-- A new entry under the next name. -/
theorem insert_next
    (consecutive : Consecutive name map)
    (absent : map.get? (name (map.size + 1)) = none)
    (value : ν) :
    Consecutive name (map.insert (name (map.size + 1)) value) := by
  have keys :
      (map.insert (name (map.size + 1)) value).keys =
        map.keys ++ [name (map.size + 1)] := by
    rw [OrderedMap.keys, entries_insert_of_absent absent, List.map_append]
    rfl
  rw [Consecutive, keys, size_insert_of_absent absent, List.range_succ,
    List.map_append, consecutive]
  rfl

end Consecutive

end OrderedMap

/-! ## Readers -/

/-- A reader of a record: how far it has read, and the chunks it has shown. -/
structure Reader (α : Type) where
  mark : Nat := 0
  shown : List (List α) := []
  deriving Repr, DecidableEq

namespace Reader

/-- Show what the record has beyond the mark, and move the mark to its end. -/
def look (reader : Reader α) (record : List α) : Reader α where
  mark := record.length
  shown := reader.shown ++ [record.drop reader.mark]

/-- The chunks are the record up to the mark, each entry once and in order. -/
def Exact (reader : Reader α) (record : List α) : Prop :=
  reader.mark ≤ record.length ∧
    reader.shown.flatten = record.take reader.mark

/-- A new reader has shown nothing. -/
theorem exact_new
    (record : List α) :
    Exact {} record :=
  ⟨Nat.zero_le _, by simp⟩

/-- Entries that arrive do not change what was shown. -/
theorem Exact.grow
    {reader : Reader α}
    {record longer : List α}
    (isExact : reader.Exact record)
    (grows : record <+: longer) :
    reader.Exact longer := by
  obtain ⟨added, rfl⟩ := grows
  refine ⟨?_, ?_⟩
  · exact isExact.1.trans (by simp)
  · rw [isExact.2, List.take_append_of_le_length isExact.1]

/-- A look shows the rest of the record. -/
theorem Exact.look
    {reader : Reader α}
    {record : List α}
    (isExact : reader.Exact record) :
    (reader.look record).Exact record := by
  refine ⟨le_rfl, ?_⟩
  simp only [Reader.look, List.flatten_append, List.flatten_singleton,
    isExact.2, List.take_append_drop, List.take_length]

/-- After a look everything has been shown. -/
theorem Exact.shown_of_look
    {reader : Reader α}
    {record : List α}
    (isExact : reader.Exact record) :
    (reader.look record).shown.flatten = record := by
  rw [isExact.look.2]
  exact List.take_length

end Reader

end Foundation
