import Mathlib.Data.List.Nodup

namespace Foundation

/-!
# Insertion-ordered dictionaries

A finite map that keeps its keys in the order of their first insertion.
Assigning to a present key replaces its value in place; assigning to an absent
key appends it.  The duplicate-freeness of the keys is part of the type, so
lookup and enumeration can never disagree.
-/

section Associations

variable {κ ν μ : Type} [DecidableEq κ]

/-- First value stored under a key. -/
def assoc? (key : κ) : List (κ × ν) → Option ν
  | [] => none
  | (head, value) :: rest =>
      if head = key then some value else assoc? key rest

/-- Replace the value under a key in place, or append a new association. -/
def assign (key : κ) (value : ν) : List (κ × ν) → List (κ × ν)
  | [] => [(key, value)]
  | (head, old) :: rest =>
      if head = key then
        (head, value) :: rest
      else
        (head, old) :: assign key value rest

/-- Assignment keeps the old keys in order and appends at most the new one. -/
theorem keys_assign
    (key : κ)
    (value : ν)
    (entries : List (κ × ν)) :
    (assign key value entries).map Prod.fst =
      if key ∈ entries.map Prod.fst then
        entries.map Prod.fst
      else
        entries.map Prod.fst ++ [key] := by
  induction entries with
  | nil =>
      simp [assign]
  | cons entry rest inductionHypothesis =>
      rcases entry with ⟨head, old⟩
      by_cases same : head = key
      · simp [assign, same]
      · have keyNeHead : key ≠ head := Ne.symm same
        simp only [assign, same, ↓reduceIte, List.map_cons,
          inductionHypothesis, List.mem_cons, keyNeHead, false_or]
        split <;> simp

/-- Lookup after assignment. -/
theorem assoc?_assign
    (key query : κ)
    (value : ν)
    (entries : List (κ × ν)) :
    assoc? query (assign key value entries) =
      if key = query then some value else assoc? query entries := by
  induction entries with
  | nil =>
      simp [assign, assoc?]
  | cons entry rest inductionHypothesis =>
      rcases entry with ⟨head, old⟩
      by_cases same : head = key
      · subst head
        by_cases queried : key = query
        · simp [assign, assoc?, queried]
        · simp [assign, assoc?, queried]
      · by_cases queried : head = query
        · subst query
          have keyNeHead : key ≠ head := Ne.symm same
          simp [assign, assoc?, same, keyNeHead]
        · simp [assign, assoc?, same, queried, inductionHypothesis]

/-- A key has a value exactly when it occurs among the keys. -/
theorem assoc?_eq_none_iff
    {key : κ}
    {entries : List (κ × ν)} :
    assoc? key entries = none ↔ key ∉ entries.map Prod.fst := by
  induction entries with
  | nil =>
      simp [assoc?]
  | cons entry rest inductionHypothesis =>
      rcases entry with ⟨head, value⟩
      by_cases same : head = key
      · simp [assoc?, same]
      · simp [assoc?, same, Ne.symm same, inductionHypothesis]

/-- With duplicate-free keys every stored association is found by lookup. -/
theorem assoc?_of_mem
    {key : κ}
    {value : ν}
    {entries : List (κ × ν)}
    (noDuplicates : (entries.map Prod.fst).Nodup)
    (member : (key, value) ∈ entries) :
    assoc? key entries = some value := by
  induction entries with
  | nil =>
      simp at member
  | cons entry rest inductionHypothesis =>
      rcases entry with ⟨head, stored⟩
      simp only [List.map_cons, List.nodup_cons] at noDuplicates
      rcases List.mem_cons.mp member with atHead | inRest
      · cases atHead
        simp [assoc?]
      · have headNeKey : head ≠ key := by
          intro same
          subst head
          exact noDuplicates.1 (List.mem_map.mpr ⟨_, inRest, rfl⟩)
        simp [assoc?, headNeKey,
          inductionHypothesis noDuplicates.2 inRest]

/-- What lookup finds is stored. -/
theorem mem_of_assoc?
    {key : κ}
    {value : ν}
    {entries : List (κ × ν)}
    (found : assoc? key entries = some value) :
    (key, value) ∈ entries := by
  induction entries with
  | nil =>
      cases found
  | cons entry rest inductionHypothesis =>
      rcases entry with ⟨head, stored⟩
      simp only [assoc?] at found
      split at found
      · rename_i same
        cases found
        exact same ▸ List.mem_cons_self
      · exact List.mem_cons_of_mem _ (inductionHypothesis found)

/-- Lookup commutes with a transformation of the stored values. -/
theorem assoc?_map
    (change : κ → ν → μ)
    (key : κ)
    (entries : List (κ × ν)) :
    assoc? key (entries.map fun entry => (entry.1, change entry.1 entry.2)) =
      (assoc? key entries).map (change key) := by
  induction entries with
  | nil =>
      rfl
  | cons entry rest inductionHypothesis =>
      rcases entry with ⟨head, value⟩
      by_cases same : head = key
      · simp [assoc?, same]
      · simp [assoc?, same, inductionHypothesis]

/-- Only the last assignment to a key counts. -/
theorem assign_assign
    (key : κ)
    (first second : ν)
    (entries : List (κ × ν)) :
    assign key second (assign key first entries) =
      assign key second entries := by
  induction entries with
  | nil =>
      simp [assign]
  | cons entry rest inductionHypothesis =>
      rcases entry with ⟨head, old⟩
      by_cases same : head = key
      · simp [assign, same]
      · simp [assign, same, inductionHypothesis]

end Associations

/-- A dictionary whose enumeration order is the order of first insertion. -/
structure OrderedMap (κ ν : Type) where
  entries : List (κ × ν)
  nodupKeys : (entries.map Prod.fst).Nodup

namespace OrderedMap

variable {κ ν μ : Type}

/-- The dictionary without entries. -/
def empty : OrderedMap κ ν where
  entries := []
  nodupKeys := by simp

instance : EmptyCollection (OrderedMap κ ν) :=
  ⟨empty⟩

instance : Inhabited (OrderedMap κ ν) :=
  ⟨empty⟩

/-- Two dictionaries with the same enumeration are equal. -/
theorem ext_entries
    {left right : OrderedMap κ ν}
    (same : left.entries = right.entries) :
    left = right := by
  cases left
  cases right
  cases same
  rfl

instance [DecidableEq κ] [DecidableEq ν] : DecidableEq (OrderedMap κ ν) :=
  fun left right =>
    decidable_of_iff (left.entries = right.entries)
      ⟨ext_entries, fun same => same ▸ rfl⟩

/-- Keys in insertion order. -/
def keys (map : OrderedMap κ ν) : List κ :=
  map.entries.map Prod.fst

/-- Values in insertion order. -/
def values (map : OrderedMap κ ν) : List ν :=
  map.entries.map Prod.snd

/-- Number of entries. -/
def size (map : OrderedMap κ ν) : Nat :=
  map.entries.length

/-- Change every value, keeping keys and order. -/
def mapEntries
    (change : κ → ν → μ)
    (map : OrderedMap κ ν) :
    OrderedMap κ μ where
  entries := map.entries.map fun entry => (entry.1, change entry.1 entry.2)
  nodupKeys := by
    simpa [Function.comp_def] using map.nodupKeys

/-- Change every value without reading its key. -/
def mapValues
    (change : ν → μ)
    (map : OrderedMap κ ν) :
    OrderedMap κ μ :=
  map.mapEntries fun _ => change

@[simp] theorem entries_empty :
    (∅ : OrderedMap κ ν).entries = [] :=
  rfl

@[simp] theorem values_empty :
    (∅ : OrderedMap κ ν).values = [] :=
  rfl

@[simp] theorem values_mapValues
    (change : ν → μ)
    (map : OrderedMap κ ν) :
    (map.mapValues change).values = map.values.map change := by
  simp [values, mapValues, mapEntries, Function.comp_def]

@[simp] theorem keys_mapEntries
    (change : κ → ν → μ)
    (map : OrderedMap κ ν) :
    (map.mapEntries change).keys = map.keys := by
  simp [keys, mapEntries, Function.comp_def]

section Lookup

variable [DecidableEq κ]

/-- Value stored under a key. -/
def get? (map : OrderedMap κ ν) (key : κ) : Option ν :=
  assoc? key map.entries

/-- Assign a value to a key. -/
def insert (map : OrderedMap κ ν) (key : κ) (value : ν) : OrderedMap κ ν where
  entries := assign key value map.entries
  nodupKeys := by
    rw [keys_assign]
    split
    · exact map.nodupKeys
    · rename_i fresh
      exact List.nodup_append.mpr
        ⟨map.nodupKeys, by simp, by
          intro earlier earlierMember later laterMember
          rw [List.mem_singleton] at laterMember
          subst later
          exact fun same => fresh (same ▸ earlierMember)⟩

/-- Whether a key is present. -/
def contains (map : OrderedMap κ ν) (key : κ) : Bool :=
  (map.get? key).isSome

/-- Change the value under a key that is present. -/
def modify (map : OrderedMap κ ν) (key : κ) (change : ν → ν) : OrderedMap κ ν :=
  match map.get? key with
  | none => map
  | some value => map.insert key (change value)

@[simp] theorem get?_empty
    (key : κ) :
    (∅ : OrderedMap κ ν).get? key = none :=
  rfl

theorem get?_insert
    (map : OrderedMap κ ν)
    (key query : κ)
    (value : ν) :
    (map.insert key value).get? query =
      if key = query then some value else map.get? query :=
  assoc?_assign key query value map.entries

@[simp] theorem get?_insert_self
    (map : OrderedMap κ ν)
    (key : κ)
    (value : ν) :
    (map.insert key value).get? key = some value := by
  simp [get?_insert]

@[simp] theorem get?_mapEntries
    (change : κ → ν → μ)
    (map : OrderedMap κ ν)
    (key : κ) :
    (map.mapEntries change).get? key = (map.get? key).map (change key) :=
  assoc?_map change key map.entries

@[simp] theorem get?_mapValues
    (change : ν → μ)
    (map : OrderedMap κ ν)
    (key : κ) :
    (map.mapValues change).get? key = (map.get? key).map change :=
  get?_mapEntries _ map key

theorem get?_modify
    (map : OrderedMap κ ν)
    (key query : κ)
    (change : ν → ν) :
    (map.modify key change).get? query =
      if key = query then (map.get? query).map change else map.get? query := by
  unfold modify
  cases found : map.get? key with
  | none =>
      by_cases same : key = query
      · subst query
        simp [found]
      · simp [same]
  | some value =>
      rw [get?_insert]
      by_cases same : key = query
      · subst query
        simp [found]
      · simp [same]

/-- Inserting under an absent key appends the new entry. -/
theorem entries_insert_of_absent
    {map : OrderedMap κ ν}
    {key : κ}
    (absent : map.get? key = none)
    (value : ν) :
    (map.insert key value).entries = map.entries ++ [(key, value)] := by
  have fresh : key ∉ map.entries.map Prod.fst :=
    assoc?_eq_none_iff.mp absent
  suffices appended :
      ∀ entries : List (κ × ν),
        key ∉ entries.map Prod.fst →
        assign key value entries = entries ++ [(key, value)] from
    appended map.entries fresh
  intro entries
  induction entries with
  | nil =>
      intro _
      rfl
  | cons entry rest inductionHypothesis =>
      intro keyFresh
      rcases entry with ⟨head, old⟩
      simp only [List.map_cons, List.mem_cons, not_or] at keyFresh
      simp [assign, Ne.symm keyFresh.1,
        inductionHypothesis keyFresh.2]

/-- Inserting under an absent key appends its value to the enumeration. -/
theorem values_insert_of_absent
    {map : OrderedMap κ ν}
    {key : κ}
    (absent : map.get? key = none)
    (value : ν) :
    (map.insert key value).values = map.values ++ [value] := by
  simp [values, entries_insert_of_absent absent value]

/-- Inserting under an absent key adds exactly one entry. -/
theorem size_insert_of_absent
    {map : OrderedMap κ ν}
    {key : κ}
    (absent : map.get? key = none)
    (value : ν) :
    (map.insert key value).size = map.size + 1 := by
  simp [size, entries_insert_of_absent absent value]

/-- Assignments are found by lookup. -/
theorem get?_of_mem_entries
    {map : OrderedMap κ ν}
    {key : κ}
    {value : ν}
    (member : (key, value) ∈ map.entries) :
    map.get? key = some value :=
  assoc?_of_mem map.nodupKeys member

/-- What lookup finds is an entry. -/
theorem mem_entries_of_get?
    {map : OrderedMap κ ν}
    {key : κ}
    {value : ν}
    (found : map.get? key = some value) :
    (key, value) ∈ map.entries :=
  mem_of_assoc? found

/-- What lookup finds stands under a key. -/
theorem mem_keys_of_get?
    {map : OrderedMap κ ν}
    {key : κ}
    {value : ν}
    (found : map.get? key = some value) :
    key ∈ map.keys :=
  List.mem_map_of_mem (mem_entries_of_get? found)

/-- Assigning to a present key keeps the number of entries. -/
theorem size_insert_of_present
    {map : OrderedMap κ ν}
    {key : κ}
    {old : ν}
    (present : map.get? key = some old)
    (value : ν) :
    (map.insert key value).size = map.size := by
  have member : key ∈ map.entries.map Prod.fst := by
    by_contra absent
    have missing : map.get? key = none := assoc?_eq_none_iff.mpr absent
    rw [missing] at present
    cases present
  have sameKeys := congrArg List.length (keys_assign key value map.entries)
  rw [if_pos member, List.length_map, List.length_map] at sameKeys
  exact sameKeys

/-- Changing a value keeps the number of entries. -/
@[simp] theorem size_modify
    (map : OrderedMap κ ν)
    (key : κ)
    (change : ν → ν) :
    (map.modify key change).size = map.size := by
  unfold modify
  cases found : map.get? key with
  | none =>
      rfl
  | some value =>
      exact size_insert_of_present found (change value)

/-- Changing the value that was just assigned. -/
@[simp] theorem modify_insert_self
    (map : OrderedMap κ ν)
    (key : κ)
    (value : ν)
    (change : ν → ν) :
    (map.insert key value).modify key change =
      map.insert key (change value) := by
  unfold modify
  rw [get?_insert_self]
  exact ext_entries (assign_assign key value (change value) map.entries)

/-- Two changes of one value. -/
theorem modify_modify
    (map : OrderedMap κ ν)
    (key : κ)
    (first second : ν → ν) :
    (map.modify key first).modify key second =
      map.modify key (second ∘ first) := by
  cases found : map.get? key with
  | none =>
      simp [modify, found]
  | some value =>
      have once (change : ν → ν) :
          map.modify key change = map.insert key (change value) := by
        simp [modify, found]
      rw [once, once, modify_insert_self, Function.comp_apply]

/-- Assignment appends at most the new key. -/
theorem keys_insert
    (map : OrderedMap κ ν)
    (key : κ)
    (value : ν) :
    (map.insert key value).keys =
      if key ∈ map.keys then map.keys else map.keys ++ [key] :=
  keys_assign key value map.entries

/-- Assignment keeps every key in its place. -/
theorem keys_prefix_insert
    (map : OrderedMap κ ν)
    (key : κ)
    (value : ν) :
    map.keys <+: (map.insert key value).keys := by
  rw [keys_insert]
  split
  · exact List.prefix_rfl
  · exact List.prefix_append _ _

/-- Changing a value keeps the keys. -/
@[simp] theorem keys_modify
    (map : OrderedMap κ ν)
    (key : κ)
    (change : ν → ν) :
    (map.modify key change).keys = map.keys := by
  refine ((?_ : map.keys <+: _).eq_of_length ?_).symm
  · unfold modify
    split
    · exact List.prefix_rfl
    · exact keys_prefix_insert map key _
  · simpa [keys, size] using (size_modify map key change).symm

/-- Assignment leaves no map empty. -/
theorem entries_insert_ne_nil
    (map : OrderedMap κ ν)
    (key : κ)
    (value : ν) :
    (map.insert key value).entries ≠ [] := by
  intro empty
  have found := get?_insert_self map key value
  rw [get?, empty] at found
  cases found

omit [DecidableEq κ] in
/-- A map is empty exactly when it has no keys. -/
theorem keys_eq_nil_iff
    {map : OrderedMap κ ν} :
    map.keys = [] ↔ map.entries = [] :=
  List.map_eq_nil_iff

/-! ## Kept entries -/

/-- Every entry is still there, changed at most in the allowed way. -/
def Keeps (allowed : ν → ν → Prop) (before after : OrderedMap κ ν) : Prop :=
  ∀ key old, before.get? key = some old →
    ∃ new, after.get? key = some new ∧ allowed old new

theorem Keeps.refl
    {allowed : ν → ν → Prop}
    (same : ∀ value, allowed value value)
    (map : OrderedMap κ ν) :
    Keeps allowed map map :=
  fun _ old stored => ⟨old, stored, same old⟩

theorem Keeps.trans
    {first second third : ν → ν → Prop}
    {before middle after : OrderedMap κ ν}
    (earlier : Keeps first before middle)
    (later : Keeps second middle after)
    (compose : ∀ {old mid new}, first old mid → second mid new → third old new) :
    Keeps third before after := by
  intro key old stored
  obtain ⟨mid, storedMiddle, toMiddle⟩ := earlier key old stored
  obtain ⟨new, storedAfter, toNew⟩ := later key mid storedMiddle
  exact ⟨new, storedAfter, compose toMiddle toNew⟩

/-- Assigning to an unused key. -/
theorem Keeps.insert
    {allowed : ν → ν → Prop}
    (same : ∀ value, allowed value value)
    {map : OrderedMap κ ν}
    {key : κ}
    (absent : map.get? key = none)
    (value : ν) :
    Keeps allowed map (map.insert key value) := by
  intro other old stored
  refine ⟨old, ?_, same old⟩
  have differs : key ≠ other := by
    rintro rfl
    rw [absent] at stored
    cases stored
  rw [get?_insert, if_neg differs, stored]

/-- Changing a value in the allowed way. -/
theorem Keeps.modify
    {allowed : ν → ν → Prop}
    (same : ∀ value, allowed value value)
    {change : ν → ν}
    (changes : ∀ value, allowed value (change value))
    (map : OrderedMap κ ν)
    (key : κ) :
    Keeps allowed map (map.modify key change) := by
  intro other old stored
  rw [get?_modify, stored]
  by_cases isKey : key = other
  · exact ⟨change old, by simp [isKey], changes old⟩
  · exact ⟨old, by simp [isKey], same old⟩

/-- Changing every value in the allowed way. -/
theorem Keeps.mapValues
    {allowed : ν → ν → Prop}
    {change : ν → ν}
    (changes : ∀ value, allowed value (change value))
    (map : OrderedMap κ ν) :
    Keeps allowed map (map.mapValues change) := by
  intro key old stored
  exact ⟨change old, by rw [get?_mapValues, stored]; rfl, changes old⟩

/-- Every value is stored under its own name. -/
def KeyedBy (name : ν → κ) (map : OrderedMap κ ν) : Prop :=
  ∀ key value, map.get? key = some value → name value = key

theorem keyedBy_empty
    (name : ν → κ) :
    KeyedBy name (∅ : OrderedMap κ ν) := by
  intro key value stored
  rw [get?_empty] at stored
  cases stored

theorem KeyedBy.insert
    {name : ν → κ}
    {map : OrderedMap κ ν}
    {key : κ}
    {value : ν}
    (keyed : KeyedBy name map)
    (named : name value = key) :
    KeyedBy name (map.insert key value) := by
  intro other found stored
  rw [get?_insert] at stored
  split at stored
  · rename_i isKey
    cases stored
    exact named.trans isKey
  · exact keyed other found stored

theorem KeyedBy.modify
    {name : ν → κ}
    {map : OrderedMap κ ν}
    {change : ν → ν}
    (keyed : KeyedBy name map)
    (nameKept : ∀ value, name (change value) = name value)
    (key : κ) :
    KeyedBy name (map.modify key change) := by
  intro other value stored
  rw [get?_modify] at stored
  split at stored
  · obtain ⟨old, isOld, rfl⟩ := Option.map_eq_some_iff.mp stored
    rw [nameKept]
    exact keyed other old isOld
  · exact keyed other value stored

theorem KeyedBy.mapValues
    {name : ν → κ}
    {map : OrderedMap κ ν}
    {change : ν → ν}
    (keyed : KeyedBy name map)
    (nameKept : ∀ value, name (change value) = name value) :
    KeyedBy name (map.mapValues change) := by
  intro key value stored
  rw [get?_mapValues] at stored
  obtain ⟨old, isOld, rfl⟩ := Option.map_eq_some_iff.mp stored
  rw [nameKept]
  exact keyed key old isOld

/-! ## A property of all values -/

/-- Every value has a property. -/
def AllValues (property : ν → Prop) (map : OrderedMap κ ν) : Prop :=
  ∀ value ∈ map.values, property value

omit [DecidableEq κ] in
theorem allValues_empty
    (property : ν → Prop) :
    AllValues property (∅ : OrderedMap κ ν) :=
  fun _ member => nomatch member

/-- The stored values are those that are found under a key. -/
theorem allValues_iff_get?
    {property : ν → Prop}
    {map : OrderedMap κ ν} :
    AllValues property map ↔
      ∀ key value, map.get? key = some value → property value := by
  constructor
  · intro all key value stored
    exact all value (List.mem_map_of_mem (mem_entries_of_get? stored))
  · intro found value member
    obtain ⟨⟨key, stored⟩, isEntry, rfl⟩ := List.mem_map.mp member
    exact found key stored (get?_of_mem_entries isEntry)

theorem AllValues.insert
    {property : ν → Prop}
    {map : OrderedMap κ ν}
    {key : κ}
    {value : ν}
    (all : AllValues property map)
    (has : property value) :
    AllValues property (map.insert key value) := by
  rw [allValues_iff_get?] at all ⊢
  intro other found stored
  rw [get?_insert] at stored
  split at stored
  · cases stored
    exact has
  · exact all other found stored

theorem AllValues.modify
    {property : ν → Prop}
    {map : OrderedMap κ ν}
    {change : ν → ν}
    (all : AllValues property map)
    (keeps : ∀ value, property value → property (change value))
    (key : κ) :
    AllValues property (map.modify key change) := by
  rw [allValues_iff_get?] at all ⊢
  intro other value stored
  rw [get?_modify] at stored
  split at stored
  · obtain ⟨old, isOld, rfl⟩ := Option.map_eq_some_iff.mp stored
    exact keeps old (all other old isOld)
  · exact all other value stored

omit [DecidableEq κ] in
theorem AllValues.mapValues
    {property : ν → Prop}
    {map : OrderedMap κ ν}
    {change : ν → ν}
    (all : AllValues property map)
    (keeps : ∀ value, property value → property (change value)) :
    AllValues property (map.mapValues change) := by
  intro value member
  obtain ⟨⟨key, changed⟩, isEntry, rfl⟩ := List.mem_map.mp member
  obtain ⟨⟨_, old⟩, isOld, sameEntry⟩ := List.mem_map.mp isEntry
  cases sameEntry
  exact keeps old (all old (List.mem_map_of_mem isOld))

/-! ## Numbered keys -/

/-- No numbered key beyond the size of the map is in use. -/
def FreshKeys (name : Nat → κ) (map : OrderedMap κ ν) : Prop :=
  ∀ n, map.size < n → map.get? (name n) = none

/-- Without entries every numbered key is still to come. -/
theorem freshKeys_empty
    (name : Nat → κ) :
    FreshKeys name (∅ : OrderedMap κ ν) := by
  intro n _
  simp

/-- The next numbered key is not in use. -/
theorem FreshKeys.next_absent
    {name : Nat → κ}
    {map : OrderedMap κ ν}
    (fresh : FreshKeys name map) :
    map.get? (name (map.size + 1)) = none :=
  fresh _ (Nat.lt_succ_self _)

/-- Assigning to an unused key that is not to come later. -/
theorem FreshKeys.insert
    {name : Nat → κ}
    {map : OrderedMap κ ν}
    {key : κ}
    (fresh : FreshKeys name map)
    (absent : map.get? key = none)
    (notLater : ∀ n, map.size + 1 < n → key ≠ name n)
    (value : ν) :
    FreshKeys name (map.insert key value) := by
  intro n later
  rw [size_insert_of_absent absent] at later
  rw [get?_insert, if_neg (notLater n later)]
  exact fresh n (Nat.lt_of_succ_lt later)

/-- Assigning to the next numbered key keeps the later ones unused. -/
theorem FreshKeys.insert_next
    {name : Nat → κ}
    {map : OrderedMap κ ν}
    (fresh : FreshKeys name map)
    (injective : Function.Injective name)
    (value : ν) :
    FreshKeys name (map.insert (name (map.size + 1)) value) := by
  apply fresh.insert fresh.next_absent
  intro n later same
  exact absurd (injective same) (Nat.ne_of_lt later)

/-- Changing every value keeps the later keys unused. -/
theorem FreshKeys.mapValues
    {name : Nat → κ}
    {map : OrderedMap κ ν}
    (fresh : FreshKeys name map)
    (change : ν → ν) :
    FreshKeys name (map.mapValues change) := by
  intro n later
  have sameSize : (map.mapValues change).size = map.size := by
    simp [size, OrderedMap.mapValues, mapEntries]
  rw [sameSize] at later
  rw [get?_mapValues, fresh n later]
  rfl

/-- Changing a value keeps the later keys unused. -/
theorem FreshKeys.modify
    {name : Nat → κ}
    {map : OrderedMap κ ν}
    (fresh : FreshKeys name map)
    (key : κ)
    (change : ν → ν) :
    FreshKeys name (map.modify key change) := by
  intro n later
  rw [size_modify] at later
  rw [get?_modify, fresh n later]
  simp

end Lookup

end OrderedMap

end Foundation
