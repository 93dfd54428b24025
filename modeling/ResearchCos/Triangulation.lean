import ResearchCos.CellGates
import ResearchCos.Foundation.Grouping

namespace ResearchCos.CellGates

open Foundation

/-!
# The value that triangulation chooses

The observations of a field are grouped by their normalized value.  The group
with the greatest key wins, and of several such groups the one that was
observed first.  Both the verdict and the key depend on the sources behind a
value only, so they do not depend on the order of the observations.
-/

/-! ## The order of the group keys -/

theorem keyLess_asymm
    {first second : Nat × Nat × Nat}
    (less : keyLess first second = true) :
    keyLess second first = false := by
  simp only [keyLess, decide_eq_true_eq, decide_eq_false_iff_not] at less ⊢
  omega

theorem notLess_trans
    {first second third : Nat × Nat × Nat}
    (earlier : keyLess first second = false)
    (later : keyLess second third = false) :
    keyLess first third = false := by
  simp only [keyLess, decide_eq_false_iff_not] at earlier later ⊢
  omega

/-- Keys of which neither is less are equal. -/
theorem eq_of_notLess
    {first second : Nat × Nat × Nat}
    (forth : keyLess first second = false)
    (back : keyLess second first = false) :
    first = second := by
  simp only [keyLess, decide_eq_false_iff_not] at forth back
  ext <;> omega

/-- Everything the key reads is the same for the same sources in any order. -/
theorem groupKey_perm
    {first second : ValueGroup}
    (same : first.sources.Perm second.sources) :
    groupKey first = groupKey second := by
  have qualities :
      (first.sources.map fun source => qualityRank source.quality).foldl
          max 0 =
        (second.sources.map fun source => qualityRank source.quality).foldl
          max 0 :=
    (same.map _).foldl_eq 0
  simp only [groupKey, same.any_eq, same.length_eq, qualities]

/-! ## The groups -/

section Groups

variable [PythonText]

/-- The sources behind a normalized value, one for every observation. -/
def backing
    (observations : List (String × Source))
    (value : List Char) : List Source :=
  (observations.filter fun observation =>
    norm observation.1 = value).map Prod.snd

/-- The key of a normalized value. -/
def valueKey
    (observations : List (String × Source))
    (value : List Char) : Nat × Nat × Nat :=
  groupKey { raw := "", sources := backing observations value }

/-- Where a normalized value is observed first. -/
def firstObserved
    (observations : List (String × Source))
    (value : List Char) : Nat :=
  observations.findIdx fun observation => norm observation.1 = value

/-- A value with the greatest key, observed before all others that have it. -/
structure Leads
    (observations : List (String × Source))
    (value : List Char) : Prop where
  observed : ∃ observation ∈ observations, norm observation.1 = value
  ahead :
    ∀ other ∈ observations,
      norm other.1 ≠ value →
      keyLess (valueKey observations (norm other.1))
            (valueKey observations value) = true ∨
        valueKey observations (norm other.1) = valueKey observations value ∧
          firstObserved observations value <
            firstObserved observations (norm other.1)

/-- Add an observation to the group of its value. -/
def joinGroup
    (known : Option ValueGroup)
    (observation : String × Source) : ValueGroup where
  raw := observation.1
  sources := known.elim [] ValueGroup.sources ++ [observation.2]

theorem groupObservations_eq
    (observations : List (String × Source)) :
    groupObservations observations =
      OrderedMap.accumulate (fun observation => norm observation.1) joinGroup
        observations :=
  rfl

/-- A group holds the sources behind its value, and one of its spellings. -/
theorem get?_groupObservations
    {observations : List (String × Source)}
    {value : List Char}
    {group : ValueGroup}
    (found : (groupObservations observations).get? value = some group) :
    group.sources = backing observations value ∧ norm group.raw = value := by
  rw [groupObservations_eq, OrderedMap.get?_accumulate] at found
  have named :
      ∀ observation ∈
          observations.filter fun observation => norm observation.1 = value,
        norm observation.1 = value := by
    intro observation member
    exact of_decide_eq_true (List.mem_filter.mp member).2
  rw [backing]
  generalize
    (observations.filter fun observation => norm observation.1 = value) =
      ofValue at found named ⊢
  have sources (items : List (String × Source)) :
      (items.foldl (fun known item => some (joinGroup known item))
          none).elim [] ValueGroup.sources =
        items.map Prod.snd := by
    induction items using List.reverseRecOn with
    | nil =>
        rfl
    | append_singleton earlier item inductionHypothesis =>
        rw [List.foldl_append, List.map_append, ← inductionHypothesis]
        rfl
  refine ⟨?_, ?_⟩
  · rw [← sources, found]
    rfl
  · induction ofValue using List.reverseRecOn with
    | nil =>
        cases found
    | append_singleton earlier item _ =>
        rw [List.foldl_append] at found
        cases found
        exact named item (by simp)

/-- The spelling in which a normalized value is observed last. -/
def lastSpelling
    (observations : List (String × Source))
    (value : List Char) : Option String :=
  ((observations.filter fun observation =>
    norm observation.1 = value).getLast?).map Prod.fst

/-- A group keeps the last spelling of its value. -/
theorem lastSpelling_eq_raw
    {observations : List (String × Source)}
    {value : List Char}
    {group : ValueGroup}
    (found : (groupObservations observations).get? value = some group) :
    lastSpelling observations value = some group.raw := by
  rw [groupObservations_eq, OrderedMap.get?_accumulate] at found
  rw [lastSpelling]
  generalize
    (observations.filter fun observation => norm observation.1 = value) =
      ofValue at found ⊢
  induction ofValue using List.reverseRecOn with
  | nil =>
      cases found
  | append_singleton earlier item _ =>
      rw [List.foldl_append] at found
      cases found
      rw [List.getLast?_append_of_ne_nil _ (by simp)]
      rfl

/-- Every observed value has a group, and every group is observed. -/
theorem mem_keys_groupObservations
    {observations : List (String × Source)}
    {value : List Char} :
    value ∈ (groupObservations observations).keys ↔
      ∃ observation ∈ observations, norm observation.1 = value := by
  rw [groupObservations_eq]
  exact OrderedMap.mem_keys_accumulate

/-- The key of a group is the key of its value. -/
theorem groupKey_eq_valueKey
    {observations : List (String × Source)}
    {value : List Char}
    {group : ValueGroup}
    (found : (groupObservations observations).get? value = some group) :
    groupKey group = valueKey observations value := by
  rw [valueKey, ← (get?_groupObservations found).1]
  rfl

/-- The group that wins is the one of the value that leads. -/
theorem winningGroup_leads
    {observations : List (String × Source)}
    (nonempty : observations ≠ []) :
    ∃ value winner,
      winningGroup (groupObservations observations).values = some winner ∧
        (groupObservations observations).get? value = some winner ∧
        Leads observations value := by
  have inOrder :=
    OrderedMap.keys_accumulate_pairwise
      (fun observation : String × Source => norm observation.1) joinGroup
      observations
  rw [← groupObservations_eq] at inOrder
  have someKey : (groupObservations observations).keys ≠ [] := by
    obtain ⟨observation, member⟩ := List.exists_mem_of_ne_nil _ nonempty
    exact
      List.ne_nil_of_mem (mem_keys_groupObservations.mpr ⟨_, member, rfl⟩)
  cases listed : (groupObservations observations).values with
  | nil =>
      simp only [OrderedMap.values, List.map_eq_nil_iff] at listed
      simp [OrderedMap.keys, listed] at someKey
  | cons head rest =>
      obtain ⟨before, value, after, entries, beaten, unbeaten⟩ :=
        firstBest_entries
          (fun first second : ValueGroup =>
            keyLess (groupKey first) (groupKey second))
          keyLess_asymm notLess_trans listed
      have isWinner :
          winningGroup (head :: rest) =
            some
              (firstBest (fun first second =>
                keyLess (groupKey first) (groupKey second)) head rest) :=
        rfl
      generalize
        firstBest (fun first second : ValueGroup =>
          keyLess (groupKey first) (groupKey second)) head rest = winner
        at entries beaten unbeaten isWinner
      have found {name : List Char} {group : ValueGroup}
          (member :
            (name, group) ∈ (groupObservations observations).entries) :
          (groupObservations observations).get? name = some group :=
        OrderedMap.get?_of_mem_entries member
      have stored :
          (groupObservations observations).get? value = some winner :=
        found (by rw [entries]; simp)
      refine ⟨value, winner, isWinner, stored, ?_, ?_⟩
      · exact
          mem_keys_groupObservations.mp
            (List.mem_map.mpr ⟨(value, winner), by rw [entries]; simp, rfl⟩)
      · intro other member another
        have isKey :=
          mem_keys_groupObservations.mpr ⟨other, member, rfl⟩
        obtain ⟨⟨name, group⟩, isEntry, named⟩ := List.mem_map.mp isKey
        dsimp only at named
        rw [← named] at another ⊢
        rw [← groupKey_eq_valueKey stored,
          ← groupKey_eq_valueKey (found isEntry)]
        rw [entries, List.mem_append, List.mem_cons] at isEntry
        rcases isEntry with isBefore | same | isAfter
        · exact Or.inl (beaten (name, group) isBefore)
        · exact absurd (Prod.mk.inj same).1 another
        · have notAhead := unbeaten (name, group) isAfter
          cases behind : keyLess (groupKey group) (groupKey winner) with
          | true =>
              exact Or.inl rfl
          | false =>
              refine Or.inr ⟨eq_of_notLess behind notAhead, ?_⟩
              rw [OrderedMap.keys, entries, List.map_append, List.map_cons]
                at inOrder
              have later := (List.pairwise_append.mp inOrder).2.1
              exact
                (List.pairwise_cons.mp later).1 name
                  (List.mem_map.mpr ⟨(name, group), isAfter, rfl⟩)

/-- What triangulation says about the value that leads. -/
theorem triangulate_leads
    {observations : List (String × Source)}
    (nonempty : observations ≠ []) :
    ∃ chosen,
      (triangulate observations).value = some chosen ∧
        Leads observations (norm chosen) ∧
        (triangulate observations).status =
          if (backing observations (norm chosen)).any isPrimary ∨
              2 ≤ (backing observations (norm chosen)).length then
            .corroborated
          else
            .weaklySourced := by
  obtain ⟨value, winner, wins, stored, leads⟩ := winningGroup_leads nonempty
  obtain ⟨sources, spelling⟩ := get?_groupObservations stored
  refine ⟨winner.raw, ?_, spelling.symm ▸ leads, ?_⟩
  · simp only [triangulate, wins]
  · simp only [triangulate, wins, spelling, sources]

/-- The chosen value is spelled as its group is observed last. -/
theorem triangulate_lastSpelling
    {observations : List (String × Source)}
    {chosen : String}
    (value : (triangulate observations).value = some chosen) :
    lastSpelling observations (norm chosen) = some chosen := by
  by_cases empty : observations = []
  · subst empty
    cases value
  · obtain ⟨name, winner, wins, stored, _⟩ := winningGroup_leads empty
    have isWinner : (triangulate observations).value = some winner.raw := by
      simp only [triangulate, wins]
    cases value.symm.trans isWinner
    rw [(get?_groupObservations stored).2]
    exact lastSpelling_eq_raw stored

/-- There is a contradiction exactly when two observed values differ. -/
theorem triangulate_contradiction
    (observations : List (String × Source)) :
    (triangulate observations).contradiction = true ↔
      ∃ first ∈ observations, ∃ second ∈ observations,
        norm first.1 ≠ norm second.1 := by
  by_cases empty : observations = []
  · subst empty
    simp [triangulate, groupObservations, winningGroup]
  · obtain ⟨value, winner, wins, _, _⟩ := winningGroup_leads empty
    have counted :
        (triangulate observations).contradiction =
          decide (1 < (groupObservations observations).size) := by
      simp only [triangulate, wins]
    rw [counted, decide_eq_true_eq, OrderedMap.one_lt_size_iff]
    constructor
    · rintro ⟨first, isFirst, second, isSecond, different⟩
      obtain ⟨one, isOne, rfl⟩ := mem_keys_groupObservations.mp isFirst
      obtain ⟨other, isOther, rfl⟩ := mem_keys_groupObservations.mp isSecond
      exact ⟨one, isOne, other, isOther, different⟩
    · rintro ⟨one, isOne, other, isOther, different⟩
      exact
        ⟨_, mem_keys_groupObservations.mpr ⟨one, isOne, rfl⟩,
          _, mem_keys_groupObservations.mpr ⟨other, isOther, rfl⟩, different⟩

/-- The identifiers of the sources behind every value. -/
theorem triangulate_allValues
    (observations : List (String × Source))
    (value : List Char) :
    (triangulate observations).allValues.get? value =
      if backing observations value = [] then
        none
      else
        some ((backing observations value).map Source.id) := by
  have grouped :
      (triangulate observations).allValues.get? value =
        ((groupObservations observations).get? value).map fun group =>
          group.sources.map Source.id := by
    by_cases empty : observations = []
    · subst empty
      rfl
    · obtain ⟨_, winner, wins, _, _⟩ := winningGroup_leads empty
      simp only [triangulate, wins, OrderedMap.get?_mapValues]
  have observed :
      (groupObservations observations).get? value = none ↔
        backing observations value = [] := by
    rw [groupObservations_eq, OrderedMap.get?_accumulate_eq_none_iff, backing,
      List.map_eq_nil_iff, List.filter_eq_nil_iff]
    simp
  rw [grouped]
  cases found : (groupObservations observations).get? value with
  | none =>
      rw [if_pos (observed.mp found)]
      rfl
  | some group =>
      have isThere : backing observations value ≠ [] := by
        intro nothing
        rw [observed.mpr nothing] at found
        cases found
      rw [if_neg isThere, ← (get?_groupObservations found).1]
      rfl

/-! ## The order of the observations -/

/-- Observations of a value, in whatever order, have the same sources. -/
theorem backing_perm
    {permuted observations : List (String × Source)}
    (same : permuted.Perm observations)
    (value : List Char) :
    (backing permuted value).Perm (backing observations value) :=
  (same.filter _).map _

theorem valueKey_perm
    {permuted observations : List (String × Source)}
    (same : permuted.Perm observations)
    (value : List Char) :
    valueKey permuted value = valueKey observations value :=
  groupKey_perm (backing_perm same value)

/-- No observed value has a greater key than the one that leads. -/
theorem Leads.greatest
    {observations : List (String × Source)}
    {value : List Char}
    (leads : Leads observations value)
    {other : String × Source}
    (member : other ∈ observations) :
    keyLess (valueKey observations value)
      (valueKey observations (norm other.1)) = false := by
  have irreflexive (key : Nat × Nat × Nat) : keyLess key key = false := by
    simp [keyLess]
  by_cases same : norm other.1 = value
  · rw [same]
    exact irreflexive _
  · rcases leads.ahead other member same with less | ⟨sameKey, _⟩
    · exact keyLess_asymm less
    · rw [sameKey]
      exact irreflexive _

/-- Only one value leads. -/
theorem Leads.unique
    {observations : List (String × Source)}
    {first second : List Char}
    (firstLeads : Leads observations first)
    (secondLeads : Leads observations second) :
    first = second := by
  by_contra different
  obtain ⟨one, isOne, rfl⟩ := firstLeads.observed
  obtain ⟨other, isOther, rfl⟩ := secondLeads.observed
  rcases firstLeads.ahead other isOther (Ne.symm different) with
      less | ⟨_, firstEarlier⟩
  · rw [secondLeads.greatest isOne] at less
    cases less
  · rcases secondLeads.ahead one isOne different with
        less | ⟨_, secondEarlier⟩
    · rw [firstLeads.greatest isOther] at less
      cases less
    · exact absurd firstEarlier (Nat.lt_asymm secondEarlier)

/-- The key of the value that leads does not depend on the order. -/
theorem Leads.key_perm
    {permuted observations : List (String × Source)}
    (same : permuted.Perm observations)
    {permutedValue value : List Char}
    (permutedLeads : Leads permuted permutedValue)
    (leads : Leads observations value) :
    valueKey observations permutedValue = valueKey observations value := by
  obtain ⟨one, isOne, rfl⟩ := permutedLeads.observed
  obtain ⟨other, isOther, rfl⟩ := leads.observed
  refine eq_of_notLess ?_ (leads.greatest (same.mem_iff.mp isOne))
  rw [← valueKey_perm same, ← valueKey_perm same]
  exact permutedLeads.greatest (same.mem_iff.mpr isOther)

/-- A value whose key counts as corroborated. -/
theorem corroborated_iff_valueKey
    (observations : List (String × Source))
    (value : List Char) :
    ((backing observations value).any isPrimary = true ∨
        2 ≤ (backing observations value).length) ↔
      0 < (valueKey observations value).1 ∨
        2 ≤ (valueKey observations value).2.1 := by
  simp only [valueKey, groupKey]
  cases (backing observations value).any isPrimary <;> simp

/-- Two results that agree in everything that is decided. -/
structure SameVerdict (first second : TriResult) : Prop where
  status : first.status = second.status
  contradiction : first.contradiction = second.contradiction
  groups :
    ∀ value,
      Option.Rel List.Perm (first.allValues.get? value)
        (second.allValues.get? value)

/-- A source that asserts the chosen value, in whatever spelling. -/
def AssertsChosen
    (observations : List (String × Source))
    (observation : String × Source) : Prop :=
  ∃ chosen,
    (triangulate observations).value = some chosen ∧
      norm observation.1 = norm chosen

theorem triangulate_status_perm
    {permuted observations : List (String × Source)}
    (same : permuted.Perm observations) :
    (triangulate permuted).status = (triangulate observations).status := by
  by_cases empty : observations = []
  · subst empty
    rw [same.eq_nil]
  · have nonempty : permuted ≠ [] := by
      rintro rfl
      exact empty same.nil_eq.symm
    obtain ⟨_, _, permutedLeads, permutedStatus⟩ := triangulate_leads nonempty
    obtain ⟨_, _, leads, status⟩ := triangulate_leads empty
    rw [permutedStatus, status]
    simp only [corroborated_iff_valueKey, valueKey_perm same,
      permutedLeads.key_perm same leads]

/-- A primary source decides the value and makes it corroborated. -/
theorem triangulate_primary
    {observations : List (String × Source)}
    (primary : ∃ observation ∈ observations, isPrimary observation.2 = true) :
    (triangulate observations).status = .corroborated ∧
      ∃ observation ∈ observations,
        isPrimary observation.2 = true ∧
          AssertsChosen observations observation := by
  obtain ⟨observation, member, isFirst⟩ := primary
  obtain ⟨chosen, value, leads, status⟩ :=
    triangulate_leads (List.ne_nil_of_mem member)
  have backed : observation.2 ∈ backing observations (norm observation.1) :=
    List.mem_map_of_mem (List.mem_filter.mpr ⟨member, by simp⟩)
  have notAbove := leads.greatest member
  have primaryKey :
      (valueKey observations (norm observation.1)).1 = 1 := by
    have found :
        (backing observations (norm observation.1)).any isPrimary = true :=
      List.any_eq_true.mpr ⟨observation.2, backed, isFirst⟩
    simp [valueKey, groupKey, found]
  have chosenPrimary :
      (backing observations (norm chosen)).any isPrimary = true := by
    by_contra none_
    rw [Bool.not_eq_true] at none_
    have chosenKey : (valueKey observations (norm chosen)).1 = 0 := by
      simp [valueKey, groupKey, none_]
    simp [keyLess, primaryKey, chosenKey] at notAbove
  refine ⟨by rw [status, if_pos (Or.inl chosenPrimary)], ?_⟩
  obtain ⟨source, isBacking, sourcePrimary⟩ :=
    List.any_eq_true.mp chosenPrimary
  obtain ⟨⟨spelling, _⟩, isObserved, rfl⟩ := List.mem_map.mp isBacking
  obtain ⟨isMember, named⟩ := List.mem_filter.mp isObserved
  exact
    ⟨_, isMember, sourcePrimary, chosen, value, of_decide_eq_true named⟩

/--
The verdict does not depend on the order of the observations: not the status,
not the contradiction and not the sources behind each value.  A primary or
standard source decides the value, up to its spelling, which is the last one
that is observed of it.
-/
theorem triangulate_perm
    (observations : List (String × Source)) :
    (∀ permuted : List (String × Source),
        permuted.Perm observations →
        SameVerdict (triangulate permuted) (triangulate observations)) ∧
      ((triangulate observations).contradiction = true ↔
        ∃ first ∈ observations, ∃ second ∈ observations,
          norm first.1 ≠ norm second.1) ∧
      ((∃ observation ∈ observations, isPrimary observation.2 = true) →
        (triangulate observations).status = .corroborated ∧
          ∃ observation ∈ observations,
            isPrimary observation.2 = true ∧
              AssertsChosen observations observation) ∧
      ∀ chosen,
        (triangulate observations).value = some chosen →
        lastSpelling observations (norm chosen) = some chosen := by
  refine
    ⟨fun permuted same => ⟨triangulate_status_perm same, ?_, ?_⟩,
      triangulate_contradiction observations, triangulate_primary,
      fun _ => triangulate_lastSpelling⟩
  · rw [Bool.eq_iff_iff, triangulate_contradiction, triangulate_contradiction]
    simp only [same.mem_iff]
  · intro value
    have sameSources := backing_perm same value
    have bothEmpty :
        backing permuted value = [] ↔ backing observations value = [] := by
      constructor
      · intro empty
        rw [empty] at sameSources
        exact sameSources.nil_eq.symm
      · intro empty
        rw [empty] at sameSources
        exact sameSources.eq_nil
    simp only [triangulate_allValues, bothEmpty]
    split
    · exact Option.Rel.none
    · exact Option.Rel.some (sameSources.map _)

end Groups

/-- The datasheet of a vendor. -/
private def datasheet : Source where
  id := "S-1"
  title := "datasheet"
  sourceType := .primary

/-- A page that repeats the datasheet. -/
private def mirror : Source where
  id := "S-2"
  title := "mirror"

private def twoSpellings : List (String × Source) :=
  [("128 kB", datasheet), ("128 KB", mirror)]

/-- The spelling of a later source replaces that of the primary one. -/
theorem laterSpelling_replaces_primary :
    letI := PythonText.ascii
    ¬∀ observations : List (String × Source),
      (∃ observation ∈ observations, isPrimary observation.2 = true) →
      ∃ observation ∈ observations,
        isPrimary observation.2 = true ∧
          (triangulate observations).value = some observation.1 := by
  let _ := PythonText.ascii
  intro asserted
  have decided :
      ¬∃ observation ∈ twoSpellings,
        isPrimary observation.2 = true ∧
          (triangulate twoSpellings).value = some observation.1 := by
    decide +kernel
  exact decided (asserted twoSpellings ⟨_, List.mem_cons_self, rfl⟩)

/-- In the other order the spelling differs and the verdict does not. -/
theorem twoSpellings_sameVerdict :
    letI := PythonText.ascii
    SameVerdict (triangulate twoSpellings.reverse)
        (triangulate twoSpellings) ∧
      (triangulate twoSpellings.reverse).value ≠
        (triangulate twoSpellings).value ∧
      (triangulate twoSpellings).status = .corroborated := by
  let _ := PythonText.ascii
  obtain ⟨perm, _, primary, _⟩ := triangulate_perm twoSpellings
  exact
    ⟨perm _ (List.reverse_perm _), by decide +kernel,
      (primary ⟨_, List.mem_cons_self, rfl⟩).1⟩

/-! ## Corroboration -/

section Corroboration

variable [PythonText]

/-- A value behind which a primary source stands, or two different sources. -/
def Independent
    (observations : List (String × Source))
    (value : List Char) : Prop :=
  (∃ source ∈ backing observations value, isPrimary source = true) ∨
    ∃ first ∈ backing observations value,
      ∃ second ∈ backing observations value, first.id ≠ second.id

/-- A corroborated value has a primary source or two different ones. -/
def CorroboratedIndependently
    (observations : List (String × Source)) : Prop :=
  (triangulate observations).status = .corroborated →
    ∃ chosen ∈ (triangulate observations).value,
      Independent observations (norm chosen)

/-- A value that one source, which is not primary, asserts several times. -/
structure RepeatsOneSource
    (observations : List (String × Source))
    (value : List Char) : Prop where
  several : 2 ≤ (backing observations value).length
  notPrimary :
    ∀ source ∈ backing observations value, isPrimary source = false
  sameSource :
    ∀ first ∈ backing observations value,
      ∀ second ∈ backing observations value, first.id = second.id

/-- A value is independent unless its sources are one, or none is primary. -/
theorem not_independent_iff
    {observations : List (String × Source)}
    {value : List Char} :
    ¬Independent observations value ↔
      (∀ source ∈ backing observations value, isPrimary source = false) ∧
        ∀ first ∈ backing observations value,
          ∀ second ∈ backing observations value, first.id = second.id := by
  simp only [Independent, not_or, not_exists, not_and, Bool.not_eq_true,
    not_not]

/--
Corroboration is independent exactly when no value leads that a single source,
neither primary nor standard, merely repeats.
-/
theorem corroboration_independent_iff
    (observations : List (String × Source)) :
    CorroboratedIndependently observations ↔
      ∀ value,
        RepeatsOneSource observations value →
        ¬Leads observations value := by
  by_cases empty : observations = []
  · subst empty
    refine iff_of_true ?_ ?_
    · intro corroborated
      cases corroborated
    · intro value _ leads
      obtain ⟨_, member, _⟩ := leads.observed
      cases member
  · obtain ⟨chosen, isChosen, leads, status⟩ := triangulate_leads empty
    rw [CorroboratedIndependently, isChosen, status]
    constructor
    · intro independent value repeats valueLeads
      obtain rfl := valueLeads.unique leads
      obtain ⟨_, same, isIndependent⟩ :=
        independent (if_pos (Or.inr repeats.several))
      cases same
      exact
        not_independent_iff.mpr ⟨repeats.notPrimary, repeats.sameSource⟩
          isIndependent
    · intro noRepetition corroborated
      refine ⟨chosen, rfl, ?_⟩
      by_contra dependent
      obtain ⟨notPrimary, sameSource⟩ := not_independent_iff.mp dependent
      have noPrimary :
          ¬(backing observations (norm chosen)).any isPrimary = true := by
        rw [List.any_eq_true]
        rintro ⟨source, member, primary⟩
        rw [notPrimary source member] at primary
        cases primary
      have several : 2 ≤ (backing observations (norm chosen)).length := by
        by_contra few
        rw [if_neg (not_or.mpr ⟨noPrimary, few⟩)] at corroborated
        cases corroborated
      exact noRepetition _ ⟨several, notPrimary, sameSource⟩ leads

end Corroboration

private def mirroredTwice : List (String × Source) :=
  [("128 kB", mirror), ("128 kB", mirror)]

/-- One page that is observed twice corroborates its value. -/
theorem repeatedMirror_corroborates :
    letI := PythonText.ascii
    (triangulate [("128 kB", mirror)]).status = .weaklySourced ∧
      (triangulate mirroredTwice).status = .corroborated ∧
      ¬CorroboratedIndependently mirroredTwice := by
  let _ := PythonText.ascii
  have corroborated : (triangulate mirroredTwice).status = .corroborated := by
    decide +kernel
  refine ⟨by decide +kernel, corroborated, ?_⟩
  intro independently
  obtain ⟨chosen, isChosen, independent⟩ := independently corroborated
  have value : (triangulate mirroredTwice).value = some "128 kB" := by
    decide +kernel
  have sources :
      backing mirroredTwice (norm "128 kB") = [mirror, mirror] := by
    decide +kernel
  rw [value] at isChosen
  cases isChosen
  rw [Independent, sources] at independent
  simp [mirror, isPrimary] at independent

end ResearchCos.CellGates
