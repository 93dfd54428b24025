import Mathlib.Data.List.Nodup

namespace Foundation.FirstOccurrence

/-!
# The first occurrences of a list

A loop that remembers the keys it has seen keeps the first element of every
key, and every element without a key.  Said without the loop: an element stays
when no element before it has its key.
-/

variable {α β : Type} [DecidableEq β]
variable (key : α → Option β)

/-- Keep the elements whose key has not been seen yet. -/
def keepFirst : List α → List β → List α
  | [], _ => []
  | item :: rest, seen =>
      match key item with
      | none => item :: keepFirst rest seen
      | some known =>
          if known ∈ seen then
            keepFirst rest seen
          else
            item :: keepFirst rest (known :: seen)

/-- No earlier element of a list, and none seen before, has the key of a place. -/
def IsFirst (seen : List β) (items : List α) (place : α × Nat) : Prop :=
  ∀ known ∈ key place.1,
    known ∉ seen ∧ ∀ earlier ∈ items.take place.2, key earlier ≠ some known

instance (seen : List β) (items : List α) :
    DecidablePred (IsFirst key seen items) := fun place =>
  inferInstanceAs (Decidable (∀ known ∈ key place.1, _ ∧ _))

/-- The elements of a list that are the first ones of their key. -/
def firsts (items : List α) : List α :=
  (items.zipIdx.filter fun place => IsFirst key [] items place).map Prod.fst

variable {key}

omit [DecidableEq β] in
/-- Behind an element, the places are one further and it comes before them. -/
private theorem isFirst_cons_iff
    {seen : List β}
    {item : α}
    {rest : List α}
    {place : α × Nat} :
    IsFirst key seen (item :: rest) (place.1, place.2 + 1) ↔
      IsFirst key ((key item).toList ++ seen) rest place := by
  simp only [IsFirst, List.take_succ_cons, List.forall_mem_cons,
    List.mem_append, Option.mem_toList, not_or, Option.mem_def]
  constructor
  · intro isFirst known isKey
    obtain ⟨unseen, notHere, notEarlier⟩ := isFirst known isKey
    exact ⟨⟨notHere, unseen⟩, notEarlier⟩
  · intro isFirst known isKey
    obtain ⟨⟨notHere, unseen⟩, notEarlier⟩ := isFirst known isKey
    exact ⟨unseen, notHere, notEarlier⟩

/-- Only which keys were seen matters, not their order. -/
theorem keepFirst_congr
    {seen others : List β}
    (same : ∀ known, known ∈ seen ↔ known ∈ others)
    (items : List α) :
    keepFirst key items seen = keepFirst key items others := by
  induction items generalizing seen others with
  | nil =>
      rfl
  | cons item rest inductionHypothesis =>
      rw [keepFirst, keepFirst]
      cases key item with
      | none =>
          exact congrArg (item :: ·) (inductionHypothesis same)
      | some known =>
          simp only [same known]
          split
          · exact inductionHypothesis same
          · refine congrArg (item :: ·) (inductionHypothesis fun other => ?_)
            rw [List.mem_cons, List.mem_cons, same other]

/-- The loop keeps the places that are the first ones of their key. -/
theorem keepFirst_eq
    (items : List α)
    (seen : List β) :
    keepFirst key items seen =
      (items.zipIdx.filter fun place => IsFirst key seen items place).map
        Prod.fst := by
  induction items generalizing seen with
  | nil =>
      rfl
  | cons item rest inductionHypothesis =>
      have behind :
          (((rest.zipIdx.map fun place => (place.1, place.2 + 1)).filter
              fun place => IsFirst key seen (item :: rest) place).map
            Prod.fst) =
            keepFirst key rest ((key item).toList ++ seen) := by
        rw [inductionHypothesis, List.filter_map, List.map_map]
        have samePlaces :
            ((fun place => decide (IsFirst key seen (item :: rest) place)) ∘
                fun place : α × Nat => (place.1, place.2 + 1)) =
              fun place =>
                decide (IsFirst key ((key item).toList ++ seen) rest place) := by
          funext place
          exact decide_eq_decide.mpr isFirst_cons_iff
        rw [samePlaces]
        rfl
      have shifted :
          (item :: rest).zipIdx =
            (item, 0) ::
              rest.zipIdx.map fun place => (place.1, place.2 + 1) :=
        List.zipIdx_cons'
      rw [shifted, List.filter_cons]
      cases isKey : key item with
      | none =>
          have stays : IsFirst key seen (item :: rest) (item, 0) := by
            intro known found
            rw [isKey] at found
            cases found
          rw [if_pos (decide_eq_true stays), List.map_cons, behind, isKey,
            Option.toList_none, List.nil_append, keepFirst, isKey]
      | some known =>
          by_cases wasSeen : known ∈ seen
          · have goes : ¬IsFirst key seen (item :: rest) (item, 0) :=
              fun isFirst => (isFirst known isKey).1 wasSeen
            have sameSeen :
                keepFirst key rest ((key item).toList ++ seen) =
                  keepFirst key rest seen := by
              refine keepFirst_congr (fun other => ?_) rest
              rw [isKey, Option.toList_some, List.singleton_append,
                List.mem_cons, or_iff_right_iff_imp]
              rintro rfl
              exact wasSeen
            rw [if_neg (by simpa using goes), behind, sameSeen, keepFirst, isKey]
            simp only [wasSeen, if_true]
          · have stays : IsFirst key seen (item :: rest) (item, 0) := by
              intro other found
              rw [isKey, Option.mem_some_iff] at found
              subst found
              exact ⟨wasSeen, by simp⟩
            rw [if_pos (decide_eq_true stays), List.map_cons, behind, isKey,
              Option.toList_some, List.singleton_append, keepFirst, isKey]
            simp only [wasSeen, if_false]

/-- The loop that has seen nothing keeps the first occurrences. -/
theorem keepFirst_nil
    (items : List α) :
    keepFirst key items [] = firsts key items :=
  keepFirst_eq items []

/-- Only elements of the list are kept, in their order. -/
theorem keepFirst_sublist
    (items : List α)
    (seen : List β) :
    (keepFirst key items seen).Sublist items := by
  rw [keepFirst_eq]
  refine (List.filter_sublist.map Prod.fst).trans ?_
  rw [List.zipIdx_map_fst]

/-- No key is kept twice, and none that was seen. -/
theorem nodup_keys_keepFirst
    (items : List α)
    (seen : List β) :
    ((keepFirst key items seen).filterMap key).Nodup ∧
      ∀ known ∈ (keepFirst key items seen).filterMap key, known ∉ seen := by
  induction items generalizing seen with
  | nil =>
      simp [keepFirst]
  | cons item rest inductionHypothesis =>
      rw [keepFirst]
      split
      · rename_i noKey
        rw [List.filterMap_cons_none noKey]
        exact inductionHypothesis seen
      · rename_i known isKey
        split
        · exact inductionHypothesis seen
        · rename_i unseen
          obtain ⟨distinct, apart⟩ := inductionHypothesis (known :: seen)
          rw [List.filterMap_cons_some isKey, List.nodup_cons,
            List.forall_mem_cons]
          refine ⟨⟨?_, distinct⟩, unseen, ?_⟩
          · intro again
            exact apart known again List.mem_cons_self
          · intro other member wasSeen
            exact apart other member (List.mem_cons_of_mem _ wasSeen)

/-- Every key of the list that was not seen is kept once. -/
theorem mem_keys_keepFirst_iff
    {items : List α}
    {seen : List β}
    {known : β} :
    known ∈ (keepFirst key items seen).filterMap key ↔
      known ∈ items.filterMap key ∧ known ∉ seen := by
  induction items generalizing seen with
  | nil =>
      simp [keepFirst]
  | cons item rest inductionHypothesis =>
      rw [keepFirst]
      cases isKey : key item with
      | none =>
          simp only [List.filterMap_cons_none isKey]
          exact inductionHypothesis
      | some here =>
          by_cases wasSeen : here ∈ seen
          · simp only [wasSeen, if_true, List.filterMap_cons_some isKey,
              List.mem_cons]
            rw [inductionHypothesis]
            constructor
            · rintro ⟨inRest, unseen⟩
              exact ⟨Or.inr inRest, unseen⟩
            · rintro ⟨rfl | inRest, unseen⟩
              · exact absurd wasSeen unseen
              · exact ⟨inRest, unseen⟩
          · simp only [wasSeen, if_false, List.filterMap_cons_some isKey,
              List.mem_cons]
            rw [inductionHypothesis, List.mem_cons, not_or]
            constructor
            · rintro (rfl | ⟨inRest, _, unseen⟩)
              · exact ⟨Or.inl rfl, wasSeen⟩
              · exact ⟨Or.inr inRest, unseen⟩
            · rintro ⟨isHere | inRest, unseen⟩
              · exact Or.inl isHere
              · by_cases isHere : known = here
                · exact Or.inl isHere
                · exact Or.inr ⟨inRest, isHere, unseen⟩

/-- Elements whose key was seen before may be left out beforehand. -/
theorem keepFirst_filter
    {keep : α → Bool}
    {items : List α}
    {seen : List β}
    (leftOut :
      ∀ item ∈ items, keep item = false → ∃ known ∈ seen, key item = some known) :
    keepFirst key (items.filter keep) seen = keepFirst key items seen := by
  induction items generalizing seen with
  | nil =>
      rfl
  | cons item rest inductionHypothesis =>
      have restLeftOut := fun other member =>
        leftOut other (List.mem_cons_of_mem item member)
      have behind (later : List β)
          (more : ∀ known ∈ seen, known ∈ later) :
          keepFirst key (rest.filter keep) later =
            keepFirst key rest later := by
        refine inductionHypothesis fun other member out => ?_
        obtain ⟨known, wasSeen, isKey⟩ := restLeftOut other member out
        exact ⟨known, more known wasSeen, isKey⟩
      by_cases kept : keep item = true
      · rw [List.filter_cons_of_pos kept, keepFirst, keepFirst]
        cases key item with
        | none =>
            simp only [behind seen fun _ => id]
        | some known =>
            simp only [behind seen fun _ => id,
              behind (known :: seen) fun _ => List.mem_cons_of_mem _]
      · obtain ⟨known, wasSeen, isKey⟩ :=
          leftOut item List.mem_cons_self (Bool.not_eq_true _ ▸ kept)
        rw [List.filter_cons_of_neg kept, keepFirst, isKey]
        simp only [wasSeen, if_true]
        exact behind seen fun _ => id

/-- Everything is kept exactly when all keys are new and different. -/
theorem keepFirst_eq_self_iff
    {items : List α}
    {seen : List β} :
    keepFirst key items seen = items ↔
      (items.filterMap key).Nodup ∧
        ∀ known ∈ items.filterMap key, known ∉ seen := by
  constructor
  · intro same
    rw [← same]
    exact nodup_keys_keepFirst items seen
  · rintro ⟨distinct, unseen⟩
    induction items generalizing seen with
    | nil =>
        rfl
    | cons item rest inductionHypothesis =>
        rw [keepFirst]
        cases isKey : key item with
        | none =>
            rw [List.filterMap_cons_none isKey] at distinct unseen
            simp only [inductionHypothesis distinct unseen]
        | some known =>
            rw [List.filterMap_cons_some isKey] at distinct unseen
            obtain ⟨notAgain, restDistinct⟩ := List.nodup_cons.mp distinct
            have new : known ∉ seen := unseen known List.mem_cons_self
            have restUnseen :
                ∀ other ∈ rest.filterMap key, other ∉ known :: seen := by
              intro other member
              rw [List.mem_cons, not_or]
              refine ⟨?_, unseen other (List.mem_cons_of_mem _ member)⟩
              rintro rfl
              exact notAgain member
            simp only [new, if_false,
              inductionHypothesis restDistinct restUnseen]

end Foundation.FirstOccurrence
