import Mathlib.Data.List.Induction
import ResearchCos.Foundation.OrderedMap

namespace Foundation

/-!
# Formats of documents

A format writes values as documents and reads documents with a check.  A
document carries a value when it is a writing of it, in which every record may
have further fields in any place.  A document that carries a value is read as
this value, provided that it is valid, and only valid values are read.
-/

/-- A way to write values as documents and to read them back. -/
structure Format (δ α : Type) where
  write : α → δ
  read : δ → Option α
  Valid : α → Prop
  Carries : δ → α → Prop
  carries_write : ∀ value, Carries (write value) value
  valid_of_read :
    ∀ {document value}, read document = some value → Valid value
  read_iff :
    ∀ {document value}, Carries document value →
      ∀ {found}, read document = some found ↔ found = value ∧ Valid value

namespace Format

variable {δ α β : Type}

/-- What was read once is read again after it is written. -/
theorem read_write_of_read
    (format : Format δ α)
    {document : δ}
    {value : α}
    (isRead : format.read document = some value) :
    format.read (format.write value) = some value :=
  (format.read_iff (format.carries_write value)).mpr
    ⟨rfl, format.valid_of_read isRead⟩

/-- A document is refused exactly when the value that it carries is invalid. -/
theorem read_eq_none_iff
    (format : Format δ α)
    {document : δ}
    {value : α}
    (carries : format.Carries document value) :
    format.read document = none ↔ ¬format.Valid value := by
  rw [Option.eq_none_iff_forall_ne_some]
  constructor
  · intro refused valid
    exact refused value ((format.read_iff carries).mpr ⟨rfl, valid⟩)
  · intro invalid found isRead
    exact invalid ((format.read_iff carries).mp isRead).2

/-! ## Single values -/

/-- Documents that are read without a check. -/
def unchecked
    (write : α → δ)
    (read : δ → Option α)
    (readsBack : ∀ value, read (write value) = some value) :
    Format δ α where
  write := write
  read := read
  Valid _ := True
  Carries document value := document = write value
  carries_write _ := rfl
  valid_of_read _ := trivial
  read_iff := by
    rintro document value rfl found
    rw [readsBack, Option.some.injEq, and_true]
    exact eq_comm

/-- A further check of what is read. -/
def checked
    (format : Format δ α)
    (property : α → Prop)
    [DecidablePred property] : Format δ α where
  write := format.write
  read document := (format.read document).filter fun value => property value
  Valid value := format.Valid value ∧ property value
  Carries := format.Carries
  carries_write := format.carries_write
  valid_of_read := by
    intro document value isRead
    rw [Option.filter_eq_some_iff] at isRead
    exact ⟨format.valid_of_read isRead.1, of_decide_eq_true isRead.2⟩
  read_iff := by
    intro document value carries found
    rw [Option.filter_eq_some_iff, format.read_iff carries,
      decide_eq_true_iff]
    constructor
    · rintro ⟨⟨rfl, valid⟩, has⟩
      exact ⟨rfl, valid, has⟩
    · rintro ⟨rfl, valid, has⟩
      exact ⟨⟨rfl, valid⟩, has⟩

/-- Values in another shape. -/
def reshaped
    (format : Format δ α)
    (shape : β → α)
    (unshape : α → β)
    (unshape_shape : ∀ value, unshape (shape value) = value)
    (shape_unshape : ∀ value, shape (unshape value) = value) :
    Format δ β where
  write value := format.write (shape value)
  read document := (format.read document).map unshape
  Valid value := format.Valid (shape value)
  Carries document value := format.Carries document (shape value)
  carries_write value := format.carries_write (shape value)
  valid_of_read := by
    intro document value isRead
    obtain ⟨shaped, isShaped, rfl⟩ := Option.map_eq_some_iff.mp isRead
    rw [shape_unshape]
    exact format.valid_of_read isShaped
  read_iff := by
    intro document value carries found
    rw [Option.map_eq_some_iff]
    constructor
    · rintro ⟨shaped, isShaped, rfl⟩
      obtain ⟨rfl, valid⟩ := (format.read_iff carries).mp isShaped
      exact ⟨unshape_shape value, valid⟩
    · rintro ⟨rfl, valid⟩
      exact
        ⟨shape found, (format.read_iff carries).mpr ⟨rfl, valid⟩,
          unshape_shape found⟩

/-- Values that may be missing. -/
def optional
    (format : Format δ α)
    (nothing : δ)
    (isNothing : δ → Bool)
    (isNothing_nothing : isNothing nothing = true)
    (isNothing_of_carries :
      ∀ {document value}, format.Carries document value →
        isNothing document = false) :
    Format δ (Option α) where
  write value := value.elim nothing format.write
  read document :=
    if isNothing document then
      some none
    else
      (format.read document).map some
  Valid value := ∀ stored ∈ value, format.Valid stored
  Carries document value :=
    value.elim (document = nothing) (format.Carries document)
  carries_write value := by
    cases value with
    | none => rfl
    | some stored => exact format.carries_write stored
  valid_of_read := by
    intro document value isRead
    split at isRead
    · cases isRead
      rintro _ ⟨⟩
    · obtain ⟨stored, isStored, rfl⟩ := Option.map_eq_some_iff.mp isRead
      rintro _ ⟨⟩
      exact format.valid_of_read isStored
  read_iff := by
    intro document value carries found
    cases value with
    | none =>
        obtain rfl : document = nothing := carries
        simp [isNothing_nothing, eq_comm]
    | some stored =>
        have carriesStored : format.Carries document stored := carries
        simp only [isNothing_of_carries carriesStored, Bool.false_eq_true,
          ↓reduceIte, Option.map_eq_some_iff, format.read_iff carriesStored]
        constructor
        · rintro ⟨_, ⟨rfl, valid⟩, rfl⟩
          refine ⟨rfl, ?_⟩
          rintro _ ⟨⟩
          exact valid
        · rintro ⟨rfl, valid⟩
          exact ⟨stored, ⟨rfl, valid stored rfl⟩, rfl⟩

/-! ## Many values -/

/-- Documents that carry values one by one are read one by one. -/
theorem mapM_read_iff
    (format : Format δ α)
    {documents : List δ}
    {values : List α}
    (carries : List.Forall₂ format.Carries documents values)
    {found : List α} :
    documents.mapM format.read = some found ↔
      found = values ∧ ∀ value ∈ values, format.Valid value := by
  induction carries generalizing found with
  | nil =>
      simp [eq_comm]
  | cons first rest inductionHypothesis =>
      simp only [List.mapM_cons, Option.bind_eq_bind, Option.pure_def,
        Option.bind_eq_some_iff, format.read_iff first, inductionHypothesis,
        Option.some.injEq, List.forall_mem_cons]
      constructor
      · rintro ⟨_, ⟨rfl, validFirst⟩, _, ⟨rfl, validRest⟩, rfl⟩
        exact ⟨rfl, validFirst, validRest⟩
      · rintro ⟨rfl, validFirst, validRest⟩
        exact ⟨_, ⟨rfl, validFirst⟩, _, ⟨rfl, validRest⟩, rfl⟩

theorem valid_of_mapM_read
    (format : Format δ α)
    {documents : List δ}
    {values : List α}
    (areRead : documents.mapM format.read = some values) :
    ∀ value ∈ values, format.Valid value := by
  induction documents generalizing values with
  | nil =>
      cases areRead
      rintro _ ⟨⟩
  | cons document rest inductionHypothesis =>
      simp only [List.mapM_cons, Option.bind_eq_bind, Option.pure_def,
        Option.bind_eq_some_iff, Option.some.injEq] at areRead
      obtain ⟨first, isFirst, others, areOthers, rfl⟩ := areRead
      exact
        List.forall_mem_cons.mpr
          ⟨format.valid_of_read isFirst, inductionHypothesis areOthers⟩

/-- A list of values. -/
def list
    (format : Format δ α)
    (wrap : List δ → δ)
    (unwrap : δ → Option (List δ))
    (unwrap_wrap : ∀ documents, unwrap (wrap documents) = some documents) :
    Format δ (List α) where
  write values := wrap (values.map format.write)
  read document := (unwrap document).bind fun items => items.mapM format.read
  Valid values := ∀ value ∈ values, format.Valid value
  Carries document values :=
    ∃ items,
      unwrap document = some items ∧
        List.Forall₂ format.Carries items values
  carries_write values := by
    refine ⟨values.map format.write, unwrap_wrap _, ?_⟩
    rw [List.forall₂_map_left_iff, List.forall₂_same]
    exact fun value _ => format.carries_write value
  valid_of_read := by
    intro document values isRead
    obtain ⟨items, _, areRead⟩ := Option.bind_eq_some_iff.mp isRead
    exact format.valid_of_mapM_read areRead
  read_iff := by
    rintro document values ⟨items, isList, carries⟩ found
    rw [isList, Option.bind_some]
    exact format.mapM_read_iff carries

/-- An association of a value with its key. -/
def entry
    (format : Format δ α) :
    Format (String × δ) (String × α) where
  write association := (association.1, format.write association.2)
  read field := (format.read field.2).map fun value => (field.1, value)
  Valid association := format.Valid association.2
  Carries field association :=
    field.1 = association.1 ∧ format.Carries field.2 association.2
  carries_write association := ⟨rfl, format.carries_write association.2⟩
  valid_of_read := by
    intro field association isRead
    obtain ⟨value, isValue, rfl⟩ := Option.map_eq_some_iff.mp isRead
    exact format.valid_of_read isValue
  read_iff := by
    rintro ⟨key, document⟩ ⟨name, value⟩ ⟨rfl, carries⟩ found
    simp only [Option.map_eq_some_iff, format.read_iff carries]
    constructor
    · rintro ⟨_, ⟨rfl, valid⟩, rfl⟩
      exact ⟨rfl, valid⟩
    · rintro ⟨rfl, valid⟩
      exact ⟨value, ⟨rfl, valid⟩, rfl⟩

end Format

/-! ## Dictionaries -/

namespace OrderedMap

variable {κ ν : Type} [DecidableEq κ]

/-- The dictionary of associations; only the last value under a key counts. -/
def ofEntries (entries : List (κ × ν)) : OrderedMap κ ν :=
  entries.foldl (fun map entry => map.insert entry.1 entry.2) ∅

/-- Associations with different keys are stored as they are. -/
theorem ofEntries_entries
    (map : OrderedMap κ ν) :
    ofEntries map.entries = map := by
  have stored
      {rest : List (κ × ν)}
      {begun : OrderedMap κ ν}
      (distinct : ((begun.entries ++ rest).map Prod.fst).Nodup) :
      (rest.foldl (fun map entry => map.insert entry.1 entry.2)
          begun).entries =
        begun.entries ++ rest := by
    induction rest generalizing begun with
    | nil =>
        simp
    | cons entry rest inductionHypothesis =>
        have absent : begun.get? entry.1 = none := by
          refine assoc?_eq_none_iff.mpr fun member => ?_
          rw [List.map_append, List.map_cons] at distinct
          exact
            (List.nodup_append.mp distinct).2.2 _ member _
              List.mem_cons_self rfl
        have appended := entries_insert_of_absent absent entry.2
        rw [List.foldl_cons, inductionHypothesis]
        · rw [appended, List.append_assoc]
          rfl
        · rw [appended, List.append_assoc]
          exact distinct
  exact ext_entries (stored (by simpa using map.nodupKeys))

theorem allValues_ofEntries
    {property : ν → Prop}
    {entries : List (κ × ν)}
    (all : ∀ entry ∈ entries, property entry.2) :
    AllValues property (ofEntries entries) := by
  induction entries using List.reverseRecOn with
  | nil =>
      exact allValues_empty property
  | append_singleton earlier last inductionHypothesis =>
      have before :=
        inductionHypothesis fun entry member =>
          all entry (List.mem_append_left _ member)
      rw [ofEntries, List.foldl_append]
      exact
        AllValues.insert before
          (all last (List.mem_append_right _ List.mem_cons_self))

end OrderedMap

namespace Format

variable {δ α β : Type}

/-- A dictionary of values. -/
def dictionary
    (format : Format δ α)
    (wrap : List (String × δ) → δ)
    (unwrap : δ → Option (List (String × δ)))
    (unwrap_wrap : ∀ fields, unwrap (wrap fields) = some fields) :
    Format δ (OrderedMap String α) where
  write map := wrap (map.entries.map format.entry.write)
  read document :=
    (unwrap document).bind fun fields =>
      (fields.mapM format.entry.read).map OrderedMap.ofEntries
  Valid map := OrderedMap.AllValues format.Valid map
  Carries document map :=
    ∃ fields,
      unwrap document = some fields ∧
        List.Forall₂ format.entry.Carries fields map.entries
  carries_write map := by
    refine ⟨map.entries.map format.entry.write, unwrap_wrap _, ?_⟩
    rw [List.forall₂_map_left_iff, List.forall₂_same]
    exact fun association _ => format.entry.carries_write association
  valid_of_read := by
    intro document map isRead
    obtain ⟨fields, _, areRead⟩ := Option.bind_eq_some_iff.mp isRead
    obtain ⟨entries, areEntries, rfl⟩ := Option.map_eq_some_iff.mp areRead
    exact
      OrderedMap.allValues_ofEntries
        (format.entry.valid_of_mapM_read areEntries)
  read_iff := by
    rintro document map ⟨fields, isDictionary, carries⟩ found
    simp only [isDictionary, Option.bind_some, Option.map_eq_some_iff,
      format.entry.mapM_read_iff carries]
    have valid :
        (∀ association ∈ map.entries, format.entry.Valid association) ↔
          OrderedMap.AllValues format.Valid map := by
      simp only [OrderedMap.AllValues, OrderedMap.values,
        List.forall_mem_map]
      rfl
    rw [← valid]
    constructor
    · rintro ⟨_, ⟨rfl, allValid⟩, rfl⟩
      exact ⟨OrderedMap.ofEntries_entries map, allValid⟩
    · rintro ⟨rfl, allValid⟩
      exact ⟨_, ⟨rfl, allValid⟩, OrderedMap.ofEntries_entries found⟩

end Format

/-! ## Records -/

/-- The fields of a record, in the order in which they are written. -/
structure Fields (δ α : Type) where
  names : List String
  write : α → List (String × δ)
  read : List (String × δ) → Option α
  Valid : α → Prop
  Carries : List (String × δ) → α → Prop
  carries_write : ∀ value, Carries (write value) value
  carries_congr :
    ∀ {first second value},
      (∀ name ∈ names, second.lookup name = first.lookup name) →
        Carries first value → Carries second value
  valid_of_read :
    ∀ {fields value}, read fields = some value → Valid value
  read_iff :
    ∀ {fields value}, Carries fields value →
      ∀ {found}, read fields = some found ↔ found = value ∧ Valid value

namespace Fields

variable {δ α β : Type}

/-- A record without fields. -/
def nil : Fields δ Unit where
  names := []
  write _ := []
  read _ := some ()
  Valid _ := True
  Carries _ _ := True
  carries_write _ := trivial
  carries_congr _ _ := trivial
  valid_of_read _ := trivial
  read_iff := by
    intro fields value _ found
    simp

/-- A field under its name; a missing one has the fallback, if there is one. -/
def readField
    (format : Format δ α)
    (name : String)
    (fallback : Option α)
    (fields : List (String × δ)) : Option α :=
  (fields.lookup name).elim fallback format.read

/-- A record with one more field in front. -/
def cons
    (name : String)
    (format : Format δ α)
    (fallback : Option α)
    (rest : Fields δ β)
    (fresh : name ∉ rest.names)
    (fallbackValid : ∀ value ∈ fallback, format.Valid value) :
    Fields δ (α × β) where
  names := name :: rest.names
  write value := (name, format.write value.1) :: rest.write value.2
  read fields :=
    (readField format name fallback fields).bind fun first =>
      (rest.read fields).map fun others => (first, others)
  Valid value := format.Valid value.1 ∧ rest.Valid value.2
  Carries fields value :=
    (∃ document,
      fields.lookup name = some document ∧
        format.Carries document value.1) ∧
      rest.Carries fields value.2
  carries_write value := by
    refine ⟨⟨_, List.lookup_cons_self, format.carries_write value.1⟩, ?_⟩
    refine rest.carries_congr (fun other member => ?_)
      (rest.carries_write value.2)
    have differs : other ≠ name := by
      rintro rfl
      exact fresh member
    rw [List.lookup_cons, beq_eq_false_iff_ne.mpr differs]
  carries_congr := by
    rintro first second value same ⟨⟨document, isField, carries⟩, others⟩
    refine ⟨⟨document, ?_, carries⟩, rest.carries_congr ?_ others⟩
    · rw [same name List.mem_cons_self, isField]
    · exact fun other member => same other (List.mem_cons_of_mem _ member)
  valid_of_read := by
    intro fields value isRead
    obtain ⟨first, isFirst, isRead⟩ := Option.bind_eq_some_iff.mp isRead
    obtain ⟨others, areOthers, rfl⟩ := Option.map_eq_some_iff.mp isRead
    refine ⟨?_, rest.valid_of_read areOthers⟩
    unfold readField at isFirst
    cases isField : fields.lookup name with
    | none =>
        rw [isField] at isFirst
        exact fallbackValid first isFirst
    | some document =>
        rw [isField] at isFirst
        exact format.valid_of_read isFirst
  read_iff := by
    rintro fields ⟨first, others⟩ ⟨⟨document, isField, carries⟩, areCarried⟩ found
    have isRead :
        readField format name fallback fields = format.read document := by
      rw [readField, isField]
      rfl
    simp only [isRead, Option.bind_eq_some_iff, Option.map_eq_some_iff,
      format.read_iff carries, rest.read_iff areCarried]
    constructor
    · rintro ⟨_, ⟨rfl, validFirst⟩, _, ⟨rfl, validOthers⟩, rfl⟩
      exact ⟨rfl, validFirst, validOthers⟩
    · rintro ⟨rfl, validFirst, validOthers⟩
      exact ⟨_, ⟨rfl, validFirst⟩, _, ⟨rfl, validOthers⟩, rfl⟩

end Fields

/-- A record as a document. -/
def Format.record
    {δ α : Type}
    (fields : Fields δ α)
    (wrap : List (String × δ) → δ)
    (unwrap : δ → Option (List (String × δ)))
    (unwrap_wrap : ∀ fields, unwrap (wrap fields) = some fields) :
    Format δ α where
  write value := wrap (fields.write value)
  read document := (unwrap document).bind fields.read
  Valid := fields.Valid
  Carries document value :=
    ∃ stored, unwrap document = some stored ∧ fields.Carries stored value
  carries_write value :=
    ⟨fields.write value, unwrap_wrap _, fields.carries_write value⟩
  valid_of_read := by
    intro document value isRead
    obtain ⟨stored, _, isRead⟩ := Option.bind_eq_some_iff.mp isRead
    exact fields.valid_of_read isRead
  read_iff := by
    rintro document value ⟨stored, isRecord, carries⟩ found
    rw [isRecord, Option.bind_some]
    exact fields.read_iff carries

end Foundation
