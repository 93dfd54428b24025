import ResearchCos.Foundation.OrderedMap

namespace Foundation

/-!
# Actions on a store that may be interrupted

An action reads a store and writes it one key after another; it ends with a
value or raises.  A crash stops it after some number of its writes.  The rules
say what holds after every prefix of the writes and what holds at the end.
-/

/-- The writes of an action in their order, and its value unless it raises. -/
structure Effect (κ ν α : Type) where
  writes : List (κ × ν)
  result : Option α

/-- An action sees the store that the writes before it have left. -/
def Action (κ ν α : Type) : Type :=
  OrderedMap κ ν → Effect κ ν α

section Actions

variable {κ ν α β : Type} [DecidableEq κ]

/-- Perform writes one after another. -/
def perform
    (store : OrderedMap κ ν)
    (writes : List (κ × ν)) : OrderedMap κ ν :=
  writes.foldl (fun store write => store.insert write.1 write.2) store

theorem perform_append
    (store : OrderedMap κ ν)
    (earlier later : List (κ × ν)) :
    perform store (earlier ++ later) = perform (perform store earlier) later :=
  List.foldl_append

namespace Action

/-- The store that an action leaves. -/
def after
    (action : Action κ ν α)
    (store : OrderedMap κ ν) : OrderedMap κ ν :=
  perform store (action store).writes

/-- The store after the first writes of an action. -/
def interrupted
    (action : Action κ ν α)
    (store : OrderedMap κ ν)
    (count : Nat) : OrderedMap κ ν :=
  perform store ((action store).writes.take count)

/-- Read a store; `none` raises. -/
def observe (read : OrderedMap κ ν → Option α) : Action κ ν α :=
  fun store => { writes := [], result := read store }

def write (key : κ) (value : ν) : Action κ ν Unit :=
  fun _ => { writes := [(key, value)], result := some () }

instance : Monad (Action κ ν) where
  pure value := fun _ => { writes := [], result := some value }
  bind first next := fun store =>
    match (first store).result with
    | none =>
        { writes := (first store).writes, result := none }
    | some value =>
        let later := next value (first.after store)
        { writes := (first store).writes ++ later.writes
          result := later.result }

/-! ## Sequencing -/

/-- After a value the second action sees the store that the first one left. -/
theorem bind_of_result
    {first : Action κ ν α}
    {store : OrderedMap κ ν}
    {value : α}
    (returned : (first store).result = some value)
    (next : α → Action κ ν β) :
    (first >>= next) store =
      { writes :=
          (first store).writes ++ (next value (first.after store)).writes
        result := (next value (first.after store)).result } := by
  show (match (first store).result with
    | none => _
    | some value => _) = _
  rw [returned]

/-- What raises is not followed by anything. -/
theorem bind_of_raised
    {first : Action κ ν α}
    {store : OrderedMap κ ν}
    (raised : (first store).result = none)
    (next : α → Action κ ν β) :
    (first >>= next) store =
      { writes := (first store).writes, result := none } := by
  show (match (first store).result with
    | none => _
    | some value => _) = _
  rw [raised]

theorem after_bind
    {first : Action κ ν α}
    {store : OrderedMap κ ν}
    {value : α}
    (returned : (first store).result = some value)
    (next : α → Action κ ν β) :
    (first >>= next).after store = (next value).after (first.after store) := by
  unfold after
  rw [bind_of_result returned, perform_append]
  rfl

/-- A crash within the first action. -/
theorem interrupted_bind_of_le
    (first : Action κ ν α)
    (store : OrderedMap κ ν)
    (next : α → Action κ ν β)
    {count : Nat}
    (early : count ≤ (first store).writes.length) :
    (first >>= next).interrupted store count =
      first.interrupted store count := by
  unfold interrupted
  cases returned : (first store).result with
  | none =>
      rw [bind_of_raised returned]
  | some value =>
      rw [bind_of_result returned, List.take_append_of_le_length early]

/-- A crash after the first action. -/
theorem interrupted_bind_add
    {first : Action κ ν α}
    {store : OrderedMap κ ν}
    {value : α}
    (returned : (first store).result = some value)
    (next : α → Action κ ν β)
    (count : Nat) :
    (first >>= next).interrupted store
        ((first store).writes.length + count) =
      (next value).interrupted (first.after store) count := by
  unfold interrupted
  rw [bind_of_result returned, List.take_length_add_append, perform_append]
  rfl

@[simp] theorem interrupted_zero
    (action : Action κ ν α)
    (store : OrderedMap κ ν) :
    action.interrupted store 0 = store :=
  rfl

/-- A crash that comes late enough is none. -/
theorem interrupted_of_length_le
    (action : Action κ ν α)
    (store : OrderedMap κ ν)
    {count : Nat}
    (late : (action store).writes.length ≤ count) :
    action.interrupted store count = action.after store := by
  unfold interrupted after
  rw [List.take_of_length_le late]

/-- Reading writes nothing. -/
theorem observe_bind
    {read : OrderedMap κ ν → Option α}
    {store : OrderedMap κ ν}
    {value : α}
    (isRead : read store = some value)
    (next : α → Action κ ν β) :
    (observe read >>= next) store = next value store := by
  have returned : (observe read store).result = some value := isRead
  rw [bind_of_result returned]
  rfl

/-- What cannot be read raises before anything is written. -/
theorem observe_bind_none
    {read : OrderedMap κ ν → Option α}
    {store : OrderedMap κ ν}
    (raises : read store = none)
    (next : α → Action κ ν β) :
    (observe read >>= next) store = { writes := [], result := none } := by
  have raised : (observe read store).result = none := raises
  exact bind_of_raised raised next

/-! ## What holds at every crash and at the end -/

/-- Every prefix of the writes leaves a store with a property. -/
def Safe
    (action : Action κ ν α)
    (store : OrderedMap κ ν)
    (crash : OrderedMap κ ν → Prop) : Prop :=
  ∀ count, crash (action.interrupted store count)

/-- What holds at every crash holds at the end. -/
theorem Safe.after
    {action : Action κ ν α}
    {store : OrderedMap κ ν}
    {crash : OrderedMap κ ν → Prop}
    (safe : Safe action store crash) :
    crash (action.after store) := by
  rw [← interrupted_of_length_le action store (Nat.le_refl _)]
  exact safe _

/-- The action does not raise, and it ends with a property. -/
def Ends
    (action : Action κ ν α)
    (store : OrderedMap κ ν)
    (post : α → OrderedMap κ ν → Prop) : Prop :=
  ∃ value, (action store).result = some value ∧ post value (action.after store)

/-- Both: the first property at every crash, the second one at the end. -/
def Meets
    (action : Action κ ν α)
    (store : OrderedMap κ ν)
    (crash : OrderedMap κ ν → Prop)
    (post : α → OrderedMap κ ν → Prop) : Prop :=
  Safe action store crash ∧ Ends action store post

variable {crash : OrderedMap κ ν → Prop}

theorem Safe.pure
    {store : OrderedMap κ ν}
    (safe : crash store)
    (value : α) :
    Safe (Pure.pure value : Action κ ν α) store crash := by
  intro count
  cases count <;> exact safe

/-- Reading leaves every store as it is. -/
theorem Safe.observe
    {store : OrderedMap κ ν}
    (safe : crash store)
    (read : OrderedMap κ ν → Option α) :
    Safe (Action.observe read) store crash := by
  intro count
  cases count <;> exact safe

theorem Safe.write
    {store : OrderedMap κ ν}
    {key : κ}
    {value : ν}
    (safe : crash store)
    (safeAfter : crash (store.insert key value)) :
    Safe (Action.write key value) store crash := by
  intro count
  cases count with
  | zero =>
      exact safe
  | succ count =>
      cases count <;> exact safeAfter

theorem Meets.pure
    {store : OrderedMap κ ν}
    {value : α}
    {post : α → OrderedMap κ ν → Prop}
    (safe : crash store)
    (holds : post value store) :
    Meets (Pure.pure value : Action κ ν α) store crash post :=
  ⟨Safe.pure safe value, value, rfl, holds⟩

theorem Meets.write
    {store : OrderedMap κ ν}
    {key : κ}
    {value : ν}
    {post : Unit → OrderedMap κ ν → Prop}
    (safe : crash store)
    (safeAfter : crash (store.insert key value))
    (holds : post () (store.insert key value)) :
    Meets (Action.write key value) store crash post :=
  ⟨Safe.write safe safeAfter, (), rfl, holds⟩

/-- What is read is passed on. -/
theorem Meets.observe
    {read : OrderedMap κ ν → Option α}
    {store : OrderedMap κ ν}
    {value : α}
    {next : α → Action κ ν β}
    {post : β → OrderedMap κ ν → Prop}
    (isRead : read store = some value)
    (meets : Meets (next value) store crash post) :
    Meets (Action.observe read >>= next) store crash post := by
  unfold Meets Safe Ends interrupted after
  rw [observe_bind isRead]
  exact meets

/-- The crashes of a sequence are those of its parts. -/
theorem Safe.bind
    {first : Action κ ν α}
    {next : α → Action κ ν β}
    {store : OrderedMap κ ν}
    (safe : Safe first store crash)
    (later :
      ∀ value, (first store).result = some value →
        Safe (next value) (first.after store) crash) :
    Safe (first >>= next) store crash := by
  intro count
  rcases Nat.le_total count (first store).writes.length with early | late
  · rw [interrupted_bind_of_le first store next early]
    exact safe count
  · cases returned : (first store).result with
    | none =>
        have all := safe count
        unfold interrupted at all ⊢
        rw [bind_of_raised returned]
        exact all
    | some value =>
        obtain ⟨rest, rfl⟩ := Nat.exists_eq_add_of_le late
        rw [interrupted_bind_add returned]
        exact later value returned rest

/-- A sequence meets what its parts meet one after another. -/
theorem Meets.bind
    {first : Action κ ν α}
    {next : α → Action κ ν β}
    {store : OrderedMap κ ν}
    {middle : α → OrderedMap κ ν → Prop}
    {post : β → OrderedMap κ ν → Prop}
    (meetsFirst : Meets first store crash middle)
    (meetsNext :
      ∀ value reached, middle value reached →
        Meets (next value) reached crash post) :
    Meets (first >>= next) store crash post := by
  obtain ⟨safe, value, returned, reached⟩ := meetsFirst
  have meets := meetsNext value _ reached
  obtain ⟨final, ended, holds⟩ := meets.2
  refine ⟨safe.bind fun other isOther => ?_, final, ?_, ?_⟩
  · rw [returned] at isOther
    cases isOther
    exact meets.1
  · rw [bind_of_result returned]
    exact ended
  · rw [after_bind returned]
    exact holds

/-- Weaker properties hold as well. -/
theorem Meets.mono
    {action : Action κ ν α}
    {store : OrderedMap κ ν}
    {weakerCrash : OrderedMap κ ν → Prop}
    {post weakerPost : α → OrderedMap κ ν → Prop}
    (holds : Meets action store crash post)
    (crashes : ∀ reached, crash reached → weakerCrash reached)
    (ends : ∀ value reached, post value reached → weakerPost value reached) :
    Meets action store weakerCrash weakerPost := by
  obtain ⟨safe, value, returned, reached⟩ := holds
  exact ⟨fun count => crashes _ (safe count), value, returned,
    ends value _ reached⟩

end Action

end Actions

end Foundation
