import Mathlib.Data.List.Flatten
import Mathlib.Data.List.Perm.Basic

namespace Foundation

/-!
# Permits shared by a crowd of parties

A counting semaphore admits parties in order of arrival: a permit that comes
free while somebody waits is handed to the first waiter that has none, who takes
it up when it runs again.  `available` counts the permits that no admitted party
has, whether they lie free or have been handed to a waiter, so that it moves by
one exactly where a party is admitted or gives its permit back.

The second half is about the parties: what they hold together changes by what
the one that moves lets go of and takes up.
-/

/-- A counting semaphore; a waiter is marked once a permit is handed to it. -/
structure Semaphore (ι : Type) where
  value : Nat
  waiters : List (ι × Bool)
  deriving Repr, DecidableEq

namespace Semaphore

variable {ι : Type}

/-- A semaphore with its permits free and nobody waiting. -/
def new (permits : Nat) : Semaphore ι where
  value := permits
  waiters := []

/-- Nobody is admitted past a waiter, even while permits are free. -/
def locked (semaphore : Semaphore ι) : Bool :=
  semaphore.value == 0 || !semaphore.waiters.isEmpty

/-- Hand a permit to the first waiter that has none. -/
def grantFirst : List (ι × Bool) → Option (List (ι × Bool))
  | [] => none
  | (waiter, true) :: rest => (grantFirst rest).map ((waiter, true) :: ·)
  | (waiter, false) :: rest => some ((waiter, true) :: rest)

/-- Wake waiters for as long as permits are free and somebody has none. -/
def wakeWhileFree : Nat → List (ι × Bool) → Semaphore ι
  | 0, waiters => ⟨0, waiters⟩
  | free + 1, waiters =>
      match grantFirst waiters with
      | none => ⟨free + 1, waiters⟩
      | some granted => wakeWhileFree free granted

/-- Give a permit back; the first waiter without one gets it. -/
def release (semaphore : Semaphore ι) : Semaphore ι :=
  match grantFirst semaphore.waiters with
  | none => { semaphore with value := semaphore.value + 1 }
  | some granted => { semaphore with waiters := granted }

/-- Queue behind the waiters. -/
def enqueue (semaphore : Semaphore ι) (party : ι) : Semaphore ι :=
  { semaphore with waiters := semaphore.waiters ++ [(party, false)] }

/-- Take a free permit. -/
def takeFree (semaphore : Semaphore ι) : Semaphore ι :=
  { semaphore with value := semaphore.value - 1 }

/-- A waiter that was handed a permit goes on, and wakes whom it held back. -/
def resume
    [DecidableEq ι]
    (semaphore : Semaphore ι)
    (party : ι) : Option (Semaphore ι) :=
  if (party, true) ∈ semaphore.waiters then
    some (wakeWhileFree semaphore.value (semaphore.waiters.erase (party, true)))
  else
    none

/-- The permits handed to waiters that have not gone on yet. -/
def handed (waiters : List (ι × Bool)) : Nat :=
  waiters.countP (·.2)

/-- The permits that no admitted party has. -/
def available (semaphore : Semaphore ι) : Nat :=
  semaphore.value + handed semaphore.waiters

theorem length_waiters_enqueue
    (semaphore : Semaphore ι)
    (party : ι) :
    (semaphore.enqueue party).waiters.length = semaphore.waiters.length + 1 :=
  List.length_append

/-- A grant marks one more waiter and keeps the queue's length. -/
theorem grantFirst_spec
    {waiters granted : List (ι × Bool)}
    (given : grantFirst waiters = some granted) :
    handed granted = handed waiters + 1 ∧ granted.length = waiters.length := by
  induction waiters generalizing granted with
  | nil =>
      cases given
  | cons head rest inductionHypothesis =>
      obtain ⟨waiter, marked⟩ := head
      cases marked with
      | false =>
          cases given
          simp [handed]
      | true =>
          obtain ⟨others, givenRest, rfl⟩ := Option.map_eq_some_iff.mp given
          obtain ⟨oneMore, sameLength⟩ := inductionHypothesis givenRest
          constructor
          · simp only [handed, List.countP_cons_of_pos] at oneMore ⊢
            omega
          · simp [sameLength]

/-- Waking hands permits on without losing or making one. -/
theorem wakeWhileFree_spec
    (free : Nat)
    (waiters : List (ι × Bool)) :
    (wakeWhileFree free waiters).available = free + handed waiters ∧
      (wakeWhileFree free waiters).waiters.length = waiters.length := by
  induction free generalizing waiters with
  | zero =>
      exact ⟨rfl, rfl⟩
  | succ free inductionHypothesis =>
      unfold wakeWhileFree
      cases given : grantFirst waiters with
      | none =>
          exact ⟨rfl, rfl⟩
      | some granted =>
          obtain ⟨oneMore, sameLength⟩ := grantFirst_spec given
          obtain ⟨kept, keptLength⟩ := inductionHypothesis granted
          exact ⟨by rw [kept]; omega, keptLength.trans sameLength⟩

/-- A permit given back is available again. -/
theorem available_release
    (semaphore : Semaphore ι) :
    semaphore.release.available = semaphore.available + 1 := by
  unfold release
  cases given : grantFirst semaphore.waiters with
  | none =>
      simp only [available]
      omega
  | some granted =>
      simp only [available, (grantFirst_spec given).1]
      omega

/-- Giving a permit back keeps everybody in the queue. -/
theorem length_waiters_release
    (semaphore : Semaphore ι) :
    semaphore.release.waiters.length = semaphore.waiters.length := by
  unfold release
  cases given : grantFirst semaphore.waiters with
  | none =>
      rfl
  | some granted =>
      exact (grantFirst_spec given).2

/-- Queueing takes no permit. -/
theorem available_enqueue
    (semaphore : Semaphore ι)
    (party : ι) :
    (semaphore.enqueue party).available = semaphore.available := by
  simp [enqueue, available, handed]

/-- Whoever is admitted at once takes one available permit. -/
theorem available_takeFree
    {semaphore : Semaphore ι}
    (unlocked : semaphore.locked = false) :
    semaphore.takeFree.available + 1 = semaphore.available := by
  have free : semaphore.value ≠ 0 := by
    intro none
    simp [locked, none] at unlocked
  simp only [takeFree, available]
  omega

/-- A waiter that goes on takes one available permit and leaves the queue. -/
theorem resume_spec
    [DecidableEq ι]
    {semaphore next : Semaphore ι}
    {party : ι}
    (resumed : semaphore.resume party = some next) :
    next.available + 1 = semaphore.available ∧
      next.waiters.length + 1 = semaphore.waiters.length := by
  simp only [resume] at resumed
  split at resumed
  · rename_i queued
    obtain ⟨rfl⟩ := resumed
    have order := List.perm_cons_erase queued
    have split : handed semaphore.waiters =
        handed (semaphore.waiters.erase (party, true)) + 1 := by
      rw [handed, order.countP_eq, List.countP_cons_of_pos rfl]
      rfl
    obtain ⟨kept, keptLength⟩ :=
      wakeWhileFree_spec semaphore.value
        (semaphore.waiters.erase (party, true))
    constructor
    · rw [kept, available, split]
      omega
    · rw [keptLength, order.length_eq, List.length_cons]
  · cases resumed

end Semaphore

/-! ## What the parties hold together -/

section Holdings

variable {γ β : Type}

/-- What all parties hold. -/
def holdings
    (held : γ → List β)
    (parties : List γ) : List β :=
  parties.flatMap held

/-- Parties that hold nothing hold nothing together. -/
theorem holdings_eq_nil_iff
    {held : γ → List β}
    {parties : List γ} :
    holdings held parties = [] ↔ ∀ party ∈ parties, held party = [] :=
  List.flatMap_eq_nil_iff

/-- What one of the parties holds is among what they hold together. -/
theorem mem_holdings
    {held : γ → List β}
    {parties : List γ}
    {thing : β} :
    thing ∈ holdings held parties ↔ ∃ party ∈ parties, thing ∈ held party :=
  List.mem_flatMap

/-- Put aside what one party holds. -/
theorem holdings_perm_of_getElem?
    (held : γ → List β)
    {parties : List γ}
    {index : Nat}
    {party : γ}
    (standing : parties[index]? = some party) :
    (holdings held parties).Perm
      (held party ++ holdings held (parties.eraseIdx index)) := by
  obtain ⟨inRange, rfl⟩ := List.getElem?_eq_some_iff.mp standing
  have order := List.getElem_cons_eraseIdx_perm inRange
  have together := (List.Perm.flatMap_right held order).symm
  simpa only [holdings, List.flatMap_cons] using together

/--
When one party moves, what it lets go of and what everybody holds afterwards
make up what it takes and what everybody held before.
-/
theorem holdings_set
    (held : γ → List β)
    {parties : List γ}
    {index : Nat}
    {party : γ}
    (standing : parties[index]? = some party)
    (moved : γ) :
    (held party ++ holdings held (parties.set index moved)).Perm
      (held moved ++ holdings held parties) := by
  obtain ⟨inRange, rfl⟩ := List.getElem?_eq_some_iff.mp standing
  have before := holdings_perm_of_getElem? held standing
  have order := List.set_perm_cons_eraseIdx inRange moved
  have after := List.Perm.flatMap_right held order
  simp only [List.flatMap_cons] at after
  refine (after.append_left _).trans ?_
  refine List.Perm.trans ?_ (before.symm.append_left _)
  rw [← List.append_assoc, ← List.append_assoc]
  exact List.perm_append_comm.append_right _

/-- A party that moves without changing its holdings changes nothing. -/
theorem holdings_set_same
    (held : γ → List β)
    {parties : List γ}
    {index : Nat}
    {party moved : γ}
    (standing : parties[index]? = some party)
    (same : held moved = held party) :
    (holdings held (parties.set index moved)).Perm
      (holdings held parties) := by
  have exchanged := holdings_set held standing moved
  rw [same] at exchanged
  exact (List.perm_append_left_iff _).mp exchanged

/-- Distinct parties hold distinct things when nothing is held twice. -/
theorem eq_index_of_nodup_holdings
    {held : γ → List β}
    {parties : List γ}
    (nodup : (holdings held parties).Nodup)
    {first second : Nat}
    {one other : γ}
    (firstStanding : parties[first]? = some one)
    (secondStanding : parties[second]? = some other)
    {thing : β}
    (heldByOne : thing ∈ held one)
    (heldByOther : thing ∈ held other) :
    first = second := by
  by_contra different
  have apart :=
    (holdings_perm_of_getElem? held firstStanding).nodup_iff.mp nodup
  have elsewhere : other ∈ parties.eraseIdx first :=
    List.mem_eraseIdx_iff_getElem?.mpr
      ⟨second, Ne.symm different, secondStanding⟩
  have twice : thing ∈ holdings held (parties.eraseIdx first) :=
    mem_holdings.mpr ⟨other, elsewhere, heldByOther⟩
  exact (List.nodup_append.mp apart).2.2 thing heldByOne thing twice rfl

end Holdings

end Foundation
