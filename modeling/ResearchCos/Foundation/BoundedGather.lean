import ResearchCos.Foundation.LabelledRun
import ResearchCos.Foundation.Permits

namespace Foundation

/-!
# A gather behind a semaphore

Tasks run side by side, each inside the semaphore, and the gather hands back
their results in the order of the tasks.  Whatever the interleaving, no more
tasks are inside than there are permits, no permit is lost, so that the gather
never gets stuck, and what it hands back does not depend on who finishes first.
-/

/-- Where a task of a gather stands. -/
inductive GatherTask (ρ : Type) where
  | ready
  | queued
  | inside
  | done (result : ρ)
  deriving Repr, DecidableEq

structure Gather (ρ : Type) where
  semaphore : Semaphore Nat
  tasks : List (GatherTask ρ)
  deriving Repr, DecidableEq

/-- A task begins, goes on with a permit handed to it, or ends. -/
inductive GatherMove (ρ : Type) where
  | enter (index : Nat)
  | resume (index : Nat)
  | finish (index : Nat) (result : ρ)
  deriving Repr, DecidableEq

namespace Gather

variable {ρ : Type}

/-- All tasks are to begin, and all permits are free. -/
def start (permits count : Nat) : Gather ρ where
  semaphore := .new permits
  tasks := List.replicate count .ready

def step (gather : Gather ρ) : GatherMove ρ → Option (Gather ρ)
  | .enter index =>
      match gather.tasks[index]? with
      | some .ready =>
          if gather.semaphore.locked then
            some
              { semaphore := gather.semaphore.enqueue index
                tasks := gather.tasks.set index .queued }
          else
            some
              { semaphore := gather.semaphore.takeFree
                tasks := gather.tasks.set index .inside }
      | _ => none
  | .resume index =>
      match gather.tasks[index]? with
      | some .queued =>
          (gather.semaphore.resume index).map fun semaphore =>
            { semaphore := semaphore
              tasks := gather.tasks.set index .inside }
      | _ => none
  | .finish index result =>
      match gather.tasks[index]? with
      | some .inside =>
          some
            { semaphore := gather.semaphore.release
              tasks := gather.tasks.set index (.done result) }
      | _ => none

/-- What the gather hands back: the results in the order of the tasks. -/
def results (gather : Gather ρ) : List ρ :=
  gather.tasks.filterMap fun task =>
    match task with
    | .done result => some result
    | _ => none

def AllDone (gather : Gather ρ) : Prop :=
  ∀ task ∈ gather.tasks, ∃ result, task = .done result

/-! ## Counting tasks -/

/-- What the tasks weigh together. -/
def total (weigh : GatherTask ρ → Nat) : List (GatherTask ρ) → Nat
  | [] => 0
  | task :: rest => weigh task + total weigh rest

theorem total_eq_zero
    {weigh : GatherTask ρ → Nat}
    {tasks : List (GatherTask ρ)}
    (weightless : ∀ task ∈ tasks, weigh task = 0) :
    total weigh tasks = 0 := by
  induction tasks with
  | nil =>
      rfl
  | cons head rest inductionHypothesis =>
      obtain ⟨first, others⟩ := List.forall_mem_cons.mp weightless
      rw [total, first, inductionHypothesis others]

theorem total_replicate
    (weigh : GatherTask ρ → Nat)
    (count : Nat)
    (task : GatherTask ρ) :
    total weigh (List.replicate count task) = count * weigh task := by
  induction count with
  | zero =>
      simp [total]
  | succ count inductionHypothesis =>
      rw [List.replicate_succ, total, inductionHypothesis, Nat.succ_mul,
        Nat.add_comm]

/-- When one task moves, only its weight is exchanged. -/
theorem total_set
    (weigh : GatherTask ρ → Nat)
    {tasks : List (GatherTask ρ)}
    {index : Nat}
    {old : GatherTask ρ}
    (stands : tasks[index]? = some old)
    (new : GatherTask ρ) :
    total weigh (tasks.set index new) + weigh old =
      total weigh tasks + weigh new := by
  induction tasks generalizing index with
  | nil =>
      cases stands
  | cons head rest inductionHypothesis =>
      cases index with
      | zero =>
          cases stands
          simp only [total, List.set_cons_zero]
          omega
      | succ later =>
          have moved := inductionHypothesis stands
          simp only [total, List.set_cons_succ]
          omega

def insideWeight : GatherTask ρ → Nat
  | .inside => 1
  | _ => 0

/-- The tasks that are inside the semaphore. -/
def inside (gather : Gather ρ) : Nat :=
  total insideWeight gather.tasks

/-- The moves that a task has left at most. -/
def movesLeft : GatherTask ρ → Nat
  | .ready => 3
  | .queued => 2
  | .inside => 1
  | .done _ => 0

end Gather

/-! ## Queues -/

namespace Semaphore

variable {ι : Type}

/-- Who waits, in order of arrival. -/
def names (waiters : List (ι × Bool)) : List ι :=
  waiters.map Prod.fst

theorem names_grantFirst
    {waiters granted : List (ι × Bool)}
    (given : grantFirst waiters = some granted) :
    names granted = names waiters := by
  induction waiters generalizing granted with
  | nil =>
      cases given
  | cons head rest inductionHypothesis =>
      obtain ⟨waiter, marked⟩ := head
      cases marked with
      | false =>
          cases given
          rfl
      | true =>
          obtain ⟨others, givenRest, rfl⟩ := Option.map_eq_some_iff.mp given
          exact congrArg (waiter :: ·) (inductionHypothesis givenRest)

/-- Nobody is left to be handed a permit when all waiters have one. -/
theorem all_marked_of_grantFirst
    {waiters : List (ι × Bool)}
    (given : grantFirst waiters = none) :
    ∀ waiter ∈ waiters, waiter.2 = true := by
  induction waiters with
  | nil =>
      nofun
  | cons head rest inductionHypothesis =>
      obtain ⟨waiter, marked⟩ := head
      cases marked with
      | false =>
          cases given
      | true =>
          have rests := Option.map_eq_none_iff.mp given
          exact List.forall_mem_cons.mpr ⟨rfl, inductionHypothesis rests⟩

theorem names_wakeWhileFree
    (free : Nat)
    (waiters : List (ι × Bool)) :
    names (wakeWhileFree free waiters).waiters = names waiters := by
  induction free generalizing waiters with
  | zero =>
      rfl
  | succ free inductionHypothesis =>
      unfold wakeWhileFree
      cases given : grantFirst waiters with
      | none =>
          rfl
      | some granted =>
          exact (inductionHypothesis granted).trans (names_grantFirst given)

/-- After waking no permit is free or nobody is without one. -/
theorem wakeWhileFree_awake
    (free : Nat)
    (waiters : List (ι × Bool)) :
    (wakeWhileFree free waiters).value = 0 ∨
      ∀ waiter ∈ (wakeWhileFree free waiters).waiters, waiter.2 = true := by
  induction free generalizing waiters with
  | zero =>
      exact Or.inl rfl
  | succ free inductionHypothesis =>
      unfold wakeWhileFree
      cases given : grantFirst waiters with
      | none =>
          exact Or.inr (all_marked_of_grantFirst given)
      | some granted =>
          exact inductionHypothesis granted

/-- Free permits lie idle only while somebody is about to wake the others. -/
def Awake (semaphore : Semaphore ι) : Prop :=
  semaphore.value = 0 ∨ semaphore.waiters = [] ∨
    handed semaphore.waiters ≠ 0

theorem handed_ne_zero_iff
    {waiters : List (ι × Bool)} :
    handed waiters ≠ 0 ↔ ∃ waiter ∈ waiters, waiter.2 = true := by
  rw [← Nat.pos_iff_ne_zero, handed, List.countP_pos_iff]

theorem awake_of_all_marked
    {semaphore : Semaphore ι}
    (marked : ∀ waiter ∈ semaphore.waiters, waiter.2 = true) :
    semaphore.Awake := by
  cases isWaiters : semaphore.waiters with
  | nil =>
      exact Or.inr (Or.inl isWaiters)
  | cons waiter rest =>
      refine Or.inr (Or.inr (handed_ne_zero_iff.mpr ⟨waiter, ?_, ?_⟩))
      · rw [isWaiters]
        exact List.mem_cons_self
      · exact marked waiter (isWaiters ▸ List.mem_cons_self)

theorem awake_release
    (semaphore : Semaphore ι) :
    semaphore.release.Awake := by
  unfold release
  cases given : grantFirst semaphore.waiters with
  | none =>
      exact awake_of_all_marked (all_marked_of_grantFirst given)
  | some granted =>
      refine Or.inr (Or.inr ?_)
      rw [(grantFirst_spec given).1]
      exact Nat.succ_ne_zero _

theorem names_release
    (semaphore : Semaphore ι) :
    names semaphore.release.waiters = names semaphore.waiters := by
  unfold release
  cases given : grantFirst semaphore.waiters with
  | none =>
      rfl
  | some granted =>
      exact names_grantFirst given

/-- Who goes on leaves the queue, and nobody else does. -/
theorem names_resume
    [DecidableEq ι]
    {semaphore next : Semaphore ι}
    {party : ι}
    (resumed : semaphore.resume party = some next) :
    (names semaphore.waiters).Perm (party :: names next.waiters) := by
  simp only [resume] at resumed
  split at resumed
  · rename_i isQueued
    cases resumed
    rw [names_wakeWhileFree]
    exact (List.perm_cons_erase isQueued).map Prod.fst
  · cases resumed

theorem awake_resume
    [DecidableEq ι]
    {semaphore next : Semaphore ι}
    {party : ι}
    (resumed : semaphore.resume party = some next) :
    next.Awake := by
  simp only [resume] at resumed
  split at resumed
  · cases resumed
    rcases wakeWhileFree_awake semaphore.value
        (semaphore.waiters.erase (party, true)) with none | marked
    · exact Or.inl none
    · exact awake_of_all_marked marked
  · cases resumed

end Semaphore

/-! ## Runs of a gather -/

namespace Gather

variable {ρ : Type}

/-- The permits are accounted for, and who waits is who is queued. -/
structure Orderly (permits : Nat) (gather : Gather ρ) : Prop where
  permits : gather.semaphore.available + gather.inside = permits
  nodup : (Semaphore.names gather.semaphore.waiters).Nodup
  queued :
    ∀ index,
      index ∈ Semaphore.names gather.semaphore.waiters ↔
        gather.tasks[index]? = some .queued
  awake : gather.semaphore.Awake

theorem orderly_start
    (permits count : Nat) :
    Orderly permits (start permits count : Gather ρ) where
  permits := by
    simp [start, Semaphore.new, Semaphore.available, Semaphore.handed, inside,
      total_replicate, insideWeight]
  nodup := List.nodup_nil
  queued := by
    intro index
    simp [start, Semaphore.new, Semaphore.names, List.getElem?_replicate]
  awake := Or.inr (Or.inl rfl)

theorem getElem?_set_queued
    {tasks : List (GatherTask ρ)}
    {index other : Nat}
    {old new : GatherTask ρ}
    (stands : tasks[index]? = some old) :
    (tasks.set index new)[other]? = some .queued ↔
      if index = other then
        new = .queued
      else
        tasks[other]? = some .queued := by
  have within := (List.getElem?_eq_some_iff.mp stands).1
  split
  · rename_i same
    rw [← same, List.getElem?_set_self within, Option.some.injEq]
  · rename_i different
    rw [List.getElem?_set_ne different]

/-- Every move keeps the account. -/
theorem Orderly.step
    {permits : Nat}
    {gather next : Gather ρ}
    {move : GatherMove ρ}
    (orderly : Orderly permits gather)
    (stepped : gather.step move = some next) :
    Orderly permits next := by
  have account := orderly.permits
  cases move with
  | enter index =>
      simp only [Gather.step] at stepped
      split at stepped
      · rename_i stands
        have absent :
            index ∉ Semaphore.names gather.semaphore.waiters := by
          rw [orderly.queued, stands]
          intro same
          cases same
        split at stepped
        · rename_i locked
          cases stepped
          have exchanged := total_set insideWeight stands .queued
          have waits :
              Semaphore.names (gather.semaphore.enqueue index).waiters =
                Semaphore.names gather.semaphore.waiters ++ [index] := by
            simp [Semaphore.names, Semaphore.enqueue]
          refine ⟨?_, ?_, ?_, ?_⟩
          · rw [Semaphore.available_enqueue]
            simp only [inside, insideWeight] at account exchanged ⊢
            omega
          · rw [waits]
            exact
              List.nodup_append.mpr
                ⟨orderly.nodup, by simp, by
                  intro waiter isWaiter other isIndex same
                  rw [List.mem_singleton.mp isIndex] at same
                  exact absent (same ▸ isWaiter)⟩
          · intro other
            rw [waits, List.mem_append, List.mem_singleton,
              getElem?_set_queued stands, orderly.queued]
            split
            · rename_i same
              simp [same]
            · rename_i different
              simp [Ne.symm different]
          · -- an unlocked semaphore would have admitted the task
            rcases orderly.awake with none | empty | handed
            · exact Or.inl none
            · refine Or.inl ?_
              simpa [Semaphore.locked, Semaphore.enqueue, empty] using locked
            · refine Or.inr (Or.inr ?_)
              simpa [Semaphore.enqueue, Semaphore.handed] using handed
        · rename_i unlocked
          cases stepped
          rw [Bool.not_eq_true] at unlocked
          have exchanged := total_set insideWeight stands .inside
          have taken := Semaphore.available_takeFree unlocked
          refine ⟨?_, orderly.nodup, ?_, ?_⟩
          · simp only [inside, insideWeight] at account exchanged ⊢
            omega
          · intro other
            rw [getElem?_set_queued stands]
            split
            · rename_i same
              subst same
              exact
                ⟨fun isWaiter => absurd isWaiter absent,
                  fun isQueued => by cases isQueued⟩
            · exact orderly.queued other
          · refine Or.inr (Or.inl ?_)
            simp only [Semaphore.locked, Bool.or_eq_false_iff,
              Bool.not_eq_eq_eq_not, Bool.not_false,
              List.isEmpty_iff] at unlocked
            exact unlocked.2
      · cases stepped
  | resume index =>
      simp only [Gather.step] at stepped
      split at stepped
      · rename_i stands
        obtain ⟨semaphore, resumed, isNext⟩ :=
          Option.map_eq_some_iff.mp stepped
        cases isNext
        have exchanged := total_set insideWeight stands .inside
        have leaves := Semaphore.names_resume resumed
        have nodup := leaves.nodup_iff.mp orderly.nodup
        refine ⟨?_, (List.nodup_cons.mp nodup).2, ?_, ?_⟩
        · have taken := (Semaphore.resume_spec resumed).1
          simp only [inside, insideWeight] at account exchanged ⊢
          omega
        · intro other
          have waited := leaves.mem_iff (a := other)
          rw [getElem?_set_queued stands]
          split
          · rename_i same
            subst same
            exact
              ⟨fun isWaiter => absurd isWaiter (List.nodup_cons.mp nodup).1,
                fun isQueued => by cases isQueued⟩
          · rename_i different
            rw [← orderly.queued, waited, List.mem_cons]
            simp [Ne.symm different]
        · exact Semaphore.awake_resume resumed
      · cases stepped
  | finish index result =>
      simp only [Gather.step] at stepped
      split at stepped
      · rename_i stands
        cases stepped
        have exchanged := total_set insideWeight stands (.done result)
        refine ⟨?_, ?_, ?_, Semaphore.awake_release _⟩
        · rw [Semaphore.available_release]
          simp only [inside, insideWeight] at account exchanged ⊢
          omega
        · rw [Semaphore.names_release]
          exact orderly.nodup
        · intro other
          rw [Semaphore.names_release, getElem?_set_queued stands,
            orderly.queued]
          split
          · rename_i same
            subst same
            rw [stands]
            simp
          · exact Iff.rfl
      · cases stepped

/-- A move that ends a task ends it with the outcome of the task. -/
def GatherMove.Ends (outcome : Nat → ρ) : GatherMove ρ → Prop
  | .finish index result => result = outcome index
  | _ => True

/-- While a task has not ended some move is possible, if there is a permit. -/
theorem Orderly.progress
    {permits : Nat}
    {gather : Gather ρ}
    (orderly : Orderly permits gather)
    (hasPermit : 0 < permits)
    (outcome : Nat → ρ) :
    gather.AllDone ∨
      ∃ move next,
        gather.step move = some next ∧
          GatherMove.Ends outcome move := by
  by_cases done : gather.AllDone
  · exact Or.inl done
  right
  by_cases someReady :
      ∃ index : Nat, gather.tasks[index]? = some GatherTask.ready
  · obtain ⟨index, stands⟩ := someReady
    refine ⟨.enter index, ?_⟩
    simp only [Gather.step, stands]
    split
    · exact ⟨_, rfl, trivial⟩
    · exact ⟨_, rfl, trivial⟩
  by_cases someInside :
      ∃ index : Nat, gather.tasks[index]? = some GatherTask.inside
  · obtain ⟨index, stands⟩ := someInside
    refine ⟨.finish index (outcome index), ?_⟩
    simp only [Gather.step, stands]
    exact ⟨_, rfl, rfl⟩
  -- nobody is inside, so all permits are available and somebody waits
  have nobodyInside : gather.inside = 0 := by
    refine total_eq_zero fun task isTask => ?_
    obtain ⟨index, stands⟩ := List.mem_iff_getElem?.mp isTask
    cases task with
    | inside =>
        exact absurd ⟨index, stands⟩ someInside
    | _ =>
        rfl
  have somebodyWaits :
      ∃ index, index ∈ Semaphore.names gather.semaphore.waiters := by
    by_contra nobody
    refine done fun task isTask => ?_
    obtain ⟨index, stands⟩ := List.mem_iff_getElem?.mp isTask
    cases task with
    | ready =>
        exact absurd ⟨index, stands⟩ someReady
    | queued =>
        exact absurd ⟨index, (orderly.queued index).mpr stands⟩ nobody
    | inside =>
        exact absurd ⟨index, stands⟩ someInside
    | done result =>
        exact ⟨result, rfl⟩
  have handed : Semaphore.handed gather.semaphore.waiters ≠ 0 := by
    have account := orderly.permits
    rw [nobodyInside, Semaphore.available] at account
    rcases orderly.awake with none | empty | handed
    · omega
    · rw [empty] at somebodyWaits
      obtain ⟨index, isWaiter⟩ := somebodyWaits
      cases isWaiter
    · exact handed
  obtain ⟨⟨index, marked⟩, isWaiter, isMarked⟩ :=
    Semaphore.handed_ne_zero_iff.mp handed
  obtain rfl : marked = true := isMarked
  have stands : gather.tasks[index]? = some .queued :=
    (orderly.queued index).mp (List.mem_map_of_mem isWaiter)
  refine ⟨.resume index, ?_⟩
  simp only [Gather.step, stands, Semaphore.resume, if_pos isWaiter]
  exact ⟨_, rfl, trivial⟩

/-- Every move uses up one of the moves that are left. -/
theorem movesLeft_step
    {gather next : Gather ρ}
    {move : GatherMove ρ}
    (stepped : gather.step move = some next) :
    total movesLeft next.tasks < total movesLeft gather.tasks := by
  cases move with
  | enter index =>
      simp only [Gather.step] at stepped
      split at stepped
      · rename_i stands
        split at stepped
        · cases stepped
          have exchanged := total_set movesLeft stands .queued
          simp only [movesLeft] at exchanged ⊢
          omega
        · cases stepped
          have exchanged := total_set movesLeft stands .inside
          simp only [movesLeft] at exchanged ⊢
          omega
      · cases stepped
  | resume index =>
      simp only [Gather.step] at stepped
      split at stepped
      · rename_i stands
        obtain ⟨semaphore, _, isNext⟩ := Option.map_eq_some_iff.mp stepped
        cases isNext
        have exchanged := total_set movesLeft stands .inside
        simp only [movesLeft] at exchanged ⊢
        omega
      · cases stepped
  | finish index result =>
      simp only [Gather.step] at stepped
      split at stepped
      · rename_i stands
        cases stepped
        have exchanged := total_set movesLeft stands (.done result)
        simp only [movesLeft] at exchanged ⊢
        omega
      · cases stepped

/-- A move changes one task; one that ends a task gives it the outcome. -/
theorem step_tasks
    {outcome : Nat → ρ}
    {gather next : Gather ρ}
    {move : GatherMove ρ}
    (ends : GatherMove.Ends outcome move)
    (stepped : gather.step move = some next) :
    ∃ index task,
      next.tasks = gather.tasks.set index task ∧
        ∀ result, task = .done result → result = outcome index := by
  cases move with
  | enter index =>
      simp only [Gather.step] at stepped
      split at stepped
      · split at stepped
        · cases stepped
          exact ⟨index, .queued, rfl, nofun⟩
        · cases stepped
          exact ⟨index, .inside, rfl, nofun⟩
      · cases stepped
  | resume index =>
      simp only [Gather.step] at stepped
      split at stepped
      · obtain ⟨semaphore, _, isNext⟩ := Option.map_eq_some_iff.mp stepped
        cases isNext
        exact ⟨index, .inside, rfl, nofun⟩
      · cases stepped
  | finish index result =>
      simp only [Gather.step] at stepped
      split at stepped
      · cases stepped
        refine ⟨index, .done result, rfl, ?_⟩
        intro other same
        cases same
        exact ends
      · cases stepped

/-- Tasks that have ended have the outcomes of their places. -/
structure Holds (outcome : Nat → ρ) (count : Nat) (gather : Gather ρ) :
    Prop where
  count : gather.tasks.length = count
  ended :
    ∀ (index : Nat) result,
      gather.tasks[index]? = some (.done result) → result = outcome index

theorem Holds.step
    {outcome : Nat → ρ}
    {count : Nat}
    {gather next : Gather ρ}
    {move : GatherMove ρ}
    (holds : Holds outcome count gather)
    (ends : GatherMove.Ends outcome move)
    (stepped : gather.step move = some next) :
    Holds outcome count next := by
  obtain ⟨index, task, isTasks, isOutcome⟩ := step_tasks ends stepped
  refine ⟨by rw [isTasks, List.length_set, holds.count], ?_⟩
  intro other result stands
  rw [isTasks, List.getElem?_set] at stands
  split at stands
  · rename_i same
    split at stands
    · exact same ▸ isOutcome result (Option.some.inj stands)
    · cases stands
  · exact holds.ended other result stands

/-- When all tasks have ended the results are the outcomes in order. -/
theorem Holds.results
    {outcome : Nat → ρ}
    {count : Nat}
    {gather : Gather ρ}
    (holds : Holds outcome count gather)
    (done : gather.AllDone) :
    gather.results = (List.range count).map outcome := by
  have isTasks :
      gather.tasks =
        (List.range count).map fun index => .done (outcome index) := by
    refine List.ext_getElem? fun index => ?_
    rw [List.getElem?_map]
    by_cases within : index < count
    · rw [List.getElem?_range within]
      have inTasks : index < gather.tasks.length := by
        rw [holds.count]
        exact within
      obtain ⟨result, isDone⟩ :=
        done gather.tasks[index] (List.getElem_mem inTasks)
      have stands : gather.tasks[index]? = some (.done result) := by
        rw [List.getElem?_eq_getElem inTasks, isDone]
      rw [stands, holds.ended index result stands]
      rfl
    · rw [List.getElem?_eq_none (by rw [holds.count]; omega),
        List.getElem?_eq_none (by simpa using within)]
      rfl
  simp [Gather.results, isTasks, List.filterMap_map]

/--
In every interleaving there are never more tasks inside than permits, some move
is possible until all tasks have ended, that is so after three moves for each
task at the latest, and the results are then the outcomes in order.
-/
theorem gathered_of_run
    {outcome : Nat → ρ}
    {permits count : Nat}
    {moves : List (GatherMove ρ)}
    {final : Gather ρ}
    (hasPermit : 0 < permits)
    (ends : ∀ move ∈ moves, GatherMove.Ends outcome move)
    (ran : exec step (start permits count) moves = some final) :
    final.inside ≤ permits ∧
      moves.length ≤ 3 * count ∧
      (final.AllDone ∨
        ∃ move next,
          final.step move = some next ∧ GatherMove.Ends outcome move) ∧
      (final.AllDone → final.results = (List.range count).map outcome) := by
  have kept :
      Orderly permits final ∧ Holds outcome count final ∧
        moves.length + total movesLeft final.tasks ≤ 3 * count := by
    refine
      exec_induction
        (motive := fun followed reached =>
          (∀ move ∈ followed, GatherMove.Ends outcome move) →
            Orderly permits reached ∧ Holds outcome count reached ∧
              followed.length + total movesLeft reached.tasks ≤ 3 * count)
        ?_ ?_ ran ends
    · intro _
      refine ⟨orderly_start permits count, ⟨?_, ?_⟩, ?_⟩
      · simp [start]
      · intro index result stands
        simp [start, List.getElem?_replicate] at stands
      · simp [start, total_replicate, movesLeft, Nat.mul_comm]
    · intro followed reached move next _ before stepped endsAll
      obtain ⟨orderly, holds, bounded⟩ :=
        before fun earlier member =>
          endsAll earlier (List.mem_append_left _ member)
      have endsLast : GatherMove.Ends outcome move :=
        endsAll move (by simp)
      have used := movesLeft_step stepped
      refine ⟨orderly.step stepped, holds.step endsLast stepped, ?_⟩
      rw [List.length_append, List.length_singleton]
      omega
  obtain ⟨orderly, holds, bounded⟩ := kept
  refine ⟨?_, by omega, orderly.progress hasPermit outcome, holds.results⟩
  have account := orderly.permits
  omega

end Gather

end Foundation
