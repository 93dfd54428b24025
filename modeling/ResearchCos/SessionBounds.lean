import ResearchCos.SessionInvariants

namespace ResearchCos

open Foundation

/-!
# The bound on sessions and permits

The sessions of a pool are the idle ones and the ones that tasks connect or
hold.  A checkout moves an idle session to a task, and opens a new one only
while none is idle, so that the permits bound the sessions; leaving a block
moves the session back or drops it.  Every move of every task keeps the books,
whichever way its connects and turns end.
-/

namespace SdkClient

/-- A retried call neither holds a session nor waits once an attempt failed. -/
theorem RetryCall.failed_holds_nothing
    (retried : RetryCall) :
    retried.failed.heldIds = [] ∧ retried.failed.waits = [] := by
  simp only [RetryCall.failed]
  split
  · split <;> exact ⟨rfl, rfl⟩
  · exact ⟨rfl, rfl⟩

namespace AsyncSessionPool

/-- The sessions that tasks are connecting or hold. -/
def heldIds (pool : AsyncSessionPool) : List Nat :=
  holdings Control.heldIds pool.tasks

/-- The sessions of the pool that are connecting, held or idle. -/
def sessionIds (pool : AsyncSessionPool) : List Nat :=
  pool.idle.map Prod.fst ++ pool.heldIds

/-- The tasks that wait for a permit, one entry each. -/
def queued (pool : AsyncSessionPool) : List Unit :=
  holdings Control.waits pool.tasks

/-- The books of a pool: permits, waiters and sessions add up. -/
structure Accounted (pool : AsyncSessionPool) (cap : Nat) : Prop where
  permits : pool.semaphore.available + pool.heldIds.length = cap
  queue : pool.semaphore.waiters.length = pool.queued.length
  bounded : pool.sessionIds.length ≤ cap
  distinct : pool.sessionIds.Nodup
  opened : ∀ id ∈ pool.sessionIds, id < pool.created

/-- A pool that nobody has called yet keeps its books. -/
theorem accounted_new
    (metrics : Option RunMetrics)
    (schema : Option Schema)
    (cap tasks : Nat) :
    (new metrics schema cap tasks).Accounted cap := by
  have nothingHeld : (new metrics schema cap tasks).heldIds = [] := by
    rw [heldIds, holdings_eq_nil_iff]
    intro control standing
    rw [List.eq_of_mem_replicate standing]
    rfl
  have nobodyWaits : (new metrics schema cap tasks).queued = [] := by
    rw [queued, holdings_eq_nil_iff]
    intro control standing
    rw [List.eq_of_mem_replicate standing]
    rfl
  have noSessions : (new metrics schema cap tasks).sessionIds = [] := by
    rw [sessionIds, nothingHeld]
    rfl
  constructor
  · rw [nothingHeld]
    rfl
  · rw [nobodyWaits]
    rfl
  · rw [noSessions]
    exact Nat.zero_le _
  · rw [noSessions]
    exact List.nodup_nil
  · rw [noSessions]
    simp

/-! ## What one move does to the books -/

section Moves

variable
  {pool : AsyncSessionPool} {cap task : Nat} {old moved : Control}

/-- The books are kept where no session appears and the counts add up. -/
theorem Accounted.of_perm
    (accounted : pool.Accounted cap)
    {next : AsyncSessionPool}
    (dropped : List Nat)
    (sessions : (next.sessionIds ++ dropped).Perm pool.sessionIds)
    (sameCreated : next.created = pool.created)
    (permits :
      next.semaphore.available + next.heldIds.length = cap)
    (queue : next.semaphore.waiters.length = next.queued.length) :
    next.Accounted cap where
  permits := permits
  queue := queue
  bounded := by
    have length := sessions.length_eq
    rw [List.length_append] at length
    have bounded := accounted.bounded
    omega
  distinct :=
    (List.nodup_append.mp (sessions.nodup_iff.mpr accounted.distinct)).1
  opened := by
    intro id member
    rw [sameCreated]
    exact accounted.opened id
      (sessions.subset (List.mem_append_left dropped member))

/-- What the tasks hold once one of them moved. -/
theorem heldIds_setTask
    (standing : pool.tasks[task]? = some old)
    (moved : Control) :
    (old.heldIds ++ (pool.setTask task moved).heldIds).Perm
      (moved.heldIds ++ pool.heldIds) :=
  holdings_set Control.heldIds standing moved

/-- Who waits once one of the tasks moved. -/
theorem length_queued_setTask
    (standing : pool.tasks[task]? = some old)
    (moved : Control) :
    old.waits.length + (pool.setTask task moved).queued.length =
      moved.waits.length + pool.queued.length := by
  have exchanged := (holdings_set Control.waits standing moved).length_eq
  rwa [List.length_append, List.length_append] at exchanged

/-- What the tasks hold once a task that held nothing took a session. -/
theorem heldIds_of_taking
    (standing : pool.tasks[task]? = some old)
    (holdsNothing : old.heldIds = [])
    {id : Nat}
    (takesIt : moved.heldIds = [id]) :
    (pool.setTask task moved).heldIds.Perm (id :: pool.heldIds) := by
  have exchanged := heldIds_setTask standing moved
  rwa [holdsNothing, takesIt] at exchanged

/-- What the tasks held before a task let its session go. -/
theorem heldIds_of_leaving
    (standing : pool.tasks[task]? = some old)
    {id : Nat}
    (heldOne : old.heldIds = [id])
    (holdsNothing : moved.heldIds = []) :
    (id :: (pool.setTask task moved).heldIds).Perm pool.heldIds := by
  have exchanged := heldIds_setTask standing moved
  rwa [heldOne, holdsNothing] at exchanged

/-- A task that keeps its session and its place in the queue. -/
theorem Accounted.stays
    (accounted : pool.Accounted cap)
    (standing : pool.tasks[task]? = some old)
    (sameHeld : moved.heldIds = old.heldIds)
    (sameWaits : moved.waits = old.waits) :
    (pool.setTask task moved).Accounted cap := by
  have held := holdings_set_same Control.heldIds standing sameHeld
  have waiting := holdings_set_same Control.waits standing sameWaits
  refine accounted.of_perm [] ?_ rfl ?_ ?_
  · rw [List.append_nil]
    exact held.append_left _
  · exact (congrArg _ held.length_eq).trans accounted.permits
  · exact accounted.queue.trans waiting.length_eq.symm

/-- A task that holds nothing queues for a permit. -/
theorem Accounted.enqueues
    (accounted : pool.Accounted cap)
    (standing : pool.tasks[task]? = some old)
    (holdsNothing : old.heldIds = [])
    (waitsNot : old.waits = [])
    (call : Call) :
    ({ pool with semaphore := pool.semaphore.enqueue task }.setTask task
      (.waiting call)).Accounted cap := by
  have held : (pool.setTask task (.waiting call)).heldIds.Perm pool.heldIds :=
    holdings_set_same Control.heldIds standing holdsNothing.symm
  have waiting := length_queued_setTask standing (.waiting call)
  rw [waitsNot, List.length_nil, Nat.zero_add] at waiting
  refine accounted.of_perm [] ?_ rfl ?_ ?_
  · rw [List.append_nil]
    exact held.append_left _
  · change (pool.semaphore.enqueue task).available + _ = _
    rw [Semaphore.available_enqueue]
    exact (congrArg _ held.length_eq).trans accounted.permits
  · change (pool.semaphore.enqueue task).waiters.length = _
    rw [Semaphore.length_waiters_enqueue, accounted.queue, Nat.add_comm]
    exact waiting.symm

/-- A task takes an idle session with the permit that it was given. -/
theorem Accounted.reuses
    (accounted : pool.Accounted cap)
    (standing : pool.tasks[task]? = some old)
    (holdsNothing : old.heldIds = [])
    {id : Nat}
    {session : ClaudeSession}
    {rest : List (Nat × ClaudeSession)}
    (idle : pool.idle = (id, session) :: rest)
    (takesIt : moved.heldIds = [id])
    (goesOn : moved.waits = [])
    {taken : Semaphore Nat}
    (onePermit : taken.available + 1 = pool.semaphore.available)
    (leftQueue :
      taken.waiters.length + old.waits.length =
        pool.semaphore.waiters.length) :
    ({ pool with semaphore := taken, idle := rest }.setTask task
      moved).Accounted cap := by
  have held := heldIds_of_taking standing holdsNothing takesIt
  have waiting := length_queued_setTask standing moved
  have permits := accounted.permits
  have queue := accounted.queue
  rw [goesOn, List.length_nil] at waiting
  refine accounted.of_perm [] ?_ rfl ?_ ?_
  · rw [List.append_nil]
    change (rest.map Prod.fst ++ (pool.setTask task moved).heldIds).Perm _
    rw [sessionIds, idle]
    exact (held.append_left _).trans List.perm_middle
  · change taken.available + (pool.setTask task moved).heldIds.length = cap
    rw [held.length_eq, List.length_cons]
    omega
  · change taken.waiters.length = (pool.setTask task moved).queued.length
    omega

/-- A task opens a session while none is idle. -/
theorem Accounted.opensOne
    (accounted : pool.Accounted cap)
    (standing : pool.tasks[task]? = some old)
    (holdsNothing : old.heldIds = [])
    (noneIdle : pool.idle = [])
    (opensIt : moved.heldIds = [pool.created])
    (goesOn : moved.waits = [])
    {taken : Semaphore Nat}
    (onePermit : taken.available + 1 = pool.semaphore.available)
    (leftQueue :
      taken.waiters.length + old.waits.length =
        pool.semaphore.waiters.length) :
    ({ pool with semaphore := taken, created := pool.created + 1 }.setTask task
      moved).Accounted cap := by
  have held := heldIds_of_taking standing holdsNothing opensIt
  have waiting := length_queued_setTask standing moved
  have permits := accounted.permits
  have queue := accounted.queue
  rw [goesOn, List.length_nil] at waiting
  -- with no session idle, the permits alone bound the sessions
  have sessions : pool.sessionIds = pool.heldIds := by
    rw [sessionIds, noneIdle]
    rfl
  have opened := accounted.opened
  have distinct := accounted.distinct
  rw [sessions] at opened distinct
  have fresh : pool.created ∉ pool.heldIds := fun member =>
    Nat.lt_irrefl _ (opened _ member)
  have nextSessions :
      sessionIds
          ({ pool with semaphore := taken, created := pool.created + 1
            }.setTask task moved) =
        (pool.setTask task moved).heldIds := by
    change pool.idle.map Prod.fst ++ _ = _
    rw [noneIdle]
    rfl
  have nextPermits :
      taken.available + (pool.setTask task moved).heldIds.length = cap := by
    rw [held.length_eq, List.length_cons]
    omega
  constructor
  · exact nextPermits
  · change taken.waiters.length = (pool.setTask task moved).queued.length
    omega
  · rw [nextSessions]
    omega
  · rw [nextSessions]
    exact held.nodup_iff.mpr (List.nodup_cons.mpr ⟨fresh, distinct⟩)
  · rw [nextSessions]
    intro id member
    rcases List.mem_cons.mp (held.subset member) with isNew | heldBefore
    · exact isNew ▸ Nat.lt_succ_self _
    · exact Nat.lt_succ_of_lt (opened id heldBefore)

/--
A task that was just given a permit checks out: an idle session changes hands,
and a new one is opened only while no session is idle.
-/
theorem Accounted.checksOut
    (accounted : pool.Accounted cap)
    (standing : pool.tasks[task]? = some old)
    (holdsNothing : old.heldIds = [])
    {taken : Semaphore Nat}
    (onePermit : taken.available + 1 = pool.semaphore.available)
    (leftQueue :
      taken.waiters.length + old.waits.length =
        pool.semaphore.waiters.length)
    (call : Call) :
    ({ pool with semaphore := taken }.checkout task call).Accounted cap := by
  simp only [checkout]
  split
  · rename_i id session rest idle
    exact
      accounted.reuses standing holdsNothing idle rfl rfl onePermit leftQueue
  · rename_i noneIdle
    exact
      accounted.opensOne standing holdsNothing noneIdle rfl rfl onePermit
        leftQueue

/-- A task that holds nothing enters the block. -/
theorem Accounted.enters
    (accounted : pool.Accounted cap)
    (standing : pool.tasks[task]? = some old)
    (holdsNothing : old.heldIds = [])
    (waitsNot : old.waits = [])
    (call : Call) :
    (pool.enter task call).Accounted cap := by
  simp only [enter]
  by_cases locked : pool.semaphore.locked = true
  · rw [if_pos locked]
    exact accounted.enqueues standing holdsNothing waitsNot call
  · rw [if_neg locked]
    have unlocked := Bool.eq_false_iff.mpr locked
    refine
      accounted.checksOut standing holdsNothing
        (Semaphore.available_takeFree unlocked) ?_ call
    rw [waitsNot]
    rfl

/-- A task drops its session and gives its permit back. -/
theorem Accounted.drops
    (accounted : pool.Accounted cap)
    (standing : pool.tasks[task]? = some old)
    {id : Nat}
    (heldOne : old.heldIds = [id])
    (waitsNot : old.waits = [])
    (holdsNothing : moved.heldIds = [])
    (goesOn : moved.waits = []) :
    (pool.releasePermit.setTask task moved).Accounted cap := by
  have held := heldIds_of_leaving standing heldOne holdsNothing
  have length := held.length_eq
  have waiting := length_queued_setTask standing moved
  have permits := accounted.permits
  rw [List.length_cons] at length
  rw [waitsNot, goesOn, List.length_nil, Nat.zero_add, Nat.zero_add] at waiting
  refine accounted.of_perm [id] ?_ rfl ?_ ?_
  · change
      ((pool.idle.map Prod.fst ++ (pool.setTask task moved).heldIds) ++
        [id]).Perm _
    rw [List.append_assoc]
    exact (List.perm_append_comm.trans held).append_left _
  · change pool.semaphore.release.available +
      (pool.setTask task moved).heldIds.length = cap
    rw [Semaphore.available_release]
    omega
  · change pool.semaphore.release.waiters.length =
      (pool.setTask task moved).queued.length
    rw [Semaphore.length_waiters_release, waiting]
    exact accounted.queue

/-- A task leaves the block: its session goes back or is dropped. -/
theorem Accounted.leaves
    (accounted : pool.Accounted cap)
    (standing : pool.tasks[task]? = some old)
    {id : Nat}
    (heldOne : old.heldIds = [id])
    (waitsNot : old.waits = [])
    (holdsNothing : moved.heldIds = [])
    (goesOn : moved.waits = [])
    (session : ClaudeSession) :
    (((pool.checkin id session).releasePermit).setTask task
      moved).Accounted cap := by
  simp only [checkin]
  split
  · have dropped :=
      accounted.drops standing heldOne waitsNot holdsNothing goesOn
    have held := heldIds_of_leaving standing heldOne holdsNothing
    refine
      accounted.of_perm [] ?_ rfl dropped.permits
        dropped.queue
    rw [List.append_nil]
    change
      ((id :: pool.idle.map Prod.fst) ++
        (pool.setTask task moved).heldIds).Perm _
    exact List.perm_middle.symm.trans (held.append_left _)
  · exact accounted.drops standing heldOne waitsNot holdsNothing goesOn

/-- The end of `ask_async` keeps the books. -/
theorem Accounted.endsAsk
    (accounted : pool.Accounted cap)
    {call called : Call}
    {id : Nat}
    {session asked : ClaudeSession}
    {phase : Phase}
    (standing :
      pool.tasks[task]? = some (.inside called id session phase))
    (answer : Except LLMUnavailableError Answer) :
    (pool.endAsk task call id asked answer).Accounted cap := by
  cases call with
  | block opening =>
      exact accounted.stays standing rfl rfl
  | retry retried =>
      have goesOn :
          (retried.after answer).heldIds = [] ∧
            (retried.after answer).waits = [] := by
        cases answer with
        | ok returned => exact ⟨rfl, rfl⟩
        | error raised => exact retried.failed_holds_nothing
      exact accounted.leaves standing rfl rfl goesOn.1 goesOn.2 asked

/-- A move inside `ask_async` keeps the books. -/
theorem Accounted.askStep
    (accounted : pool.Accounted cap)
    {call : Call}
    {id : Nat}
    {session : ClaudeSession}
    {question : Question}
    {move : Move}
    (standing :
      pool.tasks[task]? = some (.inside call id session (.asking question)))
    {next : AsyncSessionPool}
    (stepped :
      pool.askStep task call id session question move = some next) :
    next.Accounted cap := by
  simp only [AsyncSessionPool.askStep] at stepped
  split at stepped
  · rename_i event phase
    split at stepped
    · rename_i reply answered
      cases stepped
      have recorded :
          AsyncSessionPool.Accounted
            { pool with
              metrics :=
                (finishTurn pool.metrics (collect reply.messages) event.wallS
                  question.brain question.schema).1 }
            cap :=
        ⟨accounted.permits, accounted.queue, accounted.bounded,
          accounted.distinct, accounted.opened⟩
      exact recorded.endsAsk standing _
    · cases stepped
      exact accounted.stays standing rfl rfl
  · cases stepped
    exact accounted.stays standing rfl rfl
  · cases stepped
    exact accounted.stays standing rfl rfl
  · cases stepped
    exact accounted.stays standing rfl rfl
  · cases stepped
    exact accounted.endsAsk standing _
  · cases stepped

end Moves

/-- Every move of every task keeps the books. -/
theorem Accounted.step
    {pool next : AsyncSessionPool}
    {cap : Nat}
    (accounted : pool.Accounted cap)
    {label : Label}
    (stepped : pool.step label = some next) :
    next.Accounted cap := by
  obtain ⟨control, standing, moves⟩ := step_eq_some_iff.mp stepped
  obtain ⟨task, move⟩ := label
  dsimp only at standing moves
  simp only [stepFrom] at moves
  split at moves
  · cases moves
    exact accounted.enters standing rfl rfl _
  · split at moves
    · cases moves
      exact accounted
    · cases moves
      exact accounted.enters standing rfl rfl _
  · rename_i call
    obtain ⟨taken, resumed, rfl⟩ := Option.map_eq_some_iff.mp moves
    obtain ⟨onePermit, leftQueue⟩ := Semaphore.resume_spec resumed
    exact accounted.checksOut standing rfl onePermit leftQueue call
  · rename_i call id session event
    split at moves
    · cases moves
      exact accounted.stays standing rfl rfl
    · cases moves
      have goesOn : call.raised.heldIds = [] ∧ call.raised.waits = [] := by
        cases call with
        | block opening => exact ⟨rfl, rfl⟩
        | retry retried => exact retried.failed_holds_nothing
      exact accounted.drops standing rfl rfl goesOn.1 goesOn.2
  · cases moves
    exact accounted.stays standing rfl rfl
  · rename_i opening id session
    cases moves
    exact accounted.leaves standing rfl rfl rfl rfl session
  · exact accounted.askStep standing moves
  · cases moves
    exact accounted.enters standing rfl rfl _
  · cases moves
    exact accounted.enters standing rfl rfl _
  · cases moves

/-- A pool keeps its books along every run. -/
theorem accounted_of_run
    {metrics : Option RunMetrics}
    {schema : Option Schema}
    {cap tasks : Nat}
    {labels : List Label}
    {pool : AsyncSessionPool}
    (ran : exec step (new metrics schema cap tasks) labels = some pool) :
    pool.Accounted cap :=
  exec_invariant
    (fun accounted stepped => Accounted.step accounted stepped)
    (accounted_new metrics schema cap tasks) ran

/-! ## Backing off with a permit -/

/--
How many attempts the sessions of a pool allow, and that a session pauses only
after an attempt that is not its last.
-/
def attemptsAllowed (allowed : Nat → Prop) : SessionInvariant where
  opening opening := allowed opening.maxAttempts
  connecting session := allowed session.maxAttempts
  rest session := allowed session.maxAttempts
  asking session question :=
    allowed session.maxAttempts ∧
      1 ≤ question.attempt ∧
        (question.phase = .pausing →
          question.attempt < session.maxAttempts)
  mayFail _ _ := True

/-- A session pauses after a failure only while it has attempts left. -/
theorem lt_of_afterFailure_pausing
    {session : ClaudeSession}
    {attempt : Nat}
    (pauses : afterFailure session attempt = .pausing) :
    attempt < session.maxAttempts := by
  simp only [afterFailure] at pauses
  split at pauses
  · assumption
  · cases pauses

theorem attemptsAllowed_lawful
    {allowed : Nat → Prop}
    (single : allowed 1) :
    (attemptsAllowed allowed).Lawful where
  retries _ := single
  opens _ permitted := permitted
  connects permitted := permitted
  begins {session} user brain schema permitted := by
    refine ⟨permitted, Nat.le_refl 1, ?_⟩
    intro pauses
    dsimp only at pauses
    split at pauses <;> cases pauses
  answers asking _ _ := asking.1
  fails {_ _ _ _} asking _ _ _ :=
    ⟨asking.1, asking.2.1, lt_of_afterFailure_pausing⟩
  pauses asking _ :=
    ⟨asking.1, asking.2.1, fun pauses => by cases pauses⟩
  disconnects asking _ :=
    ⟨asking.1, asking.2.1, fun pauses => by cases pauses⟩
  reconnects _ asking _ :=
    ⟨asking.1, Nat.le_add_left 1 _, fun pauses => by cases pauses⟩
  raises asking _ := asking.1

/-- Where a task backs off with a permit, its session has attempts left. -/
theorem attempts_left_of_backsOff
    (allowed : Nat → Prop)
    (single : allowed 1)
    {metrics : Option RunMetrics}
    {schema : Option Schema}
    {cap tasks : Nat}
    {labels : List Label}
    (asked :
      ∀ label ∈ labels,
        ∀ opening,
          label.move = .acquire opening → allowed opening.maxAttempts)
    {pool : AsyncSessionPool}
    (ran : exec step (new metrics schema cap tasks) labels = some pool)
    {control : Control}
    (standing : control ∈ pool.tasks)
    (backsOff : control.backsOff = true)
    (holdsPermit : control.holdsPermit = true) :
    ∃ call id session question,
      control = .inside call id session (.asking question) ∧
        allowed session.maxAttempts ∧
          1 ≤ question.attempt ∧
            question.attempt < session.maxAttempts := by
  have allows :
      AllSteps step (attemptsAllowed allowed).Allows
        (new metrics schema cap tasks) labels := by
    intro earlier label later middle shape _
    refine ⟨?_, fun _ _ _ _ _ _ _ _ _ _ => trivial⟩
    exact asked label (shape ▸ List.mem_append_right _ List.mem_cons_self)
  have holds :=
    SessionInvariant.holds_of_run (attemptsAllowed_lawful single)
      (SessionInvariant.holds_new _ metrics schema cap tasks) allows ran
  have here := holds.tasks control standing
  cases control with
  | inside call id session phase =>
      cases phase with
      | asking question =>
          obtain ⟨permitted, counted, pauses⟩ := here
          exact
            ⟨call, id, session, question, rfl, permitted, counted,
              pauses (of_decide_eq_true backsOff)⟩
      | connecting => cases backsOff
      | body => cases backsOff
  | outside => cases backsOff
  | waiting call => cases backsOff
  | backingOff retried => cases holdsPermit
  | retrying retried => cases backsOff

/-! ## The bound -/

/-- The sessions that are held are as many as the tasks with a permit. -/
theorem length_heldIds
    (pool : AsyncSessionPool) :
    pool.heldIds.length = (pool.tasks.filter Control.holdsPermit).length := by
  simp only [heldIds]
  induction pool.tasks with
  | nil => rfl
  | cons control rest inductionHypothesis =>
      rw [holdings, List.flatMap_cons, List.length_append, ← holdings,
        inductionHypothesis]
      cases control with
      | inside call id session phase =>
          rw [List.filter_cons_of_pos rfl]
          exact Nat.add_comm _ _
      | outside | waiting _ | backingOff _ | retrying _ =>
          rw [List.filter_cons_of_neg Bool.false_ne_true]
          exact Nat.zero_add _

/-- A pool that nobody is in has all its permits and nobody waiting. -/
theorem Accounted.permits_back
    {pool : AsyncSessionPool}
    {cap : Nat}
    (accounted : pool.Accounted cap)
    (nobodyInside : ∀ control ∈ pool.tasks, control.inBlock = false) :
    pool.semaphore.value = cap ∧ pool.semaphore.waiters = [] := by
  have nothingHeld : pool.heldIds = [] := by
    rw [heldIds, holdings_eq_nil_iff]
    intro control standing
    have outside := nobodyInside control standing
    cases control <;> first | rfl | cases outside
  have nobodyWaits : pool.queued = [] := by
    rw [queued, holdings_eq_nil_iff]
    intro control standing
    have outside := nobodyInside control standing
    cases control <;> first | rfl | cases outside
  have noWaiters : pool.semaphore.waiters = [] := by
    apply List.eq_nil_of_length_eq_zero
    rw [accounted.queue, nobodyWaits]
    rfl
  have permits := accounted.permits
  rw [nothingHeld, Semaphore.available, noWaiters] at permits
  exact ⟨permits, noWaiters⟩

/--
After every run of any number of tasks: the sessions that are connecting, held or
idle number at most the cap; no session is held by two tasks or held and idle; a
task that backs off with a permit does so between two attempts of a session that
allows several, and none does where every block asks for a single attempt; the
permits of the tasks and the available ones make up the cap, and all of them are
free once no task is inside a block.
-/
theorem bounded_of_run
    {metrics : Option RunMetrics}
    {schema : Option Schema}
    {cap tasks : Nat}
    {labels : List Label}
    {pool : AsyncSessionPool}
    (ran : exec step (new metrics schema cap tasks) labels = some pool) :
    pool.sessionIds.length ≤ cap ∧
      (∀ (first second : Nat) (one other : Control) (id : Nat),
        pool.tasks[first]? = some one →
        pool.tasks[second]? = some other →
        id ∈ one.heldIds →
        id ∉ pool.idle.map Prod.fst ∧
          (id ∈ other.heldIds → first = second)) ∧
      (∀ control ∈ pool.tasks,
        control.backsOff = true →
        control.holdsPermit = true →
        ∃ call id session question,
          control = .inside call id session (.asking question) ∧
            1 ≤ question.attempt ∧
              question.attempt < session.maxAttempts) ∧
      ((∀ label ∈ labels,
          ∀ opening,
            label.move = .acquire opening → opening.maxAttempts ≤ 1) →
        ∀ control ∈ pool.tasks,
          control.backsOff = true → control.holdsPermit = false) ∧
      pool.semaphore.available +
          (pool.tasks.filter Control.holdsPermit).length = cap ∧
      ((∀ control ∈ pool.tasks, control.inBlock = false) →
        pool.semaphore.value = cap ∧ pool.semaphore.waiters = []) := by
  have accounted := accounted_of_run ran
  refine ⟨?_, ?_, ?_, ?_, ?_, ?_⟩
  · exact accounted.bounded
  · intro first second one other id firstStands secondStands heldByOne
    obtain ⟨-, heldDistinct, apart⟩ := List.nodup_append.mp accounted.distinct
    have held : id ∈ pool.heldIds :=
      mem_holdings.mpr
        ⟨one, List.mem_of_getElem? firstStands, heldByOne⟩
    refine ⟨fun isIdle => apart id isIdle id held rfl, ?_⟩
    exact eq_index_of_nodup_holdings heldDistinct firstStands secondStands
      heldByOne
  · intro control standing backsOff holdsPermit
    obtain ⟨call, id, session, question, shape, -, left⟩ :=
      attempts_left_of_backsOff (fun _ => True) trivial
        (fun _ _ _ _ => trivial) ran standing backsOff holdsPermit
    exact ⟨call, id, session, question, shape, left⟩
  · intro asked control standing backsOff
    by_contra holdsPermit
    obtain ⟨call, id, session, question, -, single, counted, left⟩ :=
      attempts_left_of_backsOff (· ≤ 1) (Nat.le_refl 1) asked ran
        standing backsOff (Bool.eq_true_of_not_eq_false holdsPermit)
    omega
  · rw [← length_heldIds]
    exact accounted.permits
  · intro nobodyInside
    exact accounted.permits_back nobodyInside

/-- A block entered with several attempts whose first turn fails. -/
private def heldBackoff : List Label :=
  [⟨0, .acquire {}⟩, ⟨0, .connected .reached⟩, ⟨0, .ask "plan" "r" none⟩,
    ⟨0, .turned (.failed ⟨"TimeoutError", ""⟩ true 0 [])⟩]

/-- A task in a block of several attempts backs off with the only permit. -/
theorem block_backs_off_with_permit :
    ∃ labels pool,
      exec step (new none none 1 1) labels = some pool ∧
        ∃ control ∈ pool.tasks,
          control.backsOff = true ∧ control.holdsPermit = true :=
  ⟨heldBackoff, _, rfl, _, List.mem_cons_self, by decide +kernel, rfl⟩

/-- Three tasks and two permits: a retried call fails and a block takes over. -/
private def interleavedRetry : List Label :=
  [⟨0, .acquire { maxAttempts := 1 }⟩, ⟨1, .runWithRetry "r" "plan" 2 3⟩,
    ⟨2, .acquire { maxAttempts := 1 }⟩, ⟨1, .connected .reached⟩,
    ⟨0, .connected .reached⟩,
    ⟨1, .turned (.failed ⟨"TimeoutError", ""⟩ true 0 [])⟩, ⟨1, .raised⟩,
    ⟨2, .resume⟩]

private def bothExit : List Label :=
  [⟨0, .exit⟩, ⟨2, .exit⟩]

/-- The bounds while one call backs off and two blocks hold sessions, and after. -/
theorem bounded_of_interleavedRetry :
    ∃ pool left,
      exec step (new none none 2 3) interleavedRetry = some pool ∧
        exec step (new none none 2 3) (interleavedRetry ++ bothExit) =
          some left ∧
        pool.tasks.map Control.heldIds = [[0], [], [1]] ∧
        pool.tasks.any Control.backsOff = true ∧
        pool.sessionIds.length ≤ 2 ∧
        (∀ control ∈ pool.tasks,
          control.backsOff = true → control.holdsPermit = false) ∧
        pool.semaphore.available +
            (pool.tasks.filter Control.holdsPermit).length = 2 ∧
        left.semaphore.value = 2 ∧
        left.semaphore.waiters = [] := by
  let pool := (exec step (new none none 2 3) interleavedRetry).get rfl
  let left :=
    (exec step (new none none 2 3) (interleavedRetry ++ bothExit)).get rfl
  have ran : exec step (new none none 2 3) interleavedRetry = some pool :=
    (Option.some_get _).symm
  have ranOn :
      exec step (new none none 2 3) (interleavedRetry ++ bothExit) =
        some left :=
    (Option.some_get _).symm
  obtain ⟨bounded, _, _, single, permits, _⟩ := bounded_of_run ran
  obtain ⟨_, _, _, _, _, free⟩ := bounded_of_run ranOn
  have asksOnce :
      ∀ label ∈ interleavedRetry, ∀ opening,
        label.move = .acquire opening → opening.maxAttempts ≤ 1 := by
    simp [interleavedRetry]
  exact
    ⟨pool, left, ran, ranOn, by decide +kernel, by decide +kernel, bounded,
      single asksOnce, permits, free (by decide +kernel)⟩

end AsyncSessionPool

end SdkClient

end ResearchCos
