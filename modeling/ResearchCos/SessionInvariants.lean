import ResearchCos.AsyncSessionPool

namespace ResearchCos

open Foundation

/-!
# Invariants of sessions

A session of the pool is opened, connected, at rest or inside a question.  An
invariant says something of it in each of these; what keeps it from one to the
next is stated for a session by itself, and carried over to every run of every
task here.
-/

namespace SdkClient

namespace AsyncSessionPool

/-- What is said of openings and of sessions, by what is done with them. -/
structure SessionInvariant where
  opening : Opening → Prop
  connecting : ClaudeSession → Prop
  rest : ClaudeSession → Prop
  asking : ClaudeSession → Question → Prop
  /-- Where a turn is allowed to fail. -/
  mayFail : ClaudeSession → Question → Prop

namespace SessionInvariant

/-- Each thing that is done with a session keeps what is said of it. -/
structure Lawful (invariant : SessionInvariant) : Prop where
  retries : ∀ retried, invariant.opening (Call.retry retried).opening
  opens :
    ∀ {opening : Opening} (schema : Option Schema),
      invariant.opening opening →
      invariant.connecting
        { schema := schema
          maxAttempts := opening.maxAttempts
          backoffBase := opening.backoffBase
          client := none }
  connects :
    ∀ {session},
      invariant.connecting session →
      invariant.rest { session with client := some {} }
  begins :
    ∀ {session} (user brain : String) (schema : Option Schema),
      invariant.rest session →
      invariant.asking session
        { user := user
          brain := brain
          schema := schema <|> session.schema
          phase := if session.maxAttempts = 0 then .raising else .turning }
  answers :
    ∀ {session question event reply},
      invariant.asking session question →
      question.phase = .turning →
      (sessionTurn session.client question.user event).2 = .ok reply →
      invariant.rest
        { session with
          client := (sessionTurn session.client question.user event).1 }
  fails :
    ∀ {session question event error},
      invariant.asking session question →
      question.phase = .turning →
      invariant.mayFail session question →
      (sessionTurn session.client question.user event).2 = .error error →
      invariant.asking
        { session with
          client := (sessionTurn session.client question.user event).1 }
        { question with
          lastError := some error
          phase := afterFailure session question.attempt }
  pauses :
    ∀ {session question},
      invariant.asking session question →
      question.phase = .pausing →
      invariant.asking session { question with phase := .disconnecting }
  disconnects :
    ∀ {session question},
      invariant.asking session question →
      question.phase = .disconnecting →
      invariant.asking { session with client := none }
        { question with phase := .reconnecting }
  reconnects :
    ∀ {session question} (event : ConnectEvent),
      invariant.asking session question →
      question.phase = .reconnecting →
      invariant.asking { session with client := event.client }
        { question with attempt := question.attempt + 1, phase := .turning }
  raises :
    ∀ {session question},
      invariant.asking session question →
      question.phase = .raising →
      invariant.rest session

/-- What the invariant says of a session in a phase of its block. -/
def inside
    (invariant : SessionInvariant)
    (session : ClaudeSession) : Phase → Prop
  | .connecting => invariant.connecting session
  | .body => invariant.rest session
  | .asking question => invariant.asking session question

/-- What the invariant says of where a task stands. -/
def control (invariant : SessionInvariant) : Control → Prop
  | .waiting call => invariant.opening call.opening
  | .inside _ _ session phase => invariant.inside session phase
  | _ => True

/-- The invariant holds of all idle sessions and of all tasks. -/
structure Holds
    (invariant : SessionInvariant)
    (pool : AsyncSessionPool) : Prop where
  idle : ∀ entry ∈ pool.idle, invariant.rest entry.2
  tasks : ∀ control ∈ pool.tasks, invariant.control control

/-- A move that opens and fails only where the invariant allows it. -/
def Allows
    (invariant : SessionInvariant)
    (pool : AsyncSessionPool)
    (label : Label) : Prop :=
  (∀ opening, label.move = .acquire opening → invariant.opening opening) ∧
    ∀ call id session question event error,
      pool.tasks[label.task]? =
        some (.inside call id session (.asking question)) →
      question.phase = .turning →
      label.move = .turned event →
      (sessionTurn session.client question.user event).2 = .error error →
      invariant.mayFail session question

variable {invariant : SessionInvariant} {pool : AsyncSessionPool}

theorem holds_new
    (invariant : SessionInvariant)
    (metrics : Option RunMetrics)
    (schema : Option Schema)
    (cap tasks : Nat) :
    invariant.Holds (new metrics schema cap tasks) where
  idle := by
    intro entry member
    cases member
  tasks := by
    intro control member
    rw [List.eq_of_mem_replicate member]
    trivial

/-- A task moves to where the invariant holds of it. -/
theorem Holds.setTask
    (holds : invariant.Holds pool)
    (task : Nat)
    {moved : Control}
    (there : invariant.control moved) :
    invariant.Holds (pool.setTask task moved) where
  idle := holds.idle
  tasks := by
    intro control member
    rcases List.mem_or_eq_of_mem_set member with before | same
    · exact holds.tasks control before
    · exact same ▸ there

theorem Holds.beginBody
    (lawful : invariant.Lawful)
    {session : ClaudeSession}
    (atRest : invariant.rest session)
    (call : Call) :
    invariant.inside session (pool.beginBody call session) := by
  cases call with
  | block opening => exact atRest
  | retry retried =>
      exact lawful.begins retried.user retried.brain pool.schema atRest

theorem Holds.checkout
    (lawful : invariant.Lawful)
    (holds : invariant.Holds pool)
    (semaphore : Semaphore Nat)
    (task : Nat)
    {call : Call}
    (allowed : invariant.opening call.opening) :
    invariant.Holds ({ pool with semaphore := semaphore }.checkout task call) := by
  simp only [AsyncSessionPool.checkout]
  split
  · rename_i id session rest idle
    change pool.idle = (id, session) :: rest at idle
    have idleSessions := holds.idle
    rw [idle] at idleSessions
    have others :
        invariant.Holds { pool with semaphore := semaphore, idle := rest } :=
      { idle := fun entry member =>
          idleSessions entry (List.mem_cons_of_mem _ member)
        tasks := holds.tasks }
    exact others.setTask task
      (Holds.beginBody lawful (idleSessions _ List.mem_cons_self) call)
  · have opened :
        invariant.Holds
          { pool with semaphore := semaphore, created := pool.created + 1 } :=
      ⟨holds.idle, holds.tasks⟩
    exact opened.setTask task (lawful.opens pool.schema allowed)

theorem Holds.enter
    (lawful : invariant.Lawful)
    (holds : invariant.Holds pool)
    (task : Nat)
    {call : Call}
    (allowed : invariant.opening call.opening) :
    invariant.Holds (pool.enter task call) := by
  simp only [AsyncSessionPool.enter]
  split
  · have queued :
        invariant.Holds
          { pool with semaphore := pool.semaphore.enqueue task } :=
      ⟨holds.idle, holds.tasks⟩
    exact queued.setTask task allowed
  · exact holds.checkout lawful pool.semaphore.takeFree task allowed

theorem Holds.checkin
    (holds : invariant.Holds pool)
    (id : Nat)
    {session : ClaudeSession}
    (atRest : invariant.rest session) :
    invariant.Holds ((pool.checkin id session).releasePermit) := by
  simp only [AsyncSessionPool.checkin]
  split
  · refine ⟨?_, holds.tasks⟩
    intro entry member
    rcases List.mem_cons.mp member with isReturned | wasIdle
    · exact isReturned ▸ atRest
    · exact holds.idle entry wasIdle
  · exact ⟨holds.idle, holds.tasks⟩

/-- A retried call holds no session once its attempt is over. -/
theorem control_failed
    (invariant : SessionInvariant)
    (retried : RetryCall) :
    invariant.control retried.failed := by
  simp only [RetryCall.failed]
  split
  · split <;> trivial
  · trivial

theorem Holds.endAsk
    (holds : invariant.Holds pool)
    (task : Nat)
    (call : Call)
    (id : Nat)
    {session : ClaudeSession}
    (atRest : invariant.rest session)
    (answer : Except LLMUnavailableError Answer) :
    invariant.Holds (pool.endAsk task call id session answer) := by
  cases call with
  | block opening =>
      exact holds.setTask task atRest
  | retry retried =>
      refine (holds.checkin id atRest).setTask task ?_
      cases answer with
      | ok returned => trivial
      | error raised => exact control_failed invariant retried

theorem Holds.askStep
    (lawful : invariant.Lawful)
    (holds : invariant.Holds pool)
    {task id : Nat}
    {call : Call}
    {session : ClaudeSession}
    {question : Question}
    {move : Move}
    (asking : invariant.asking session question)
    (mayFail :
      ∀ event error,
        question.phase = .turning →
        move = .turned event →
        (sessionTurn session.client question.user event).2 = .error error →
        invariant.mayFail session question)
    {next : AsyncSessionPool}
    (stepped :
      pool.askStep task call id session question move = some next) :
    invariant.Holds next := by
  simp only [AsyncSessionPool.askStep] at stepped
  split at stepped
  · rename_i event phase
    split at stepped
    · rename_i reply answered
      cases stepped
      have recorded :
          invariant.Holds
            { pool with
              metrics :=
                (finishTurn pool.metrics (collect reply.messages) event.wallS
                  question.brain question.schema).1 } :=
        ⟨holds.idle, holds.tasks⟩
      exact recorded.endAsk task call id
        (lawful.answers asking phase answered) _
    · rename_i error failed
      cases stepped
      exact holds.setTask task
        (lawful.fails asking phase (mayFail event error phase rfl failed)
          failed)
  · rename_i phase
    cases stepped
    exact holds.setTask task (lawful.pauses asking phase)
  · rename_i phase
    cases stepped
    exact holds.setTask task (lawful.disconnects asking phase)
  · rename_i event phase
    cases stepped
    exact holds.setTask task (lawful.reconnects event asking phase)
  · rename_i phase
    cases stepped
    exact holds.endAsk task call id (lawful.raises asking phase) _
  · cases stepped

/-- Every allowed move keeps a lawful invariant. -/
theorem Holds.step
    (lawful : invariant.Lawful)
    (holds : invariant.Holds pool)
    {label : Label}
    {next : AsyncSessionPool}
    (allowed : invariant.Allows pool label)
    (stepped : pool.step label = some next) :
    invariant.Holds next := by
  obtain ⟨control, standing, moves⟩ := step_eq_some_iff.mp stepped
  have here := holds.tasks control (List.mem_of_getElem? standing)
  obtain ⟨task, move⟩ := label
  dsimp only at standing moves
  simp only [stepFrom] at moves
  split at moves
  · rename_i opening
    cases moves
    exact holds.enter lawful task (allowed.1 opening rfl)
  · split at moves
    · cases moves
      exact holds
    · cases moves
      exact holds.enter lawful task (lawful.retries _)
  · obtain ⟨semaphore, -, rfl⟩ := Option.map_eq_some_iff.mp moves
    exact holds.checkout lawful semaphore task here
  · rename_i call id session event
    split at moves
    · rename_i reached
      cases moves
      refine holds.setTask task (Holds.beginBody lawful ?_ call)
      cases event with
      | reached => exact lawful.connects here
      | refused error => cases reached
      | unreached error => cases reached
    · cases moves
      have released : invariant.Holds pool.releasePermit :=
        ⟨holds.idle, holds.tasks⟩
      refine released.setTask task ?_
      cases call with
      | block opening => trivial
      | retry retried => exact control_failed invariant retried
  · rename_i opening id session user brain schema
    cases moves
    exact holds.setTask task (lawful.begins user brain schema here)
  · rename_i opening id session
    cases moves
    exact (holds.checkin id here).setTask task trivial
  · rename_i call id session question
    refine holds.askStep lawful here ?_ moves
    intro event error phase turned failed
    exact allowed.2 call id session question event error standing phase turned
      failed
  · cases moves
    exact holds.enter lawful task (lawful.retries _)
  · cases moves
    exact holds.enter lawful task (lawful.retries _)
  · cases moves

/-- A lawful invariant holds after every run of allowed moves. -/
theorem holds_of_run
    (lawful : invariant.Lawful)
    {initial final : AsyncSessionPool}
    (initially : invariant.Holds initial)
    {labels : List Label}
    (allowed : AllSteps step invariant.Allows initial labels)
    (ran : exec step initial labels = some final) :
    invariant.Holds final :=
  AllSteps.invariant
    (fun holds allows moved => holds.step lawful allows moved)
    initially allowed ran

end SessionInvariant

end AsyncSessionPool

end SdkClient

end ResearchCos
