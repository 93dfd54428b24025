import ResearchCos.Foundation.LabelledRun
import ResearchCos.Foundation.Permits
import ResearchCos.SdkClient

namespace ResearchCos

open Foundation

/-!
# The bounded pool of asynchronous sessions

The tasks of one event loop share the sessions of one key.  A move takes one
task to its next await point, or part of the way there, so the runs of the
machine include every interleaving at await points.  The pool never looks at
which task calls it: a block entered inside another one is one more task here.
-/

namespace SdkClient

/-! ## Where a task stands -/

/-- What `acquire` was asked for: the attempts of a session that it opens. -/
structure Opening where
  maxAttempts : Nat := 5
  backoffBase : ℚ := 3
  deriving Repr, DecidableEq

/-- One `run_with_retry` and the attempt that it is at. -/
structure RetryCall where
  user : String
  brain : String := "unknown"
  maxAttempts : Nat := 5
  backoffBase : ℚ := 3
  attempt : Nat := 1
  deriving Repr, DecidableEq

/-- Who entered the block: its own code, or one attempt of a retried call. -/
inductive Call where
  | block (opening : Opening)
  | retry (retried : RetryCall)
  deriving Repr, DecidableEq

/-- The arguments of `acquire`; a retried call asks for a single attempt. -/
def Call.opening : Call → Opening
  | .block opening => opening
  | .retry _ => { maxAttempts := 1, backoffBase := 0 }

/-- The await points of `ask_async`, and the raise after its last attempt. -/
inductive AskPhase where
  | turning
  | pausing
  | disconnecting
  | reconnecting
  | raising
  deriving Repr, DecidableEq

/-- An `ask_async` on the held session. -/
structure Question where
  user : String
  brain : String
  schema : Option Schema
  attempt : Nat := 1
  lastError : Option SdkError := none
  phase : AskPhase
  deriving Repr, DecidableEq

/-- What a task does inside the block. -/
inductive Phase where
  | connecting
  | body
  | asking (question : Question)
  deriving Repr, DecidableEq

/-- Where a task stands. -/
inductive Control where
  | outside
  | waiting (call : Call)
  | inside (call : Call) (id : Nat) (session : ClaudeSession) (phase : Phase)
  | backingOff (retried : RetryCall)
  /-- A retried call that did not have to wait before its next attempt. -/
  | retrying (retried : RetryCall)
  deriving DecidableEq

namespace Control

/-- The session that a task is connecting or holds. -/
def heldIds : Control → List Nat
  | .inside _ id _ _ => [id]
  | _ => []

/-- One entry for a task that waits for a permit. -/
def waits : Control → List Unit
  | .waiting _ => [()]
  | _ => []

/-- A task has a permit from its checkout until it leaves the block. -/
def holdsPermit : Control → Bool
  | .inside _ _ _ _ => true
  | _ => false

/-- A task is inside an acquire block from the moment it asks for a permit. -/
def inBlock : Control → Bool
  | .waiting _ | .inside _ _ _ _ => true
  | _ => false

/-- A task backs off between two attempts, of a session or of a retried call. -/
def backsOff : Control → Bool
  | .inside _ _ _ (.asking question) => question.phase = .pausing
  | .backingOff _ => true
  | _ => false

end Control

/-! ## The pool -/

/--
The pool of one key.  The idle sessions stand with the one returned last first;
a session is known by the number of sessions opened before it.
-/
structure AsyncSessionPool where
  metrics : Option RunMetrics
  schema : Option Schema
  semaphore : Semaphore Nat
  idle : List (Nat × ClaudeSession)
  tasks : List Control
  created : Nat
  deriving DecidableEq

namespace AsyncSessionPool

/-- A new pool, with tasks that have not called it yet. -/
def new
    (metrics : Option RunMetrics)
    (schema : Option Schema)
    (cap tasks : Nat) : AsyncSessionPool where
  metrics := metrics
  schema := schema
  semaphore := .new cap
  idle := []
  tasks := List.replicate tasks .outside
  created := 0

/-- Move one task. -/
def setTask
    (pool : AsyncSessionPool)
    (task : Nat)
    (control : Control) : AsyncSessionPool :=
  { pool with tasks := pool.tasks.set task control }

/-- The first await point of `ask_async`; no attempts, no turn. -/
def beginAsk
    (session : ClaudeSession)
    (user brain : String)
    (schema : Option Schema) : Phase :=
  .asking
    { user := user
      brain := brain
      schema := schema <|> session.schema
      phase := if session.maxAttempts = 0 then .raising else .turning }

/-- What the body of the block does first. -/
def beginBody
    (pool : AsyncSessionPool)
    (call : Call)
    (session : ClaudeSession) : Phase :=
  match call with
  | .block _ => .body
  | .retry retried => beginAsk session retried.user retried.brain pool.schema

/--
With a permit: take the idle session returned last, else open a new one.  A
session that was idle keeps the attempts that it was opened with.
-/
def checkout
    (pool : AsyncSessionPool)
    (task : Nat)
    (call : Call) : AsyncSessionPool :=
  match pool.idle with
  | (id, session) :: rest =>
      { pool with idle := rest }.setTask task
        (.inside call id session (pool.beginBody call session))
  | [] =>
      { pool with created := pool.created + 1 }.setTask task
        (.inside call pool.created
          { schema := pool.schema
            maxAttempts := call.opening.maxAttempts
            backoffBase := call.opening.backoffBase
            client := none }
          .connecting)

/-- Enter the block: wait for a permit, or take a free one and check out. -/
def enter
    (pool : AsyncSessionPool)
    (task : Nat)
    (call : Call) : AsyncSessionPool :=
  if pool.semaphore.locked then
    { pool with semaphore := pool.semaphore.enqueue task }.setTask task
      (.waiting call)
  else
    { pool with semaphore := pool.semaphore.takeFree }.checkout task call

/-- Return a session to the idle ones while it has a client, else drop it. -/
def checkin
    (pool : AsyncSessionPool)
    (id : Nat)
    (session : ClaudeSession) : AsyncSessionPool :=
  match session.client with
  | some _ => { pool with idle := (id, session) :: pool.idle }
  | none => pool

/-- Give the permit back. -/
def releasePermit (pool : AsyncSessionPool) : AsyncSessionPool :=
  { pool with semaphore := pool.semaphore.release }

end AsyncSessionPool

/-- Where a retried call goes after an attempt that raised. -/
def RetryCall.failed (retried : RetryCall) : Control :=
  if retried.attempt < retried.maxAttempts then
    let next := { retried with attempt := retried.attempt + 1 }
    if 0 < backoffWait retried.backoffBase retried.attempt then
      .backingOff next
    else
      .retrying next
  else
    .outside

/-- Where the caller goes when entering the block raised. -/
def Call.raised : Call → Control
  | .block _ => .outside
  | .retry retried => retried.failed

/-- Where a retried call goes after its one turn. -/
def RetryCall.after
    (retried : RetryCall) :
    Except LLMUnavailableError Answer → Control
  | .ok _ => .outside
  | .error _ => retried.failed

namespace AsyncSessionPool

/-- `ask_async` returns or raises: a retried call leaves the block. -/
def endAsk
    (pool : AsyncSessionPool)
    (task : Nat)
    (call : Call)
    (id : Nat)
    (session : ClaudeSession)
    (answer : Except LLMUnavailableError Answer) : AsyncSessionPool :=
  match call with
  | .block _ => pool.setTask task (.inside call id session .body)
  | .retry retried =>
      ((pool.checkin id session).releasePermit).setTask task
        (retried.after answer)

/-! ## Moves -/

/-- One move of a task, with what the network does in it. -/
inductive Move where
  | acquire (opening : Opening)
  | runWithRetry (user brain : String) (maxAttempts : Nat) (backoffBase : ℚ)
  | resume
  | connected (event : ConnectEvent)
  | ask (user brain : String) (schema : Option Schema)
  | turned (event : TurnEvent)
  | paused
  | disconnected
  | reconnected (event : ConnectEvent)
  | raised
  | exit
  | again
  deriving Repr, DecidableEq

structure Label where
  task : Nat
  move : Move
  deriving Repr, DecidableEq

/-- The phase after a failed turn. -/
def afterFailure
    (session : ClaudeSession)
    (attempt : Nat) : AskPhase :=
  if attempt < session.maxAttempts then
    if 0 < backoffWait session.backoffBase attempt then
      .pausing
    else
      .disconnecting
  else
    .raising

/-- Move a task that is inside `ask_async`. -/
def askStep
    (pool : AsyncSessionPool)
    (task : Nat)
    (call : Call)
    (id : Nat)
    (session : ClaudeSession)
    (question : Question)
    (move : Move) : Option AsyncSessionPool :=
  match question.phase, move with
  | .turning, .turned event =>
      let ran := sessionTurn session.client question.user event
      match ran.2 with
      | .ok reply =>
          let finished :=
            finishTurn pool.metrics (collect reply.messages) event.wallS
              question.brain question.schema
          some
            ({ pool with metrics := finished.1 }.endAsk task call id
              { session with client := ran.1 } finished.2)
      | .error error =>
          some
            (pool.setTask task
              (.inside call id { session with client := ran.1 }
                (.asking
                  { question with
                    lastError := some error
                    phase := afterFailure session question.attempt })))
  | .pausing, .paused =>
      some
        (pool.setTask task
          (.inside call id session
            (.asking { question with phase := .disconnecting })))
  | .disconnecting, .disconnected =>
      some
        (pool.setTask task
          (.inside call id { session with client := none }
            (.asking { question with phase := .reconnecting })))
  | .reconnecting, .reconnected event =>
      some
        (pool.setTask task
          (.inside call id { session with client := event.client }
            (.asking
              { question with
                attempt := question.attempt + 1
                phase := .turning })))
  | .raising, .raised =>
      some
        (pool.endAsk task call id session
          (.error (session.exhausted question.brain question.lastError)))
  | _, _ => none

/-- One move of a task; `none` when the task cannot make it. -/
def stepFrom
    (pool : AsyncSessionPool)
    (task : Nat)
    (control : Control)
    (move : Move) : Option AsyncSessionPool :=
  match control, move with
  | .outside, .acquire opening => some (pool.enter task (.block opening))
  | .outside, .runWithRetry user brain maxAttempts backoffBase =>
      if maxAttempts = 0 then
        some pool
      else
        some
          (pool.enter task
            (.retry
              { user := user
                brain := brain
                maxAttempts := maxAttempts
                backoffBase := backoffBase }))
  | .waiting call, .resume =>
      (pool.semaphore.resume task).map fun semaphore =>
        { pool with semaphore := semaphore }.checkout task call
  | .inside call id session .connecting, .connected event =>
      match event.error? with
      | none =>
          let connected := { session with client := event.client }
          some
            (pool.setTask task
              (.inside call id connected (pool.beginBody call connected)))
      | some _ => some (pool.releasePermit.setTask task call.raised)
  | .inside (.block opening) id session .body, .ask user brain schema =>
      some
        (pool.setTask task
          (.inside (.block opening) id session
            (beginAsk session user brain schema)))
  | .inside (.block _) id session .body, .exit =>
      some
        (((pool.checkin id session).releasePermit).setTask task .outside)
  | .inside call id session (.asking question), move =>
      pool.askStep task call id session question move
  | .backingOff retried, .again => some (pool.enter task (.retry retried))
  | .retrying retried, .again => some (pool.enter task (.retry retried))
  | _, _ => none

/-- One move of the task that a label names. -/
def step (pool : AsyncSessionPool) (label : Label) : Option AsyncSessionPool :=
  pool.tasks[label.task]?.bind fun control =>
    pool.stepFrom label.task control label.move

/-- The turn that a move ends, as it was run. -/
def turnsOf (pool : AsyncSessionPool) (label : Label) : List TurnRecord :=
  match pool.tasks[label.task]?, label.move with
  | some (.inside _ _ session (.asking question)), .turned event =>
      if question.phase = .turning then
        [⟨question.user, session.client,
          (sessionTurn session.client question.user event).2⟩]
      else
        []
  | _, _ => []

/-- A step moves a task that stands somewhere. -/
theorem step_eq_some_iff
    {pool next : AsyncSessionPool}
    {label : Label} :
    pool.step label = some next ↔
      ∃ control,
        pool.tasks[label.task]? = some control ∧
          pool.stepFrom label.task control label.move = some next :=
  Option.bind_eq_some_iff

end AsyncSessionPool

end SdkClient

end ResearchCos
