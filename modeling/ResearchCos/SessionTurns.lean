import ResearchCos.SessionInvariants

namespace ResearchCos

open Foundation

/-!
# Which prompt an answer was produced for

A turn that fails leaves its connection with an answer that nobody read.  A
session connects again before it tries again, and does not after its last
attempt: the session that is left then goes back to its pool, and the next turn
on it reads the answer to another prompt.
-/

namespace SdkClient

/-! ## Clean connections -/

/-- A connection that owes nothing and on which no turn failed. -/
def Connection.Clean (connection : Connection) : Prop :=
  connection.queued = [] ∧ connection.failedTurn = false

/-- No client, or one with a clean connection. -/
def CleanClient (client : Option Connection) : Prop :=
  ∀ connection ∈ client, connection.Clean

/-- A turn on a connection without a failed turn, answered with its own reply. -/
def TurnRecord.Own (turn : TurnRecord) : Prop :=
  (∀ connection ∈ turn.client, connection.failedTurn = false) ∧
    ∀ reply, turn.outcome = .ok reply → reply.prompt = turn.user

/-- Whether a turn on this client ends without an answer. -/
def TurnEvent.fails (client : Option Connection) : TurnEvent → Bool
  | .answered _ _ => client.isNone
  | .failed _ _ _ _ => true

theorem cleanClient_none : CleanClient none := by
  intro connection member
  cases member

/-- What connecting leaves is clean, whether it succeeds or not. -/
theorem ConnectEvent.cleanClient
    (event : ConnectEvent) :
    CleanClient event.client := by
  intro connection member
  cases event with
  | refused error => cases member
  | unreached error =>
      cases member
      exact ⟨rfl, rfl⟩
  | reached =>
      cases member
      exact ⟨rfl, rfl⟩

/-- A turn fails exactly when its event says so or it has no client. -/
theorem sessionTurn_error_iff
    (client : Option Connection)
    (user : String)
    (event : TurnEvent) :
    (∃ error, (sessionTurn client user event).2 = .error error) ↔
      event.fails client = true := by
  cases event with
  | failed error sent read messages =>
      exact ⟨fun _ => rfl, fun _ => ⟨error, rfl⟩⟩
  | answered messages wallS =>
      cases client with
      | none => exact ⟨fun _ => rfl, fun _ => ⟨_, rfl⟩⟩
      | some connection =>
          constructor
          · rintro ⟨error, failed⟩
            cases failed
          · intro none
            cases none

/-- On a clean connection a turn reads the reply to its own prompt. -/
theorem sessionTurn_clean
    {client : Option Connection}
    (clean : CleanClient client)
    {user : String}
    {event : TurnEvent}
    {reply : Reply}
    (answered : (sessionTurn client user event).2 = .ok reply) :
    reply.prompt = user ∧ CleanClient (sessionTurn client user event).1 := by
  cases event with
  | failed error sent read messages => cases answered
  | answered messages wallS =>
      cases client with
      | none => cases answered
      | some connection =>
          obtain ⟨nothingQueued, noFailure⟩ := clean connection rfl
          simp only [sessionTurn, nothingQueued, List.nil_append,
            List.headD_cons, Except.ok.injEq] at answered
          subst answered
          refine ⟨rfl, ?_⟩
          intro left member
          cases member
          exact ⟨by rw [nothingQueued]; rfl, noFailure⟩

/-- A turn that fails spoils the connection that it ran on. -/
theorem sessionTurn_failed
    {client : Option Connection}
    {user : String}
    {event : TurnEvent}
    {error : SdkError}
    (failed : (sessionTurn client user event).2 = .error error) :
    CleanClient (sessionTurn client user event).1 ↔ client = none := by
  cases client with
  | none =>
      refine iff_of_true ?_ rfl
      cases event <;> exact cleanClient_none
  | some connection =>
      refine iff_of_false ?_ (Option.some_ne_none _)
      cases event with
      | answered messages wallS => cases failed
      | failed error sent read messages =>
          intro clean
          cases (clean _ rfl).2

/-- The record of a turn on a clean connection is the turn's own. -/
theorem TurnRecord.own_of_clean
    {client : Option Connection}
    (clean : CleanClient client)
    (user : String)
    (event : TurnEvent) :
    TurnRecord.Own
      ⟨user, client, (sessionTurn client user event).2⟩ :=
  ⟨fun connection member => (clean connection member).2,
    fun _ answered => (sessionTurn_clean clean answered).1⟩

/-! ## One question to a session -/

/--
The attempts of a question from the given one on all fail, the last of them on a
client: the question ends without connecting again.
-/
def runsOut
    (events : Nat → AttemptEvents) :
    (client : Option Connection) → (attempt remaining : Nat) → Bool
  | _, _, 0 => false
  | client, attempt, 1 =>
      client.isSome && (events attempt).turn.fails client
  | client, attempt, remaining + 2 =>
      (events attempt).turn.fails client &&
        runsOut events (events attempt).reconnect.client (attempt + 1)
          (remaining + 1)

namespace ClaudeSession

section Attempts

variable
  (metrics : Option RunMetrics)
  (user brain : String)
  (effectiveSchema : Option Schema)
  (events : Nat → AttemptEvents)

/--
Every turn of a question to a clean session is its own, and the session is clean
afterwards unless the question runs out of attempts on a client.
-/
theorem askFrom_clean
    {session : ClaudeSession}
    (clean : CleanClient session.client)
    {attempt remaining : Nat}
    (counted : attempt + remaining = session.maxAttempts + 1)
    (lastError : Option SdkError) :
    let asked :=
      session.askFrom metrics user brain effectiveSchema events attempt
        lastError remaining
    (∀ turn ∈ asked.turns, turn.Own) ∧
      (CleanClient asked.session.client ↔
        runsOut events session.client attempt remaining = false) := by
  induction remaining generalizing session attempt lastError with
  | zero =>
      refine ⟨?_, iff_of_true clean rfl⟩
      intro turn member
      cases member
  | succ remaining inductionHypothesis =>
      have own := TurnRecord.own_of_clean clean user (events attempt).turn
      have failsIff :=
        sessionTurn_error_iff session.client user (events attempt).turn
      simp only [askFrom]
      cases outcome :
          (sessionTurn session.client user (events attempt).turn).2 with
      | ok reply =>
          have answered : (events attempt).turn.fails session.client = false := by
            apply Bool.eq_false_iff.mpr
            intro fails
            obtain ⟨error, failed⟩ := failsIff.mpr fails
            rw [failed] at outcome
            cases outcome
          rw [outcome] at own
          refine ⟨?_, iff_of_true (sessionTurn_clean clean outcome).2 ?_⟩
          · intro turn member
            exact List.mem_singleton.mp member ▸ own
          · cases remaining <;> simp [runsOut, answered]
      | error error =>
          have fails := failsIff.mp ⟨error, outcome⟩
          rw [outcome] at own
          by_cases last : remaining = 0
          · subst last
            have noMore : ¬ attempt < session.maxAttempts := by omega
            rw [if_neg noMore]
            refine ⟨?_, ?_⟩
            · intro turn member
              exact List.mem_singleton.mp member ▸ own
            · refine (sessionTurn_failed outcome).trans ?_
              simp [runsOut, fails]
          · have goesOn : attempt < session.maxAttempts := by omega
            rw [if_pos goesOn]
            have oneLess : attempt + 1 + remaining = session.maxAttempts + 1 := by
              omega
            obtain ⟨ownLater, cleanLater⟩ :=
              @inductionHypothesis
                { session with client := (events attempt).reconnect.client }
                (ConnectEvent.cleanClient _) (attempt + 1) oneLess (some error)
            refine ⟨?_, cleanLater.trans ?_⟩
            · intro turn member
              rcases List.mem_cons.mp member with isThis | isLater
              · exact isThis ▸ own
              · exact ownLater turn isLater
            · obtain ⟨more, rfl⟩ := Nat.exists_eq_succ_of_ne_zero last
              simp [runsOut, fails]

end Attempts

/-- A question that does not run out of attempts on a client. -/
def keepsClean
    (session : ClaudeSession)
    (events : Nat → AttemptEvents) : Bool :=
  !runsOut events session.client 1 session.maxAttempts

/-- A question to a clean session, and the session that it leaves. -/
theorem ask_clean
    {session : ClaudeSession}
    (clean : CleanClient session.client)
    (metrics : Option RunMetrics)
    (user : String)
    (schema : Option Schema)
    (brain : String)
    (events : Nat → AttemptEvents) :
    let asked := session.ask metrics user schema brain events
    (∀ turn ∈ asked.turns, turn.Own) ∧
      (CleanClient asked.session.client ↔ session.keepsClean events = true) := by
  obtain ⟨own, cleanIff⟩ :=
    askFrom_clean metrics user brain (schema <|> session.schema) events clean
      (Nat.add_comm 1 session.maxAttempts) none
  exact ⟨own, cleanIff.trans (by simp [keepsClean])⟩

end ClaudeSession

/-! ## Sessions of the bounded pool -/

namespace AsyncSessionPool

/-- Sessions at rest are clean, and so is one that is about to run a turn. -/
def cleanSessions : SessionInvariant where
  opening _ := True
  connecting _ := True
  rest session := CleanClient session.client
  asking session question :=
    question.phase = .turning ∨ question.phase = .raising →
      CleanClient session.client
  mayFail session question :=
    question.attempt < session.maxAttempts ∨ session.client = none

/-- A failure is final for the session only after its last attempt. -/
theorem afterFailure_eq_raising
    {session : ClaudeSession}
    {attempt : Nat}
    (isFinal :
      afterFailure session attempt = .turning ∨
        afterFailure session attempt = .raising) :
    ¬ attempt < session.maxAttempts := by
  intro left
  simp only [afterFailure] at isFinal
  rw [if_pos left] at isFinal
  split at isFinal <;> simp at isFinal

theorem cleanSessions_lawful : cleanSessions.Lawful where
  retries _ := trivial
  opens _ _ := trivial
  connects _ := by
    intro connection member
    cases member
    exact ⟨rfl, rfl⟩
  begins _ _ _ clean _ := clean
  answers asking turning answered :=
    (sessionTurn_clean (asking (.inl turning)) answered).2
  fails {session question event error} _ _ mayFail failed isFinal := by
    have noClient : session.client = none :=
      mayFail.resolve_left (afterFailure_eq_raising isFinal)
    exact (sessionTurn_failed failed).mpr noClient
  pauses _ _ isFinal := by simp at isFinal
  disconnects _ _ _ := cleanClient_none
  reconnects event _ _ _ := event.cleanClient
  raises asking raising := asking (.inr raising)

/-- Whether a move ends a turn that fails on the last attempt of a client. -/
def spoils (pool : AsyncSessionPool) (label : Label) : Bool :=
  match pool.tasks[label.task]?, label.move with
  | some (.inside _ _ session (.asking question)), .turned event =>
      question.phase = .turning && event.fails session.client &&
        session.client.isSome && session.maxAttempts ≤ question.attempt
  | _, _ => false

/-- A move that spoils no session is one that the invariant allows. -/
theorem allows_of_spoils_eq_false
    {pool : AsyncSessionPool}
    {label : Label}
    (spoilsNone : pool.spoils label = false) :
    cleanSessions.Allows pool label := by
  refine ⟨fun _ _ => trivial, ?_⟩
  intro call id session question event error standing turning moves failed
  have fails :=
    (sessionTurn_error_iff session.client question.user event).mp
      ⟨error, failed⟩
  simp only [spoils, standing, moves, turning, fails,
    decide_true, Bool.true_and, Bool.and_eq_false_iff,
    Option.isSome_eq_false_iff, Option.isNone_iff_eq_none,
    decide_eq_false_iff_not, not_le] at spoilsNone
  exact spoilsNone.symm

/-- In a pool whose sessions are clean a turn is its own. -/
theorem turnsOf_own
    {pool : AsyncSessionPool}
    (clean : cleanSessions.Holds pool)
    (label : Label) :
    ∀ turn ∈ pool.turnsOf label, turn.Own := by
  intro turn member
  simp only [turnsOf] at member
  split at member
  · rename_i call id session question event standing moves
    split at member
    · rename_i turning
      have here :=
        clean.tasks _ (List.mem_of_getElem? standing) (.inl turning)
      exact
        List.mem_singleton.mp member ▸
          TurnRecord.own_of_clean here question.user event
    · cases member
  · cases member

end AsyncSessionPool

/-! ## The transport over a run -/

/-- All sessions of a process: single ones, those of a run, and bounded pools. -/
structure Transport where
  sessions : List ClaudeSession
  pool : SessionPool
  asyncPools : SessionKey → AsyncSessionPool

namespace Transport

/-- No session is open; every key has a bounded pool of its own. -/
def new
    (attempts : Nat)
    (schemas : SessionKey → Option Schema)
    (caps tasks : SessionKey → Nat) : Transport where
  sessions := []
  pool := { metrics := none, attempts := attempts }
  asyncPools := fun key => .new none (schemas key) (caps key) (tasks key)

/-- One thing that is done with a session. -/
inductive Label where
  /-- Enter a session, synchronously or with `open_async`. -/
  | enter (schema : Option Schema) (maxAttempts : Nat) (connect : ConnectEvent)
  /-- `ask` or `ask_async` on a session that was entered. -/
  | ask (index : Nat) (user : String) (schema : Option Schema) (brain : String)
      (events : Nat → AttemptEvents)
  | poolAsk (user : String) (schema : Option Schema)
      (allowedTools : List String) (model : String) (connect : ConnectEvent)
      (events : Nat → AttemptEvents)
  | asyncPool (key : SessionKey) (label : AsyncSessionPool.Label)

def step (transport : Transport) : Label → Option Transport
  | .enter schema maxAttempts connect =>
      match ClaudeSession.enter schema maxAttempts connect with
      | .error _ => some transport
      | .ok session =>
          some { transport with sessions := transport.sessions ++ [session] }
  | .ask index user schema brain events =>
      transport.sessions[index]?.map fun session =>
        let asked := session.ask none user schema brain events
        { transport with
          sessions := transport.sessions.set index asked.session }
  | .poolAsk user schema allowedTools model connect events =>
      some
        { transport with
          pool :=
            (transport.pool.ask user schema allowedTools model connect
              events).1 }
  | .asyncPool key label =>
      ((transport.asyncPools key).step label).map fun next =>
        { transport with
          asyncPools := Function.update transport.asyncPools key next }

/-- The turns that a step runs. -/
def turns (transport : Transport) : Label → List TurnRecord
  | .enter _ _ _ => []
  | .ask index user schema brain events =>
      match transport.sessions[index]? with
      | some session => (session.ask none user schema brain events).turns
      | none => []
  | .poolAsk user schema allowedTools model connect events =>
      (transport.pool.ask user schema allowedTools model connect events).2.2
  | .asyncPool key label => (transport.asyncPools key).turnsOf label

/-- No turn of the step fails on a client as the last one its session allows. -/
def keepsClean (transport : Transport) : Label → Bool
  | .enter _ _ _ => true
  | .ask index _ _ _ events =>
      match transport.sessions[index]? with
      | some session => session.keepsClean events
      | none => true
  | .poolAsk _ schema allowedTools model connect events =>
      let key := sessionKey schema allowedTools model
      match transport.pool.sessionFor key schema connect with
      | .ok session => session.keepsClean events
      | .error _ => true
  | .asyncPool key label => !(transport.asyncPools key).spoils label

/-- Every session that a turn can be run on is clean. -/
structure Clean (transport : Transport) : Prop where
  sessions : ∀ session ∈ transport.sessions, CleanClient session.client
  pool :
    ∀ key session,
      transport.pool.sessions.get? key = some session →
      CleanClient session.client
  asyncPools :
    ∀ key, AsyncSessionPool.cleanSessions.Holds (transport.asyncPools key)

theorem clean_new
    (attempts : Nat)
    (schemas : SessionKey → Option Schema)
    (caps tasks : SessionKey → Nat) :
    (new attempts schemas caps tasks).Clean where
  sessions := by
    intro session member
    cases member
  pool := by
    intro key session found
    cases found
  asyncPools := fun key =>
    AsyncSessionPool.SessionInvariant.holds_new _ none (schemas key) (caps key)
      (tasks key)

/-- A session that was entered is clean. -/
theorem cleanClient_enter
    {schema : Option Schema}
    {maxAttempts : Nat}
    {connect : ConnectEvent}
    {session : ClaudeSession}
    (entered :
      ClaudeSession.enter schema maxAttempts connect = .ok session) :
    CleanClient session.client := by
  simp only [ClaudeSession.enter] at entered
  split at entered
  · cases entered
  · cases entered
    exact connect.cleanClient

/-- The session that a pool asks is clean. -/
theorem Clean.sessionFor
    {transport : Transport}
    (clean : transport.Clean)
    {key : SessionKey}
    {schema : Option Schema}
    {connect : ConnectEvent}
    {session : ClaudeSession}
    (given : transport.pool.sessionFor key schema connect = .ok session) :
    CleanClient session.client := by
  simp only [SessionPool.sessionFor] at given
  split at given
  · rename_i kept found
    cases given
    exact clean.pool key session found
  · exact cleanClient_enter given

/-- A step without a last failed attempt leaves every session clean. -/
theorem Clean.step
    {transport next : Transport}
    (clean : transport.Clean)
    {label : Label}
    (keeps : transport.keepsClean label = true)
    (stepped : transport.step label = some next) :
    next.Clean := by
  cases label with
  | enter schema maxAttempts connect =>
      simp only [Transport.step] at stepped
      split at stepped
      · cases stepped
        exact clean
      · rename_i session entered
        cases stepped
        refine ⟨?_, clean.pool, clean.asyncPools⟩
        intro other member
        rcases List.mem_append.mp member with before | isNew
        · exact clean.sessions other before
        · exact
            List.mem_singleton.mp isNew ▸ cleanClient_enter entered
  | ask index user schema brain events =>
      obtain ⟨session, standing, rfl⟩ := Option.map_eq_some_iff.mp stepped
      simp only [keepsClean, standing] at keeps
      have before := clean.sessions session (List.mem_of_getElem? standing)
      have after :=
        (ClaudeSession.ask_clean before none user schema brain events).2.mpr
          keeps
      refine ⟨?_, clean.pool, clean.asyncPools⟩
      intro other member
      rcases List.mem_or_eq_of_mem_set member with unchanged | isAsked
      · exact clean.sessions other unchanged
      · exact isAsked ▸ after
  | poolAsk user schema allowedTools model connect events =>
      cases stepped
      refine ⟨clean.sessions, ?_, clean.asyncPools⟩
      simp only [keepsClean] at keeps
      simp only [SessionPool.ask]
      cases given :
          transport.pool.sessionFor (sessionKey schema allowedTools model)
            schema connect with
      | error error => exact clean.pool
      | ok session =>
          rw [given] at keeps
          intro key other found
          simp only [OrderedMap.get?_insert] at found
          split at found
          · cases found
            exact
              (ClaudeSession.ask_clean (clean.sessionFor given) _ user none _
                events).2.mpr keeps
          · exact clean.pool key other found
  | asyncPool key label =>
      obtain ⟨moved, moves, rfl⟩ := Option.map_eq_some_iff.mp stepped
      refine ⟨clean.sessions, clean.pool, ?_⟩
      intro other
      by_cases same : other = key
      · subst same
        simp only [Function.update_self]
        refine
          (clean.asyncPools other).step AsyncSessionPool.cleanSessions_lawful
            (AsyncSessionPool.allows_of_spoils_eq_false ?_) moves
        simpa [keepsClean] using keeps
      · simp only [Function.update_of_ne same]
        exact clean.asyncPools other

/-- Turns on clean sessions are their own. -/
theorem Clean.turns_own
    {transport : Transport}
    (clean : transport.Clean)
    (label : Label) :
    ∀ turn ∈ transport.turns label, turn.Own := by
  cases label with
  | enter schema maxAttempts connect =>
      intro turn member
      cases member
  | ask index user schema brain events =>
      simp only [turns]
      split
      · rename_i session standing
        exact
          (ClaudeSession.ask_clean
            (clean.sessions session (List.mem_of_getElem? standing)) none user
            schema brain events).1
      · intro turn member
        cases member
  | poolAsk user schema allowedTools model connect events =>
      simp only [turns, SessionPool.ask]
      split
      · intro turn member
        cases member
      · rename_i session given
        exact
          (ClaudeSession.ask_clean (clean.sessionFor given) _ user none _
            events).1
  | asyncPool key label =>
      exact AsyncSessionPool.turnsOf_own (clean.asyncPools key) label

/--
In a run where no turn fails on a client as the last one that its session allows,
no turn is run on a connection on which an earlier turn failed, and every reply
that a turn returns was produced for its own prompt.
-/
theorem turns_own_of_run
    {attempts : Nat}
    {schemas : SessionKey → Option Schema}
    {caps tasks : SessionKey → Nat}
    {labels : List Label}
    (met :
      AllSteps step (fun transport label => transport.keepsClean label = true)
        (new attempts schemas caps tasks) labels)
    {final : Transport}
    (ran : exec step (new attempts schemas caps tasks) labels = some final) :
    ∀ turn ∈ observe step turns (new attempts schemas caps tasks) labels,
      (∀ connection ∈ turn.client, connection.failedTurn = false) ∧
        ∀ reply, turn.outcome = .ok reply → reply.prompt = turn.user :=
  AllSteps.forall_mem_observe
    (fun clean keeps stepped => Clean.step clean keeps stepped)
    (fun clean => Clean.turns_own clean _)
    (clean_new attempts schemas caps tasks) met ran

/-- One pool with a single permit and two tasks. -/
private def twoTasks : Transport :=
  new 5 (fun _ => none) (fun _ => 1) (fun _ => 2)

/-- The key of a call without tools and schema. -/
private def plainKey : SessionKey :=
  sessionKey none [] "claude-sonnet-4-6"

/-- The messages that answer a prompt with its own text. -/
private def echoing (prompt : String) : List SdkMessage :=
  [{ content := some [{ text := some prompt }] }]

private def timedOut (prompt : String) : TurnEvent :=
  .failed ⟨"TimeoutError", ""⟩ true 0 (echoing prompt)

/--
The turn for a first prompt times out; while its task backs off, another task
takes the session and asks a second prompt.
-/
private def staleRun : List Label :=
  [.asyncPool plainKey ⟨0, .runWithRetry "first" "r" 5 3⟩,
    .asyncPool plainKey ⟨0, .connected .reached⟩,
    .asyncPool plainKey ⟨0, .turned (timedOut "first")⟩,
    .asyncPool plainKey ⟨0, .raised⟩,
    .asyncPool plainKey ⟨1, .runWithRetry "second" "r" 5 3⟩,
    .asyncPool plainKey ⟨1, .turned (.answered (echoing "second") 1)⟩]

/-- The second prompt is answered with the reply to the first one. -/
theorem stale_reply_answers_other_prompt :
    (exec step twoTasks staleRun).isSome = true ∧
      ∃ turn ∈ observe step turns twoTasks staleRun,
        turn.user = "second" ∧
          turn.client = some ⟨[⟨"first", echoing "first"⟩], true⟩ ∧
            turn.outcome = .ok ⟨"first", echoing "first"⟩ := by
  refine ⟨by decide +kernel, ?_⟩
  decide +kernel

/-- A question whose first turn times out and whose second one answers. -/
private def retriedRun : List Label :=
  [.poolAsk "first" none [] "claude-sonnet-4-6" .reached fun attempt =>
      { turn :=
          if attempt = 1 then
            timedOut "first"
          else
            .answered (echoing "first") 1 },
    .poolAsk "second" none [] "claude-sonnet-4-6" .reached fun _ =>
      { turn := .answered (echoing "second") 1 }]

private theorem retriedRun_keepsClean :
    AllSteps step (fun transport label => transport.keepsClean label = true)
      twoTasks retriedRun := by
  decide +kernel

/-- A pool that connects again after a failed turn answers both prompts itself. -/
theorem turns_own_of_retriedRun :
    (observe step turns twoTasks retriedRun).length = 3 ∧
      ∀ turn ∈ observe step turns twoTasks retriedRun,
        (∀ connection ∈ turn.client, connection.failedTurn = false) ∧
          ∀ reply, turn.outcome = .ok reply → reply.prompt = turn.user :=
  ⟨by decide +kernel,
    turns_own_of_run retriedRun_keepsClean
      (Option.some_get (by decide +kernel)).symm⟩

end Transport

end SdkClient

end ResearchCos
