import Mathlib.Data.List.Sort
import ResearchCos.Foundation.OrderedMap
import ResearchCos.Text

namespace ResearchCos

open Foundation

/-!
# The transport to the language model

A connection to the SDK delivers replies in the order of the queries; what a
failed turn left undelivered stays queued on it.  A session keeps one connection
over many turns and connects again between the attempts of one question.  The
pool of a run keeps one session per model, tools and schema.

What the network does is given from outside: an event says how one turn, one
connect or one query ended.
-/

namespace SdkClient

/-! ## Messages and what a turn collects from them -/

structure ContentBlock where
  text : Option String := none
  name : Option String := none
  input : Option String := none
  deriving Repr, DecidableEq

/-- A dictionary of counts by name; a count may be missing its number. -/
abbrev Usage := List (String × Option Int)

/-- One message of the SDK; `none` where it has no such attribute. -/
structure SdkMessage where
  content : Option (List ContentBlock) := none
  isError : Option Bool := none
  totalCostUsd : Option ℚ := none
  usage : Option Usage := none
  deriving Repr, DecidableEq

/-- What one turn yields. -/
structure TurnResult where
  text : String
  structured : Option String
  isError : Bool
  costUsd : Option ℚ
  usage : Usage
  deriving Repr, DecidableEq

namespace Collect

/-- The accumulators of the message loop. -/
structure Gathered where
  textParts : List String := []
  structured : Option String := none
  isError : Bool := false
  costUsd : Option ℚ := none
  usage : Usage := []

def gatherBlock (gathered : Gathered) (block : ContentBlock) : Gathered :=
  let withText :=
    if isSet block.text then
      { gathered with
        textParts := gathered.textParts ++ [block.text.getD ""] }
    else
      gathered
  if block.name = some "StructuredOutput" then
    { withText with structured := block.input }
  else
    withText

def gatherMessage (gathered : Gathered) (message : SdkMessage) : Gathered :=
  let withContent :=
    (message.content.getD []).foldl gatherBlock gathered
  { withContent with
    isError := message.isError.getD withContent.isError
    costUsd := message.totalCostUsd.or withContent.costUsd
    usage :=
      match message.usage with
      | none | some [] => withContent.usage
      | some usage => usage }

end Collect

/-- Aggregate the messages of one turn. -/
def collect (messages : List SdkMessage) : TurnResult :=
  let gathered := messages.foldl Collect.gatherMessage {}
  { text := "\n".intercalate gathered.textParts
    structured := gathered.structured
    isError := gathered.isError
    costUsd := gathered.costUsd
    usage := gathered.usage }

/-! ## Metrics -/

/-- What a run has spent so far. -/
structure RunMetrics where
  calls : Nat := 0
  totalUsd : ℚ := 0
  wallClockS : ℚ := 0
  inputTokens : Int := 0
  outputTokens : Int := 0
  perBrain : OrderedMap String Nat := ∅
  deriving DecidableEq

namespace RunMetrics

/-- A count of a usage dictionary, zero when it is missing. -/
def count (name : String) (usage : Usage) : Int :=
  ((assoc? name usage).getD none).getD 0

/-- Record one call; a turn without a cost adds nothing to the total. -/
def record
    (metrics : RunMetrics)
    (costUsd : Option ℚ)
    (wallS : ℚ)
    (brain : String)
    (usage : Usage) : RunMetrics :=
  { calls := metrics.calls + 1
    totalUsd := metrics.totalUsd + costUsd.getD 0
    wallClockS := metrics.wallClockS + wallS
    inputTokens := metrics.inputTokens + count "input_tokens" usage
    outputTokens := metrics.outputTokens + count "output_tokens" usage
    perBrain :=
      metrics.perBrain.insert brain ((metrics.perBrain.get? brain).getD 0 + 1) }

@[simp] theorem totalUsd_record
    (metrics : RunMetrics)
    (costUsd : Option ℚ)
    (wallS : ℚ)
    (brain : String)
    (usage : Usage) :
    (metrics.record costUsd wallS brain usage).totalUsd =
      metrics.totalUsd + costUsd.getD 0 :=
  rfl

end RunMetrics

/-! ## Schemas and keys -/

/-- A schema: its top-level properties and its dump with sorted keys. -/
structure Schema where
  properties : List String
  dump : String
  deriving Repr, DecidableEq

/-- An empty dictionary counts as no schema where only its truth is tested. -/
def Schema.nonempty (schema : Option Schema) : Option Schema :=
  schema.filter fun given => given.dump ≠ "\x7b\x7d"

/-- The name under which the calls of a brain are counted. -/
def schemaBrainLabel (schema : Option Schema) (tools : List String) : String :=
  match Schema.nonempty schema with
  | none => if tools = [] then "text" else "text+tools"
  | some given =>
      let keys := ",".intercalate (given.properties.insertionSort (· ≤ ·))
      let suffix := if tools = [] then "" else "+ws"
      orDefault (some keys) "schema" ++ suffix

/-- The key of a session: model, tools and schema. -/
structure SessionKey where
  model : String
  tools : List String
  schema : String
  deriving Repr, DecidableEq

def sessionKey
    (schema : Option Schema)
    (tools : List String)
    (model : String) : SessionKey where
  model := model
  tools := tools.insertionSort (· ≤ ·)
  schema := ((Schema.nonempty schema).map Schema.dump).getD ""

/-! ## Connections -/

structure SdkError where
  name : String
  text : String
  deriving Repr, DecidableEq

structure LLMUnavailableError where
  message : String
  deriving Repr, DecidableEq

/-- The messages that the SDK sends back for one prompt. -/
structure Reply where
  prompt : String
  messages : List SdkMessage
  deriving Repr, DecidableEq

/-- A client of the SDK: what it has yet to deliver, and its past. -/
structure Connection where
  queued : List Reply := []
  failedTurn : Bool := false
  deriving Repr, DecidableEq

/-- How one turn ends. -/
inductive TurnEvent where
  /-- The SDK answers the prompt with these messages. -/
  | answered (messages : List SdkMessage) (wallS : ℚ)
  /--
  The turn times out or fails, before or after the prompt was sent and after it
  read this many messages; the SDK answers a prompt that was sent all the same.
  -/
  | failed (error : SdkError) (sent : Bool) (read : Nat)
      (messages : List SdkMessage)
  deriving Repr, DecidableEq

/-- How connecting a new client ends. -/
inductive ConnectEvent where
  /-- No client could be built. -/
  | refused (error : SdkError)
  /-- The client was built and did not connect. -/
  | unreached (error : SdkError)
  | reached
  deriving Repr, DecidableEq

namespace ConnectEvent

/-- The client that is left after connecting. -/
def client : ConnectEvent → Option Connection
  | .refused _ => none
  | .unreached _ | .reached => some {}

/-- The exception that connecting raised. -/
def error? : ConnectEvent → Option SdkError
  | .refused error | .unreached error => some error
  | .reached => none

end ConnectEvent

/-- The queue after some messages of its first reply were read. -/
def skim (read : Nat) : List Reply → List Reply
  | [] => []
  | reply :: rest =>
      match reply.messages.drop read with
      | [] => rest
      | left => { reply with messages := left } :: rest

/-- Run one turn on a client: send the prompt, read the first queued reply. -/
def sessionTurn
    (client : Option Connection)
    (user : String) :
    TurnEvent → Option Connection × Except SdkError Reply
  | .answered messages _ =>
      match client with
      | none =>
          (none, .error
            ⟨"AttributeError", "'NoneType' object has no attribute 'query'"⟩)
      | some connection =>
          let answer : Reply := ⟨user, messages⟩
          let queue := connection.queued ++ [answer]
          (some { connection with queued := queue.tail },
            .ok (queue.headD answer))
  | .failed error sent read messages =>
      (client.map fun connection =>
        { queued :=
            skim read
              (connection.queued ++ if sent then [⟨user, messages⟩] else [])
          failedTurn := true },
        .error error)

/-- The time that a turn took. -/
def TurnEvent.wallS : TurnEvent → ℚ
  | .answered _ wallS => wallS
  | .failed _ _ _ _ => 0

/-- One turn as it was run: its prompt, its client and how it ended. -/
structure TurnRecord where
  user : String
  client : Option Connection
  outcome : Except SdkError Reply
  deriving DecidableEq

/-! ## Persistent sessions -/

/-- A persistent session; its metrics are the ones of its owner. -/
structure ClaudeSession where
  schema : Option Schema
  maxAttempts : Nat
  backoffBase : ℚ := 3
  client : Option Connection
  deriving DecidableEq

/-- What a question to a session returns. -/
inductive Answer where
  | structured (payload : String)
  | text (text : String)
  deriving Repr, DecidableEq

/-- How Python writes a truth value. -/
def pyBool (value : Bool) : String :=
  if value then "True" else "False"

/-- The wait after a failed attempt: doubling, at most a minute. -/
def backoffWait (backoffBase : ℚ) (attempt : Nat) : ℚ :=
  min 60 (backoffBase * 2 ^ (attempt - 1))

/-- Record the turn in the metrics, then hand out its answer. -/
def finishTurn
    (metrics : Option RunMetrics)
    (result : TurnResult)
    (wall : ℚ)
    (brain : String)
    (effectiveSchema : Option Schema) :
    Option RunMetrics × Except LLMUnavailableError Answer :=
  let recorded :=
    metrics.map fun spent =>
      spent.record result.costUsd wall brain result.usage
  match effectiveSchema with
  | some _ =>
      match result.structured with
      | none =>
          (recorded, .error ⟨
            "SDK session turn returned no structured output (is_error=" ++
              pyBool result.isError ++ ", text_len=" ++
              toString result.text.length ++ ")"⟩)
      | some payload => (recorded, .ok (.structured payload))
  | none =>
      if result.text = "" then
        (recorded, .error ⟨
          "SDK session turn returned empty text (brain=" ++ brain ++ ")"⟩)
      else
        (recorded, .ok (.text result.text))

/-- What happens in one attempt: its turn, and the connect when it fails. -/
structure AttemptEvents where
  turn : TurnEvent
  reconnect : ConnectEvent := .reached

/-- What a question leaves behind. -/
structure Asked where
  session : ClaudeSession
  metrics : Option RunMetrics
  answer : Except LLMUnavailableError Answer
  turns : List TurnRecord

namespace ClaudeSession

/-- The error after the last attempt. -/
def exhausted
    (session : ClaudeSession)
    (brain : String)
    (lastError : Option SdkError) : LLMUnavailableError where
  message :=
    "SDK session turn failed after " ++ toString session.maxAttempts ++
      " attempts (brain=" ++ brain ++ "): " ++
      (lastError.map SdkError.name).getD "unknown" ++ ": " ++
      (lastError.map SdkError.text).getD "None"

/--
The attempts of one question from the given one on.  A failed attempt that is
not the last one connects again; a connect that fails is swallowed.
-/
def askFrom
    (session : ClaudeSession)
    (metrics : Option RunMetrics)
    (user brain : String)
    (effectiveSchema : Option Schema)
    (events : Nat → AttemptEvents)
    (attempt : Nat)
    (lastError : Option SdkError) :
    (remaining : Nat) → Asked
  | 0 =>
      { session := session
        metrics := metrics
        answer := .error (session.exhausted brain lastError)
        turns := [] }
  | remaining + 1 =>
      let event := (events attempt).turn
      let ran := sessionTurn session.client user event
      let turn : TurnRecord := ⟨user, session.client, ran.2⟩
      match ran.2 with
      | .error error =>
          let client :=
            if attempt < session.maxAttempts then
              (events attempt).reconnect.client
            else
              ran.1
          let asked :=
            askFrom { session with client := client } metrics user brain
              effectiveSchema events (attempt + 1) (some error) remaining
          { asked with turns := turn :: asked.turns }
      | .ok reply =>
          let finished :=
            finishTurn metrics (collect reply.messages) event.wallS brain
              effectiveSchema
          { session := { session with client := ran.1 }
            metrics := finished.1
            answer := finished.2
            turns := [turn] }

/-- Ask one question; a schema given here goes before the session's own. -/
def ask
    (session : ClaudeSession)
    (metrics : Option RunMetrics)
    (user : String)
    (schema : Option Schema)
    (brain : String)
    (events : Nat → AttemptEvents) : Asked :=
  session.askFrom metrics user brain (schema <|> session.schema) events 1 none
    session.maxAttempts

/-- Enter a session: connect its client or raise. -/
def enter
    (schema : Option Schema)
    (maxAttempts : Nat)
    (connect : ConnectEvent) : Except LLMUnavailableError ClaudeSession :=
  match connect.error? with
  | some error =>
      .error ⟨
        "ClaudeSession connect failed: " ++ error.name ++ ": " ++ error.text⟩
  | none =>
      .ok
        { schema := schema
          maxAttempts := maxAttempts
          client := connect.client }

end ClaudeSession

/-! ## One-shot queries -/

/-- How one query of its own process ends. -/
inductive QueryEvent where
  | answered (messages : List SdkMessage)
  | failed (error : SdkError)
  deriving Repr, DecidableEq

/-- One query in a process of its own. -/
def queryStructured : QueryEvent → Except SdkError TurnResult
  | .answered messages => .ok (collect messages)
  | .failed error => .error error

/-- Try again from the given attempt on, for at most so many more attempts. -/
def retryFrom
    {α : Type}
    (once : Nat → Except SdkError α)
    (attempt : Nat) :
    (more : Nat) → Except SdkError α
  | 0 => once attempt
  | more + 1 =>
      match once attempt with
      | .ok result => .ok result
      | .error _ => retryFrom once (attempt + 1) more

/-- Retry a failing call; it is tried at least once. -/
def retrying
    {α : Type}
    (once : Nat → Except SdkError α)
    (attempts : Nat) : Except SdkError α :=
  retryFrom once 1 (attempts - 1)

/-- What a call of the language model returns. -/
structure Called where
  answer : Except LLMUnavailableError Answer
  /-- The turns that returned a result, with what they collected. -/
  results : List TurnResult

/-- Take the structured output of a result, or raise. -/
def structuredOr (result : TurnResult) : Except LLMUnavailableError Answer :=
  match result.structured with
  | none =>
      .error ⟨
        "SDK schema call returned no structured output (is_error=" ++
          pyBool result.isError ++ ", text_len=" ++
          toString result.text.length ++ ")"⟩
  | some payload => .ok (.structured payload)

/-- The error of a call whose attempts all failed. -/
def callFailed (error : SdkError) : LLMUnavailableError where
  message := "SDK call failed: " ++ error.name ++ ": " ++ error.text

/-! ## The pool of a run -/

/-- The persistent sessions of a run, by key. -/
structure SessionPool where
  metrics : Option RunMetrics
  attempts : Nat := 5
  sessions : OrderedMap SessionKey ClaudeSession := ∅
  deriving DecidableEq

/-- The results that the turns of a session returned. -/
def resultsOf (turns : List TurnRecord) : List TurnResult :=
  turns.filterMap fun turn =>
    turn.outcome.toOption.map fun reply => collect reply.messages

namespace SessionPool

/--
The session of a key, which is opened on first use; one that does not connect
raises.
-/
def sessionFor
    (pool : SessionPool)
    (key : SessionKey)
    (schema : Option Schema)
    (connect : ConnectEvent) : Except LLMUnavailableError ClaudeSession :=
  match pool.sessions.get? key with
  | some session => .ok session
  | none => ClaudeSession.enter schema pool.attempts connect

/-- Ask the session of a key, and keep the session whatever comes of it. -/
def ask
    (pool : SessionPool)
    (user : String)
    (schema : Option Schema)
    (allowedTools : List String)
    (model : String)
    (connect : ConnectEvent)
    (events : Nat → AttemptEvents) :
    SessionPool × Except LLMUnavailableError Answer × List TurnRecord :=
  let key := sessionKey schema allowedTools model
  match pool.sessionFor key schema connect with
  | .error error => (pool, .error error, [])
  | .ok session =>
      let brain := schemaBrainLabel schema allowedTools
      let asked := session.ask pool.metrics user none brain events
      ({ pool with
          metrics := asked.metrics
          sessions := pool.sessions.insert key asked.session },
        asked.answer, asked.turns)

/--
A call without a persistent session.  Its result is recorded before its
structured output is looked at.
-/
def askOneshot
    (pool : SessionPool)
    (schema : Option Schema)
    (allowedTools : List String)
    (queries : Nat → QueryEvent)
    (wallS : ℚ) : SessionPool × Called :=
  match retrying (fun attempt => queryStructured (queries attempt))
      pool.attempts with
  | .error error => (pool, ⟨.error (callFailed error), []⟩)
  | .ok result =>
      let recorded :=
        pool.metrics.map fun spent =>
          spent.record result.costUsd wallS
            (schemaBrainLabel schema allowedTools) result.usage
      ({ pool with metrics := recorded }, ⟨structuredOr result, [result]⟩)

end SessionPool

/-! ## Calls -/

/-- What the network does in one call. -/
structure CallEvents where
  connect : ConnectEvent := .reached
  turns : Nat → AttemptEvents
  queries : Nat → QueryEvent
  wallS : ℚ := 0

/-- One call of the language model. -/
structure CallRequest where
  user : String
  schema : Schema
  /-- The model, `DEFAULT_MODEL` where the caller names none. -/
  model : String := "claude-sonnet-4-6"
  attempts : Nat := 5
  allowedTools : List String := []
  deriving Repr, DecidableEq

/--
Route a call: with tools through a persistent session of the active pool,
without tools through a query that still feeds the pool's metrics, and without a
pool through a query that feeds none.
-/
def call
    (active : Option SessionPool)
    (request : CallRequest)
    (events : CallEvents) : Option SessionPool × Called :=
  match active with
  | some pool =>
      if request.allowedTools = [] then
        let (next, called) :=
          pool.askOneshot (some request.schema) request.allowedTools
            events.queries events.wallS
        (some next, called)
      else
        let (next, answer, turns) :=
          pool.ask request.user (some request.schema) request.allowedTools
            request.model events.connect events.turns
        (some next, ⟨answer, resultsOf turns⟩)
  | none =>
      match retrying (fun attempt => queryStructured (events.queries attempt))
          request.attempts with
      | .error error => (none, ⟨.error (callFailed error), []⟩)
      | .ok result => (none, ⟨structuredOr result, [result]⟩)

/-- A call without tools. -/
def callStructured
    (active : Option SessionPool)
    (request : CallRequest)
    (events : CallEvents) : Option SessionPool × Called :=
  call active { request with allowedTools := [] } events

/-- A call with the search tool. -/
def callStructuredWebsearch
    (active : Option SessionPool)
    (request : CallRequest)
    (events : CallEvents) : Option SessionPool × Called :=
  call active { request with allowedTools := ["WebSearch"] } events

/-- The pool that is active for the duration of a run. -/
def useSessionPool (metrics : Option RunMetrics) : SessionPool where
  metrics := metrics

end SdkClient

end ResearchCos
