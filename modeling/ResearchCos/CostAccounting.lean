import Mathlib.Algebra.BigOperators.Group.List.Basic
import ResearchCos.AsyncSessionPool
import ResearchCos.DecisionGates

namespace ResearchCos

open Foundation

/-!
# What a run has spent

A run opens its pool of sessions with the metrics that its cost cap reads, and
every call through that pool records each result once, before it looks at the
structured output.  The fan-out of the researchers builds a bounded pool of its
own, without metrics.
-/

namespace SdkClient

/-- The cost that a result reports; no cost counts as nothing. -/
def TurnResult.usd (result : TurnResult) : ℚ :=
  result.costUsd.getD 0

/-- The cost that some results report together. -/
def reportedUsd (results : List TurnResult) : ℚ :=
  (results.map TurnResult.usd).sum

/-- The total of the metrics, where there are any. -/
def spentUsd (metrics : Option RunMetrics) : Option ℚ :=
  metrics.map RunMetrics.totalUsd

theorem spentUsd_record
    (metrics : Option RunMetrics)
    (result : TurnResult)
    (wallS : ℚ)
    (brain : String) :
    spentUsd
        (metrics.map fun spent =>
          spent.record result.costUsd wallS brain result.usage) =
      (spentUsd metrics).map (· + result.usd) := by
  cases metrics with
  | none => rfl
  | some spent => simp [spentUsd, TurnResult.usd]

/-- A finished turn is recorded once, whatever it returns. -/
theorem spentUsd_finishTurn
    (metrics : Option RunMetrics)
    (result : TurnResult)
    (wall : ℚ)
    (brain : String)
    (effectiveSchema : Option Schema) :
    spentUsd (finishTurn metrics result wall brain effectiveSchema).1 =
      (spentUsd metrics).map (· + result.usd) := by
  rw [← spentUsd_record metrics result wall brain]
  simp only [finishTurn]
  split
  · split <;> rfl
  · split <;> rfl

theorem resultsOf_cons_error
    (user : String)
    (client : Option Connection)
    (error : SdkError)
    (turns : List TurnRecord) :
    resultsOf (⟨user, client, .error error⟩ :: turns) = resultsOf turns :=
  rfl

/-- A question adds what its turns report. -/
theorem spentUsd_askFrom
    (session : ClaudeSession)
    (metrics : Option RunMetrics)
    (user brain : String)
    (effectiveSchema : Option Schema)
    (events : Nat → AttemptEvents)
    (attempt : Nat)
    (lastError : Option SdkError)
    (remaining : Nat) :
    let asked :=
      session.askFrom metrics user brain effectiveSchema events attempt
        lastError remaining
    spentUsd asked.metrics =
      (spentUsd metrics).map (· + reportedUsd (resultsOf asked.turns)) := by
  induction remaining generalizing session attempt lastError with
  | zero =>
      simp [ClaudeSession.askFrom, resultsOf, reportedUsd]
  | succ remaining inductionHypothesis =>
      simp only [ClaudeSession.askFrom]
      cases outcome :
          (sessionTurn session.client user (events attempt).turn).2 with
      | error error =>
          simp only [resultsOf_cons_error]
          exact inductionHypothesis _ _ _
      | ok reply =>
          rw [spentUsd_finishTurn]
          simp [resultsOf, reportedUsd, Except.toOption]

/-- A question to a session of the pool adds what its turns report. -/
theorem spentUsd_poolAsk
    (pool : SessionPool)
    (user : String)
    (schema : Option Schema)
    (allowedTools : List String)
    (model : String)
    (connect : ConnectEvent)
    (events : Nat → AttemptEvents) :
    let asked := pool.ask user schema allowedTools model connect events
    spentUsd asked.1.metrics =
      (spentUsd pool.metrics).map
        (· + reportedUsd (resultsOf asked.2.2)) := by
  simp only [SessionPool.ask]
  split
  · simp [resultsOf, reportedUsd]
  · exact spentUsd_askFrom _ pool.metrics user _ _ events 1 none _

/-- A call without a session adds what its result reports. -/
theorem spentUsd_askOneshot
    (pool : SessionPool)
    (schema : Option Schema)
    (allowedTools : List String)
    (queries : Nat → QueryEvent)
    (wallS : ℚ) :
    let asked := pool.askOneshot schema allowedTools queries wallS
    spentUsd asked.1.metrics =
      (spentUsd pool.metrics).map (· + reportedUsd asked.2.results) := by
  simp only [SessionPool.askOneshot]
  split
  · simp [reportedUsd]
  · rename_i result _
    rw [spentUsd_record]
    simp [reportedUsd]

/-- A call through the active pool adds what its turns report. -/
theorem spentUsd_call
    (pool : SessionPool)
    (request : CallRequest)
    (events : CallEvents) :
    ∃ next,
      (call (some pool) request events).1 = some next ∧
        spentUsd next.metrics =
          (spentUsd pool.metrics).map
            (· + reportedUsd (call (some pool) request events).2.results) := by
  simp only [call]
  split
  · exact
      ⟨_, rfl,
        spentUsd_askOneshot pool (some request.schema) request.allowedTools
          events.queries events.wallS⟩
  · exact
      ⟨_, rfl,
        spentUsd_poolAsk pool request.user (some request.schema)
          request.allowedTools request.model events.connect events.turns⟩

/-! ## A run with the real model -/

/-- The bound on concurrent sessions: a positive override, else three. -/
def maxConcurrent (override : Option Int) : Nat :=
  match override with
  | none => 3
  | some value => if 0 < value then value.toNat else 3

/-- The active pool of a run, and the pool of a fan-out that is under way. -/
structure RealRun where
  active : Option SessionPool
  fanOut : Option (SessionKey → AsyncSessionPool)

namespace RealRun

/-- A run at its start, inside the pool that it opens with its metrics. -/
def new : RealRun where
  active := some (useSessionPool (some {}))
  fanOut := none

/-- One thing that a brain of the run does. -/
inductive Label where
  | callStructured (request : CallRequest) (events : CallEvents)
  | callStructuredWebsearch (request : CallRequest) (events : CallEvents)
  /-- `run_research_fanout` builds its pool. -/
  | openFanOut (override : Option Int) (schemas : SessionKey → Option Schema)
      (tasks : SessionKey → Nat)
  | researcher (key : SessionKey) (label : AsyncSessionPool.Label)
  | closeFanOut

/--
One step of a run.  Calls of other brains may come while a fan-out is under way.
-/
def step (run : RealRun) : Label → Option RealRun
  | .callStructured request events =>
      some
        { run with
          active := (SdkClient.callStructured run.active request events).1 }
  | .callStructuredWebsearch request events =>
      some
        { run with
          active :=
            (SdkClient.callStructuredWebsearch run.active request events).1 }
  | .openFanOut override schemas tasks =>
      match run.fanOut with
      | some _ => none
      | none =>
          some
            { run with
              fanOut := some fun key =>
                .new none (schemas key) (maxConcurrent override) (tasks key) }
  | .researcher key label =>
      run.fanOut.bind fun pools =>
        ((pools key).step label).map fun next =>
          { run with fanOut := some (Function.update pools key next) }
  | .closeFanOut => some { run with fanOut := none }

/-- The results that the turns of a step return. -/
def results (run : RealRun) : Label → List TurnResult
  | .callStructured request events =>
      (SdkClient.callStructured run.active request events).2.results
  | .callStructuredWebsearch request events =>
      (SdkClient.callStructuredWebsearch run.active request events).2.results
  | .researcher key label =>
      match run.fanOut with
      | none => []
      | some pools => resultsOf ((pools key).turnsOf label)
  | .openFanOut _ _ _ | .closeFanOut => []

/-- What the metrics of a run say that it has spent. -/
def totalUsd (run : RealRun) : Option ℚ :=
  run.active.bind fun pool => spentUsd pool.metrics

/-- What all turns of a run that returned a result report together. -/
def reported (labels : List Label) : ℚ :=
  reportedUsd (observe step results new labels)

/-- No turn of the fan-out returns a result that costs something. -/
def fanOutIsFree (run : RealRun) : Label → Prop
  | .researcher key label =>
      reportedUsd (run.results (.researcher key label)) = 0
  | _ => True

/-- A call of a brain outside the fan-out is recorded in full. -/
theorem totalUsd_call
    {run : RealRun}
    {spent : ℚ}
    (counted : run.totalUsd = some spent)
    (request : CallRequest)
    (events : CallEvents) :
    ((call run.active request events).1.bind fun pool =>
        spentUsd pool.metrics) =
      some (spent + reportedUsd (call run.active request events).2.results) := by
  obtain ⟨pool, active, before⟩ := Option.bind_eq_some_iff.mp counted
  obtain ⟨next, after, added⟩ := spentUsd_call pool request events
  rw [active, after, Option.bind_some, added, before]
  rfl

/-- The metrics miss exactly what a turn of the fan-out reports. -/
theorem totalUsd_step
    {run next : RealRun}
    {spent : ℚ}
    (counted : run.totalUsd = some spent)
    {label : Label}
    (stepped : run.step label = some next) :
    next.totalUsd = some (spent + reportedUsd (run.results label)) ↔
      run.fanOutIsFree label := by
  cases label with
  | callStructured request events =>
      cases stepped
      exact iff_of_true (totalUsd_call counted _ events) trivial
  | callStructuredWebsearch request events =>
      cases stepped
      exact iff_of_true (totalUsd_call counted _ events) trivial
  | openFanOut override schemas tasks =>
      simp only [step] at stepped
      split at stepped
      · cases stepped
      · cases stepped
        refine iff_of_true (counted.trans ?_) trivial
        simp [results, reportedUsd]
  | closeFanOut =>
      cases stepped
      refine iff_of_true (counted.trans ?_) trivial
      simp [results, reportedUsd]
  | researcher key label =>
      obtain ⟨pools, underWay, moved⟩ := Option.bind_eq_some_iff.mp stepped
      obtain ⟨pool, moves, rfl⟩ := Option.map_eq_some_iff.mp moved
      change run.totalUsd = _ ↔ _
      rw [counted, Option.some.injEq, eq_comm, add_eq_left]
      rfl

/-- The cost cap is hit exactly from its limit on. -/
theorem costCap_hit_iff
    (totalUsd limit elapsedS : ℚ) :
    (RunCap.capExceeded totalUsd (some limit) none elapsedS).isSome = true ↔
      limit ≤ totalUsd := by
  simp only [RunCap.capExceeded]
  by_cases reached : limit ≤ totalUsd
  · simp [reached]
  · simp [reached]

/--
At every point of a run the metrics hold the sum of what all turns that returned
a result report, and the cost cap is hit exactly when that sum reaches its limit,
if and only if no turn of a fan-out reports a cost.
-/
theorem allSpending_counted_iff
    {labels : List Label}
    {final : RealRun}
    (ran : exec step new labels = some final) :
    (∀ earlier later run,
        labels = earlier ++ later →
        exec step new earlier = some run →
        ∃ spent,
          run.totalUsd = some spent ∧
            spent = reported earlier ∧
              ∀ limit elapsedS,
                (RunCap.capExceeded spent (some limit) none
                    elapsedS).isSome = true ↔
                  limit ≤ reported earlier) ↔
      AllSteps step fanOutIsFree new labels := by
  have everywhere :
      (∀ earlier later run,
          labels = earlier ++ later →
          exec step new earlier = some run →
          run.totalUsd = some (reported earlier)) ↔
        AllSteps step fanOutIsFree new labels := by
    refine
      everyState_iff_allSteps
        (motive := fun labels run => run.totalUsd = some (reported labels))
        rfl ?_ ran
    intro labels run label next reached counted stepped
    rw [reported, observe_snoc results reached label, reportedUsd,
      List.map_append, List.sum_append]
    exact totalUsd_step counted stepped
  rw [← everywhere]
  constructor
  · intro counted earlier later run shape reached
    obtain ⟨spent, total, rfl, -⟩ := counted earlier later run shape reached
    exact total
  · intro counted earlier later run shape reached
    refine ⟨_, counted earlier later run shape reached, rfl, ?_⟩
    intro limit elapsedS
    exact costCap_hit_iff (reported earlier) limit elapsedS

/-- The key of the researchers' searches. -/
private def searchKey : SessionKey :=
  sessionKey none ["WebSearch"] "claude-sonnet-4-6"

/-- A researcher whose one turn reports a cost of five dollars. -/
private def costlyFanOut : List Label :=
  [.openFanOut none (fun _ => none) (fun _ => 1),
    .researcher searchKey ⟨0, .runWithRetry "prices" "researcher+ws" 5 3⟩,
    .researcher searchKey ⟨0, .connected .reached⟩,
    .researcher searchKey ⟨0, .turned (.answered
      [{ content := some [{ text := some "found" }]
         totalCostUsd := some 5 }] 30)⟩,
    .closeFanOut]

/-- The run has spent five dollars and its metrics say that it spent nothing. -/
theorem fanOut_cost_uncounted :
    ∃ run,
      exec step new costlyFanOut = some run ∧
        run.totalUsd = some 0 ∧ reported costlyFanOut = 5 := by
  refine ⟨_, rfl, rfl, ?_⟩
  decide +kernel

/-- A call without tools whose structured output is missing. -/
private def onlyCalls : List Label :=
  [.callStructured
    { user := "plan"
      schema :=
        ⟨["plan"], "\x7b\"properties\": \x7b\"plan\": \x7b\x7d\x7d\x7d"⟩ }
    { turns := fun _ => { turn := .failed ⟨"", ""⟩ false 0 [] }
      queries := fun _ => .answered [{ totalCostUsd := some 2 }] }]

/-- A run without a fan-out counts a result without structured output. -/
theorem allSpending_counted_of_onlyCalls :
    (∀ earlier later run,
        onlyCalls = earlier ++ later →
        exec step new earlier = some run →
        ∃ spent,
          run.totalUsd = some spent ∧
            spent = reported earlier ∧
              ∀ limit elapsedS,
                (RunCap.capExceeded spent (some limit) none
                    elapsedS).isSome = true ↔
                  limit ≤ reported earlier) ↔
      AllSteps step fanOutIsFree new onlyCalls :=
  allSpending_counted_iff (Option.some_get rfl).symm

end RealRun

end SdkClient

end ResearchCos
