import ResearchCos.RecursionLimit
import ResearchCos.SoftStopOverride
import ResearchCos.StopReasons

namespace ResearchCos

open Foundation

/-!
# Why an automatic run stopped

The routers send a run to its review under one of three conditions, and look at
them in the order of their strength: a cap, the ceiling, a soft stop.  The
reason of the stop is put together again after the run, from the last decision
and the counters.
-/

/-! ## The condition of a wrap-up -/

/-- A condition under which a router wraps a run up. -/
inductive StopCause where
  | cap
  | ceiling
  | softStop
  deriving Repr, DecidableEq

/-- The condition under which the router after the decision wraps up. -/
def routeCause (cap : Option ActiveCap) (state : GraphState) :
    Option StopCause :=
  let rs := state.researchState
  if RunCap.capHitNow cap then
    some .cap
  else if ceilingHit state then
    some .ceiling
  else if isSoftStop (state.lastDecision.getD .continueResearch) &&
      !(gridResearchable rs && !Convergence.gridConverged rs) then
    some .softStop
  else
    none

/-- The condition under which the router after a pull wraps up. -/
def routeAfterPullCause (cap : Option ActiveCap) (state : GraphState) :
    Option StopCause :=
  if RunCap.capHitNow cap then
    some .cap
  else if ceilingHit state then
    some .ceiling
  else
    none

/-- The condition of the latest router, after a node. -/
def causeAfter
    (cap : Option ActiveCap)
    (state : GraphState)
    (before : Option StopCause) : Node → Option StopCause
  | .cosDecision => routeCause cap state
  | .humanPull => routeAfterPullCause cap state
  | _ => before

/-- A condition holds where it is looked at. -/
def StopCause.HoldsAt (cause : StopCause) (state : GraphState) : Prop :=
  match cause with
  | .cap => isSet state.researchState.stopReason = true
  | .ceiling => ceilingHit state = true
  | .softStop =>
      ceilingHit state = false ∧
        isSoftStop (state.lastDecision.getD .continueResearch) = true ∧
        waitingCells state.researchState = []

/-- A soft stop waits for no cell exactly when it is not overridden. -/
theorem waitingCells_eq_nil_iff
    (rs : ResearchState) :
    waitingCells rs = [] ↔
      (gridResearchable rs && !Convergence.gridConverged rs) = false := by
  unfold waitingCells gridResearchable Convergence.gridConverged
  cases rs.taskGrid with
  | none =>
      simp
  | some grid =>
      simp [List.isEmpty_iff]

/-- The reason of a cap is a text that can be seen. -/
theorem capExceeded_ne_empty
    {totalUsd elapsedS : ℚ}
    {maxCostUsd maxWallS : Option ℚ}
    {reason : String}
    (exceeded :
      RunCap.capExceeded totalUsd maxCostUsd maxWallS elapsedS =
        some reason) :
    reason ≠ "" := by
  rw [RunCap.capExceeded, Option.or_eq_some_iff] at exceeded
  rcases exceeded with byCost | ⟨_, byWall⟩
  · obtain ⟨limit, _, isReason⟩ := Option.bind_eq_some_iff.mp byCost
    split at isReason
    · cases isReason
      simp
    · cases isReason
  · obtain ⟨limit, _, isReason⟩ := Option.bind_eq_some_iff.mp byWall
    split at isReason
    · cases isReason
      simp
    · cases isReason

/-- A cap that is hit is recorded with a reason. -/
theorem isSet_capReasonNow
    {cap : Option ActiveCap}
    (hit : RunCap.capHitNow cap = true) :
    isSet (some (RunCap.capReasonNow cap)) = true := by
  obtain ⟨reason, isReason⟩ := Option.isSome_iff_exists.mp hit
  obtain ⟨active, _, exceeded⟩ := Option.bind_eq_some_iff.mp isReason
  simp [isSet, RunCap.capReasonNow, isReason, capExceeded_ne_empty exceeded]

/-! ## An automatic run -/

/--
An automatic run, with the condition under which its latest router wrapped up
and whether any of its routers met a hit cap.
-/
structure AutoRun where
  execution : Execution
  cause : Option StopCause := none
  capMet : Bool := false

namespace AutoRun

/-- The stop that is reported at the end of a run without a pause. -/
def reported (run : AutoRun) (maxIterations : Int) : StopKind :=
  (reportStop run.execution.graph.researchState
    run.execution.graph.lastDecision false maxIterations).1

/-- An automatic run that enters the graph; there may be an old checkpoint. -/
structure Begins (run : AutoRun) : Prop where
  control : run.execution.control = .at .intake
  mode : run.execution.graph.config.mode = some .auto
  reviewsNot : run.execution.graph.config.enableH6 = false
  cause : run.cause = none
  notMet : run.capMet = false

/--
The reported stop names the condition under which the router wrapped the run
up; a soft stop is below the ceiling, and no cell waits for research.
-/
structure ReportsCause (run : AutoRun) (maxIterations : Int) : Prop where
  hardCap : run.reported maxIterations = .hardCap ↔ run.cause = some .cap
  softStop :
    run.reported maxIterations = .terminalStop ∨
        run.reported maxIterations = .synthesize ↔
      run.cause = some .softStop
  belowBounds :
    run.cause = some .softStop →
      run.execution.graph.researchState.iterationCount < maxIterations ∧
        waitingCells run.execution.graph.researchState = []
  ceiling :
    run.reported maxIterations = .iterationCeiling ↔
      run.cause = some .ceiling

section Runs

variable [PythonText]

/-- The condition of the latest router after a visit of a node. -/
def causeAt
    (run : AutoRun)
    (env : StepEnv)
    (node : Node) : Option StopCause :=
  match runNode env run.execution.graph
      (receiveDrops env.drops run.execution.world) node with
  | .update update _ =>
      causeAfter env.cap (run.execution.graph.apply update) run.cause node
  | _ => run.cause

/-- One step of an automatic run; a pause ends the call that runs it. -/
def step (run : AutoRun) (env : StepEnv) : Option AutoRun :=
  match run.execution.control with
  | .at node =>
      let unanswered := { env with answer := none }
      some
        { execution := visit unanswered node run.execution
          cause := run.causeAt unanswered node
          capMet :=
            run.capMet || run.causeAt unanswered node = some .cap }
  | _ => none

/-- What one step of an automatic run does. -/
inductive Moves (run next : AutoRun) (env : StepEnv) : Prop where
  | stops :
      next.execution.graph = run.execution.graph →
      next.cause = run.cause →
      next.capMet = (run.capMet || next.cause = some .cap) →
      (∀ node, next.execution.control ≠ .at node) →
      next.execution.control ≠ .ended →
      Moves run next env
  | moved (seen : StepEnv) (node : Node) (update : Update)
      (before after : World) :
      run.execution.control = .at node →
      NodeUpdate seen run.execution.graph before node update after →
      next.execution.graph =
        (successor env.cap (run.execution.graph.apply update) node).2 →
      next.execution.control =
        (successor env.cap (run.execution.graph.apply update)
          node).1.elim .ended .at →
      next.cause =
        causeAfter env.cap (run.execution.graph.apply update) run.cause node →
      next.capMet = (run.capMet || next.cause = some .cap) →
      Moves run next env

/-- Every step stops the run, or updates the channels and moves on. -/
theorem step_moves
    {run next : AutoRun}
    {env : StepEnv}
    (stepped : run.step env = some next) :
    Moves run next env := by
  unfold step at stepped
  split at stepped
  · rename_i node standsAt
    cases stepped
    cases ran :
        runNode { env with answer := none } run.execution.graph
          (receiveDrops env.drops run.execution.world) node with
    | raise world =>
        exact
          .stops (by simp [visit, ran, conclude]) (by simp [causeAt, ran]) rfl
            (by simp [visit, ran, conclude]) (by simp [visit, ran, conclude])
    | interrupt ask world =>
        exact
          .stops (by simp [visit, ran, conclude]) (by simp [causeAt, ran]) rfl
            (by simp [visit, ran, conclude]) (by simp [visit, ran, conclude])
    | update update world =>
        exact
          .moved _ node update _ world standsAt (runNode_updates ran)
            (by simp [visit, ran, conclude]) (by simp [visit, ran, conclude])
            (by simp [causeAt, ran]) rfl
  · cases stepped

omit [PythonText] in
/-- The deep audit follows the decision under a condition, or for a pull. -/
theorem route_deepAudit
    {cap : Option ActiveCap}
    {state : GraphState}
    (leads : (route cap state).1 = .deepAudit) :
    (∃ cause,
        routeCause cap state = some cause ∧
          cause.HoldsAt (route cap state).2) ∨
      state.lastDecision = some .pullHuman := by
  by_cases hit : RunCap.capHitNow cap = true
  · refine Or.inl ⟨.cap, by rw [routeCause, if_pos hit], ?_⟩
    simp only [route, if_pos hit]
    exact isSet_capReasonNow hit
  by_cases ceiling : ceilingHit state = true
  · refine
      Or.inl ⟨.ceiling, by rw [routeCause, if_neg hit, if_pos ceiling], ?_⟩
    simp only [route, if_neg hit, if_pos ceiling]
    exact ceiling
  simp only [route, if_neg hit, if_neg ceiling] at leads ⊢
  simp only [routeCause, if_neg hit, if_neg ceiling]
  by_cases stops :
      isSoftStop (state.lastDecision.getD .continueResearch) = true
  · rw [if_pos stops] at leads ⊢
    split at leads
    · cases leads
    · rename_i waitsNot
      rw [if_neg waitsNot]
      rw [Bool.not_eq_true] at waitsNot
      refine Or.inl ⟨.softStop, by rw [stops, waitsNot]; rfl, ?_⟩
      exact
        ⟨by simpa using ceiling, stops,
          (waitingCells_eq_nil_iff _).mpr waitsNot⟩
  · rw [if_neg stops] at leads
    right
    split at leads
    · rename_i asks
      cases decision : state.lastDecision with
      | none =>
          rw [decision] at asks
          cases asks
      | some decided =>
          rw [decision] at asks
          exact congrArg some asks
    all_goals cases leads

omit [PythonText] in
/-- The review follows a pull under a condition. -/
theorem routeAfterPull_humanReview
    {cap : Option ActiveCap}
    {state : GraphState}
    (leads : (routeAfterPull cap state).1 = .humanReview) :
    ∃ cause,
      routeAfterPullCause cap state = some cause ∧
        cause.HoldsAt (routeAfterPull cap state).2 := by
  by_cases hit : RunCap.capHitNow cap = true
  · refine ⟨.cap, by rw [routeAfterPullCause, if_pos hit], ?_⟩
    simp only [routeAfterPull, if_pos hit]
    exact isSet_capReasonNow hit
  by_cases ceiling : ceilingHit state = true
  · refine
      ⟨.ceiling, by rw [routeAfterPullCause, if_neg hit, if_pos ceiling], ?_⟩
    simp only [routeAfterPull, if_neg hit, if_pos ceiling]
    exact ceiling
  · simp only [routeAfterPull, if_neg hit, if_neg ceiling] at leads
    cases leads

/-! ## The wrap-up keeps its condition -/

omit [PythonText] in
/-- Everything that the report of a stop looks at is as before. -/
structure SameAccount (before after : GraphState) : Prop where
  config : after.config = before.config
  lastDecision : after.lastDecision = before.lastDecision
  stopReason :
    after.researchState.stopReason = before.researchState.stopReason
  iterationCount :
    after.researchState.iterationCount = before.researchState.iterationCount
  taskGrid : after.researchState.taskGrid = before.researchState.taskGrid

omit [PythonText] in
theorem SameAccount.holdsAt
    {before after : GraphState}
    {cause : StopCause}
    (same : SameAccount before after)
    (holds : cause.HoldsAt before) :
    cause.HoldsAt after := by
  cases cause with
  | cap =>
      simpa only [StopCause.HoldsAt, same.stopReason] using holds
  | ceiling =>
      simpa only [StopCause.HoldsAt, ceilingHit, same.config,
        same.iterationCount] using holds
  | softStop =>
      simpa only [StopCause.HoldsAt, ceilingHit, waitingCells, same.config,
        same.iterationCount, same.lastDecision, same.taskGrid] using holds

/-- The nodes of the wrap-up leave the account of the stop alone. -/
theorem sameAccount_of_wrapUp
    {env : StepEnv}
    {state : GraphState}
    {world after : World}
    {node : Node}
    {update : Update}
    (inWrapUp : node = .deepAudit ∨ node = .humanReview)
    (written : NodeUpdate env state world node update after) :
    SameAccount state (state.apply update) := by
  rcases inWrapUp with rfl | rfl
  · cases written <;> exact ⟨rfl, rfl, rfl, rfl, rfl⟩
  · cases written with
    | reviewBuilt rs _ built
    | reviewPassed rs _ _ built
    | reviewAnswered rs _ _ built =>
        obtain ⟨tasks, log, memo, rfl, _⟩ := buildAndGateMemo_eq_some built
        exact ⟨rfl, rfl, rfl, rfl, rfl⟩

omit [PythonText] in
/-- The latest router wrapped up under a condition that still holds. -/
def Justified (run : AutoRun) : Prop :=
  ∃ cause, run.cause = some cause ∧ cause.HoldsAt run.execution.graph

omit [PythonText] in
/-- A run that is past its last router is justified. -/
def Explained (run : AutoRun) : Prop :=
  match run.execution.control with
  | .at .deepAudit =>
      run.Justified ∨ run.execution.graph.lastDecision = some .pullHuman
  | .at .humanReview => run.Justified
  | .ended => run.Justified
  | _ => True

omit [PythonText] in
/-- A node of the wrap-up keeps what justifies the run. -/
theorem Justified.of_wrapUp
    {run next : AutoRun}
    (justified : run.Justified)
    (graph : SameAccount run.execution.graph next.execution.graph)
    (cause : next.cause = run.cause) :
    next.Justified := by
  obtain ⟨known, isCause, holds⟩ := justified
  exact ⟨known, cause.trans isCause, graph.holdsAt holds⟩

omit [PythonText] in
/-- Nothing is to be explained before the wrap-up. -/
theorem Explained.elsewhere
    {run : AutoRun}
    {node : Node}
    (standsAt : run.execution.control = .at node)
    (notAudit : node ≠ .deepAudit)
    (notReview : node ≠ .humanReview) :
    run.Explained := by
  unfold Explained
  rw [standsAt]
  cases node with
  | deepAudit =>
      exact absurd rfl notAudit
  | humanReview =>
      exact absurd rfl notReview
  | _ =>
      trivial

omit [PythonText] in
/-- The router after the decision explains where it leads. -/
theorem Explained.of_route
    {run : AutoRun}
    {cap : Option ActiveCap}
    {state : GraphState}
    (graph : run.execution.graph = (route cap state).2)
    (control : run.execution.control = .at (route cap state).1)
    (cause : run.cause = routeCause cap state) :
    run.Explained := by
  by_cases leads : (route cap state).1 = .deepAudit
  · unfold Explained
    rw [control, leads]
    rcases route_deepAudit leads with ⟨known, isCause, holds⟩ | pulls
    · exact Or.inl ⟨known, cause.trans isCause, by rw [graph]; exact holds⟩
    · right
      rw [graph]
      rcases successor_state cap state .cosDecision with same | recorded
      · exact (congrArg GraphState.lastDecision same).trans pulls
      · exact (congrArg GraphState.lastDecision recorded).trans pulls
  · refine .elsewhere control leads fun reviews => ?_
    rcases route_cases cap state with audits | ⟨_, elsewhere⟩
    · exact leads audits
    · rw [reviews] at elsewhere
      simp at elsewhere

omit [PythonText] in
/-- The router after a pull explains where it leads. -/
theorem Explained.of_routeAfterPull
    {run : AutoRun}
    {cap : Option ActiveCap}
    {state : GraphState}
    (graph : run.execution.graph = (routeAfterPull cap state).2)
    (control : run.execution.control = .at (routeAfterPull cap state).1)
    (cause : run.cause = routeAfterPullCause cap state) :
    run.Explained := by
  by_cases leads : (routeAfterPull cap state).1 = .humanReview
  · unfold Explained
    rw [control, leads]
    obtain ⟨known, isCause, holds⟩ := routeAfterPull_humanReview leads
    exact ⟨known, cause.trans isCause, by rw [graph]; exact holds⟩
  · refine .elsewhere control (fun audits => ?_) leads
    rcases routeAfterPull_cases cap state with reviews | ⟨_, plans⟩
    · exact leads reviews
    · rw [audits] at plans
      cases plans

/-- Every step keeps a run explained. -/
theorem Explained.step
    {run next : AutoRun}
    {env : StepEnv}
    (explained : run.Explained)
    (stepped : run.step env = some next) :
    next.Explained := by
  cases step_moves stepped with
  | stops _ _ _ notAt notEnded =>
      unfold Explained
      split
      · exact absurd ‹_› (notAt _)
      · exact absurd ‹_› (notAt _)
      · exact absurd ‹_› notEnded
      · trivial
  | moved seen node update before after standsAt written graph control cause
      _ =>
      cases node with
      | cosDecision =>
          exact .of_route graph control cause
      | humanPull =>
          exact .of_routeAfterPull graph control cause
      | deepAudit =>
          have same := sameAccount_of_wrapUp (Or.inl rfl) written
          unfold Explained at explained
          rw [standsAt] at explained
          by_cases pulls :
            (run.execution.graph.apply update).lastDecision.getD
                .continueResearch = .pullHuman
          · have toPull : next.execution.control = .at .humanPull := by
              simp [control, successor, routeAfterDeepAudit, pulls]
            exact .elsewhere toPull (by decide) (by decide)
          · have toReview : next.execution.control = .at .humanReview := by
              simp [control, successor, routeAfterDeepAudit, pulls]
            unfold Explained
            rw [toReview]
            rcases explained with justified | asked
            · exact justified.of_wrapUp (by rw [graph]; exact same) cause
            · rw [same.lastDecision, asked] at pulls
              exact absurd rfl pulls
      | humanReview =>
          have same := sameAccount_of_wrapUp (Or.inr rfl) written
          have ended : next.execution.control = .ended := control
          unfold Explained at explained ⊢
          rw [standsAt] at explained
          rw [ended]
          exact
            Justified.of_wrapUp explained (by rw [graph]; exact same) cause
      | clarify =>
          refine .elsewhere control ?_ ?_ <;>
            · simp only [routeAfterClarify]
              split <;> decide
      | _ =>
          exact .elsewhere control (by decide) (by decide)

/-! ## Where a recorded reason comes from -/

omit [PythonText] in
/--
A router that meets a hit cap records its reason; otherwise the reason stays,
and the cap is no new condition.
-/
theorem causeAfter_cases
    (cap : Option ActiveCap)
    (state : GraphState)
    (before : Option StopCause)
    (node : Node) :
    (RunCap.capHitNow cap = true ∧
        causeAfter cap state before node = some .cap ∧
        isSet (successor cap state node).2.researchState.stopReason = true) ∨
      (successor cap state node).2.researchState.stopReason =
          state.researchState.stopReason ∧
        (causeAfter cap state before node = before ∨
          RunCap.capHitNow cap = false ∧
            causeAfter cap state before node ≠ some .cap) := by
  cases node with
  | cosDecision =>
      simp only [causeAfter, successor, route, routeCause]
      by_cases hit : RunCap.capHitNow cap = true
      · simp only [if_pos hit]
        exact Or.inl ⟨hit, trivial, isSet_capReasonNow hit⟩
      · simp only [if_neg hit]
        refine Or.inr ⟨?_, Or.inr ⟨by simpa using hit, ?_⟩⟩
        · repeat' split
          all_goals rfl
        · repeat' split
          all_goals simp
  | humanPull =>
      simp only [causeAfter, successor, routeAfterPull, routeAfterPullCause]
      by_cases hit : RunCap.capHitNow cap = true
      · simp only [if_pos hit]
        exact Or.inl ⟨hit, trivial, isSet_capReasonNow hit⟩
      · simp only [if_neg hit]
        refine Or.inr ⟨?_, Or.inr ⟨by simpa using hit, ?_⟩⟩
        · split <;> rfl
        · split <;> simp
  | _ =>
      exact Or.inr ⟨rfl, Or.inl rfl⟩

omit [PythonText] in
/-- What is known of an automatic run from its start. -/
structure Tracks (start run : AutoRun) : Prop where
  explained : run.Explained
  config : run.execution.graph.config = start.execution.graph.config
  recorded :
    isSet run.execution.graph.researchState.stopReason = true ↔
      isSet start.execution.graph.researchState.stopReason = true ∨
        run.capMet = true
  met : run.cause = some .cap → run.capMet = true

/-- Every step keeps track of the run. -/
theorem Tracks.step
    {start run next : AutoRun}
    {env : StepEnv}
    (tracks : Tracks start run)
    (stepped : run.step env = some next) :
    Tracks start next := by
  have explained := tracks.explained.step stepped
  cases step_moves stepped with
  | stops graph cause capMet _ _ =>
      have sameMet : next.capMet = run.capMet := by
        rw [capMet, cause, Bool.or_eq_left_iff_imp]
        exact fun isCap => tracks.met (of_decide_eq_true isCap)
      refine ⟨explained, ?_, ?_, ?_⟩
      · rw [graph]
        exact tracks.config
      · rw [graph, sameMet]
        exact tracks.recorded
      · rw [cause, sameMet]
        exact tracks.met
  | moved seen node update before after _ written graph _ cause capMet =>
      have config :
          next.execution.graph.config = start.execution.graph.config := by
        rw [graph]
        exact (successor_channels _ _ _).2.2.2.2.trans tracks.config
      have sameReason := written.record.stopReason
      rcases causeAfter_cases env.cap (run.execution.graph.apply update)
          run.cause node with
        ⟨_, isCap, isRecorded⟩ | ⟨kept, change⟩
      · rw [← graph] at isRecorded
        rw [← cause] at isCap
        have isMet : next.capMet = true := by
          rw [capMet, isCap]
          simp
        exact
          ⟨explained, config, iff_of_true isRecorded (Or.inr isMet),
            fun _ => isMet⟩
      · have reason :
            next.execution.graph.researchState.stopReason =
              run.execution.graph.researchState.stopReason := by
          rw [graph]
          exact kept.trans sameReason
        rw [← cause] at change
        have knownCap : next.cause = some .cap → run.capMet = true := by
          intro isCap
          rcases change with sameCause | ⟨_, otherCause⟩
          · exact tracks.met (sameCause.symm.trans isCap)
          · exact absurd isCap otherCause
        have sameMet : next.capMet = run.capMet := by
          rw [capMet, Bool.or_eq_left_iff_imp]
          exact fun isCap => knownCap (of_decide_eq_true isCap)
        refine ⟨explained, config, ?_, ?_⟩
        · rw [reason, sameMet]
          exact tracks.recorded
        · rw [sameMet]
          exact knownCap

/-- A whole run is kept track of. -/
theorem tracks_of_run
    {start final : AutoRun}
    {labels : List StepEnv}
    (begins : start.Begins)
    (ran : exec AutoRun.step start labels = some final) :
    Tracks start final := by
  have initially : Tracks start start :=
    { explained := .elsewhere begins.control (by decide) (by decide)
      config := rfl
      recorded := by simp [begins.notMet]
      met := fun isCap => by
        rw [begins.cause] at isCap
        cases isCap }
  exact
    exec_invariant
      (motive := Tracks start)
      (fun tracks stepped => tracks.step stepped)
      initially ran

/-! ## What is reported -/

omit [PythonText] in
/-- A decision is a soft stop exactly when it ends the run for itself. -/
theorem isSoftStop_iff
    {decision : Option Decision} :
    isSoftStop (decision.getD .continueResearch) = true ↔
      decision = some .terminalStop ∨ decision = some .synthesize := by
  cases decision with
  | none =>
      simp [isSoftStop, Decision.isGated]
  | some decided =>
      cases decided <;> simp [isSoftStop, Decision.isGated]

omit [PythonText] in
/-- A hard cap is reported exactly when a reason is recorded. -/
theorem reported_hardCap_iff
    {run : AutoRun}
    {maxIterations : Int} :
    run.reported maxIterations = .hardCap ↔
      isSet run.execution.graph.researchState.stopReason = true :=
  reportStop_hardCap_iff

omit [PythonText] in
/-- Without a recorded reason a soft decision is reported. -/
theorem reported_softStop
    {run : AutoRun}
    {maxIterations : Int}
    (unrecorded :
      isSet run.execution.graph.researchState.stopReason = false)
    (stops :
      isSoftStop
          (run.execution.graph.lastDecision.getD .continueResearch) =
        true) :
    run.reported maxIterations = .terminalStop ∨
      run.reported maxIterations = .synthesize := by
  rcases isSoftStop_iff.mp stops with terminal | synthesizes
  · simp [reported, reportStop, unrecorded, terminal]
  · simp [reported, reportStop, unrecorded, synthesizes]

omit [PythonText] in
/-- Without a recorded reason and a soft decision the ceiling is reported. -/
theorem reported_ceiling
    {run : AutoRun}
    {maxIterations : Int}
    (unrecorded :
      isSet run.execution.graph.researchState.stopReason = false)
    (goesOn :
      isSoftStop
          (run.execution.graph.lastDecision.getD .continueResearch) =
        false)
    (reached :
      maxIterations ≤ run.execution.graph.researchState.iterationCount) :
    run.reported maxIterations = .iterationCeiling := by
  have decisions := mt isSoftStop_iff.mpr (Bool.not_eq_true _ ▸ goesOn)
  rw [not_or] at decisions
  simp [reported, reportStop, unrecorded, decisions.1, decisions.2, reached]

omit [PythonText] in
/-- A run that ends has been wrapped up under a condition that holds there. -/
theorem justified_of_ended
    {start final : AutoRun}
    (tracks : Tracks start final)
    (ended : final.execution.control = .ended) :
    final.Justified := by
  have explained := tracks.explained
  unfold Explained at explained
  rw [ended] at explained
  exact explained

omit [PythonText] in
/-- Unless a cap ended the run, no reason is recorded. -/
theorem unrecorded_of_cause
    {start final : AutoRun}
    (tracks : Tracks start final)
    (ownCap :
      isSet start.execution.graph.researchState.stopReason = true ∨
          final.capMet = true →
        final.cause = some .cap)
    (other : final.cause ≠ some .cap) :
    isSet final.execution.graph.researchState.stopReason = false := by
  rw [← Bool.not_eq_true, tracks.recorded]
  exact mt ownCap other

/--
An automatic run that ends reports the condition under which its router wrapped
up, exactly when a cap ended it wherever it started with a stop reason or met a
cap before, and the last decision is no soft stop where the ceiling ended it.
-/
theorem reportsCause_iff
    {start final : AutoRun}
    {labels : List StepEnv}
    (begins : start.Begins)
    (ran : exec AutoRun.step start labels = some final)
    (ended : final.execution.control = .ended) :
    final.ReportsCause start.execution.graph.config.maxIterations ↔
      (isSet start.execution.graph.researchState.stopReason = true ∨
            final.capMet = true →
          final.cause = some .cap) ∧
        (final.cause = some .ceiling →
          isSoftStop
              (final.execution.graph.lastDecision.getD .continueResearch) =
            false) := by
  have tracks := tracks_of_run begins ran
  constructor
  · intro reports
    refine ⟨fun inherits => ?_, fun isCeiling => ?_⟩
    · have isRecorded := tracks.recorded.mpr inherits
      exact reports.hardCap.mp (reported_hardCap_iff.mpr isRecorded)
    · have isReported := reports.ceiling.mpr isCeiling
      have unrecorded :
          isSet final.execution.graph.researchState.stopReason = false := by
        rw [← Bool.not_eq_true, ← reported_hardCap_iff, isReported]
        exact StopKind.noConfusion
      rw [← Bool.not_eq_true]
      intro stops
      rcases reported_softStop unrecorded stops with terminal | synthesizes
      · exact StopKind.noConfusion (isReported.symm.trans terminal)
      · exact StopKind.noConfusion (isReported.symm.trans synthesizes)
  · rintro ⟨ownCap, decides⟩
    obtain ⟨cause, isCause, holds⟩ := justified_of_ended tracks ended
    cases cause with
    | cap =>
        have isReported :
            final.reported start.execution.graph.config.maxIterations =
              .hardCap :=
          reported_hardCap_iff.mpr holds
        constructor <;> simp [isCause, isReported]
    | ceiling =>
        have unrecorded :=
          unrecorded_of_cause tracks ownCap (by simp [isCause])
        have reached :
            start.execution.graph.config.maxIterations ≤
              final.execution.graph.researchState.iterationCount := by
          rw [← tracks.config]
          exact of_decide_eq_true holds
        have isReported :=
          reported_ceiling unrecorded (decides isCause) reached
        constructor <;> simp [isCause, isReported]
    | softStop =>
        have unrecorded :=
          unrecorded_of_cause tracks ownCap (by simp [isCause])
        obtain ⟨below, stops, waitsNot⟩ := holds
        have notReached :
            final.execution.graph.researchState.iterationCount <
              start.execution.graph.config.maxIterations := by
          rw [← tracks.config]
          exact not_le.mp (of_decide_eq_false below)
        have softReported :
            final.reported start.execution.graph.config.maxIterations =
                .terminalStop ∨
              final.reported start.execution.graph.config.maxIterations =
                .synthesize :=
          reported_softStop unrecorded stops
        rcases softReported with isReported | isReported <;>
          constructor <;>
            simp [isCause, isReported, notReached, waitsNot]

end Runs

/-! ## A ceiling that is reported as a soft stop -/

/-- The start of an automatic run is one that begins. -/
theorem begins_runAutoStart
    (initial : ResearchState)
    (now : String)
    (maxIterations : Int)
    (defaultPriority : Option String)
    (assumeBrief : Bool)
    (world : World) :
    Begins
      { execution :=
          runAutoStart initial now maxIterations defaultPriority assumeBrief
            world } :=
  ⟨rfl, rfl, rfl, rfl, rfl⟩

/-- A fresh automatic run with some passes to go. -/
private def freshAutoRun (maxIterations : Int) : AutoRun where
  execution :=
    runAutoStart { runId := "run", originalQuestion := "question" } "t"
      maxIterations none true {}

/-- An auditor that asks for a competitor first, and for the synthesis then. -/
private def synthesisAuditor (rs : ResearchState) : Option AuditResult :=
  if IssueMap.hasType rs .competitor then
    some
      { verdict := .exhausted
        recommendedNextAction := some .synthesize
        rationale := "saturated" }
  else
    some
      { verdict := .rework
        recommendedNextAction := some .branch
        rationale := "no competitor" }

/-- The stubs with one issue to begin with and this auditor. -/
private def synthesisStubs [PythonText] : StepEnv :=
  .calm
    (MockBrains.brains
      { others :=
          { Brains.silent with
            issueExpander := fun _ =>
              some
                [{ title := "intent"
                   description := "intent"
                   issueType := .intent
                   impact := 3
                   confidence := 1 }]
            auditor := synthesisAuditor }
        disk := fun _ => .notASurvey
        source := .web
        internal := fun _ => none })

/-- After one pass the ceiling is reported as the ceiling. -/
theorem onePass_reportsCause :
    letI := PythonText.ascii
    ∃ final,
      exec step (freshAutoRun 1) (List.replicate 18 synthesisStubs) =
          some final ∧
        final.cause = some .ceiling ∧
        final.ReportsCause 1 := by
  let _ := PythonText.ascii
  let final :=
    (exec step (freshAutoRun 1) (List.replicate 18 synthesisStubs)).get
      (by decide +kernel)
  have ran :
      exec step (freshAutoRun 1) (List.replicate 18 synthesisStubs) =
        some final :=
    (Option.some_get _).symm
  have conditions :
      (isSet (freshAutoRun 1).execution.graph.researchState.stopReason =
              true ∨
            final.capMet = true →
          final.cause = some .cap) ∧
        (final.cause = some .ceiling →
          isSoftStop
              (final.execution.graph.lastDecision.getD .continueResearch) =
            false) := by
    decide +kernel
  exact
    ⟨final, ran, by decide +kernel,
      (reportsCause_iff (begins_runAutoStart _ _ _ _ _ _) ran
          (by decide +kernel)).mpr
        conditions⟩

/--
After two passes the ceiling is reported as a synthesis, although the synthesis
was overridden below the ceiling: a cell of high impact still waits.
-/
theorem twoPasses_misreport :
    letI := PythonText.ascii
    ¬ ∀ (start final : AutoRun) (labels : List StepEnv),
      start.Begins →
        exec step start labels = some final →
          final.execution.control = .ended →
            final.ReportsCause
              start.execution.graph.config.maxIterations := by
  let _ := PythonText.ascii
  intro reports
  let final :=
    (exec step (freshAutoRun 2) (List.replicate 28 synthesisStubs)).get
      (by decide +kernel)
  have ran :
      exec step (freshAutoRun 2) (List.replicate 28 synthesisStubs) =
        some final :=
    (Option.some_get _).symm
  have reported :=
    reports (freshAutoRun 2) final _ (begins_runAutoStart _ _ _ _ _ _)
      ran (by decide +kernel)
  have isCeiling : final.cause = some .ceiling := by
    decide +kernel
  have synthesizes : final.reported 2 = .synthesize := by
    decide +kernel
  exact
    StopKind.noConfusion
      (synthesizes.symm.trans (reported.ceiling.mpr isCeiling))

end AutoRun

end ResearchCos
