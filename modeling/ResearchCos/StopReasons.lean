import ResearchCos.MemoDelivery

namespace ResearchCos

open Foundation

/-!
# Stop reasons over the segments of a run

A run goes through segments: each is entered with an input or continued from
the checkpoint, and it may be killed at any node.  The routers record the reason
of a hard cap in the state, nothing ever clears it, and both the checkpoint and
the snapshot carry it into the segments that follow.
-/

/-! ## The reported reason -/

inductive StopKind where
  | hardCap
  | hardStopHighRisk
  | terminalStop
  | synthesize
  | iterationCeiling
  | stopped
  deriving Repr, DecidableEq

/-- The kind and the text of the stop that an automatic run reports. -/
def reportStop
    (final : ResearchState)
    (decision : Option Decision)
    (paused : Bool)
    (maxIterations : Int) : StopKind × String :=
  if isSet final.stopReason then
    (.hardCap, final.stopReason.getD "")
  else if paused then
    (.hardStopHighRisk,
      "高風險人類介入點：auto 模式硬停，等待人類回答（可 resume）")
  else if decision = some .terminalStop then
    (.terminalStop, "研究已窮盡且四項 readiness 達標，正常終止")
  else if decision = some .synthesize then
    (.synthesize,
      "可定址問題已飽和，剩餘為人類/內部資料瓶頸，進入綜整")
  else if maxIterations ≤ final.iterationCount then
    (.iterationCeiling,
      "達到 max_iterations=" ++ toString maxIterations ++ " 上限，停止")
  else
    (.stopped, "迴圈結束")

/-- A hard cap is reported exactly when a reason is recorded. -/
theorem reportStop_hardCap_iff
    {final : ResearchState}
    {decision : Option Decision}
    {paused : Bool}
    {maxIterations : Int} :
    (reportStop final decision paused maxIterations).1 = .hardCap ↔
      isSet final.stopReason = true := by
  simp only [reportStop]
  split
  · rename_i recorded
    simp [recorded]
  · rename_i unrecorded
    simp only [unrecorded, Bool.false_eq_true, iff_false]
    repeat' split
    all_goals simp

/-- The memo is gated as one that is emitted on command. -/
def emitsExplicitly (state : GraphState) : Bool :=
  state.config.explicitEmit || isSet state.researchState.stopReason

/-! ## Segments of a run -/

/-- A question that a run is started with. -/
structure NewRun where
  question : String
  mode : Mode
  now : String
  maxIterations : Int
  assumeBrief : Bool
  defaultPriority : Option String
  deriving Repr, DecidableEq

/-- The state that a run is started with. -/
def NewRun.state (runId : String) (new : NewRun) : ResearchState where
  runId := runId
  originalQuestion := new.question
  mode := new.mode
  defaultResearchPriority := new.defaultPriority
  updatedAt := some new.now

/-- The channels a run is started with; only an interactive run asks at the end. -/
def NewRun.config (config : RunConfig) (new : NewRun) : RunConfig :=
  { config with
    now := new.now
    maxIterations := new.maxIterations
    mode := some new.mode
    enableH6 := decide (new.mode = .interactive)
    assumeBrief := new.assumeBrief }

/--
A run over its segments.  Beside the two stores there is the node that the
checkpoint waits at, and what is remembered of the current segment: whether it
began with a stop reason, and whether a cap was hit in it.
-/
structure RunHistory where
  desk : Desk
  pending : Option Node
  beganWithReason : Bool
  capHit : Bool
  deriving DecidableEq

inductive HistoryCommand where
  | proceed (env : StepEnv)
  | carryOn (segment : Segment) (env : StepEnv)
  | enterNew (new : NewRun)
  | enterSaved (now : String) (maxIterations : Int) (assumeBrief : Bool)
  | steer (text now : String)

/-- The node that a checkpoint waits at after a node was executed. -/
def pendingAfter (node : Node) : Control → Option Node
  | .crashed => some node
  | control => control.node?

/-- A segment that enters the graph with a state as its input. -/
def RunHistory.enter
    (history : RunHistory)
    (input : ResearchState)
    (config : RunConfig) : RunHistory where
  desk :=
    { segment := .run
      execution :=
        { history.desk.execution with
          graph :=
            { history.desk.execution.graph with
              researchState := input
              config := config }
          control := .at .intake } }
  pending := some .intake
  beganWithReason := isSet input.stopReason
  capHit := false

section Histories

variable [PythonText]

/-- Execute a node within the current segment. -/
def RunHistory.execute
    (history : RunHistory)
    (env : StepEnv)
    (node : Node) : RunHistory :=
  let desk := advance env node history.desk
  { history with
    desk := desk
    pending := pendingAfter node desk.execution.control
    capHit := history.capHit || RunCap.capHitNow env.cap }

/--
One step of a history.  A segment goes on from node to node; a new one is
continued from the checkpoint, started anew, or entered with the snapshot.
-/
def historyStep (history : RunHistory) : HistoryCommand → Option RunHistory
  | .proceed env =>
      match history.desk.execution.control with
      | .at node => some (history.execute { env with answer := none } node)
      | _ => none
  | .carryOn segment env =>
      history.pending.map fun node =>
        RunHistory.execute
          { desk := { history.desk with segment := segment }
            pending := history.pending
            beganWithReason :=
              isSet history.desk.execution.graph.researchState.stopReason
            capHit := false }
          (if segment = .run then { env with answer := none } else env) node
  | .enterNew new =>
      some
        (history.enter
          (new.state history.desk.execution.graph.researchState.runId)
          (new.config history.desk.execution.graph.config))
  | .enterSaved now maxIterations assumeBrief =>
      history.desk.execution.world.snapshot.map fun saved =>
        history.enter { saved with mode := .interactive }
          { history.desk.execution.graph.config with
            now := now
            maxIterations := maxIterations
            mode := some .interactive
            enableH6 := true
            assumeBrief := assumeBrief }
  | .steer text now =>
      history.desk.execution.world.snapshot.map fun saved =>
        { history with
          desk :=
            { history.desk with
              execution :=
                { history.desk.execution with
                  world :=
                    saveSnapshot (applySteer saved text now)
                      history.desk.execution.world } } }

omit [PythonText] in
/-- A history that begins with the first node of a segment. -/
structure RunHistory.Begins (history : RunHistory) : Prop where
  control : history.desk.execution.control = .at .intake
  pending : history.pending = some .intake
  reason :
    history.beganWithReason =
      isSet history.desk.execution.graph.researchState.stopReason
  noCap : history.capHit = false

/-! ## What a stop reason tells -/

omit [PythonText] in
/--
A recorded reason, a memo gated as one that is emitted on command, and a
reported hard cap all come from a cap of the current segment.
-/
structure RunHistory.TruthfulStop (history : RunHistory) : Prop where
  recorded :
    isSet history.desk.execution.graph.researchState.stopReason = true →
      history.capHit = true
  gated :
    emitsExplicitly history.desk.execution.graph = true →
      history.desk.execution.graph.config.explicitEmit = true ∨
        history.capHit = true
  reported :
    ∀ decision paused maxIterations,
      (reportStop history.desk.execution.graph.researchState decision paused
          maxIterations).1 = .hardCap →
        history.capHit = true

omit [PythonText] in
/-- A stop is truthful exactly when a recorded reason is one of this segment. -/
theorem RunHistory.truthfulStop_iff
    {history : RunHistory} :
    history.TruthfulStop ↔
      (isSet history.desk.execution.graph.researchState.stopReason = true →
        history.capHit = true) := by
  constructor
  · exact fun truthful => truthful.recorded
  · intro recorded
    refine ⟨recorded, ?_, ?_⟩
    · intro explicit
      rw [emitsExplicitly, Bool.or_eq_true] at explicit
      exact explicit.imp_right recorded
    · intro decision paused maxIterations reported
      exact recorded (reportStop_hardCap_iff.mp reported)

omit [PythonText] in
/-- A segment that began with a reason has a cap of its own. -/
def RunHistory.HitsOwnCap (history : RunHistory) : Prop :=
  history.beganWithReason = true → history.capHit = true

instance (history : RunHistory) : Decidable history.HitsOwnCap :=
  inferInstanceAs (Decidable (_ → _))

omit [PythonText] in
/-- Where a recorded reason comes from, and what becomes of one. -/
structure RunHistory.ReasonKept (history : RunHistory) : Prop where
  origin :
    isSet history.desk.execution.graph.researchState.stopReason = true →
      history.beganWithReason = true ∨ history.capHit = true
  persists :
    history.beganWithReason = true →
      isSet history.desk.execution.graph.researchState.stopReason = true ∨
        history.capHit = true

omit [PythonText] in
/-- A stop reason is recorded only where a cap is hit. -/
theorem successor_stopReason
    (cap : Option ActiveCap)
    (state : GraphState)
    (node : Node) :
    (successor cap state node).2.researchState.stopReason =
        state.researchState.stopReason ∨
      RunCap.capHitNow cap = true := by
  cases node with
  | cosDecision =>
      simp only [successor, route]
      split
      · exact Or.inr ‹_›
      · repeat' split
        all_goals exact Or.inl rfl
  | humanPull =>
      simp only [successor, routeAfterPull]
      split
      · exact Or.inr ‹_›
      · repeat' split
        all_goals exact Or.inl rfl
  | _ =>
      exact Or.inl rfl

/-- Executing a node changes the stop reason only where a cap is hit. -/
theorem advance_stopReason
    (env : StepEnv)
    (node : Node)
    (desk : Desk) :
    (advance env node desk).execution.graph.researchState.stopReason =
        desk.execution.graph.researchState.stopReason ∨
      RunCap.capHitNow env.cap = true := by
  rw [(advance_execution env node desk).1]
  cases visit_visited env node desk.execution with
  | crashed sameGraph _ =>
      exact Or.inl (by rw [sameGraph])
  | paused ask sameGraph _ =>
      exact Or.inl (by rw [sameGraph])
  | moved update records sameGraph _ =>
      rw [sameGraph]
      rcases successor_stopReason env.cap (desk.execution.graph.apply update)
          node with kept | hit
      · exact Or.inl (kept.trans records.stopReason)
      · exact Or.inr hit

/-- Within a segment the origin of a stop reason stays known. -/
theorem RunHistory.ReasonKept.execute
    {history : RunHistory}
    (kept : history.ReasonKept)
    (env : StepEnv)
    (node : Node) :
    (history.execute env node).ReasonKept := by
  rcases advance_stopReason env node history.desk with same | hit
  · refine ⟨?_, ?_⟩
    · intro recorded
      simp only [RunHistory.execute, same] at recorded
      rcases kept.origin recorded with began | hitBefore
      · exact Or.inl began
      · exact Or.inr (by simp [RunHistory.execute, hitBefore])
    · intro began
      simp only [RunHistory.execute, same]
      rcases kept.persists began with recorded | hitBefore
      · exact Or.inl recorded
      · exact Or.inr (by simp [hitBefore])
  · have hitNow : (history.execute env node).capHit = true := by
      simp [RunHistory.execute, hit]
    exact ⟨fun _ => Or.inr hitNow, fun _ => Or.inr hitNow⟩

omit [PythonText] in
/-- A segment that begins knows the origin of its stop reason. -/
theorem RunHistory.ReasonKept.of_begins
    {history : RunHistory}
    (reason :
      history.beganWithReason =
        isSet history.desk.execution.graph.researchState.stopReason) :
    history.ReasonKept :=
  ⟨fun recorded => Or.inl (reason.trans recorded),
    fun began => Or.inl (reason.symm.trans began)⟩

/-- Every step of a history keeps track of the stop reason. -/
theorem RunHistory.ReasonKept.step
    {history next : RunHistory}
    {command : HistoryCommand}
    (kept : history.ReasonKept)
    (stepped : historyStep history command = some next) :
    next.ReasonKept := by
  cases command with
  | proceed env =>
      simp only [historyStep] at stepped
      split at stepped
      · cases stepped
        exact kept.execute _ _
      · cases stepped
  | carryOn segment env =>
      obtain ⟨node, _, rfl⟩ := Option.map_eq_some_iff.mp stepped
      exact (RunHistory.ReasonKept.of_begins rfl).execute _ _
  | enterNew new =>
      cases stepped
      exact .of_begins rfl
  | enterSaved now maxIterations assumeBrief =>
      obtain ⟨saved, _, rfl⟩ := Option.map_eq_some_iff.mp stepped
      exact .of_begins rfl
  | steer text now =>
      obtain ⟨saved, _, rfl⟩ := Option.map_eq_some_iff.mp stepped
      exact ⟨kept.origin, kept.persists⟩

/-- Along a history the origin of the stop reason is known. -/
theorem reasonKept_of_run
    {start final : RunHistory}
    {commands : List HistoryCommand}
    (begins : start.Begins)
    (ran : exec historyStep start commands = some final) :
    final.ReasonKept :=
  exec_invariant
    (motive := RunHistory.ReasonKept)
    (fun kept stepped => kept.step stepped)
    (.of_begins begins.reason) ran

/--
Wherever a history stands, a stop there is truthful exactly when the current
segment began without a stop reason or has hit a cap of its own.
-/
theorem truthfulStop_of_run_iff
    {start history : RunHistory}
    {commands : List HistoryCommand}
    (begins : start.Begins)
    (ran : exec historyStep start commands = some history) :
    history.TruthfulStop ↔ history.HitsOwnCap := by
  have kept := reasonKept_of_run begins ran
  rw [RunHistory.truthfulStop_iff, RunHistory.HitsOwnCap]
  constructor
  · intro truthful began
    exact (kept.persists began).elim truthful id
  · intro ownCap recorded
    exact (kept.origin recorded).elim ownCap id

end Histories

/-- An automatic run with one pass to go. -/
private def automaticRun : RunHistory :=
  RunHistory.enter
    { desk :=
        { segment := .run
          execution :=
            { graph :=
                { researchState :=
                    { runId := "run", originalQuestion := "question" } }
              control := .at .intake
              world := {} } }
      pending := some .intake
      beganWithReason := false
      capHit := false }
    { runId := "run", originalQuestion := "question", mode := .auto }
    { maxIterations := 1, mode := some .auto, assumeBrief := true }

/-- Surroundings in which a cap on the cost is hit. -/
private def overspending : StepEnv :=
  { StepEnv.calm Brains.silent with
    cap :=
      some
        { totalUsd := 1
          maxCostUsd := some 1
          maxWallS := none
          started := 0
          clock := 0 } }

/-- The automatic run ends on its cap, and its snapshot is entered again. -/
private def cappedThenEntered : List HistoryCommand :=
  List.replicate 18 (.proceed overspending) ++
    .enterSaved "t" 1 true ::
      List.replicate 18 (.proceed (.calm Brains.silent))

/-- The run that is entered again meets no cap, and its memo is gated as capped. -/
theorem enteredAgain_keeps_stopReason :
    letI := PythonText.ascii
    ∃ history,
      exec historyStep automaticRun cappedThenEntered = some history ∧
        history.desk.execution.control = .pausedAt .humanReview .review ∧
        history.capHit = false ∧
        emitsExplicitly history.desk.execution.graph = true ∧
        ¬history.TruthfulStop := by
  let _ := PythonText.ascii
  let history :=
    (exec historyStep automaticRun cappedThenEntered).get
      (by decide +kernel)
  have recorded :
      isSet history.desk.execution.graph.researchState.stopReason =
        true := by
    decide +kernel
  have noCap : history.capHit = false := by
    decide +kernel
  refine
    ⟨history, (Option.some_get _).symm, by decide +kernel, noCap,
      by decide +kernel, ?_⟩
  intro truthful
  rw [truthful.recorded recorded] at noCap
  cases noCap

/-- The capped run itself stops truthfully. -/
theorem cappedRun_stops_truthfully :
    letI := PythonText.ascii
    ∃ history,
      exec historyStep automaticRun
          (List.replicate 18 (.proceed overspending)) =
        some history ∧
        history.TruthfulStop := by
  let _ := PythonText.ascii
  let history :=
    (exec historyStep automaticRun
      (List.replicate 18 (.proceed overspending))).get (by decide +kernel)
  have ran :
      exec historyStep automaticRun
          (List.replicate 18 (.proceed overspending)) =
        some history :=
    (Option.some_get _).symm
  have begins : automaticRun.Begins :=
    ⟨rfl, rfl, rfl, rfl⟩
  exact
    ⟨history, ran,
      (truthfulStop_of_run_iff begins ran).mpr (by decide +kernel)⟩

end ResearchCos
