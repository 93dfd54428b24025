import ResearchCos.Collecting

namespace ResearchCos

open Foundation

/-!
# The durable record of the debate

The reporter appends the block of every stage to a file and raises where it
cannot.  The nodes reach it through a wrapper that swallows whatever is raised.
-/

/-- The stages that nodes report. -/
inductive Stage where
  | scope
  | clarify
  | orchestrator
  | planAudit
  | planApproval
  | expand
  | researchStatus
  | research
  | critique
  | albertAudit
  | decision
  deriving Repr, DecidableEq

def Stage.name : Stage → String
  | .scope => "scope"
  | .clarify => "clarify"
  | .orchestrator => "orchestrator"
  | .planAudit => "plan_audit"
  | .planApproval => "plan_approval"
  | .expand => "expand"
  | .researchStatus => "research_status"
  | .research => "research"
  | .critique => "critique"
  | .albertAudit => "albert_audit"
  | .decision => "decision"

/-- The stages that a node reports, in order, unless it raises before. -/
def Node.stages : Node → List Stage
  | .scope => [.scope]
  | .clarify => [.clarify]
  | .orchestratorPlan => [.orchestrator]
  | .planAudit => [.planAudit]
  | .planApproval => [.planApproval]
  | .issueExpansion => [.expand]
  | .collect => [.researchStatus, .research]
  | .skeptic => [.critique]
  | .albertAudit => [.albertAudit]
  | .cosDecision => [.decision]
  | _ => []

/-! ## The reporter -/

/-- A required sink could not be written. -/
structure VisibilityContractError where
  message : String
  phase : String := ""
  sink : String := ""
  deriving Repr, DecidableEq

/-- What the report of a stage can raise. -/
inductive StageError where
  | visibility (error : VisibilityContractError)
  | other
  deriving Repr, DecidableEq

structure StageReporter where
  debatePath : Option String
  deriving Repr, DecidableEq

/-- The end of an append; a failed one leaves no complete block. -/
inductive Append where
  | written
  | osError (text : String)
  | otherError
  deriving Repr, DecidableEq

/-- The blocks given to the reporter, those in the file, those on the stream. -/
structure DebateRecord where
  emitted : List String := []
  persisted : List String := []
  shown : List String := []
  deriving Repr, DecidableEq

/-- What surrounds a report: rendering may raise, and so may both sinks. -/
structure Reporting where
  body : Stage → Option String
  append : Stage → Append
  streamWrites : Stage → Bool

namespace StageReporter

/-- A reporter with its directory; `some` text stands for a failed creation. -/
def create (runDir mkdirError : Option String) :
    Except VisibilityContractError StageReporter :=
  match runDir, mkdirError with
  | some dir, some text =>
      .error
        { message := "Failed to create debate directory " ++ dir ++ ": " ++ text
          sink := dir }
  | some dir, none => .ok { debatePath := some (dir ++ "/debate.md") }
  | none, _ => .ok { debatePath := none }

def block (name body : String) : String :=
  "=== [" ++ name ++ "] ===\n" ++ body ++ "\n\n"

/-- Append a block to the file, if there is one. -/
def persist
    (reporter : StageReporter)
    (outcome : Append)
    (name block : String)
    (debate : DebateRecord) : Except StageError Unit × DebateRecord :=
  match reporter.debatePath, outcome with
  | none, _ => (.ok (), debate)
  | some _, .written =>
      (.ok (), { debate with persisted := debate.persisted ++ [block] })
  | some path, .osError text =>
      (.error
        (.visibility
          { message :=
              "Failed to append debate block to " ++ path ++ ": " ++ text
            phase := name
            sink := path }),
        debate)
  | some _, .otherError => (.error .other, debate)

/-- Write the block of a stage into the file and then onto the stream. -/
def stage
    (reporter : StageReporter)
    (outcome : Append)
    (streamWrites : Bool)
    (name body : String)
    (debate : DebateRecord) : Except StageError Unit × DebateRecord :=
  match reporter.persist outcome name (block name body) debate with
  | (.error error, after) => (.error error, after)
  | (.ok (), after) =>
      if streamWrites then
        (.ok (), { after with shown := after.shown ++ [block name body] })
      else
        (.error .other, after)

end StageReporter

/-- Report a stage; whatever rendering or the reporter raises is swallowed. -/
def report
    (reporter : StageReporter)
    (reporting : Reporting)
    (stage : Stage)
    (debate : DebateRecord) : Except StageError Unit × DebateRecord :=
  match reporting.body stage with
  | none => (.ok (), debate)
  | some body =>
      let emitted :=
        { debate with
          emitted :=
            debate.emitted ++ [StageReporter.block stage.name body] }
      match
        reporter.stage (reporting.append stage) (reporting.streamWrites stage)
          stage.name body emitted with
      | (.error _, after) => (.ok (), after)
      | (.ok (), after) => (.ok (), after)

/-- Report the stages in order, up to the first that raises. -/
def reportAll
    (reporter : StageReporter)
    (reporting : Reporting) :
    List Stage → DebateRecord → Except StageError Unit × DebateRecord
  | [], debate => (.ok (), debate)
  | stage :: rest, debate =>
      match report reporter reporting stage debate with
      | (.error error, after) => (.error error, after)
      | (.ok (), after) => reportAll reporter reporting rest after

/-! ## A run with a reporter -/

/-- A run, its record, and what a report has stopped it with. -/
structure ReportedRun where
  execution : Execution
  debate : DebateRecord
  stopped : Option StageError
  deriving DecidableEq

/-- What one step and its reports read. -/
structure ReportedEnv where
  graph : StepEnv
  reporting : Reporting

/-- The stages that a step has reported when it leaves a run at `next`. -/
def reportedStages (execution next : Execution) : List Stage :=
  if next.control = .crashed then
    []
  else
    match execution.control.node? with
    | none => []
    | some node => node.stages

/-- The record that a run begins with. -/
def ReportedRun.start (execution : Execution) : ReportedRun where
  execution := execution
  debate := {}
  stopped := none

section Steps

variable [PythonText]

/-- One step with its reports; a report that raises ends the run. -/
def reportedStep
    (reporter : StageReporter)
    (run : ReportedRun)
    (env : ReportedEnv) : Option ReportedRun :=
  if run.stopped.isSome then
    none
  else
    (step run.execution env.graph).map fun next =>
      match
        reportAll reporter env.reporting (reportedStages run.execution next)
          run.debate with
      | (.ok (), debate) =>
          { execution := next, debate := debate, stopped := none }
      | (.error error, debate) =>
          { execution := { run.execution with control := .crashed }
            debate := debate
            stopped := some error }

/-- Everything emitted is in the file, in order, or the run has stopped. -/
def ReportedRun.FailsClosed (run : ReportedRun) : Prop :=
  run.debate.persisted = run.debate.emitted ∨
    ∃ error, run.stopped = some (.visibility error)

/-- Whether the block of a stage, if there is one, is written. -/
def Reporting.writes (reporting : Reporting) (stage : Stage) : Bool :=
  (reporting.body stage).isNone || decide (reporting.append stage = .written)

/-- No append of this step fails. -/
def AppendsAll (run : ReportedRun) (env : ReportedEnv) : Prop :=
  ∀ next ∈ step run.execution env.graph,
    ∀ stage ∈ reportedStages run.execution next,
      env.reporting.writes stage = true

end Steps

/-- The blocks that are given to the reporter for these stages. -/
def Reporting.blocks (reporting : Reporting) (stages : List Stage) :
    List String :=
  stages.filterMap fun stage =>
    (reporting.body stage).map (StageReporter.block stage.name)

/-- Those of them that are written. -/
def Reporting.writtenBlocks (reporting : Reporting) (stages : List Stage) :
    List String :=
  reporting.blocks (stages.filter reporting.writes)

theorem Reporting.blocks_cons
    (reporting : Reporting)
    (stage : Stage)
    (rest : List Stage) :
    reporting.blocks (stage :: rest) =
      reporting.blocks [stage] ++ reporting.blocks rest := by
  simp only [Reporting.blocks, ← List.filterMap_append, List.singleton_append]

theorem Reporting.writtenBlocks_cons
    (reporting : Reporting)
    (stage : Stage)
    (rest : List Stage) :
    reporting.writtenBlocks (stage :: rest) =
      reporting.writtenBlocks [stage] ++ reporting.writtenBlocks rest := by
  simp only [Reporting.writtenBlocks, Reporting.blocks,
    ← List.filterMap_append, ← List.filter_append, List.singleton_append]

/-- No more blocks are written than are given to the reporter. -/
theorem Reporting.length_writtenBlocks_le
    (reporting : Reporting)
    (stages : List Stage) :
    (reporting.writtenBlocks stages).length ≤
      (reporting.blocks stages).length :=
  (List.Sublist.filterMap _ List.filter_sublist).length_le

/-- All blocks are written exactly when no append fails. -/
theorem Reporting.writtenBlocks_eq_iff
    {reporting : Reporting}
    {stages : List Stage} :
    reporting.writtenBlocks stages = reporting.blocks stages ↔
      ∀ stage ∈ stages, reporting.writes stage = true := by
  constructor
  · intro same stage member
    induction stages with
    | nil =>
        cases member
    | cons head rest inductionHypothesis =>
        rw [writtenBlocks_cons, blocks_cons] at same
        have counts := congrArg List.length same
        rw [List.length_append, List.length_append] at counts
        have first := reporting.length_writtenBlocks_le [head]
        have others := reporting.length_writtenBlocks_le rest
        obtain ⟨sameHead, sameRest⟩ :=
          List.append_inj same (by omega)
        rcases List.mem_cons.mp member with isHead | inRest
        · subst isHead
          by_contra notWritten
          rw [Bool.not_eq_true] at notWritten
          simp only [writes, Bool.or_eq_false_iff] at notWritten
          simp [writtenBlocks, blocks, writes, notWritten] at sameHead
          rw [sameHead] at notWritten
          simp at notWritten
        · exact inductionHypothesis sameRest inRest
  · intro writes
    rw [writtenBlocks, List.filter_eq_self.mpr writes]

/-- A report never raises; its block is in the file exactly when written. -/
theorem report_eq
    {reporter : StageReporter}
    {path : String}
    (hasPath : reporter.debatePath = some path)
    (reporting : Reporting)
    (stage : Stage)
    (debate : DebateRecord) :
    ∃ shown,
      report reporter reporting stage debate =
        (.ok (),
          { emitted := debate.emitted ++ reporting.blocks [stage]
            persisted := debate.persisted ++ reporting.writtenBlocks [stage]
            shown := shown }) := by
  cases rendered : reporting.body stage with
  | none =>
      refine ⟨debate.shown, ?_⟩
      simp [report, rendered, Reporting.blocks, Reporting.writtenBlocks,
        Reporting.writes]
  | some body =>
      cases appended : reporting.append stage with
      | written =>
          cases streamed : reporting.streamWrites stage with
          | true =>
              refine
                ⟨debate.shown ++ [StageReporter.block stage.name body], ?_⟩
              simp [report, rendered, appended, streamed,
                StageReporter.stage, StageReporter.persist, hasPath,
                Reporting.blocks, Reporting.writtenBlocks, Reporting.writes]
          | false =>
              refine ⟨debate.shown, ?_⟩
              simp [report, rendered, appended, streamed,
                StageReporter.stage, StageReporter.persist, hasPath,
                Reporting.blocks, Reporting.writtenBlocks, Reporting.writes]
      | osError text =>
          refine ⟨debate.shown, ?_⟩
          simp [report, rendered, appended, StageReporter.stage,
            StageReporter.persist, hasPath, Reporting.blocks,
            Reporting.writtenBlocks, Reporting.writes]
      | otherError =>
          refine ⟨debate.shown, ?_⟩
          simp [report, rendered, appended, StageReporter.stage,
            StageReporter.persist, hasPath, Reporting.blocks,
            Reporting.writtenBlocks, Reporting.writes]

/-- The same for all stages of a step. -/
theorem reportAll_eq
    {reporter : StageReporter}
    {path : String}
    (hasPath : reporter.debatePath = some path)
    (reporting : Reporting)
    (stages : List Stage)
    (debate : DebateRecord) :
    ∃ shown,
      reportAll reporter reporting stages debate =
        (.ok (),
          { emitted := debate.emitted ++ reporting.blocks stages
            persisted := debate.persisted ++ reporting.writtenBlocks stages
            shown := shown }) := by
  induction stages generalizing debate with
  | nil =>
      refine ⟨debate.shown, ?_⟩
      simp [reportAll, Reporting.blocks, Reporting.writtenBlocks]
  | cons stage rest inductionHypothesis =>
      obtain ⟨shown, reported⟩ := report_eq hasPath reporting stage debate
      rw [reporting.blocks_cons, reporting.writtenBlocks_cons,
        ← List.append_assoc, ← List.append_assoc]
      simp only [reportAll, reported]
      exact inductionHypothesis _

section Runs

variable [PythonText]

/-- A step with its reports is the step without them, and goes on. -/
theorem reportedStep_eq_some
    {reporter : StageReporter}
    {path : String}
    (hasPath : reporter.debatePath = some path)
    {run next : ReportedRun}
    {env : ReportedEnv}
    (stepped : reportedStep reporter run env = some next) :
    step run.execution env.graph = some next.execution ∧
      next.stopped = none ∧
      next.debate.emitted =
        run.debate.emitted ++
          env.reporting.blocks
            (reportedStages run.execution next.execution) ∧
      next.debate.persisted =
        run.debate.persisted ++
          env.reporting.writtenBlocks
            (reportedStages run.execution next.execution) := by
  simp only [reportedStep] at stepped
  split at stepped
  · cases stepped
  · obtain ⟨after, isStep, rfl⟩ := Option.map_eq_some_iff.mp stepped
    obtain ⟨shown, reported⟩ :=
      reportAll_eq hasPath env.reporting (reportedStages run.execution after)
        run.debate
    rw [reported]
    exact ⟨isStep, rfl, rfl, rfl⟩

/-- With its reports, a run goes the way it goes without them. -/
theorem reportedRun_goesOn
    {reporter : StageReporter}
    {path : String}
    (hasPath : reporter.debatePath = some path)
    {initial : Execution}
    {labels : List ReportedEnv}
    {final : ReportedRun}
    (ran :
      exec (reportedStep reporter) (.start initial) labels = some final) :
    final.stopped = none ∧
      exec step initial (labels.map ReportedEnv.graph) =
        some final.execution := by
  refine
    exec_induction
      (motive := fun labels run =>
        run.stopped = none ∧
          exec step initial (labels.map ReportedEnv.graph) =
            some run.execution)
      ⟨rfl, rfl⟩ ?_ ran
  intro labels run env next _ before stepped
  obtain ⟨isStep, goesOn, _⟩ := reportedStep_eq_some hasPath stepped
  refine ⟨goesOn, ?_⟩
  rw [List.map_append, exec_append, before.2, Option.bind_some,
    List.map_singleton, exec_cons, isStep]
  rfl

/--
In every run with a reporter that has a directory, the record fails closed in
every state exactly when no append fails; and no failure stops the run, which
goes exactly the way it goes without a reporter.
-/
theorem debateRecord_failsClosed_iff
    {runDir : String}
    {mkdirError : Option String}
    {reporter : StageReporter}
    (created : StageReporter.create (some runDir) mkdirError = .ok reporter)
    {initial : Execution}
    {labels : List ReportedEnv}
    {final : ReportedRun}
    (ran :
      exec (reportedStep reporter) (.start initial) labels = some final) :
    ((∀ earlier later run,
        labels = earlier ++ later →
        exec (reportedStep reporter) (.start initial) earlier = some run →
        run.FailsClosed) ↔
      AllSteps (reportedStep reporter) AppendsAll (.start initial) labels) ∧
    final.stopped = none ∧
    exec step initial (labels.map ReportedEnv.graph) =
      some final.execution := by
  obtain ⟨path, hasPath⟩ : ∃ path, reporter.debatePath = some path := by
    cases mkdirError with
    | none =>
        cases created
        exact ⟨_, rfl⟩
    | some text =>
        cases created
  refine ⟨?_, reportedRun_goesOn hasPath ran⟩
  refine
    everyState_iff_allSteps
      (motive := fun _ run => run.FailsClosed) (Or.inl rfl) ?_ ran
  intro earlier run env next reached before stepped
  have persisted : run.debate.persisted = run.debate.emitted := by
    rcases before with complete | ⟨error, stopped⟩
    · exact complete
    · rw [(reportedRun_goesOn hasPath reached).1] at stopped
      cases stopped
  obtain ⟨isStep, goesOn, emittedAfter, persistedAfter⟩ :=
    reportedStep_eq_some hasPath stepped
  have closed_iff :
      next.FailsClosed ↔ next.debate.persisted = next.debate.emitted := by
    rw [ReportedRun.FailsClosed, goesOn]
    simp
  rw [closed_iff, emittedAfter, persistedAfter, persisted,
    List.append_cancel_left_eq, Reporting.writtenBlocks_eq_iff, AppendsAll,
    isStep]
  simp

end Runs

/-- A run at its start. -/
private def enteredRun : Execution where
  graph :=
    { researchState := { runId := "run", originalQuestion := "question" }
      config := { assumeBrief := true } }
  control := .at .intake
  world := {}

/-- Quiet surroundings in which every append ends in the given way. -/
private def appending (outcome : Append) : ReportedEnv where
  graph := StepEnv.calm Brains.silent
  reporting :=
    { body := fun _ => some "objective: question"
      append := fun _ => outcome
      streamWrites := fun _ => true }

private def enteredReporter : StageReporter where
  debatePath := some "runs/run/debate.md"

/-- The block of the scope is lost on a full disk, and the run goes on. -/
theorem fullDisk_goes_unnoticed :
    letI := PythonText.ascii
    let labels := List.replicate 2 (appending (.osError "No space left"))
    ∃ final,
      exec (reportedStep enteredReporter) (.start enteredRun) labels =
          some final ∧
        final.execution.control = .at .clarify ∧
        final.debate.emitted =
          ["=== [scope] ===\nobjective: question\n\n"] ∧
        final.debate.persisted = [] ∧
        ¬final.FailsClosed := by
  let _ := PythonText.ascii
  let labels := List.replicate 2 (appending (.osError "No space left"))
  let final :=
    (exec (reportedStep enteredReporter) (.start enteredRun) labels).get
      (by decide +kernel)
  have emitted :
      final.debate.emitted =
        ["=== [scope] ===\nobjective: question\n\n"] := by
    decide +kernel
  have persisted : final.debate.persisted = [] := by
    decide +kernel
  have goesOn : final.stopped = none := by
    decide +kernel
  refine
    ⟨final, (Option.some_get _).symm, by decide +kernel, emitted, persisted,
      ?_⟩
  rintro (complete | ⟨error, stopped⟩)
  · rw [emitted, persisted] at complete
    cases complete
  · rw [goesOn] at stopped
    cases stopped

/-- On a disk with room the record of the same run is complete. -/
theorem roomyDisk_failsClosed :
    letI := PythonText.ascii
    let labels := List.replicate 2 (appending .written)
    ∃ final,
      exec (reportedStep enteredReporter) (.start enteredRun) labels =
          some final ∧
        ∀ earlier later run,
          labels = earlier ++ later →
          exec (reportedStep enteredReporter) (.start enteredRun) earlier =
            some run →
          run.FailsClosed := by
  let _ := PythonText.ascii
  let labels := List.replicate 2 (appending .written)
  let final :=
    (exec (reportedStep enteredReporter) (.start enteredRun) labels).get
      (by decide +kernel)
  have ran :
      exec (reportedStep enteredReporter) (.start enteredRun) labels =
        some final :=
    (Option.some_get _).symm
  have created :
      StageReporter.create (some "runs/run") none = .ok enteredReporter :=
    rfl
  refine
    ⟨final, ran, (debateRecord_failsClosed_iff created ran).1.mpr ?_⟩
  intro earlier label later middle shape _
  have isLabel : label = appending .written :=
    List.eq_of_mem_replicate
      (shape ▸ List.mem_append_right earlier List.mem_cons_self)
  rw [isLabel]
  exact fun _ _ _ _ => rfl

end ResearchCos
