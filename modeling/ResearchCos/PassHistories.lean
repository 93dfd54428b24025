import ResearchCos.Collecting
import ResearchCos.NodeUpdates

namespace ResearchCos

open Foundation

/-!
# The histories of the passes

A pass audits once and scores once.  The audit appends the number of open
challenges and the scoring appends its sum under the number of the pass, so the
two histories that the plateau and the convergence are read from stay in step.
-/

/-- A change that leaves the histories of the passes alone. -/
structure KeepsHistories (before after : ResearchState) : Prop where
  iterationCount : after.iterationCount = before.iterationCount
  readinessHistory : after.readinessHistory = before.readinessHistory
  convergenceHistory : after.convergenceHistory = before.convergenceHistory

namespace KeepsHistories

theorem refl
    (rs : ResearchState) :
    KeepsHistories rs rs :=
  ⟨rfl, rfl, rfl⟩

theorem trans
    {first second third : ResearchState}
    (earlier : KeepsHistories first second)
    (later : KeepsHistories second third) :
    KeepsHistories first third :=
  ⟨later.iterationCount.trans earlier.iterationCount,
    later.readinessHistory.trans earlier.readinessHistory,
    later.convergenceHistory.trans earlier.convergenceHistory⟩

/-- Adding an issue. -/
theorem of_add
    {rs after : ResearchState}
    {title description now : String}
    {issueType : IssueType}
    {status : IssueStatus}
    {impact confidence : Int}
    (added :
      IssueMap.add rs title description issueType status now impact
        confidence = some after) :
    KeepsHistories rs after := by
  obtain ⟨node, _, _, rfl⟩ := IssueMap.add_eq_some added
  exact ⟨rfl, rfl, rfl⟩

/-- Adding issues leaves the histories alone. -/
theorem relatesAdded : RelatesAdded KeepsHistories :=
  ⟨refl, .trans, .of_add⟩

end KeepsHistories

/-- What executing a node does to the histories. -/
inductive NodeHistories (before after : ResearchState) : Node → Prop where
  | scored (sum : Int) :
      after.iterationCount = before.iterationCount + 1 →
      after.readinessHistory =
        before.readinessHistory ++
          [{ sum := sum, iteration := before.iterationCount }] →
      after.convergenceHistory = before.convergenceHistory →
      NodeHistories before after .readinessScoring
  | audited (openChallenges : Nat) :
      after.iterationCount = before.iterationCount →
      after.readinessHistory = before.readinessHistory →
      after.convergenceHistory =
        before.convergenceHistory ++ [openChallenges] →
      NodeHistories before after .albertAudit
  | kept {node : Node} :
      node ≠ .readinessScoring →
      node ≠ .albertAudit →
      KeepsHistories before after →
      NodeHistories before after node

/-- Whether the pass has audited and not scored yet when a node is entered. -/
def halfBefore : Node → Nat
  | .artifactUpdate
  | .readinessScoring => 1
  | _ => 0

/-- The same when the node is completed. -/
def halfAfter : Node → Nat
  | .albertAudit
  | .artifactUpdate => 1
  | _ => 0

def halfPass (control : Control) : Nat :=
  control.node?.elim 0 halfBefore

/-- The entries of passes that are numbered from a start. -/
def numberedFrom (start : Int) : List Int → List ReadinessRecord
  | [] => []
  | sum :: later =>
      { sum := sum, iteration := start } :: numberedFrom (start + 1) later

theorem numberedFrom_append
    (start sum : Int)
    (sums : List Int) :
    numberedFrom start (sums ++ [sum]) =
      numberedFrom start sums ++
        [{ sum := sum, iteration := start + sums.length }] := by
  induction sums generalizing start with
  | nil =>
      simp [numberedFrom]
  | cons first later inductionHypothesis =>
      simp only [List.cons_append, numberedFrom, inductionHypothesis,
        List.length_cons, List.cons.injEq, List.append_cancel_left_eq,
        ReadinessRecord.mk.injEq, true_and, and_true]
      omega

section Nodes

variable [PythonText]

/-- What every node does to the histories. -/
theorem NodeUpdate.histories
    {env : StepEnv}
    {state : GraphState}
    {world after : World}
    {node : Node}
    {update : Update}
    (written : NodeUpdate env state world node update after) :
    NodeHistories state.researchState update.researchState node := by
  cases written with
  | scored advised score =>
      exact .scored score.axes.sum rfl rfl rfl
  | audited audit challenges =>
      exact .audited _ rfl rfl rfl
  | issuesPlanned rs expanded
  | cellsPlanned rs _ _ expanded =>
      have kept := KeepsHistories.relatesAdded.expandIssues expanded
      exact
        .kept nofun nofun
          ⟨kept.iterationCount, kept.readinessHistory,
            kept.convergenceHistory⟩
  | issuesExpanded rs expanded =>
      exact
        .kept nofun nofun (KeepsHistories.relatesAdded.expandIssues expanded)
  | branched budget =>
      exact
        .kept nofun nofun
          (KeepsHistories.relatesAdded.materializeCompetitor _ _ budget)
  | pushed _ _ _ _ _ isBlocked =>
      rw [IssueMap.setStatus_eq_some isBlocked]
      exact .kept nofun nofun ⟨rfl, rfl, rfl⟩
  | reviewBuilt _ _ built
  | reviewPassed _ _ _ built
  | reviewAnswered _ _ _ built =>
      obtain ⟨_, _, _, rfl, _⟩ := buildAndGateMemo_eq_some built
      exact .kept nofun nofun ⟨rfl, rfl, rfl⟩
  | _ =>
      exact .kept nofun nofun ⟨rfl, rfl, rfl⟩

/-! ## Runs -/

omit [PythonText] in
/-- The passes that a run has completed since it started. -/
structure Passed
    (start : ResearchState)
    (execution : Execution)
    (sums : List Int) : Prop where
  iterationCount :
    execution.graph.researchState.iterationCount =
      start.iterationCount + sums.length
  readinessHistory :
    execution.graph.researchState.readinessHistory =
      start.readinessHistory ++ numberedFrom start.iterationCount sums
  convergenceHistory :
    ∃ half openChallenges,
      execution.graph.researchState.convergenceHistory =
          start.convergenceHistory ++ openChallenges ∧
        openChallenges.length = sums.length + half ∧
        half ≤ 1 ∧
        (execution.control ≠ .crashed → half = halfPass execution.control)

omit [PythonText] in
/-- The node that follows is entered as the last one is completed. -/
theorem halfPass_successor
    (cap : Option ActiveCap)
    (state : GraphState)
    (node : Node) :
    halfPass ((successor cap state node).1.elim .ended .at) =
      halfAfter node := by
  rw [halfPass, Control.node?_elim]
  cases node with
  | cosDecision =>
      simp only [successor, route, halfAfter]
      repeat' split
      all_goals rfl
  | humanPull =>
      simp only [successor, routeAfterPull, halfAfter]
      repeat' split
      all_goals rfl
  | clarify =>
      simp only [successor, routeAfterClarify, halfAfter]
      split <;> rfl
  | deepAudit =>
      simp only [successor, routeAfterDeepAudit, halfAfter]
      split <;> rfl
  | _ =>
      rfl

omit [PythonText] in
/-- A completed node appends what it appends to the histories of its pass. -/
theorem Passed.update
    {start before after : ResearchState}
    {execution next : Execution}
    {sums : List Int}
    {node : Node}
    (passed : Passed start execution sums)
    (isBefore : execution.graph.researchState = before)
    (isAfter : KeepsHistories after next.graph.researchState)
    (entered : execution.control.node? = some node)
    (moved : halfPass next.control = halfAfter node)
    (histories : NodeHistories before after node) :
    ∃ laterSums, Passed start next laterSums := by
  subst isBefore
  obtain ⟨half, counts, appended, length, atMost, isHalf⟩ :=
    passed.convergenceHistory
  have alive : execution.control ≠ .crashed := by
    intro crashed
    rw [crashed] at entered
    cases entered
  have wasHalf : half = halfBefore node := by
    rw [isHalf alive, halfPass, entered]
    rfl
  cases histories with
  | scored sum iterationCount readinessHistory convergenceHistory =>
      refine ⟨sums ++ [sum], ?_, ?_, 0, counts, ?_, ?_, ?_⟩
      · rw [isAfter.iterationCount, iterationCount, passed.iterationCount]
        simp only [List.length_append, List.length_singleton]
        omega
      · rw [isAfter.readinessHistory, readinessHistory,
          passed.readinessHistory, passed.iterationCount,
          numberedFrom_append, List.append_assoc]
      · rw [isAfter.convergenceHistory, convergenceHistory, appended]
      · rw [length, wasHalf, List.length_append]
        rfl
      · exact ⟨Nat.zero_le 1, fun _ => moved.symm⟩
  | audited openChallenges iterationCount readinessHistory
      convergenceHistory =>
      refine ⟨sums, ?_, ?_, 1, counts ++ [openChallenges], ?_, ?_, ?_⟩
      · rw [isAfter.iterationCount, iterationCount, passed.iterationCount]
      · rw [isAfter.readinessHistory, readinessHistory,
          passed.readinessHistory]
      · rw [isAfter.convergenceHistory, convergenceHistory, appended,
          List.append_assoc]
      · rw [List.length_append, length, wasHalf]
        rfl
      · exact ⟨le_rfl, fun _ => moved.symm⟩
  | kept notScoring notAudit kept =>
      have unchanged : halfBefore node = halfAfter node := by
        cases node with
        | readinessScoring =>
            exact absurd rfl notScoring
        | albertAudit =>
            exact absurd rfl notAudit
        | _ =>
            rfl
      refine ⟨sums, ?_, ?_, half, counts, ?_, length, atMost, ?_⟩
      · rw [isAfter.iterationCount, kept.iterationCount,
          passed.iterationCount]
      · rw [isAfter.readinessHistory, kept.readinessHistory,
          passed.readinessHistory]
      · rw [isAfter.convergenceHistory, kept.convergenceHistory, appended]
      · intro _
        rw [wasHalf, unchanged, moved]

/--
In every run that enters the graph each completed pass has appended one numbered
sum and one count of open challenges, in step with each other.
-/
theorem passes_numbered
    {execution final : Execution}
    {envs : List StepEnv}
    (started : Started execution)
    (ran : exec step execution envs = some final) :
    ∃ sums, Passed execution.graph.researchState final sums := by
  refine
    exec_invariant
      (motive := fun reached =>
        ∃ sums, Passed execution.graph.researchState reached sums)
      ?_ ?_ ran
  · rintro middle env next ⟨sums, passed⟩ stepped
    obtain ⟨node, seen, visits, rfl⟩ := step_visits stepped
    have entered := visits.node?
    have notCrashed : middle.control ≠ .crashed := by
      intro crashed
      rw [crashed] at entered
      cases entered
    rcases visit_cases seen node middle with
      ⟨world, raised⟩ | ⟨ask, world, _, paused⟩ | ⟨update, world, ran, moved⟩
    · rw [raised]
      obtain ⟨half, counts, appended, length, atMost, _⟩ :=
        passed.convergenceHistory
      exact
        ⟨sums,
          { passed with
            convergenceHistory :=
              ⟨half, counts, appended, length, atMost,
                fun alive => absurd rfl alive⟩ }⟩
    · rw [paused]
      obtain ⟨half, counts, appended, length, atMost, isHalf⟩ :=
        passed.convergenceHistory
      have sameHalf : halfPass middle.control = halfPass (.pausedAt node ask) := by
        rw [halfPass, halfPass, entered]
        rfl
      exact
        ⟨sums,
          { passed with
            convergenceHistory :=
              ⟨half, counts, appended, length, atMost,
                fun _ => (isHalf notCrashed).trans sameHalf⟩ }⟩
    · rw [moved]
      refine
        passed.update rfl ?_ entered ?_ (runNode_updates ran).histories
      · rcases successor_state seen.cap (middle.graph.apply update) node with
          same | recorded
        · rw [same]
          exact .refl _
        · rw [recorded]
          exact ⟨rfl, rfl, rfl⟩
      · exact halfPass_successor seen.cap (middle.graph.apply update) node
  · refine ⟨[], ⟨by simp, by simp [numberedFrom], 0, [], by simp, rfl, ?_⟩⟩
    rw [started]
    exact ⟨Nat.zero_le 1, fun _ => rfl⟩

end Nodes

private def unscoredQuestion : Execution where
  graph :=
    { researchState := { runId := "run", originalQuestion := "question" }
      config := { assumeBrief := true } }
  control := .at .intake
  world := {}

/-- Between the audit and the scoring of the second pass. -/
theorem passes_numbered_secondPass :
    letI := PythonText.ascii
    ∃ final,
      exec step unscoredQuestion
          (List.replicate 24 (.calm Brains.silent)) =
        some final ∧
      final.control = .at .artifactUpdate ∧
      ∃ sums, Passed unscoredQuestion.graph.researchState final sums := by
  let _ := PythonText.ascii
  let final :=
    (exec step unscoredQuestion
      (List.replicate 24 (.calm Brains.silent))).get (by decide +kernel)
  have ran :
      exec step unscoredQuestion
          (List.replicate 24 (.calm Brains.silent)) =
        some final :=
    (Option.some_get _).symm
  exact ⟨final, ran, by decide +kernel, passes_numbered rfl ran⟩

end ResearchCos
