import ResearchCos.Collecting

namespace ResearchCos

open Foundation

/-!
# Task identifiers along a run

Three sites mint the identifier of a new task from the number of tasks.  None of
them ever meets an identifier that is in use, in no run that starts without
tasks; so a memo can be assembled at any point of it.
-/

section Runs

variable [PythonText]

/-- No step takes an identifier that is still to be minted. -/
theorem step_freshIds
    {execution next : Execution}
    {env : StepEnv}
    (fresh :
      HumanTasks.FreshIds execution.graph.researchState.humanTasks)
    (stepped : step execution env = some next) :
    HumanTasks.FreshIds next.graph.researchState.humanTasks := by
  cases step_outcome stepped with
  | lost _ _ unchanged _ =>
      rw [unchanged]
      exact fresh
  | collected _ collects =>
      rw [collects.humanTasks]
      exact fresh
  | researched _ kept _ _ _ =>
      exact kept.taskIds fresh
  | idle _ _ kept _ _ _ =>
      exact kept.taskIds fresh

/-- Along every run the identifiers to come stay unused. -/
theorem freshIds_of_run
    {initial reached : Execution}
    {labels : List StepEnv}
    (fresh :
      HumanTasks.FreshIds initial.graph.researchState.humanTasks)
    (ran : exec step initial labels = some reached) :
    HumanTasks.FreshIds reached.graph.researchState.humanTasks :=
  exec_invariant
    (motive := fun execution =>
      HumanTasks.FreshIds execution.graph.researchState.humanTasks)
    step_freshIds fresh ran

/-- Wherever a run stands, a memo is assembled and its flagged texts are asked for. -/
theorem assembleMemo_of_run
    {initial reached : Execution}
    {labels : List StepEnv}
    (noTasks : initial.graph.researchState.humanTasks = ∅)
    (ran : exec step initial labels = some reached)
    (prose : Prose) :
    ∃ memo assembled,
      DecisionMemo.assembleMemo reached.graph.researchState prose =
          some (memo, assembled) ∧
        ∀ text ∈ memo.needsSupplement,
          DecisionMemo.IsRequested assembled.humanTasks text := by
  have fresh :
      HumanTasks.FreshIds initial.graph.researchState.humanTasks := by
    rw [noTasks]
    exact HumanTasks.freshIds_empty
  obtain ⟨memo, assembled, assembly, _, requested⟩ :=
    DecisionMemo.assembleMemo_recorded prose (freshIds_of_run fresh ran)
  exact ⟨memo, assembled, assembly, requested⟩

end Runs

end ResearchCos
