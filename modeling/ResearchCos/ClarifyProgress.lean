import ResearchCos.Collecting

namespace ResearchCos

open Foundation

/-!
# Answers to the clarification

An answer at the clarification gate is recorded as an event.  The gate reads
four fields of the brief, and no answer writes one of them.
-/

section Clarification

variable [PythonText]

omit [PythonText] in
/-- What a recorded answer leaves behind: more events and nothing else. -/
theorem nodeClarify_answered
    {env : StepEnv}
    {state : GraphState}
    {world after : World}
    {update : Update}
    (missingSome : Clarify.clarifyConverged state.researchState = false)
    (notAssumed : state.config.assumeBrief = false)
    (updated : nodeClarify env state world = .update update after) :
    ∃ events,
      update =
        Update.ofState
          { state.researchState with steeringEvents := events } := by
  simp only [nodeClarify, missingSome, notAssumed, Bool.false_eq_true,
    ↓reduceIte] at updated
  split at updated
  · cases updated
  · split at updated
    · cases updated
    · cases updated
      exact ⟨_, rfl⟩

/-- A run in the clarification whose brief is neither pinned down nor assumed. -/
structure Clarifying (missing : List Criterion) (execution : Execution) :
    Prop where
  missingCriteria :
    Clarify.missingCriteria execution.graph.researchState = missing
  notAssumed : execution.graph.config.assumeBrief = false
  notConverged : execution.graph.researchState.clarifyConverged = false
  stands :
    execution.control.node? = some .clarify ∨ execution.control = .crashed

/-- A step in the clarification stays there with the same criteria missing. -/
theorem Clarifying.step
    {missing : List Criterion}
    {execution next : Execution}
    {env : StepEnv}
    (clarifying : Clarifying missing execution)
    (missingSome : missing ≠ [])
    (stepped : ResearchCos.step execution env = some next) :
    Clarifying missing next := by
  obtain ⟨node, seen, visits, visited⟩ := step_visits stepped
  have atClarify : node = .clarify := by
    rcases clarifying.stands with stands | crashed
    · exact Option.some.inj (visits.node?.symm.trans stands)
    · have standsNowhere := visits.node?
      rw [crashed] at standsNowhere
      cases standsNowhere
  subst atClarify
  have open_ :
      Clarify.clarifyConverged execution.graph.researchState = false := by
    simp [Clarify.clarifyConverged, clarifying.missingCriteria, missingSome]
  rcases visit_cases seen .clarify execution with
    ⟨world, raised⟩ | ⟨ask, world, _, paused⟩ | ⟨update, world, ran, moved⟩
  · rw [visited, raised]
    exact
      { clarifying with stands := Or.inr rfl }
  · rw [visited, paused]
    exact
      { clarifying with stands := Or.inl rfl }
  · obtain ⟨events, onlyEvents⟩ :=
      nodeClarify_answered open_ clarifying.notAssumed ran
    rw [visited, moved, onlyEvents]
    exact
      { missingCriteria := clarifying.missingCriteria
        notAssumed := clarifying.notAssumed
        notConverged := clarifying.notConverged
        stands := by
          simp [successor, routeAfterClarify, GraphState.apply,
            Update.ofState, clarifying.notConverged, Control.node?] }

/--
No answer pins a criterion: every answered execution of the gate leaves the
same criteria missing, and a run that still has to clarify never gets past the
gate, however often the human answers.
-/
theorem clarification_never_progresses :
    (∀ (env : StepEnv) (state : GraphState) (world after : World)
        (update : Update),
        Clarify.clarifyConverged state.researchState = false →
        state.config.assumeBrief = false →
        nodeClarify env state world = .update update after →
        Clarify.missingCriteria update.researchState =
          Clarify.missingCriteria state.researchState) ∧
      ∀ (execution reached : Execution) (labels : List StepEnv),
        execution.control = .at .clarify →
        Clarify.clarifyConverged execution.graph.researchState = false →
        execution.graph.config.assumeBrief = false →
        execution.graph.researchState.clarifyConverged = false →
        exec step execution labels = some reached →
        Clarify.missingCriteria reached.graph.researchState =
            Clarify.missingCriteria execution.graph.researchState ∧
          (reached.control.node? = some .clarify ∨
            reached.control = .crashed) := by
  constructor
  · intro env state world after update missingSome notAssumed updated
    obtain ⟨events, onlyEvents⟩ :=
      nodeClarify_answered missingSome notAssumed updated
    rw [onlyEvents]
    rfl
  · intro execution reached labels atClarify missingSome notAssumed
      notConverged ran
    have notEmpty :
        Clarify.missingCriteria execution.graph.researchState ≠ [] := by
      simpa [Clarify.clarifyConverged] using missingSome
    have clarifying :
        Clarifying (Clarify.missingCriteria execution.graph.researchState)
          reached :=
      exec_invariant
        (fun before stepped => before.step notEmpty stepped)
        { missingCriteria := rfl
          notAssumed := notAssumed
          notConverged := notConverged
          stands := Or.inl (by rw [atClarify]; rfl) }
        ran
    exact ⟨clarifying.missingCriteria, clarifying.stands⟩

end Clarification

/-- A run that enters the clarification with nothing pinned down. -/
private def unclarifiedRun : Execution where
  graph :=
    { researchState := { runId := "run", originalQuestion := "question" } }
  control := .at .clarify
  world := {}

/-- Surroundings in which the human answers every question. -/
private def answeringHuman : StepEnv :=
  { StepEnv.calm Brains.silent with
    answer := some (.text "purpose, scope, success and constraints") }

/-- After five answers all four criteria are missing, and the gate asks again. -/
theorem fiveAnswers_leave_all_missing :
    letI := PythonText.ascii
    ∃ reached,
      exec step unclarifiedRun (List.replicate 11 answeringHuman) =
          some reached ∧
        reached.control.node? = some .clarify ∧
        Clarify.missingCriteria reached.graph.researchState =
          [.purpose, .scope, .success, .constraints] ∧
        (reached.graph.researchState.steeringEvents.countP fun event =>
          match event with
          | .clarifyAnswer _ _ => true
          | _ => false) = 5 := by
  let _ := PythonText.ascii
  let reached :=
    (exec step unclarifiedRun (List.replicate 11 answeringHuman)).get
      (by decide +kernel)
  exact ⟨reached, (Option.some_get _).symm, by decide +kernel⟩

/-- An answered round of a run that still has to clarify. -/
theorem answeredRound_never_progresses :
    letI := PythonText.ascii
    ∃ reached,
      exec step unclarifiedRun (List.replicate 2 answeringHuman) =
          some reached ∧
        Clarify.missingCriteria reached.graph.researchState =
          Clarify.missingCriteria unclarifiedRun.graph.researchState := by
  let _ := PythonText.ascii
  let reached :=
    (exec step unclarifiedRun (List.replicate 2 answeringHuman)).get
      (by decide +kernel)
  have ran :
      exec step unclarifiedRun (List.replicate 2 answeringHuman) =
        some reached :=
    (Option.some_get _).symm
  exact ⟨reached, ran,
    (clarification_never_progresses.2 unclarifiedRun reached _ rfl
      (by decide +kernel) rfl rfl ran).1⟩

end ResearchCos
