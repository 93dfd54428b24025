import ResearchCos.Graph

namespace ResearchCos

open Foundation

/-!
# What a push to a human achieves

A push is decided only when no issue is addressable, and the push node hands
over an addressable issue only.  The two conditions exclude each other, so a
decided push changes nothing.
-/

/-- A blocked issue is covered by an open task with its title as question. -/
def BlockedIssueCovered (rs : ResearchState) : Prop :=
  ∃ node ∈ rs.issueMap.values, isBlocked node.status = true ∧
    ∃ task ∈ rs.humanTasks.values,
      task.status = .open ∧ task.blockingQuestion = node.title

instance (rs : ResearchState) : Decidable (BlockedIssueCovered rs) :=
  inferInstanceAs (Decidable (∃ node ∈ _, _ ∧ ∃ task ∈ _, _))

/-- A decided push leaves the research state alone and finds nothing addressable. -/
theorem decideCos_pushHuman
    {emitDespiteDegradedAudit : Bool}
    {state : GraphState}
    (decided :
      (decideCos emitDespiteDegradedAudit state).lastDecision =
        some .pushHuman) :
    Exhaustion.hasAddressable state.researchState = false ∧
      (decideCos emitDespiteDegradedAudit state).researchState =
        state.researchState := by
  cases stage : cosStage state with
  | residual =>
      refine ⟨?_, by simp [decideCos, stage]⟩
      simp only [cosStage] at stage
      by_contra somethingLeft
      rw [Bool.not_eq_false] at somethingLeft
      simp only [somethingLeft, Bool.not_true, Bool.false_eq_true,
        ↓reduceIte] at stage
      repeat' split at stage
      all_goals cases stage
  | exhausted =>
      rcases gatedDecision_cases emitDespiteDegradedAudit
          state.researchState .terminalStop with passed | refused
      · simp [decideCos, stage, passed] at decided
      · simp [decideCos, stage, refused] at decided
  | saturated =>
      rcases gatedDecision_cases emitDespiteDegradedAudit
          state.researchState .synthesize with passed | refused
      · simp [decideCos, stage, passed] at decided
      · simp [decideCos, stage, refused] at decided
  | _ =>
      simp [decideCos, stage] at decided

/-- Without an addressable issue a push has no target. -/
theorem pushTarget_eq_none
    {rs : ResearchState}
    (nothingLeft : Exhaustion.hasAddressable rs = false) :
    pushTarget rs = none := by
  unfold pushTarget
  rw [List.find?_eq_none]
  intro entry member
  rw [List.mem_insertionSort] at member
  simp only [Exhaustion.hasAddressable, List.any_eq_false] at nothingLeft
  exact nothingLeft entry.2 (List.mem_map_of_mem member)

/-- A push without an addressable issue changes nothing. -/
theorem nodeHumanPush_eq_self
    {state : GraphState}
    (nothingLeft : Exhaustion.hasAddressable state.researchState = false) :
    nodeHumanPush state = some (Update.ofState state.researchState) := by
  simp [nodeHumanPush, pushTarget_eq_none nothingLeft]

/-- After a decided push a blocked issue is covered exactly when one was before. -/
theorem nodeHumanPush_covers_iff
    {emitDespiteDegradedAudit : Bool}
    {state : GraphState}
    (decided :
      (decideCos emitDespiteDegradedAudit state).lastDecision =
        some .pushHuman) :
    (∃ update,
        nodeHumanPush
            (state.apply (decideCos emitDespiteDegradedAudit state)) =
          some update ∧
        BlockedIssueCovered update.researchState) ↔
      BlockedIssueCovered state.researchState := by
  obtain ⟨nothingLeft, unchanged⟩ := decideCos_pushHuman decided
  have applied :
      (state.apply
          (decideCos emitDespiteDegradedAudit state)).researchState =
        state.researchState :=
    unchanged
  have nothingLeftNow :
      Exhaustion.hasAddressable
          (state.apply
            (decideCos emitDespiteDegradedAudit state)).researchState =
        false := by
    rw [applied]
    exact nothingLeft
  have pushed := nodeHumanPush_eq_self nothingLeftNow
  rw [pushed, applied]
  constructor
  · rintro ⟨update, isUpdate, covered⟩
    cases Option.some.inj isUpdate
    exact covered
  · intro covered
    exact ⟨_, rfl, covered⟩

/-- A run that is stuck on one issue without a permission. -/
private def stuckRun (tasks : OrderedMap String HumanTask) : GraphState where
  researchState :=
    { runId := "run"
      originalQuestion := "question"
      issueMap :=
        (∅ : OrderedMap String IssueNode).insert "I-001"
          { id := "I-001", title := "title", description := ""
            issueType := .technical, status := .blockedByPermission
            impact := 3, confidence := 2 }
      humanTasks := tasks
      lastAudit :=
        some { verdict := .continue_, rationale := "rationale" } }
  prereqs :=
    some
      { broadExpansion := true
        albertAuditRan := true
        counterargumentPass := true
        sourceConfidenceChecked := true
        pendingQuestionsExtracted := true
        blockersClassified := true
        explicitContinueExplanation := true }

/-- A stuck run decides to push, and the push records nothing. -/
theorem stuckRun_push_records_nothing :
    (decideCos false (stuckRun ∅)).lastDecision = some .pushHuman ∧
      ¬∃ update,
        nodeHumanPush ((stuckRun ∅).apply (decideCos false (stuckRun ∅))) =
          some update ∧
        BlockedIssueCovered update.researchState := by
  refine ⟨by decide, ?_⟩
  rintro ⟨update, pushed, covered⟩
  have unchanged :
      nodeHumanPush ((stuckRun ∅).apply (decideCos false (stuckRun ∅))) =
        some (Update.ofState (stuckRun ∅).researchState) := by
    decide
  rw [unchanged] at pushed
  cases Option.some.inj pushed
  exact absurd covered (by decide)

/-- A push keeps the task that a human was already given. -/
theorem nodeHumanPush_covers_recordedTask :
    ∃ update,
      nodeHumanPush
          ((stuckRun
              ((∅ : OrderedMap String HumanTask).insert "HT-001"
                { id := "HT-001", taskTitle := "task"
                  blockingQuestion := "title" })).apply
            (decideCos false
              (stuckRun
                ((∅ : OrderedMap String HumanTask).insert "HT-001"
                  { id := "HT-001", taskTitle := "task"
                    blockingQuestion := "title" })))) =
        some update ∧
      BlockedIssueCovered update.researchState :=
  (nodeHumanPush_covers_iff (by decide)).mpr (by decide)

end ResearchCos
