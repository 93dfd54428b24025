import ResearchCos.MemoDelivery
import ResearchCos.Orchestrator
import ResearchCos.ReferenceScan

namespace ResearchCos

open Foundation

/-!
# The bounds of the rated fields

A rating lies between 0 and 5.  It is checked when a record is constructed and
when a dump is read back, and it is not checked when a field is assigned.  Each
operation on a state that keeps its ratings within their bounds has a lemma.
-/

/-! ## Records within their bounds -/

def AlbertChallenge.Valid (known : AlbertChallenge) : Prop :=
  InRange known.confidence

def HumanTask.Valid (task : HumanTask) : Prop :=
  InRange task.priority

def ReadinessScore.Valid (score : ReadinessScore) : Prop :=
  ∀ axis ∈ score.axes, InRange axis

def AuditResult.Valid (audit : AuditResult) : Prop :=
  ∀ raised ∈ audit.challenges, raised.Valid

/-- The bounds checked when a state is read back from its snapshot. -/
structure ResearchState.Valid (rs : ResearchState) : Prop where
  issues : OrderedMap.AllValues IssueNode.Valid rs.issueMap
  challenges : OrderedMap.AllValues AlbertChallenge.Valid rs.albertChallengeMap
  tasks : OrderedMap.AllValues HumanTask.Valid rs.humanTasks
  evidence : ∀ bundle ∈ rs.evidence, bundle.Valid
  readiness : ∀ score ∈ rs.readinessScore, score.Valid
  audit : ∀ audit ∈ rs.lastAudit, audit.Valid

/-- The impact of a cell is rated, but no check of a cell knows the bounds. -/
def TaskCell.InBounds (cell : TaskCell) : Prop :=
  InRange cell.impact

/-- Every rating of a state is within its bounds. -/
structure ResearchState.InBounds (rs : ResearchState) : Prop where
  valid : rs.Valid
  cells : OrderedMap.AllValues TaskCell.InBounds (Orchestrator.plannedCells rs)

instance (known : AlbertChallenge) : Decidable known.Valid :=
  inferInstanceAs (Decidable (InRange _))

instance (task : HumanTask) : Decidable task.Valid :=
  inferInstanceAs (Decidable (InRange _))

instance (score : ReadinessScore) : Decidable score.Valid :=
  inferInstanceAs (Decidable (∀ axis ∈ score.axes, InRange axis))

instance (audit : AuditResult) : Decidable audit.Valid :=
  inferInstanceAs (Decidable (∀ raised ∈ audit.challenges, raised.Valid))

instance (cell : TaskCell) : Decidable cell.InBounds :=
  inferInstanceAs (Decidable (InRange _))

instance {κ ν : Type} (property : ν → Prop) [DecidablePred property]
    (map : OrderedMap κ ν) : Decidable (OrderedMap.AllValues property map) :=
  inferInstanceAs (Decidable (∀ value ∈ map.values, property value))

/-- The checks of a state, one after the other. -/
theorem ResearchState.valid_iff
    (rs : ResearchState) :
    rs.Valid ↔
      OrderedMap.AllValues IssueNode.Valid rs.issueMap ∧
        OrderedMap.AllValues AlbertChallenge.Valid rs.albertChallengeMap ∧
        OrderedMap.AllValues HumanTask.Valid rs.humanTasks ∧
        (∀ bundle ∈ rs.evidence, bundle.Valid) ∧
        (∀ score ∈ rs.readinessScore, score.Valid) ∧
        ∀ audit ∈ rs.lastAudit, audit.Valid :=
  ⟨fun valid =>
      ⟨valid.issues, valid.challenges, valid.tasks, valid.evidence,
        valid.readiness, valid.audit⟩,
    fun ⟨issues, challenges, tasks, evidence, readiness, audit⟩ =>
      ⟨issues, challenges, tasks, evidence, readiness, audit⟩⟩

instance (rs : ResearchState) : Decidable rs.Valid :=
  decidable_of_iff _ rs.valid_iff.symm

/-! ## Snapshots -/

/-- Reading a dumped state back; `none` is a validation error. -/
def ResearchState.modelValidate (raw : ResearchState) : Option ResearchState :=
  if raw.Valid then some raw else none

/-- The state in the snapshot; `none` when there is none or it is refused. -/
def loadSnapshot (world : World) : Option ResearchState :=
  world.snapshot.bind ResearchState.modelValidate

/-- A saved state loads exactly when it is within the checked bounds. -/
theorem loadSnapshot_saveSnapshot
    {rs : ResearchState}
    {world : World} :
    loadSnapshot (saveSnapshot rs world) = some rs ↔ rs.Valid := by
  simp [loadSnapshot, saveSnapshot, ResearchState.modelValidate]

/-! ## Changes that stay within the bounds -/

/-- Everything of a state that holds ratings. -/
def ResearchState.rated (rs : ResearchState) :=
  (rs.issueMap, rs.albertChallengeMap, rs.humanTasks, rs.evidence,
    rs.readinessScore, rs.lastAudit, rs.taskGrid)

namespace ResearchState.InBounds

variable {rs after : ResearchState}

/-- A change of anything else. -/
theorem congr
    (inBounds : rs.InBounds)
    (same : after.rated = rs.rated) :
    after.InBounds := by
  simp only [rated, Prod.mk.injEq] at same
  obtain ⟨issues, challenges, tasks, evidence, readiness, audit, grid⟩ := same
  refine ⟨⟨?_, ?_, ?_, ?_, ?_, ?_⟩, ?_⟩
  · exact issues ▸ inBounds.valid.issues
  · exact challenges ▸ inBounds.valid.challenges
  · exact tasks ▸ inBounds.valid.tasks
  · exact evidence ▸ inBounds.valid.evidence
  · exact readiness ▸ inBounds.valid.readiness
  · exact audit ▸ inBounds.valid.audit
  · simpa only [Orchestrator.plannedCells, grid] using inBounds.cells

theorem withIssues
    {issues : OrderedMap String IssueNode}
    (inBounds : rs.InBounds)
    (valid : OrderedMap.AllValues IssueNode.Valid issues) :
    { rs with issueMap := issues }.InBounds :=
  ⟨{ inBounds.valid with issues := valid }, inBounds.cells⟩

theorem withTasks
    {tasks : OrderedMap String HumanTask}
    (inBounds : rs.InBounds)
    (valid : OrderedMap.AllValues HumanTask.Valid tasks) :
    { rs with humanTasks := tasks }.InBounds :=
  ⟨{ inBounds.valid with tasks := valid }, inBounds.cells⟩

theorem withEvidence
    {evidence : List EvidenceBundle}
    (inBounds : rs.InBounds)
    (valid : ∀ bundle ∈ evidence, bundle.Valid) :
    { rs with evidence := evidence }.InBounds :=
  ⟨{ inBounds.valid with evidence := valid }, inBounds.cells⟩

theorem withAudit
    {audit : AuditResult}
    (inBounds : rs.InBounds)
    (valid : audit.Valid) :
    { rs with lastAudit := some audit }.InBounds :=
  ⟨{ inBounds.valid with
      audit := fun _ stored => Option.some.inj stored ▸ valid },
    inBounds.cells⟩

theorem withChallenges
    {challenges : OrderedMap String AlbertChallenge}
    (inBounds : rs.InBounds)
    (valid : OrderedMap.AllValues AlbertChallenge.Valid challenges) :
    { rs with albertChallengeMap := challenges }.InBounds :=
  ⟨{ inBounds.valid with challenges := valid }, inBounds.cells⟩

theorem withReadiness
    {score : ReadinessScore}
    (inBounds : rs.InBounds)
    (valid : score.Valid) :
    { rs with readinessScore := some score }.InBounds :=
  ⟨{ inBounds.valid with
      readiness := fun _ stored => Option.some.inj stored ▸ valid },
    inBounds.cells⟩

theorem withGrid
    {grid : TaskGrid}
    (inBounds : rs.InBounds)
    (cells : OrderedMap.AllValues TaskCell.InBounds grid.cells) :
    { rs with taskGrid := some grid }.InBounds :=
  ⟨{ inBounds.valid with }, cells⟩

/-- A change of the issues that keeps their ratings. -/
theorem mapIssues
    (inBounds : rs.InBounds)
    (change : IssueNode → IssueNode)
    (keeps : ∀ node, node.Valid → (change node).Valid) :
    { rs with issueMap := rs.issueMap.mapValues change }.InBounds :=
  inBounds.withIssues (inBounds.valid.issues.mapValues keeps)

end ResearchState.InBounds

/-! ## Issues -/

/-- A steer raises an impact up to the upper bound. -/
theorem applySteerText_valid
    (text : String)
    (node : IssueNode)
    (valid : node.Valid) :
    (applySteerText text node).Valid := by
  obtain ⟨impact, confidence⟩ := valid
  simp only [applySteerText]
  split
  · refine ⟨?_, confidence⟩
    simp only [InRange] at impact ⊢
    omega
  · exact ⟨impact, confidence⟩

theorem consumeSteerEvents_inBounds
    {rs : ResearchState}
    (inBounds : rs.InBounds) :
    (consumeSteerEvents rs).InBounds := by
  have bumped :=
    consumeSteers_invariant
      (fun text _ valid => valid.mapValues (applySteerText_valid text))
      rs.steeringEvents inBounds.valid.issues
  exact (inBounds.withIssues bumped).congr rfl

/-- An issue is checked when it is added. -/
theorem relatesAdded_inBounds :
    RelatesAdded fun before after => before.InBounds → after.InBounds where
  refl := fun _ inBounds => inBounds
  trans := fun earlier later inBounds => later (earlier inBounds)
  add := by
    intro rs after title description now issueType impact confidence added
      inBounds
    obtain ⟨node, valid, _, rfl⟩ := IssueMap.add_eq_some added
    exact inBounds.withIssues (inBounds.valid.issues.insert valid)

theorem setStatus_inBounds
    {rs after : ResearchState}
    {issueId now : String}
    {status : IssueStatus}
    (set : IssueMap.setStatus rs issueId status now = some after)
    (inBounds : rs.InBounds) :
    after.InBounds := by
  have sameRatings :
      ∀ node : IssueNode, node.Valid → (node.setStatus status now).Valid :=
    fun _ valid => valid
  rw [IssueMap.setStatus_eq_some set]
  exact inBounds.withIssues (inBounds.valid.issues.modify sameRatings _)

/-- The confidence of an answered issue is a constant within the bounds. -/
theorem advanceIssue_valid
    (now query : String)
    (node : IssueNode)
    (valid : node.Valid) :
    (advanceIssue now query node).Valid := by
  have constant : InRange 4 := by decide
  simp only [advanceIssue]
  split
  · exact valid
  · exact valid
  · exact ⟨valid.1, constant⟩
  · exact valid

/-! ## Evidence -/

/-- What is recorded was read back, so it is within its bounds. -/
theorem foldBundle_inBounds
    {now : String}
    {rs : ResearchState}
    {bundle : EvidenceBundle}
    (inBounds : rs.InBounds)
    (valid : bundle.Valid) :
    (foldBundle now rs bundle).InBounds := by
  have recorded : ∀ known ∈ rs.evidence ++ [bundle], known.Valid := by
    intro known member
    rcases List.mem_append.mp member with before | new
    · exact inBounds.valid.evidence known before
    · rw [List.mem_singleton.mp new]
      exact valid
  refine (inBounds.withEvidence recorded).withIssues ?_
  simp only [advanceIssues]
  split
  · exact inBounds.valid.issues
  · split
    · exact inBounds.valid.issues
    · exact
        inBounds.valid.issues.modify (advanceIssue_valid now bundle.query) _

theorem foldWorkerResults_inBounds
    {env : StepEnv}
    {now : String}
    {raws : List EvidenceBundle}
    {rs : ResearchState}
    {world after : World}
    {attempts : Nat}
    {outcome : Option ResearchState}
    (inBounds : rs.InBounds)
    (folds :
      foldWorkerResults env now raws rs world attempts = (outcome, after)) :
    (∀ folded ∈ outcome, folded.InBounds) ∧
      after.snapshot = world.snapshot := by
  induction raws generalizing rs world attempts with
  | nil =>
      cases folds
      exact ⟨fun _ same => Option.some.inj same ▸ inBounds, rfl⟩
  | cons raw rest inductionHypothesis =>
      simp only [foldWorkerResults] at folds
      cases validated : raw.modelValidate with
      | none =>
          rw [validated] at folds
          cases folds
          exact ⟨fun _ folded => absurd folded (Option.not_mem_none _), rfl⟩
      | some bundle =>
          rw [validated] at folds
          obtain ⟨rfl, valid⟩ := EvidenceBundle.modelValidate_eq_some validated
          have saved :
              (persistBundle env (foldBundle now rs bundle) bundle world
                attempts).1.InBounds :=
            (foldBundle_inBounds inBounds valid).congr rfl
          obtain ⟨inBoundsLater, snapshotLater⟩ :=
            inductionHypothesis saved folds
          exact ⟨inBoundsLater, snapshotLater⟩

/-- A result within its bounds never fails to be folded. -/
theorem foldWorkerResults_isSome
    {env : StepEnv}
    {now : String}
    {raws : List EvidenceBundle}
    (valid : ∀ raw ∈ raws, raw.Valid)
    (rs : ResearchState)
    (world : World)
    (attempts : Nat) :
    (foldWorkerResults env now raws rs world attempts).1.isSome = true := by
  induction raws generalizing rs world attempts with
  | nil =>
      rfl
  | cons raw rest inductionHypothesis =>
      have readBack : raw.modelValidate = some raw :=
        if_pos (valid raw List.mem_cons_self)
      simp only [foldWorkerResults, readBack]
      exact
        inductionHypothesis
          (fun later member => valid later (List.mem_cons_of_mem _ member))
          _ _ _

/-- The evidence of a dropped file leaves its confidence at the default. -/
theorem bundleOf_valid
    {path : ReferencePath}
    {conversion : Conversion}
    {bundle : EvidenceBundle}
    (isBundle : ReferenceStore.bundleOf path conversion = some bundle) :
    bundle.Valid := by
  have unrated : InRange 0 := by decide
  have nothing :
      ∀ query gaps,
        EvidenceBundle.Valid { query := query, coverageGaps := gaps } :=
    fun _ _ => ⟨by simp, by simp⟩
  cases conversion with
  | fragment text =>
      cases isBundle
      refine ⟨?_, fun _ member => nomatch member⟩
      intro claim member
      simp only [ReferenceStore.bundleFromFragment] at member
      split at member
      · cases member
      · rw [List.mem_singleton.mp member]
        exact unrated
  | unsupported message =>
      cases isBundle
      exact nothing _ _
  | scriptError message =>
      cases isBundle
      exact nothing _ _
  | unexpected =>
      cases isBundle

section Casing

variable [PythonText]

theorem collectReferences_inBounds
    {converters : Converters}
    {folder : ReferenceFolder}
    {rs : ResearchState}
    (inBounds : rs.InBounds) :
    (collectReferences converters folder rs).InBounds := by
  have recorded :
      ∀ bundle ∈ (collectReferences converters folder rs).evidence,
        bundle.Valid := by
    by_cases completes :
        ReferenceStore.ScanCompletes converters folder rs.processedReferences
    · rw [ReferenceStore.evidence_of_scanCompletes completes]
      intro bundle member
      rcases List.mem_append.mp member with before | new
      · exact inBounds.valid.evidence bundle before
      · obtain ⟨entry, _, isBundle⟩ := List.mem_filterMap.mp new
        exact bundleOf_valid isBundle
    · rw [ReferenceStore.evidence_of_scanRaises completes]
      exact inBounds.valid.evidence
  exact (inBounds.withEvidence recorded).congr rfl

/-- Classifying a cell does not rate it. -/
theorem classifyGridCells_inBounds
    {rs : ResearchState}
    (inBounds : rs.InBounds) :
    (CellGates.classifyGridCells rs).InBounds := by
  have sameImpact :
      ∀ cell : TaskCell, cell.InBounds →
        (CellGates.reclassify rs.evidence cell).InBounds := by
    intro cell
    simp only [CellGates.reclassify]
    split <;> exact id
  cases isGrid : rs.taskGrid with
  | none =>
      refine inBounds.congr ?_
      simp only [ResearchState.rated, CellGates.classifyGridCells, isGrid,
        Option.map_none]
  | some grid =>
      have cells : OrderedMap.AllValues TaskCell.InBounds grid.cells := by
        simpa only [Orchestrator.plannedCells, isGrid] using inBounds.cells
      simp only [CellGates.classifyGridCells, isGrid, Option.map_some]
      exact inBounds.withGrid (cells.mapValues sameImpact)

/-! ## Challenges -/

/-- A merge takes the confidence over, and an added challenge is checked. -/
theorem upsert_valid
    {challenges after : OrderedMap String AlbertChallenge}
    {raised : RaisedChallenge}
    {key : String}
    (valid : OrderedMap.AllValues AlbertChallenge.Valid challenges)
    (rated : ∀ confidence ∈ raised.confidence, InRange confidence)
    (upserted : ChallengeMap.upsert challenges raised = some (after, key)) :
    OrderedMap.AllValues AlbertChallenge.Valid after := by
  simp only [ChallengeMap.upsert] at upserted
  split at upserted
  · cases upserted
    refine valid.modify (fun known knownValid => ?_) key
    simp only [AlbertChallenge.Valid, ChallengeMap.merge]
    cases given : raised.confidence with
    | none =>
        exact knownValid
    | some confidence =>
        exact rated confidence given
  · split at upserted
    · rename_i inRange
      cases upserted
      exact valid.insert inRange
    · cases upserted

theorem recordChallenge_valid
    {challenges after : OrderedMap String AlbertChallenge}
    {challenge : AlbertChallenge}
    (valid : OrderedMap.AllValues AlbertChallenge.Valid challenges)
    (raisedValid : challenge.Valid)
    (recorded : recordChallenge challenges challenge = some after) :
    OrderedMap.AllValues AlbertChallenge.Valid after := by
  obtain ⟨⟨upserted, key⟩, isUpserted, rfl⟩ :=
    Option.map_eq_some_iff.mp recorded
  refine (upsert_valid valid ?_ isUpserted).modify ?_ key
  · intro confidence given
    simp only [Option.mem_def] at given
    split at given
    · cases given
    · cases given
      exact raisedValid
  · intro merged mergedValid
    split <;> exact mergedValid

theorem recordChallenges_valid
    {raised : List AlbertChallenge}
    {challenges after : OrderedMap String AlbertChallenge}
    (valid : OrderedMap.AllValues AlbertChallenge.Valid challenges)
    (raisedValid : ∀ challenge ∈ raised, challenge.Valid)
    (recorded : recordChallenges raised challenges = some after) :
    OrderedMap.AllValues AlbertChallenge.Valid after := by
  induction raised generalizing challenges with
  | nil =>
      cases recorded
      exact valid
  | cons challenge rest inductionHypothesis =>
      obtain ⟨middle, first, later⟩ := Option.bind_eq_some_iff.mp recorded
      exact
        inductionHypothesis
          (recordChallenge_valid valid (raisedValid _ List.mem_cons_self) first)
          (fun other member =>
            raisedValid other (List.mem_cons_of_mem _ member))
          later

omit [PythonText] in
/-- No challenge is both resolved and handed to a human. -/
theorem resolvedCount_add_escalatedCount_le
    (rs : ResearchState) :
    Convergence.resolvedCount rs + Convergence.escalatedCount rs ≤
      rs.albertChallengeMap.size := by
  have disjoint :
      ∀ challenge ∈ rs.albertChallengeMap.values,
        Convergence.isHumanBlocked challenge.status = true →
          decide (¬Convergence.isResolved challenge.status = true) = true := by
    intro challenge _
    cases challenge.status <;> decide
  have split :=
    List.length_eq_countP_add_countP
      (fun challenge : AlbertChallenge =>
        Convergence.isResolved challenge.status)
      (l := rs.albertChallengeMap.values)
  have atMost := List.countP_mono_left disjoint
  have sameLength :
      rs.albertChallengeMap.values.length = rs.albertChallengeMap.size := by
    simp [OrderedMap.values, OrderedMap.size]
  simp only [Convergence.resolvedCount, Convergence.escalatedCount]
  omega

omit [PythonText] in
/-- The share of the challenges that are settled, on the scale of a rating. -/
theorem albertChallengeReadiness_inRange
    (rs : ResearchState) :
    InRange (Convergence.albertChallengeReadiness rs) := by
  have settled := resolvedCount_add_escalatedCount_le rs
  simp only [Convergence.albertChallengeReadiness]
  split
  · decide
  · rename_i someChallenge
    have total : (0 : ℚ) < rs.albertChallengeMap.size := by
      exact_mod_cast Nat.pos_of_ne_zero someChallenge
    have share :
        ((Convergence.resolvedCount rs + Convergence.escalatedCount rs : Nat) :
            ℚ) ≤
          rs.albertChallengeMap.size := by
      exact_mod_cast settled
    refine roundHalfEven_between ?_ ?_
    · push_cast
      positivity
    · rw [div_le_iff₀ total]
      push_cast at share ⊢
      linarith

/-! ## Tasks -/

omit [PythonText] in
theorem blockedCellTask_valid
    (cell : TaskCell) :
    (blockedCellTask cell).Valid :=
  (by decide : InRange 5)

omit [PythonText] in
theorem supplementTask_valid
    (tasks : OrderedMap String HumanTask)
    (claimText : String) :
    (DecisionMemo.supplementTask tasks claimText).Valid :=
  (by decide : InRange 5)

omit [PythonText] in
theorem mintBlockedCellTasks_inBounds
    {rs : ResearchState}
    (inBounds : rs.InBounds) :
    (mintBlockedCellTasks rs).InBounds := by
  simp only [mintBlockedCellTasks]
  split
  · exact inBounds
  · rename_i grid isGrid
    refine inBounds.withTasks ?_
    have valid := inBounds.valid.tasks
    generalize rs.humanTasks = tasks at valid ⊢
    induction grid.cells.values generalizing tasks with
    | nil =>
        exact valid
    | cons cell rest inductionHypothesis =>
        rw [List.foldl_cons]
        refine inductionHypothesis _ ?_
        split
        · exact valid.insert (blockedCellTask_valid cell)
        · exact valid

omit [PythonText] in
theorem notifyNeedsSupplement_inBounds
    {rs after : ResearchState}
    {memo : Memo}
    {world later : World}
    (inBounds : rs.InBounds)
    (notified : notifyNeedsSupplement rs memo world = (after, later)) :
    after.InBounds ∧ later.snapshot = world.snapshot := by
  have minted := mintBlockedCellTasks_inBounds inBounds
  simp only [notifyNeedsSupplement] at notified
  split at notified
  · cases notified
    exact ⟨minted, rfl⟩
  · cases notified
    exact ⟨minted.congr rfl, rfl⟩

/-- Routing adds tasks whose priority is a constant within the bounds. -/
theorem routeClaims_valid
    {state : ResearchState}
    {claims : List (Claim × Option String)}
    {tasks after : OrderedMap String HumanTask}
    {existingInputs : List String}
    {result finalResult : DecisionMemo.RouteResult}
    (valid : OrderedMap.AllValues HumanTask.Valid tasks)
    (routed :
      DecisionMemo.routeClaims state claims tasks existingInputs result =
        some (finalResult, after)) :
    OrderedMap.AllValues HumanTask.Valid after := by
  induction claims generalizing tasks existingInputs result with
  | nil =>
      cases routed
      exact valid
  | cons head rest inductionHypothesis =>
      obtain ⟨claim, issueId⟩ := head
      simp only [DecisionMemo.routeClaims] at routed
      split at routed
      · exact inductionHypothesis valid routed
      · exact inductionHypothesis valid routed
      · split at routed
        · split at routed
          · cases routed
          · exact inductionHypothesis valid routed
        · exact
            inductionHypothesis (valid.insert (supplementTask_valid _ _))
              routed

theorem assembleMemo_inBounds
    {rs assembled : ResearchState}
    {prose : Prose}
    {memo : Memo}
    (inBounds : rs.InBounds)
    (assembly : DecisionMemo.assembleMemo rs prose = some (memo, assembled)) :
    assembled.InBounds := by
  simp only [DecisionMemo.assembleMemo, DecisionMemo.routeCitations,
    Option.map_map, Option.map_eq_some_iff, Function.comp_apply, Prod.exists,
    Prod.mk.injEq] at assembly
  obtain ⟨result, tasks, routed, _, rfl⟩ := assembly
  exact inBounds.withTasks (routeClaims_valid inBounds.valid.tasks routed)

theorem buildAndGateMemo_inBounds
    {env : StepEnv}
    {state : GraphState}
    {world after : World}
    {rs : ResearchState}
    (inBounds : state.researchState.InBounds)
    (built : buildAndGateMemo env state world = some (rs, after)) :
    rs.InBounds ∧ after.snapshot = world.snapshot := by
  simp only [buildAndGateMemo] at built
  split at built
  · cases built
    exact ⟨inBounds, rfl⟩
  · obtain ⟨prose, _, assembles⟩ := Option.bind_eq_some_iff.mp built
    obtain ⟨⟨memo, assembled⟩, isAssembled, notified⟩ :=
      Option.map_eq_some_iff.mp assembles
    have stored := assembleMemo_inBounds inBounds isAssembled
    refine notifyNeedsSupplement_inBounds ?_ notified
    exact stored.congr rfl

end Casing

end ResearchCos
