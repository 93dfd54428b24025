import ResearchCos.NodeRecords
import ResearchCos.StopGates

namespace ResearchCos

open Foundation

/-!
# The flag of the expansion

The flag is one of the seven that a run must raise before it may stop.  The
expansion raises it, but the head of the loop fills the issue map first and
raises nothing.  Once the map is filled, the expansion has nothing left to do.
-/

/-- No issue is taken out of the map. -/
def KeepsIssues (before after : ResearchState) : Prop :=
  before.issueMap.keys <+: after.issueMap.keys

namespace KeepsIssues

/-- The issues stay the same. -/
theorem of_keys
    {before after : ResearchState}
    (keys : after.issueMap.keys = before.issueMap.keys) :
    KeepsIssues before after := by
  rw [KeepsIssues, keys]

theorem of_eq
    {before after : ResearchState}
    (issueMap : after.issueMap = before.issueMap) :
    KeepsIssues before after :=
  .of_keys (by rw [issueMap])

theorem trans
    {first second third : ResearchState}
    (earlier : KeepsIssues first second)
    (later : KeepsIssues second third) :
    KeepsIssues first third :=
  List.IsPrefix.trans earlier later

/-- Adding an issue. -/
theorem of_add
    {rs after : ResearchState}
    {title description now : String}
    {issueType : IssueType}
    {status : IssueStatus}
    {impact confidence : Int}
    (added :
      IssueMap.add rs title description issueType status now impact
        confidence = some after) :
    KeepsIssues rs after := by
  obtain ⟨node, _, _, rfl⟩ := IssueMap.add_eq_some added
  exact OrderedMap.keys_prefix_insert _ _ _

/-- Setting the status of an issue. -/
theorem of_setStatus
    {rs after : ResearchState}
    {issueId now : String}
    {status : IssueStatus}
    (set : IssueMap.setStatus rs issueId status now = some after) :
    KeepsIssues rs after := by
  rw [IssueMap.setStatus_eq_some set]
  exact .of_keys (OrderedMap.keys_modify _ _ _)

/-- A map that has an issue keeps one. -/
theorem filled
    {before after : ResearchState}
    (kept : KeepsIssues before after)
    (filled : before.issueMap.entries ≠ []) :
    after.issueMap.entries ≠ [] := by
  intro empty
  rw [KeepsIssues, OrderedMap.keys_eq_nil_iff.mpr empty, List.prefix_nil] at kept
  exact filled (OrderedMap.keys_eq_nil_iff.mp kept)

/-- Adding issues keeps the keys of the others. -/
theorem relatesAdded : RelatesAdded KeepsIssues :=
  ⟨fun _ => .of_eq rfl, .trans, .of_add⟩

end KeepsIssues

/-! ## Issues of the nodes -/

/-- Steers change the impact of issues and nothing else. -/
theorem keys_consumeSteers
    (events : List SteeringEvent)
    (issues : OrderedMap String IssueNode) :
    (consumeSteers events issues).2.keys = issues.keys := by
  refine
    consumeSteers_invariant
      (motive := fun after => after.keys = issues.keys)
      (fun text between same => ?_) events rfl
  rw [← same, OrderedMap.mapValues, OrderedMap.keys_mapEntries]

theorem consumeSteerEvents_keepsIssues
    (rs : ResearchState) :
    KeepsIssues rs (consumeSteerEvents rs) :=
  .of_keys (keys_consumeSteers _ _)

/-- Worker results advance issues and add none. -/
theorem keys_advanceIssues
    (now : String)
    (raws : List EvidenceBundle)
    (issues : OrderedMap String IssueNode) :
    (raws.foldl (advanceIssues now) issues).keys = issues.keys := by
  induction raws generalizing issues with
  | nil =>
      rfl
  | cons raw rest inductionHypothesis =>
      rw [List.foldl_cons, inductionHypothesis, advanceIssues]
      repeat' split
      all_goals first
        | rfl
        | exact OrderedMap.keys_modify _ _ _

/-- What a node may do to the issues and to the budget for branches. -/
structure NodeIssues
    (node : Node)
    (state : GraphState)
    (update : Update) : Prop where
  issues : KeepsIssues state.researchState update.researchState
  budget :
    node ≠ .intake → node ≠ .cosDecision → update.branchBudget = none

section Nodes

variable [PythonText]

/-- No node takes an issue out of the map. -/
theorem NodeUpdate.issues
    {env : StepEnv}
    {state : GraphState}
    {world after : World}
    {node : Node}
    {update : Update}
    (written : NodeUpdate env state world node update after) :
    NodeIssues node state update := by
  cases written with
  | intake =>
      exact ⟨.of_eq rfl, fun other => absurd rfl other⟩
  | scopeChecked
  | clarified
  | clarifyAssumed
  | clarifyAnswered
  | briefKept
  | briefWritten
  | planAuditKept
  | planAudited
  | planAssumed
  | planKept
  | planAnswered
  | researched
  | scored
  | explained
  | pullDefaulted
  | pullAnswered
  | pushedNothing
  | deepAuditKept
  | deepAudited =>
      exact ⟨.of_eq rfl, fun _ _ => rfl⟩
  | issuesPlanned rs expanded
  | cellsPlanned rs _ _ expanded =>
      have kept : KeepsIssues state.researchState rs :=
        (consumeSteerEvents_keepsIssues _).trans
          (KeepsIssues.relatesAdded.expandIssues expanded)
      exact ⟨kept, fun _ _ => rfl⟩
  | issuesExpanded rs expanded =>
      exact ⟨KeepsIssues.relatesAdded.expandIssues expanded, fun _ _ => rfl⟩
  | supervised =>
      exact ⟨consumeSteerEvents_keepsIssues _, fun _ _ => rfl⟩
  | collected =>
      exact ⟨.of_keys (keys_advanceIssues _ _ _), fun _ _ => rfl⟩
  | argued
  | audited
  | noted =>
      exact ⟨.of_keys (OrderedMap.keys_mapEntries _ _), fun _ _ => rfl⟩
  | decided =>
      exact ⟨.of_eq rfl, fun _ other => absurd rfl other⟩
  | branched budget =>
      exact
        ⟨KeepsIssues.relatesAdded.materializeCompetitor _ _ budget,
          fun _ other => absurd rfl other⟩
  | pushed _ _ _ _ _ isBlocked =>
      have kept := KeepsIssues.of_setStatus isBlocked
      exact
        ⟨kept.trans (.of_keys (OrderedMap.keys_modify _ _ _)),
          fun _ _ => rfl⟩
  | reviewBuilt _ _ built
  | reviewPassed _ _ _ built
  | reviewAnswered _ _ _ built =>
      obtain ⟨tasks, log, memo, rfl, _⟩ := buildAndGateMemo_eq_some built
      exact ⟨.of_eq rfl, fun _ _ => rfl⟩

end Nodes

/-! ## Where the map is filled -/

/-- The budget for branches that a run starts with. -/
def Budget.full : Budget where
  breadth := defaultBreadth
  depth := defaultDepth

/-- An added issue fills the map. -/
theorem filled_of_add
    {rs after : ResearchState}
    {title description now : String}
    {issueType : IssueType}
    {status : IssueStatus}
    {impact confidence : Int}
    (added :
      IssueMap.add rs title description issueType status now impact
        confidence = some after) :
    after.issueMap.entries ≠ [] := by
  obtain ⟨node, _, _, rfl⟩ := IssueMap.add_eq_some added
  exact OrderedMap.entries_insert_ne_nil _ _ _

/-- Drafts fill the map, unless there are none. -/
theorem addDrafts_empty_iff
    {now : String}
    {drafts : List IssueDraft}
    {rs after : ResearchState}
    (added : addDrafts now drafts rs = some after)
    (empty : rs.issueMap.entries = []) :
    after.issueMap.entries = [] ↔ drafts = [] := by
  cases drafts with
  | nil =>
      cases added
      exact iff_of_true empty rfl
  | cons draft rest =>
      obtain ⟨middle, first, later⟩ := Option.bind_eq_some_iff.mp added
      exact
        iff_of_false
          ((KeepsIssues.relatesAdded.addDrafts later).filled
            (filled_of_add first))
          (List.cons_ne_nil _ _)

/-- With the full budget, rework leaves an issue in the map. -/
theorem materializeCompetitor_filled
    (rs : ResearchState)
    (now : String) :
    (materializeCompetitor rs now .full).1.issueMap.entries ≠ [] := by
  intro empty
  have wasEmpty : rs.issueMap.entries = [] := by
    by_contra filled
    exact
      (KeepsIssues.relatesAdded.materializeCompetitor rs now .full).filled
        filled empty
  have noType : IssueMap.hasType rs .competitor = false := by
    simp [IssueMap.hasType, OrderedMap.values, wasEmpty]
  have canBranch : Budget.canBranch .full = true := by
    decide
  simp only [materializeCompetitor, canBranch, noType, Bool.not_false,
    Bool.and_self, if_true] at empty
  cases added :
    IssueMap.add rs "競品是否已有此能力?" "Albert 會挑戰的競品角度"
      .competitor .open now 4 1 with
  | none =>
      simp [IssueMap.add, IssueNode.Valid, InRange] at added
  | some after =>
      rw [added] at empty
      exact filled_of_add added empty

/-- A decision in favour of a branch is a rework. -/
theorem decideCos_branch
    {emitDespiteDegradedAudit : Bool}
    {state : GraphState}
    (branches :
      (state.apply (decideCos emitDespiteDegradedAudit state)).lastDecision =
          some .branch ∨
        (state.apply (decideCos emitDespiteDegradedAudit state)).lastDecision =
          some .rerank) :
    cosStage state = .rework := by
  cases stage : cosStage state with
  | rework =>
      rfl
  | exhausted =>
      rcases gatedDecision_cases emitDespiteDegradedAudit
          state.researchState .terminalStop with passed | refused
      · simp [GraphState.apply, decideCos, stage, passed] at branches
      · simp [GraphState.apply, decideCos, stage, refused] at branches
  | saturated =>
      rcases gatedDecision_cases emitDespiteDegradedAudit
          state.researchState .synthesize with passed | refused
      · simp [GraphState.apply, decideCos, stage, passed] at branches
      · simp [GraphState.apply, decideCos, stage, refused] at branches
  | _ =>
      simp [GraphState.apply, decideCos, stage] at branches

/-- The expansion is entered after a decision in favour of a branch. -/
theorem successor_issueExpansion
    {cap : Option ActiveCap}
    {state : GraphState}
    {node : Node}
    (entered : (successor cap state node).1 = some .issueExpansion) :
    node = .cosDecision ∧
      (state.lastDecision = some .branch ∨
        state.lastDecision = some .rerank) := by
  cases node with
  | cosDecision =>
      refine ⟨rfl, ?_⟩
      simp only [successor, route] at entered
      cases decision : state.lastDecision with
      | none =>
          simp only [decision, Option.getD_none] at entered
          repeat' split at entered
          all_goals cases entered
      | some decided =>
          simp only [decision, Option.getD_some] at entered
          cases decided with
          | branch =>
              exact Or.inl rfl
          | rerank =>
              exact Or.inr rfl
          | _ =>
              repeat' split at entered
              all_goals simp_all
  | clarify =>
      simp only [successor, routeAfterClarify] at entered
      split at entered <;> cases entered
  | humanPull =>
      simp only [successor, routeAfterPull] at entered
      repeat' split at entered
      all_goals cases entered
  | deepAudit =>
      simp only [successor, routeAfterDeepAudit] at entered
      split at entered <;> cases entered
  | _ =>
      cases entered

/-- No edge leads back to the start. -/
theorem successor_ne_intake
    (cap : Option ActiveCap)
    (state : GraphState)
    (node : Node) :
    (successor cap state node).1 ≠ some .intake := by
  cases node with
  | cosDecision =>
      simp only [successor, route]
      repeat' split
      all_goals simp
  | clarify =>
      simp only [successor, routeAfterClarify]
      split <;> simp
  | humanPull =>
      simp only [successor, routeAfterPull]
      repeat' split
      all_goals simp
  | deepAudit =>
      simp only [successor, routeAfterDeepAudit]
      split <;> simp
  | _ =>
      simp [successor]

/-- Following an edge touches neither the issues, nor decision, nor budget. -/
theorem successor_issues
    (cap : Option ActiveCap)
    (state : GraphState)
    (node : Node) :
    (successor cap state node).2.researchState.issueMap =
        state.researchState.issueMap ∧
      (successor cap state node).2.branchBudget = state.branchBudget ∧
      (successor cap state node).2.flags = state.flags := by
  rcases successor_state cap state node with same | recorded
  · rw [same]
    exact ⟨rfl, rfl, rfl⟩
  · rw [recorded]
    exact ⟨rfl, rfl, rfl⟩

/-- The flag stands for a branch, and a branch comes with an issue. -/
structure BranchLeavesIssue (execution : Execution) : Prop where
  entered : execution.control.node? ≠ some .intake
  budget :
    execution.graph.researchState.issueMap.entries = [] →
      execution.graph.branchBudget = some .full
  flag :
    execution.graph.researchState.issueMap.entries = [] →
      execution.graph.flags.broadExpansion = false
  expansion :
    execution.control.node? = some .issueExpansion →
      execution.graph.researchState.issueMap.entries ≠ []

/-- An empty map was not filled by a decision, so the budget is untouched. -/
theorem decideCos_empty
    {emitDespiteDegradedAudit : Bool}
    {state : GraphState}
    (budget : state.branchBudget = some .full)
    (empty :
      (decideCos emitDespiteDegradedAudit
        state).researchState.issueMap.entries = []) :
    cosStage state ≠ .rework ∧
      (decideCos emitDespiteDegradedAudit state).branchBudget =
        some .full := by
  cases stage : cosStage state with
  | rework =>
      simp only [decideCos, stage, budget, Option.getD_some] at empty
      exact absurd empty (materializeCompetitor_filled _ _)
  | _ =>
      simp [decideCos, stage, budget]

section Runs

variable [PythonText]

/-- The start of a run spends no budget and clears the flag. -/
theorem visit_intake_branchLeavesIssue
    (env : StepEnv)
    (execution : Execution) :
    BranchLeavesIssue (visit env .intake execution) where
  entered := by simp [visit, runNode, conclude, successor, Control.node?]
  budget := fun _ => rfl
  flag := fun _ => rfl
  expansion := by simp [visit, runNode, conclude, successor, Control.node?]

/-- Every other node keeps it so. -/
theorem visit_branchLeavesIssue
    {env : StepEnv}
    {node : Node}
    {execution : Execution}
    (standsAt : execution.control.node? = some node)
    (before : BranchLeavesIssue execution) :
    BranchLeavesIssue (visit env node execution) := by
  have notIntake : node ≠ .intake := by
    rintro rfl
    exact before.entered standsAt
  rcases visit_cases env node execution with
    ⟨world, raised⟩ | ⟨ask, world, ran, paused⟩ | ⟨update, world, ran, moved⟩
  · rw [raised]
    exact
      ⟨by simp [Control.node?], before.budget, before.flag,
        by simp [Control.node?]⟩
  · rw [paused]
    have same : (Control.pausedAt node ask).node? = execution.control.node? :=
      standsAt.symm
    exact
      ⟨by rw [same]; exact before.entered, before.budget, before.flag,
        by rw [same]; exact before.expansion⟩
  · have records := (runNode_updates ran).record
    have issues := (runNode_updates ran).issues
    obtain ⟨issueMap, budget, flags⟩ :=
      successor_issues env.cap (execution.graph.apply update) node
    -- the map can be empty now only if it was empty before
    have wasEmpty :
        update.researchState.issueMap.entries = [] →
          execution.graph.researchState.issueMap.entries = [] := by
      intro empty
      by_contra filled
      exact issues.issues.filled filled empty
    have decided :
        node = .cosDecision →
          update = decideCos env.emitDespiteDegradedAudit execution.graph := by
      rintro rfl
      cases ran
      rfl
    rw [moved]
    refine ⟨?_, ?_, ?_, ?_⟩
    · rw [Control.node?_elim]
      exact successor_ne_intake _ _ _
    · intro empty
      rw [issueMap] at empty
      rw [budget, GraphState.apply]
      by_cases atDecision : node = .cosDecision
      · rw [decided atDecision] at empty ⊢
        rw [(decideCos_empty (before.budget (wasEmpty
          (by rw [decided atDecision]; exact empty))) empty).2]
        rfl
      · rw [issues.budget notIntake atDecision, Option.none_or]
        exact before.budget (wasEmpty empty)
    · intro empty
      rw [issueMap] at empty
      rw [flags, records.expanded]
      have cleared := before.flag (wasEmpty empty)
      have notExpansion : node ≠ .issueExpansion := by
        rintro rfl
        exact before.expansion standsAt (wasEmpty empty)
      cases node <;> first | exact cleared | exact absurd rfl notExpansion | rfl
    · intro toExpansion
      rw [Control.node?_elim] at toExpansion
      obtain ⟨atDecision, branches⟩ := successor_issueExpansion toExpansion
      rw [issueMap]
      intro empty
      have budgetBefore := before.budget (wasEmpty empty)
      rw [decided atDecision] at branches empty
      exact
        (decideCos_empty budgetBefore empty).1 (decideCos_branch branches)

/-- After its first step a run keeps the invariant. -/
theorem branchLeavesIssue_of_run
    {initial final : Execution}
    {labels : List StepEnv}
    (started : Started initial)
    (ran : exec step initial labels = some final) :
    final = initial ∧ labels = [] ∨ BranchLeavesIssue final := by
  refine
    exec_induction
      (motive := fun labels state =>
        state = initial ∧ labels = [] ∨ BranchLeavesIssue state)
      (Or.inl ⟨rfl, rfl⟩) ?_ ran
  intro labels state label next _ before stepped
  obtain ⟨node, seen, visits, rfl⟩ := step_visits stepped
  refine Or.inr ?_
  rcases before with ⟨rfl, _⟩ | before
  · rw [Started] at started
    cases visits with
    | entered standsAt =>
        cases started.symm.trans standsAt
        exact visit_intake_branchLeavesIssue _ _
    | resumed standsAt _ =>
        cases started.symm.trans standsAt
  · exact visit_branchLeavesIssue visits.node? before

/-! ## The expander fills the map -/

/-- A step of one of the two nodes with the expander fills the empty map. -/
def Populates (execution : Execution) (env : StepEnv) : Prop :=
  (execution.control.node? = some .orchestratorPlan ∨
      execution.control.node? = some .issueExpansion) ∧
    execution.graph.researchState.issueMap.entries = [] ∧
    ∃ next,
      step execution env = some next ∧
        next.graph.researchState.issueMap.entries ≠ []

/-- Some step of a run has filled the map. -/
def Populated (initial : Execution) (labels : List StepEnv) : Prop :=
  ∃ earlier env later middle,
    labels = earlier ++ env :: later ∧
      exec step initial earlier = some middle ∧
      Populates middle env

/-- The flag is up once the expander has filled the map in this run. -/
def ExpansionRecorded
    (initial : Execution)
    (labels : List StepEnv)
    (state : Execution) : Prop :=
  Populated initial labels → state.graph.flags.broadExpansion = true

/-- The expander proposes issues for an empty map and the node completes. -/
def completesExpansion (env : StepEnv) (state : GraphState) : Bool :=
  match env.brains.issueExpander (consumeSteerEvents state.researchState) with
  | none => false
  | some [] => false
  | some drafts =>
      match
        addDrafts state.config.now drafts
          (consumeSteerEvents state.researchState) with
      | none => false
      | some filled =>
          match env.brains.orchestrator with
          | none => true
          | some plan => (plan filled).isSome

/-- The head of the loop is the one to fill the map. -/
def FillsAtHead (execution : Execution) (env : StepEnv) : Prop :=
  execution.control.node? = some .orchestratorPlan ∧
    execution.graph.researchState.issueMap.entries = [] ∧
    completesExpansion env execution.graph = true

instance (execution : Execution) (env : StepEnv) :
    Decidable (FillsAtHead execution env) :=
  inferInstanceAs (Decidable (_ ∧ _))

/-- A run has filled the map exactly when one of its steps did. -/
theorem populated_iff
    {initial : Execution}
    {labels : List StepEnv} :
    Populated initial labels ↔
      ¬AllSteps step (fun state env => ¬Populates state env) initial
        labels := by
  constructor
  · rintro ⟨earlier, env, later, middle, shape, ran, populates⟩ none
    exact none shape ran populates
  · intro some
    by_contra noneOf
    apply some
    intro earlier env later middle shape ran populates
    exact noneOf ⟨earlier, env, later, middle, shape, ran, populates⟩

/-- One more step fills the map, or an earlier one did. -/
theorem populated_snoc
    {initial state : Execution}
    {labels : List StepEnv}
    {env : StepEnv}
    (ran : exec step initial labels = some state) :
    Populated initial (labels ++ [env]) ↔
      Populated initial labels ∨ Populates state env := by
  rw [populated_iff, populated_iff]
  constructor
  · intro longer
    by_contra neither
    rw [not_or, not_not] at neither
    exact longer (AllSteps.snoc neither.1 ran neither.2)
  · rintro (before | last) none
    · exact before (AllSteps.of_append none)
    · exact AllSteps.last none ran last

omit [PythonText] in
/-- Completed proposals are those that leave the planned map filled. -/
theorem completesExpansion_iff
    {env : StepEnv}
    {state : GraphState}
    (empty : state.researchState.issueMap.entries = []) :
    completesExpansion env state = true ↔
      ∃ update,
        nodeOrchestratorPlan env state = some update ∧
          update.researchState.issueMap.entries ≠ [] := by
  have consumedEmpty :
      (consumeSteerEvents state.researchState).issueMap.entries = [] := by
    rw [← OrderedMap.keys_eq_nil_iff] at empty ⊢
    exact (keys_consumeSteers _ _).trans empty
  simp only [completesExpansion, nodeOrchestratorPlan, expandIssues,
    consumedEmpty, if_true]
  cases env.brains.issueExpander (consumeSteerEvents state.researchState) with
  | none =>
      simp
  | some drafts =>
      simp only [Option.bind_some]
      cases added :
        addDrafts state.config.now drafts
          (consumeSteerEvents state.researchState) with
      | none =>
          cases drafts with
          | nil =>
              simp
          | cons draft rest =>
              simp [added]
      | some after =>
          have emptyIff := addDrafts_empty_iff added consumedEmpty
          simp only [Option.bind_some]
          cases drafts with
          | nil =>
              have afterEmpty := emptyIff.mpr rfl
              refine iff_of_false (by simp) ?_
              rintro ⟨update, planned, filled⟩
              split at planned
              · cases planned
                exact filled afterEmpty
              · obtain ⟨_, _, rfl⟩ := Option.map_eq_some_iff.mp planned
                exact filled afterEmpty
          | cons draft rest =>
              have afterFilled : after.issueMap.entries ≠ [] := fun now =>
                List.cons_ne_nil _ _ (emptyIff.mp now)
              simp only [added]
              cases env.brains.orchestrator with
              | none =>
                  exact iff_of_true rfl ⟨_, rfl, afterFilled⟩
              | some plan =>
                  cases planned : plan after with
                  | none =>
                      simp [planned]
                  | some grid =>
                      have filled :
                          (Update.ofState
                            { after with
                              taskGrid :=
                                some
                                  grid }).researchState.issueMap.entries ≠
                            [] :=
                        afterFilled
                      simp only [Option.isSome_some, Option.map_some,
                        planned, true_iff]
                      exact ⟨_, rfl, filled⟩

/-- The head of the loop fills the map exactly on completed proposals. -/
theorem populates_atHead_iff
    {execution next : Execution}
    {env : StepEnv}
    (atHead : execution.control.node? = some .orchestratorPlan)
    (stepped : step execution env = some next) :
    Populates execution env ↔ FillsAtHead execution env := by
  obtain ⟨node, seen, visits, rfl⟩ := step_visits stepped
  cases visits.node?.symm.trans atHead
  have sameBrains : seen.brains = env.brains := by
    rw [visits.seen_eq]
  have samePlan :
      nodeOrchestratorPlan seen execution.graph =
        nodeOrchestratorPlan env execution.graph := by
    simp only [nodeOrchestratorPlan, expandIssues, sameBrains]
  have after :
      ∀ update,
        nodeOrchestratorPlan env execution.graph = some update →
        (visit seen .orchestratorPlan
            execution).graph.researchState.issueMap =
          update.researchState.issueMap := by
    intro update planned
    simp only [visit, runNode, samePlan, planned, NodeResult.ofOption,
      conclude]
    rfl
  constructor
  · rintro ⟨_, empty, next, again, filled⟩
    cases stepped.symm.trans again
    refine ⟨atHead, empty, (completesExpansion_iff empty).mpr ?_⟩
    cases planned : nodeOrchestratorPlan env execution.graph with
    | none =>
        simp only [visit, runNode, samePlan, planned, NodeResult.ofOption,
          conclude] at filled
        exact absurd empty filled
    | some update =>
        rw [after update planned] at filled
        exact ⟨update, rfl, filled⟩
  · rintro ⟨_, empty, completes⟩
    obtain ⟨update, planned, filled⟩ := (completesExpansion_iff empty).mp completes
    refine ⟨Or.inl atHead, empty, _, stepped, ?_⟩
    rw [after update planned]
    exact filled

/-- After the start, only the expansion changes the flag: it raises it. -/
theorem step_flag
    {execution next : Execution}
    {env : StepEnv}
    (stepped : step execution env = some next)
    (entered : execution.control.node? ≠ some .intake) :
    next.graph.flags.broadExpansion =
        execution.graph.flags.broadExpansion ∨
      execution.control.node? = some .issueExpansion ∧
        next.graph.flags.broadExpansion = true := by
  obtain ⟨node, seen, visits, rfl⟩ := step_visits stepped
  rw [visits.node?] at entered ⊢
  cases visit_visited seen node execution with
  | crashed same _ =>
      exact Or.inl (by rw [same])
  | paused ask same _ =>
      exact Or.inl (by rw [same])
  | moved update records graph _ =>
      rw [graph, (successor_issues _ _ _).2.2, records.expanded]
      cases node with
      | intake =>
          exact absurd rfl entered
      | issueExpansion =>
          exact Or.inr ⟨rfl, rfl⟩
      | _ =>
          exact Or.inl rfl

/-- Only a rework leads to the expansion. -/
theorem step_toExpansion
    {execution next : Execution}
    {env : StepEnv}
    (stepped : step execution env = some next)
    (toExpansion : next.control.node? = some .issueExpansion)
    (other : execution.control.node? ≠ some .issueExpansion) :
    execution.control.node? = some .cosDecision ∧
      cosStage execution.graph = .rework := by
  obtain ⟨node, seen, visits, rfl⟩ := step_visits stepped
  rcases visit_cases seen node execution with
    ⟨world, raised⟩ | ⟨ask, world, ran, paused⟩ | ⟨update, world, ran, moved⟩
  · rw [raised] at toExpansion
    cases toExpansion
  · rw [paused] at toExpansion
    exact absurd (visits.node?.trans toExpansion) other
  · rw [moved, Control.node?_elim] at toExpansion
    obtain ⟨rfl, branches⟩ := successor_issueExpansion toExpansion
    cases ran
    exact ⟨visits.node?, decideCos_branch branches⟩

/-- A run without rework never raises the flag. -/
theorem flagDown_of_noRework
    {initial final : Execution}
    {labels : List StepEnv}
    (started : Started initial)
    (noRework :
      AllSteps step
        (fun state _ =>
          state.control.node? = some .cosDecision →
            auditDemandsRework state.graph.researchState = false)
        initial labels)
    (ran : exec step initial labels = some final) :
    final.control.node? = some .intake ∨
      (final.graph.flags.broadExpansion = false ∧
        final.control.node? ≠ some .intake ∧
        final.control.node? ≠ some .issueExpansion) := by
  have atIntake : initial.control.node? = some .intake := by
    rw [started]
    rfl
  refine
    AllSteps.invariant
      (motive := fun state =>
        state.control.node? = some .intake ∨
          (state.graph.flags.broadExpansion = false ∧
            state.control.node? ≠ some .intake ∧
            state.control.node? ≠ some .issueExpansion))
      ?_ (Or.inl atIntake) noRework ran
  intro state env next before allowed stepped
  refine Or.inr ?_
  rcases before with atIntake | ⟨down, notIntake, notExpansion⟩
  · obtain ⟨node, seen, visits, rfl⟩ := step_visits stepped
    cases visits.node?.symm.trans atIntake
    exact
      ⟨rfl, by simp [visit, runNode, conclude, successor, Control.node?],
        by simp [visit, runNode, conclude, successor, Control.node?]⟩
  · refine ⟨?_, ?_, ?_⟩
    · rcases step_flag stepped notIntake with same | ⟨atExpansion, _⟩
      · rw [same]
        exact down
      · exact absurd atExpansion notExpansion
    · obtain ⟨node, seen, visits, rfl⟩ := step_visits stepped
      rcases visit_cases seen node state with
        ⟨world, raised⟩ | ⟨ask, world, _, paused⟩ | ⟨update, world, _, moved⟩
      · rw [raised]
        simp [Control.node?]
      · rw [paused]
        exact fun same => notIntake (visits.node?.trans same)
      · rw [moved, Control.node?_elim]
        exact successor_ne_intake _ _ _
    · intro toExpansion
      obtain ⟨atDecision, stage⟩ :=
        step_toExpansion stepped toExpansion notExpansion
      have demanded :
          auditDemandsRework state.graph.researchState = true := by
        by_contra quiet
        simp only [cosStage, quiet] at stage
        repeat' split at stage
        all_goals simp_all
      rw [allowed atDecision] at demanded
      cases demanded

omit [PythonText] in
/-- Without the flag no decision stops the run. -/
theorem flagDown_not_softStop
    {state : GraphState}
    (down : state.flags.broadExpansion = false)
    (emitDespiteDegradedAudit : Bool) :
    isSoftStop
        ((decideCos emitDespiteDegradedAudit state).lastDecision.getD
          .continueResearch) =
      false := by
  by_contra stops
  rw [Bool.not_eq_false] at stops
  cases decided :
    (decideCos emitDespiteDegradedAudit state).lastDecision with
  | none =>
      rw [decided] at stops
      cases stops
  | some decision =>
      rw [decided] at stops
      obtain ⟨_, _, allDone, _⟩ := decideCos_stop_stages decided stops
      rw [(allDone_iff.mp allDone).1] at down
      cases down

/--
In every run, the flag is up wherever the expander has filled the map exactly
when it never does so at the head of the loop; and a run whose audits demand no
rework never raises the flag, so that none of its decisions stops it.
-/
theorem expansion_recorded_iff
    {initial final : Execution}
    {labels : List StepEnv}
    (started : Started initial)
    (ran : exec step initial labels = some final) :
    ((∀ earlier later state,
        labels = earlier ++ later →
        exec step initial earlier = some state →
        ExpansionRecorded initial earlier state) ↔
      AllSteps step (fun state env => ¬FillsAtHead state env) initial
        labels) ∧
    (AllSteps step
        (fun state _ =>
          state.control.node? = some .cosDecision →
            auditDemandsRework state.graph.researchState = false)
        initial labels →
      final.control.node? = some .cosDecision →
      ∀ emitDespiteDegradedAudit,
        isSoftStop
            ((decideCos emitDespiteDegradedAudit
              final.graph).lastDecision.getD .continueResearch) =
          false) := by
  constructor
  · refine everyState_iff_allSteps ?_ ?_ ran
    · rintro ⟨earlier, env, later, middle, shape, _⟩
      simp at shape
    · intro labels state env next reached before stepped
      have invariant := branchLeavesIssue_of_run started reached
      rw [ExpansionRecorded, populated_snoc reached]
      constructor
      · intro recorded fills
        have populates := (populates_atHead_iff fills.1 stepped).mpr fills
        have raised := recorded (Or.inr populates)
        rcases invariant with ⟨rfl, _⟩ | invariant
        · rw [Started] at started
          rw [FillsAtHead, started] at fills
          cases fills.1
        · rcases step_flag stepped invariant.entered with
            same | ⟨atExpansion, _⟩
          · rw [same, invariant.flag fills.2.1] at raised
            cases raised
          · cases fills.1.symm.trans atExpansion
      · intro fillsNot populated
        rcases populated with earlier | now
        · have raised := before earlier
          rcases invariant with ⟨_, rfl⟩ | invariant
          · obtain ⟨earlier, env, later, middle, shape, _⟩ := earlier
            simp at shape
          · rcases step_flag stepped invariant.entered with
              same | ⟨_, stillRaised⟩
            · rw [same]
              exact raised
            · exact stillRaised
        · rcases now.1 with atHead | atExpansion
          · exact
              absurd ((populates_atHead_iff atHead stepped).mp now) fillsNot
          · rcases invariant with ⟨rfl, _⟩ | invariant
            · rw [Started] at started
              rw [started] at atExpansion
              cases atExpansion
            · exact absurd now.2.1 (invariant.expansion atExpansion)
  · intro noRework atDecision emitDespiteDegradedAudit
    rcases flagDown_of_noRework started noRework ran with
      atIntake | ⟨down, _⟩
    · rw [atDecision] at atIntake
      cases atIntake
    · exact flagDown_not_softStop down emitDespiteDegradedAudit

end Runs

/-- A fresh run with a brief that is assumed. -/
private def unexpandedRun : Execution where
  graph :=
    { researchState := { runId := "run", originalQuestion := "question" }
      config := { assumeBrief := true } }
  control := .at .intake
  world := {}

/-- Surroundings whose expander proposes the given issues. -/
private def proposing (drafts : List IssueDraft) : StepEnv :=
  StepEnv.calm { Brains.silent with issueExpander := fun _ => some drafts }

/-- One proposal within the ranges. -/
private def oneDraft : IssueDraft where
  title := "issue"
  description := "description"
  issueType := .market
  impact := 3
  confidence := 2

/-- The first pass fills the map at the head of the loop and raises nothing. -/
theorem firstExpansion_unrecorded :
    letI := PythonText.ascii
    ∃ final,
      exec step unexpandedRun (List.replicate 5 (proposing [oneDraft])) =
          some final ∧
        ¬ExpansionRecorded unexpandedRun
            (List.replicate 5 (proposing [oneDraft])) final := by
  let _ := PythonText.ascii
  let env := proposing [oneDraft]
  let middle := (exec step unexpandedRun (List.replicate 4 env)).get (by decide +kernel)
  let final := (exec step unexpandedRun (List.replicate 5 env)).get (by decide +kernel)
  have ranMiddle : exec step unexpandedRun (List.replicate 4 env) = some middle :=
    (Option.some_get _).symm
  have stepped : step middle env = some final := by
    decide +kernel
  have fills : FillsAtHead middle env := by
    decide +kernel
  have down : final.graph.flags.broadExpansion = false := by
    decide +kernel
  refine ⟨final, (Option.some_get _).symm, ?_⟩
  intro recorded
  have populates : Populates middle env :=
    (populates_atHead_iff fills.1 stepped).mpr fills
  have raised :=
    recorded ⟨List.replicate 4 env, env, [], middle, rfl, ranMiddle, populates⟩
  rw [down] at raised
  cases raised

/-- A run that is entered with the map of a snapshot. -/
private def snapshotRun : Execution where
  graph :=
    { researchState :=
        { runId := "run"
          originalQuestion := "question"
          issueMap :=
            (∅ : OrderedMap String IssueNode).insert "I-001"
              { id := "I-001"
                title := "lanes"
                description := "How many lanes?"
                issueType := .technical
                status := .open
                impact := 3
                confidence := 2 } }
      config := { assumeBrief := true } }
  control := .at .intake
  world := {}

private theorem snapshotRun_fillsNothing :
    letI := PythonText.ascii
    AllSteps step (fun state env => ¬FillsAtHead state env) snapshotRun
      (List.replicate 5 (proposing [oneDraft])) := by
  decide +kernel

/-- Where the map comes from a snapshot, the expander has nothing to fill. -/
theorem snapshotRun_recorded :
    letI := PythonText.ascii
    ∃ final,
      exec step snapshotRun (List.replicate 5 (proposing [oneDraft])) =
          some final ∧
        final.graph.researchState.issueMap.keys = ["I-001"] ∧
        ∀ earlier later state,
          List.replicate 5 (proposing [oneDraft]) = earlier ++ later →
          exec step snapshotRun earlier = some state →
          ExpansionRecorded snapshotRun earlier state := by
  let _ := PythonText.ascii
  let final :=
    (exec step snapshotRun (List.replicate 5 (proposing [oneDraft]))).get
      (by decide +kernel)
  have ran :
      exec step snapshotRun (List.replicate 5 (proposing [oneDraft])) =
        some final :=
    (Option.some_get _).symm
  have started : Started snapshotRun :=
    rfl
  exact
    ⟨final, ran, by decide +kernel,
      (expansion_recorded_iff started ran).1.mpr snapshotRun_fillsNothing⟩

end ResearchCos
