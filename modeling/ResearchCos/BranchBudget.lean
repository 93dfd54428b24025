import ResearchCos.ExpansionFlag
import ResearchCos.RunHistory

namespace ResearchCos

open Foundation

/-!
# The budget for branches

A decision in favour of rework adds the issue about competitors while the budget
lasts, and spends a level of it.  The issue is added once and never lost, so a
run spends one level at most, and the budget always lasts.
-/

theorem hasType_iff
    {rs : ResearchState}
    {issueType : IssueType} :
    IssueMap.hasType rs issueType = true ↔
      ∃ key node,
        rs.issueMap.get? key = some node ∧ node.issueType = issueType := by
  simp only [IssueMap.hasType, List.any_eq_true, decide_eq_true_eq]
  constructor
  · rintro ⟨node, member, isType⟩
    obtain ⟨⟨key, stored⟩, isEntry, rfl⟩ := List.mem_map.mp member
    exact ⟨key, stored, OrderedMap.get?_of_mem_entries isEntry, isType⟩
  · rintro ⟨key, node, stored, isType⟩
    exact
      ⟨node, List.mem_map_of_mem (OrderedMap.mem_entries_of_get? stored),
        isType⟩

/-- Issues keep their types. -/
theorem ResearchState.Extends.hasType
    {before after : ResearchState}
    (extended : before.Extends after)
    {issueType : IssueType}
    (has : IssueMap.hasType before issueType = true) :
    IssueMap.hasType after issueType = true := by
  obtain ⟨key, node, stored, isType⟩ := hasType_iff.mp has
  obtain ⟨later, storedLater, continues⟩ := extended.issues key node stored
  exact
    hasType_iff.mpr
      ⟨key, later, storedLater, continues.issueType.trans isType⟩

/-- The issue about competitors as a decision adds it. -/
def competitorIssue (rs : ResearchState) (now : String) : IssueNode where
  id := IssueMap.nextId rs
  title := "競品是否已有此能力?"
  description := "Albert 會挑戰的競品角度"
  issueType := .competitor
  status := .open
  impact := 4
  confidence := 1
  lastUpdated := some now

/-- While the budget lasts, a first rework adds the issue. -/
theorem materializeCompetitor_adds
    {rs : ResearchState}
    {budget : Budget}
    (lasts : budget.canBranch = true)
    (missing : IssueMap.hasType rs .competitor = false)
    (now : String) :
    materializeCompetitor rs now budget =
      ({ rs with
         issueMap :=
           rs.issueMap.insert (IssueMap.nextId rs)
             (competitorIssue rs now) },
        budget.spend) := by
  simp only [materializeCompetitor, lasts, missing, Bool.not_false,
    Bool.and_self, if_true]
  rfl

/-- A later one adds nothing, and spends nothing. -/
theorem materializeCompetitor_present
    {rs : ResearchState}
    (has : IssueMap.hasType rs .competitor = true)
    (now : String)
    (budget : Budget) :
    materializeCompetitor rs now budget = (rs, budget) := by
  simp only [materializeCompetitor, has, Bool.not_true, Bool.and_false,
    Bool.false_eq_true, if_false]

/-- Nothing is spent, or one level on the issue that is there. -/
def BudgetKept (graph : GraphState) : Prop :=
  ∀ budget ∈ graph.branchBudget,
    budget = .full ∨
      budget = Budget.full.spend ∧
        IssueMap.hasType graph.researchState .competitor = true

/-- What is left of a budget that is kept. -/
theorem BudgetKept.left
    {graph : GraphState}
    (kept : BudgetKept graph) :
    graph.branchBudget.getD .full = .full ∨
      graph.branchBudget.getD .full = Budget.full.spend ∧
        IssueMap.hasType graph.researchState .competitor = true := by
  cases stored : graph.branchBudget with
  | none =>
      exact Or.inl rfl
  | some budget =>
      exact kept budget stored

/-- A budget that is kept lasts. -/
theorem BudgetKept.lasts
    {graph : GraphState}
    (kept : BudgetKept graph) :
    (graph.branchBudget.getD .full).canBranch = true := by
  rcases kept.left with full | ⟨spent, _⟩
  · rw [full]
    rfl
  · rw [spent]
    rfl

theorem decideCos_rework
    {graph : GraphState}
    (emitDespiteDegradedAudit : Bool)
    (stage : cosStage graph = .rework) :
    decideCos emitDespiteDegradedAudit graph =
      { researchState :=
          (materializeCompetitor graph.researchState graph.config.now
            (graph.branchBudget.getD .full)).1
        lastDecision := some .branch
        branchBudget :=
          some
            (materializeCompetitor graph.researchState graph.config.now
              (graph.branchBudget.getD .full)).2 } := by
  simp only [decideCos, stage]
  rfl

/-- A decision adds the issue about competitors, or leaves the issues alone. -/
theorem decideCos_branching
    {graph : GraphState}
    (kept : BudgetKept graph)
    (emitDespiteDegradedAudit : Bool) :
    (cosStage graph = .rework ∧
        IssueMap.hasType graph.researchState .competitor = false ∧
        (decideCos emitDespiteDegradedAudit graph).branchBudget =
          some Budget.full.spend ∧
        (decideCos emitDespiteDegradedAudit graph).researchState =
          { graph.researchState with
            issueMap :=
              graph.researchState.issueMap.insert
                (IssueMap.nextId graph.researchState)
                (competitorIssue graph.researchState
                  graph.config.now) }) ∨
      (cosStage graph = .rework →
          IssueMap.hasType graph.researchState .competitor = true) ∧
        (decideCos emitDespiteDegradedAudit graph).branchBudget =
          some (graph.branchBudget.getD .full) ∧
        (decideCos emitDespiteDegradedAudit graph).researchState =
          graph.researchState := by
  cases stage : cosStage graph with
  | rework =>
      rw [decideCos_rework emitDespiteDegradedAudit stage]
      cases has : IssueMap.hasType graph.researchState .competitor with
      | false =>
          have isFull : graph.branchBudget.getD .full = .full := by
            rcases kept.left with full | ⟨_, present⟩
            · exact full
            · rw [has] at present
              cases present
          have lasts : Budget.full.canBranch = true := rfl
          rw [isFull, materializeCompetitor_adds lasts has]
          exact Or.inl ⟨rfl, rfl, rfl, rfl⟩
      | true =>
          rw [materializeCompetitor_present has]
          exact Or.inr ⟨fun _ => rfl, rfl, rfl⟩
  | _ =>
      right
      refine ⟨fun rework => ?_, ?_⟩
      · cases rework
      · simp only [decideCos, stage]
        exact ⟨rfl, trivial⟩

section Runs

variable [PythonText]

/-- The issues that a decision adds. -/
def branchedOff (execution : Execution) (env : StepEnv) : List String :=
  if execution.control.node? = some .cosDecision then
    match step execution env with
    | none => []
    | some next =>
        next.graph.researchState.issueMap.keys.filter fun key =>
          key ∉ execution.graph.researchState.issueMap.keys
  else
    []

/-- What a step does to the budget. -/
theorem step_budget
    {execution next : Execution}
    {env : StepEnv}
    (stepped : step execution env = some next) :
    (execution.control.node? = some .cosDecision ∧
        ∃ emitDespiteDegradedAudit,
          next.graph.researchState.issueMap =
              (decideCos emitDespiteDegradedAudit
                execution.graph).researchState.issueMap ∧
            next.graph.branchBudget =
              (decideCos emitDespiteDegradedAudit
                execution.graph).branchBudget) ∨
      execution.control.node? ≠ some .cosDecision ∧
        (next.graph.branchBudget = execution.graph.branchBudget ∨
          next.graph.branchBudget = some .full) := by
  obtain ⟨node, seen, visits, rfl⟩ := step_visits stepped
  have entered := visits.node?
  by_cases decides : node = .cosDecision
  · subst decides
    left
    refine ⟨entered, seen.emitDespiteDegradedAudit, ?_⟩
    obtain ⟨sameIssues, sameBudget, _⟩ :=
      successor_issues seen.cap
        (execution.graph.apply (nodeCosDecision seen execution.graph))
        .cosDecision
    refine ⟨sameIssues, sameBudget.trans ?_⟩
    rcases decideCos_cases seen.emitDespiteDegradedAudit
        execution.graph with ⟨_, _, shape⟩ | ⟨_, shape⟩
    all_goals
      simp only [GraphState.apply, nodeCosDecision, shape, Option.some_or]
  · right
    refine ⟨fun same => decides (Option.some.inj (entered.symm.trans same)),
      ?_⟩
    rcases visit_cases seen node execution with
      ⟨world, raised⟩ | ⟨ask, world, _, paused⟩ | ⟨update, world, ran, moved⟩
    · rw [raised]
      exact Or.inl rfl
    · rw [paused]
      exact Or.inl rfl
    · rw [moved]
      have edge :=
        (successor_issues seen.cap (execution.graph.apply update) node).2.1
      have written := runNode_updates ran
      by_cases begins : node = .intake
      · subst begins
        right
        refine edge.trans ?_
        cases written
        rfl
      · left
        refine edge.trans ?_
        rw [GraphState.apply, written.issues.budget begins decides]
        rfl

/-- The issues that decisions have added so far, and what it has cost. -/
structure Branching (added : List String) (execution : Execution) :
    Prop where
  numbered : execution.graph.researchState.Numbered
  budget : BudgetKept execution.graph
  once :
    added = [] ∨
      added.length = 1 ∧
        IssueMap.hasType execution.graph.researchState .competitor = true

theorem step_branching
    {added : List String}
    {execution next : Execution}
    {env : StepEnv}
    (before : Branching added execution)
    (stepped : step execution env = some next) :
    Branching (added ++ branchedOff execution env) next := by
  obtain ⟨numbered, extended⟩ := step_goesOn stepped before.numbered
  have kept :
      IssueMap.hasType execution.graph.researchState .competitor = true →
        IssueMap.hasType next.graph.researchState .competitor = true :=
    extended.hasType
  rcases step_budget stepped with
    ⟨decides, emit, issues, budget⟩ | ⟨decides, budget⟩
  · have off :
        branchedOff execution env =
          next.graph.researchState.issueMap.keys.filter fun key =>
            key ∉ execution.graph.researchState.issueMap.keys := by
      rw [branchedOff, if_pos decides, stepped]
    rcases decideCos_branching before.budget emit with
      ⟨_, missing, spent, adds⟩ | ⟨_, unspent, same⟩
    · have isNext :
          next.graph.researchState.issueMap =
            execution.graph.researchState.issueMap.insert
              (IssueMap.nextId execution.graph.researchState)
              (competitorIssue execution.graph.researchState
                execution.graph.config.now) := by
        rw [issues, adds]
      have has :
          IssueMap.hasType next.graph.researchState .competitor = true :=
        hasType_iff.mpr
          ⟨IssueMap.nextId execution.graph.researchState, _,
            by rw [isNext, OrderedMap.get?_insert, if_pos rfl], rfl⟩
      have nothingYet : added = [] := by
        rcases before.once with none | ⟨_, present⟩
        · exact none
        · rw [missing] at present
          cases present
      refine ⟨numbered, ?_, ?_⟩
      · intro left isLeft
        rw [budget, spent] at isLeft
        cases isLeft
        exact Or.inr ⟨rfl, has⟩
      · rw [nothingYet, off, isNext, OrderedMap.keys_insert]
        split
        · left
          simp
        · rename_i absent
          right
          exact ⟨by simp [List.filter_append, absent], has⟩
    · refine ⟨numbered, ?_, ?_⟩
      · intro left isLeft
        rw [budget, unspent] at isLeft
        cases isLeft
        rcases before.budget.left with full | ⟨spent, present⟩
        · exact Or.inl full
        · exact Or.inr ⟨spent, kept present⟩
      · have nothing : branchedOff execution env = [] := by
          rw [off, issues, same]
          exact
            List.filter_eq_nil_iff.mpr fun key member isNew =>
              of_decide_eq_true isNew member
        rw [nothing, List.append_nil]
        exact before.once.imp_right fun one => ⟨one.1, kept one.2⟩
  · refine ⟨numbered, ?_, ?_⟩
    · intro left isLeft
      rcases budget with same | full
      · rw [same] at isLeft
        exact
          (before.budget left isLeft).imp_right fun spent =>
            ⟨spent.1, kept spent.2⟩
      · rw [full] at isLeft
        cases isLeft
        exact Or.inl rfl
    · rw [branchedOff, if_neg decides, List.append_nil]
      exact before.once.imp_right fun one => ⟨one.1, kept one.2⟩

/--
Whatever the brains answer, the decisions of a run add at most one issue.  The
budget for branches is full or spent by one level, so it never refuses: after a
rework there is always an issue about competitors.
-/
theorem branching_of_run
    {initial final : Execution}
    {envs : List StepEnv}
    (numbered : initial.graph.researchState.Numbered)
    (fresh : ∀ budget ∈ initial.graph.branchBudget, budget = .full)
    (ran : exec step initial envs = some final) :
    (observe step branchedOff initial envs).length ≤ 1 ∧
      (∀ budget ∈ final.graph.branchBudget,
        budget = .full ∨ budget = Budget.full.spend) ∧
      ∀ emitDespiteDegradedAudit,
        cosStage final.graph = .rework →
          IssueMap.hasType
              (decideCos emitDespiteDegradedAudit
                final.graph).researchState .competitor =
            true := by
  have branching :
      Branching (observe step branchedOff initial envs) final := by
    refine
      exec_induction
        (motive := fun labels state =>
          Branching (observe step branchedOff initial labels) state)
        ⟨numbered, fun budget isBudget => Or.inl (fresh budget isBudget),
          Or.inl rfl⟩
        ?_ ran
    intro labels state env next reached before stepped
    rw [observe_snoc branchedOff reached env]
    exact step_branching before stepped
  refine ⟨?_, ?_, ?_⟩
  · rcases branching.once with none | ⟨one, _⟩
    · rw [none]
      exact Nat.zero_le 1
    · exact one.le
  · intro budget isBudget
    exact (branching.budget budget isBudget).imp_right And.left
  · intro emit rework
    rcases decideCos_branching branching.budget emit with
      ⟨_, _, _, adds⟩ | ⟨present, _, same⟩
    · rw [adds]
      refine hasType_iff.mpr ⟨_, _, OrderedMap.get?_insert_self .., rfl⟩
    · rw [same]
      exact present rework

end Runs

/-- A question with an assumed brief, whose auditor always wants rework. -/
private def reworkedQuestion : Execution where
  graph :=
    { researchState := { runId := "run", originalQuestion := "question" }
      config := { assumeBrief := true } }
  control := .at .intake
  world := {}

private def reworkingEnv : StepEnv :=
  .calm
    { Brains.silent with
      issueExpander := fun _ =>
        some
          [{ title := "intent"
             description := "intent"
             issueType := .intent
             impact := 3
             confidence := 1 }]
      auditor := fun _ => some { verdict := .rework } }

/-- Of two reworks the first adds the issue, and the second adds none. -/
theorem branching_of_run_twoReworks :
    letI := PythonText.ascii
    ∃ final,
      exec step reworkedQuestion (List.replicate 30 reworkingEnv) =
        some final ∧
      final.graph.lastDecision = some .branch ∧
      final.graph.branchBudget = some { breadth := 2, depth := 1 } ∧
      (observe step branchedOff reworkedQuestion
        (List.replicate 30 reworkingEnv)).length ≤ 1 := by
  let _ := PythonText.ascii
  have seen :
      (exec step reworkedQuestion (List.replicate 30 reworkingEnv)).map
        (fun final => (final.graph.lastDecision, final.graph.branchBudget)) =
        some (some .branch, some { breadth := 2, depth := 1 }) := by
    decide +kernel
  obtain ⟨final, ran, isFinal⟩ := Option.map_eq_some_iff.mp seen
  have numbered : reworkedQuestion.graph.researchState.Numbered :=
    ResearchState.numbered_of_empty rfl rfl rfl
  have fresh :
      ∀ budget ∈ reworkedQuestion.graph.branchBudget, budget = .full :=
    fun _ isBudget => absurd isBudget (by simp [reworkedQuestion])
  exact
    ⟨final, ran, congrArg Prod.fst isFinal, congrArg Prod.snd isFinal,
      (branching_of_run numbered fresh ran).1⟩

end ResearchCos
