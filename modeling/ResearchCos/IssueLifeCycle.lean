import ResearchCos.ExpansionFlag
import ResearchCos.HumanPush
import ResearchCos.IssueEdits

namespace ResearchCos

open Foundation

/-!
# The life of an issue

An issue is opened, and the evidence of two passes answers it.  Nothing else
happens to its status: a push is the one node that blocks an issue, and a run
comes to it only when nothing is left to block.
-/

/-! ## The moves of a status -/

/-- One move of the status of an issue. -/
inductive StatusStep : IssueStatus → IssueStatus → Prop where
  | partlyAnswered {status : IssueStatus} :
      status = .open ∨ status = .researching →
      StatusStep status .partiallyAnswered
  | answered :
      StatusStep .partiallyAnswered .answered

/-- The moves from one status to another one. -/
abbrev StatusMoves : IssueStatus → IssueStatus → Prop :=
  Relation.ReflTransGen StatusStep

/-- Three of the nine statuses are moved to. -/
theorem status_of_moves
    {status : IssueStatus}
    (moves : StatusMoves .open status) :
    status = .open ∨ status = .partiallyAnswered ∨ status = .answered := by
  induction moves with
  | refl =>
      exact .inl rfl
  | tail _ last _ =>
      cases last with
      | partlyAnswered => exact .inr (.inl rfl)
      | answered => exact .inr (.inr rfl)

/-- An issue as a run knows it: moved since it was opened, and not blocked. -/
structure IssueNode.OnItsWay (issue : IssueNode) : Prop where
  moves : StatusMoves .open issue.status
  unblocked : issue.humanBlockers = []

/-- What happens to an issue on its way. -/
def IssueNode.MovesTo (before after : IssueNode) : Prop :=
  before.OnItsWay →
    after.OnItsWay ∧ StatusMoves before.status after.status

namespace IssueNode.MovesTo

theorem refl
    (issue : IssueNode) :
    issue.MovesTo issue :=
  fun onItsWay => ⟨onItsWay, .refl⟩

theorem trans
    {first second third : IssueNode}
    (earlier : first.MovesTo second)
    (later : second.MovesTo third) :
    first.MovesTo third := by
  intro onItsWay
  obtain ⟨middle, moved⟩ := earlier onItsWay
  obtain ⟨after, moves⟩ := later middle
  exact ⟨after, moved.trans moves⟩

/-- A change of anything else. -/
theorem of_same
    {before after : IssueNode}
    (status : after.status = before.status)
    (humanBlockers : after.humanBlockers = before.humanBlockers) :
    before.MovesTo after :=
  fun onItsWay =>
    ⟨⟨status ▸ onItsWay.moves, humanBlockers.trans onItsWay.unblocked⟩,
      status ▸ .refl⟩

theorem setStatus
    {issue : IssueNode}
    {status : IssueStatus}
    (now : String)
    (step : StatusStep issue.status status) :
    issue.MovesTo (issue.setStatus status now) :=
  fun onItsWay =>
    ⟨⟨onItsWay.moves.tail step, onItsWay.unblocked⟩, .single step⟩

end IssueNode.MovesTo

/-- An issue on its way waits for nobody. -/
theorem IssueNode.OnItsWay.isBlocked_eq_false
    {issue : IssueNode}
    (onItsWay : issue.OnItsWay) :
    isBlocked issue.status = false := by
  rcases status_of_moves onItsWay.moves with status | status | status
  · rw [status]
    rfl
  · rw [status]
    rfl
  · rw [status]
    rfl

theorem movesTo_advanceIssue
    (now query : String)
    (issue : IssueNode) :
    issue.MovesTo (advanceIssue now query issue) := by
  unfold advanceIssue
  have noted
      {after : IssueNode}
      (moved : issue.MovesTo after) :
      issue.MovesTo
        { after with evidenceRefs := after.evidenceRefs ++ [query] } :=
    moved.trans (.of_same rfl rfl)
  cases status : issue.status with
  | «open» =>
      refine noted (.setStatus now (.partlyAnswered ?_))
      exact .inl status
  | researching =>
      refine noted (.setStatus now (.partlyAnswered ?_))
      exact .inr status
  | partiallyAnswered =>
      have step : StatusStep issue.status .answered := status ▸ .answered
      have answered : issue.MovesTo (issue.setStatus .answered now) :=
        .setStatus now step
      exact noted (answered.trans (.of_same rfl rfl))
  | _ =>
      exact noted (.refl issue)

/-! ## The moves of all issues -/

/-- Old issues move on, and new ones are on their way. -/
abbrev IssuesMove (before after : OrderedMap String IssueNode) : Prop :=
  OrderedMap.Grows IssueNode.MovesTo IssueNode.OnItsWay before after

theorem IssuesMove.trans
    {before middle after : OrderedMap String IssueNode}
    (earlier : IssuesMove before middle)
    (later : IssuesMove middle after) :
    IssuesMove before after := by
  refine OrderedMap.Grows.trans IssueNode.MovesTo.trans ?_ earlier later
  intro old new moved onItsWay
  exact (moved onItsWay).1

/-- All issues stay on their way. -/
theorem IssuesMove.onTheirWay
    {before after : OrderedMap String IssueNode}
    (moves : IssuesMove before after)
    (all : OrderedMap.AllValues IssueNode.OnItsWay before) :
    OrderedMap.AllValues IssueNode.OnItsWay after := by
  rw [OrderedMap.allValues_iff_get?] at all ⊢
  intro key issue stored
  cases isOld : before.get? key with
  | none =>
      exact moves.added key issue stored isOld
  | some old =>
      obtain ⟨new, storedNew, moved⟩ := moves.kept key old isOld
      rw [stored] at storedNew
      cases storedNew
      exact (moved (all key old isOld)).1

/-- Every edit but a push moves issues that nobody blocks. -/
theorem IssueEdit.moves
    {node : Node}
    {before after : OrderedMap String IssueNode}
    (edit : IssueEdit node before after)
    (pushesNot : node ≠ .humanPush) :
    IssuesMove before after := by
  cases edit with
  | raised text =>
      refine .mapValues (fun issue => ?_) _
      unfold applySteerText
      split
      · exact .of_same rfl rfl
      · exact .refl issue
  | added absent isOpen _ unblocked =>
      refine .insert IssueNode.MovesTo.refl absent ⟨?_, unblocked⟩
      rw [isOpen]
  | advanced now query =>
      exact
        .modify IssueNode.MovesTo.refl fun issue _ =>
          movesTo_advanceIssue now query issue
  | stamped =>
      exact .mapValues (fun issue => .of_same rfl rfl) _
  | noted rs =>
      simp only [notedBlockers]
      refine .mapValues (fun issue onItsWay => ?_) _
      rw [if_neg (by simp [onItsWay.isBlocked_eq_false])]
      exact ⟨onItsWay, .refl⟩
  | pushed now pushes =>
      exact absurd pushes pushesNot

/-- An edit numbers the issues on. -/
theorem IssueEdit.consecutive
    {node : Node}
    {before after : OrderedMap String IssueNode}
    (edit : IssueEdit node before after)
    (consecutive : OrderedMap.Consecutive IssueMap.issueId before) :
    OrderedMap.Consecutive IssueMap.issueId after := by
  cases edit with
  | raised =>
      exact consecutive.mapValues _
  | added absent =>
      exact consecutive.insert_next absent _
  | advanced =>
      exact consecutive.modify _ _
  | stamped =>
      exact consecutive.mapValues _
  | noted =>
      exact consecutive.mapValues _
  | pushed =>
      exact consecutive.modify _ _

/-- What the edits of a node do to the issues. -/
theorem issuesMove_of_edits
    {node : Node}
    {before after : OrderedMap String IssueNode}
    (pushesNot : node ≠ .humanPush)
    (edits : Relation.ReflTransGen (IssueEdit node) before after) :
    IssuesMove before after ∧
      (OrderedMap.Consecutive IssueMap.issueId before →
        OrderedMap.Consecutive IssueMap.issueId after) := by
  induction edits with
  | refl =>
      exact ⟨.refl IssueNode.MovesTo.refl before, id⟩
  | tail _ last inductionHypothesis =>
      obtain ⟨moved, consecutive⟩ := inductionHypothesis
      exact
        ⟨moved.trans (last.moves pushesNot),
          fun start => last.consecutive (consecutive start)⟩

/-! ## The moves of a run -/

/-- A push is decided before it is made. -/
theorem successor_humanPush
    {cap : Option ActiveCap}
    {state : GraphState}
    {node : Node}
    (leads : (successor cap state node).1 = some .humanPush) :
    node = .cosDecision ∧ state.lastDecision = some .pushHuman := by
  cases node with
  | cosDecision =>
      refine ⟨rfl, ?_⟩
      simp only [successor, route] at leads
      repeat' split at leads
      any_goals cases leads
      rename_i decided
      cases last : state.lastDecision with
      | none =>
          rw [last] at decided
          cases decided
      | some decision =>
          rw [last] at decided
          exact congrArg some decided
  | clarify =>
      simp only [successor, routeAfterClarify] at leads
      split at leads
      all_goals cases leads
  | humanPull =>
      simp only [successor, routeAfterPull] at leads
      repeat' split at leads
      all_goals cases leads
  | deepAudit =>
      simp only [successor, routeAfterDeepAudit] at leads
      split at leads
      all_goals cases leads
  | _ =>
      cases leads

section Runs

variable [PythonText]

/-- Every node moves the issues and numbers them on. -/
theorem NodeUpdate.issuesMove
    {env : StepEnv}
    {state : GraphState}
    {world after : World}
    {node : Node}
    {update : Update}
    (written : NodeUpdate env state world node update after)
    (numbered : state.researchState.Numbered)
    (nothingLeft :
      node = .humanPush →
        Exhaustion.hasAddressable state.researchState = false) :
    IssuesMove state.researchState.issueMap
        update.researchState.issueMap ∧
      (OrderedMap.Consecutive IssueMap.issueId
          state.researchState.issueMap →
        OrderedMap.Consecutive IssueMap.issueId
          update.researchState.issueMap) := by
  by_cases argues : node = .skeptic
  · subst argues
    cases written with
    | argued counters =>
        dsimp only
        refine ⟨.mapValues (fun issue => ?_) _, fun before => ?_⟩
        · split
          · exact .refl issue
          · exact .of_same rfl rfl
        · exact before.mapValues _
  · by_cases pushes : node = .humanPush
    · subst pushes
      cases written with
      | pushedNothing =>
          exact ⟨.refl IssueNode.MovesTo.refl _, id⟩
      | pushed key target blocked isTarget =>
          rw [pushTarget_eq_none (nothingLeft rfl)] at isTarget
          cases isTarget
    · exact
        issuesMove_of_edits pushes
          ((written.editsIssues argues).edits numbered)

/-- What is known of the issues at any moment of a run. -/
structure IssuesInLife (execution : Execution) : Prop where
  numbered : execution.graph.researchState.Numbered
  consecutive :
    OrderedMap.Consecutive IssueMap.issueId
      execution.graph.researchState.issueMap
  onTheirWay :
    OrderedMap.AllValues IssueNode.OnItsWay
      execution.graph.researchState.issueMap
  nothingLeft :
    execution.control.node? = some .humanPush →
      Exhaustion.hasAddressable execution.graph.researchState = false

omit [PythonText] in
/-- Nothing is known of no issues. -/
theorem issuesInLife_of_empty
    {execution : Execution}
    (nothing : NothingMinted execution.graph.researchState) :
    IssuesInLife execution := by
  obtain ⟨noIssues, noChallenges, noTasks⟩ := nothing
  refine
    ⟨ResearchState.numbered_of_empty noIssues noChallenges noTasks, ?_, ?_,
      fun _ => ?_⟩
  · rw [noIssues]
    exact .empty
  · rw [noIssues]
    exact OrderedMap.allValues_empty _
  · unfold Exhaustion.hasAddressable
    rw [noIssues]
    rfl

/-- A completed decision to push leaves nothing addressable. -/
theorem nothingLeft_of_decided
    {env : StepEnv}
    {graph : GraphState}
    {world after : World}
    {update : Update}
    (ran : runNode env graph world .cosDecision = .update update after)
    (decided : (graph.apply update).lastDecision = some .pushHuman) :
    Exhaustion.hasAddressable (graph.apply update).researchState = false := by
  have isUpdate : nodeCosDecision env graph = update := by
    cases ran
    rfl
  have isDecision :
      (decideCos env.emitDespiteDegradedAudit graph).lastDecision =
        some .pushHuman := by
    have decides := congrArg Update.lastDecision isUpdate
    cases runNode_updates ran with
    | decided decision =>
        exact decides.trans decided
    | branched =>
        cases decided
  obtain ⟨nothingLeft, unchanged⟩ := decideCos_pushHuman isDecision
  have applied :
      (graph.apply update).researchState = graph.researchState := by
    rw [← isUpdate]
    exact unchanged
  rw [applied]
  exact nothingLeft

/-- A step keeps what is known of the issues and moves them. -/
theorem step_issuesInLife
    {execution next : Execution}
    {env : StepEnv}
    (before : IssuesInLife execution)
    (stepped : step execution env = some next) :
    IssuesInLife next ∧
      IssuesMove execution.graph.researchState.issueMap
        next.graph.researchState.issueMap := by
  have unmoved :
      IssuesMove execution.graph.researchState.issueMap
        execution.graph.researchState.issueMap :=
    .refl IssueNode.MovesTo.refl _
  obtain ⟨node, seen, visits, rfl⟩ := step_visits stepped
  have entered := visits.node?
  rcases visit_cases seen node execution with
    ⟨world, raised⟩ | ⟨ask, world, _, paused⟩ | ⟨update, world, ran, moved⟩
  · rw [raised]
    exact ⟨{ before with nothingLeft := fun leads => by cases leads }, unmoved⟩
  · rw [paused]
    refine ⟨{ before with nothingLeft := fun again => ?_ }, unmoved⟩
    exact before.nothingLeft (entered.trans again)
  · rw [moved]
    have written := runNode_updates ran
    have numbered := (written.goesOn before.numbered).1
    obtain ⟨moves, consecutive⟩ :=
      written.issuesMove before.numbered fun pushes =>
        before.nothingLeft (pushes ▸ entered)
    have sameIssues :
        (successor seen.cap (execution.graph.apply update)
            node).2.researchState.issueMap =
          update.researchState.issueMap :=
      (successor_issues seen.cap (execution.graph.apply update) node).1
    refine ⟨⟨?_, ?_, ?_, ?_⟩, ?_⟩
    · exact
        (successor_goesOn seen.cap (execution.graph.apply update) node
          numbered).1
    · rw [sameIssues]
      exact consecutive before.consecutive
    · rw [sameIssues]
      exact moves.onTheirWay before.onTheirWay
    · intro leads
      rw [Control.node?_elim] at leads
      obtain ⟨isDecision, decided⟩ := successor_humanPush leads
      subst isDecision
      have nothingLeft := nothingLeft_of_decided ran decided
      unfold Exhaustion.hasAddressable at nothingLeft ⊢
      rw [sameIssues]
      exact nothingLeft
    · rw [sameIssues]
      exact moves

/-- Between any two moments of a run the issues move on. -/
theorem run_issuesInLife
    {execution final : Execution}
    {envs : List StepEnv}
    (before : IssuesInLife execution)
    (ran : exec step execution envs = some final) :
    IssuesInLife final ∧
      IssuesMove execution.graph.researchState.issueMap
        final.graph.researchState.issueMap := by
  refine
    exec_invariant
      (motive := fun reached =>
        IssuesInLife reached ∧
          IssuesMove execution.graph.researchState.issueMap
            reached.graph.researchState.issueMap)
      ?_ ⟨before, .refl IssueNode.MovesTo.refl _⟩ ran
  rintro middle env next ⟨inLife, moved⟩ stepped
  obtain ⟨after, moves⟩ := step_issuesInLife inLife stepped
  exact ⟨after, moved.trans moves⟩

omit [PythonText] in
/-- There is no residual blocker to record. -/
theorem IssuesInLife.notedBlockers_eq
    {execution : Execution}
    (inLife : IssuesInLife execution) :
    notedBlockers execution.graph.researchState =
      execution.graph.researchState := by
  unfold notedBlockers
  rw [OrderedMap.mapValues_of_unchanged]
  intro issue member
  have unblocked := (inLife.onTheirWay issue member).isBlocked_eq_false
  exact if_neg (by simp [unblocked])

/--
In a run that starts with nothing an issue is open, in work or answered, and is
never blocked.  Its status moves in this order only, and issues are numbered in
the order in which they are opened.
-/
theorem issue_life_cycle
    {execution middle final : Execution}
    {earlier later : List StepEnv}
    (nothing : NothingMinted execution.graph.researchState)
    (reached : exec step execution earlier = some middle)
    (ran : exec step middle later = some final) :
    (∀ key old,
        middle.graph.researchState.issueMap.get? key = some old →
        ∃ new,
          final.graph.researchState.issueMap.get? key = some new ∧
            StatusMoves old.status new.status) ∧
      OrderedMap.AllValues
        (fun issue =>
          (issue.status = .open ∨ issue.status = .partiallyAnswered ∨
              issue.status = .answered) ∧
            issue.humanBlockers = [])
        final.graph.researchState.issueMap ∧
      notedBlockers final.graph.researchState =
        final.graph.researchState ∧
      OrderedMap.Consecutive IssueMap.issueId
        final.graph.researchState.issueMap := by
  have begun := (run_issuesInLife (issuesInLife_of_empty nothing) reached).1
  obtain ⟨inLife, moves⟩ := run_issuesInLife begun ran
  refine ⟨?_, ?_, inLife.notedBlockers_eq, inLife.consecutive⟩
  · intro key old stored
    obtain ⟨new, storedNew, moved⟩ := moves.kept key old stored
    have onItsWay :=
      OrderedMap.allValues_iff_get?.mp begun.onTheirWay key old stored
    exact ⟨new, storedNew, (moved onItsWay).2⟩
  · intro issue member
    have onItsWay := inLife.onTheirWay issue member
    exact ⟨status_of_moves onItsWay.moves, onItsWay.unblocked⟩

end Runs

/-- A question whose one issue is researched in each pass. -/
private def pursuedQuestion : Execution where
  graph :=
    { researchState := { runId := "run", originalQuestion := "question" }
      config := { assumeBrief := true } }
  control := .at .intake
  world := {}

private def pursuingBrains : Brains :=
  { Brains.silent with
    issueExpander := fun _ =>
      some
        [{ title := "issue"
           description := ""
           issueType := .market
           impact := 3
           confidence := 2 }]
    researcher := fun rs issueId =>
      some { query := rs.originalQuestion, issueId := some issueId } }

/-- The first pass answers the issue in part, the second one in full. -/
theorem issue_life_cycle_twoPasses :
    letI := PythonText.ascii
    ∃ middle final,
      exec step pursuedQuestion
          (List.replicate 11 (.calm pursuingBrains)) =
        some middle ∧
      exec step middle (List.replicate 12 (.calm pursuingBrains)) =
        some final ∧
      middle.graph.researchState.issueMap.values.map IssueNode.status =
        [.partiallyAnswered] ∧
      final.graph.researchState.issueMap.values.map IssueNode.status =
        [.answered] ∧
      notedBlockers final.graph.researchState =
        final.graph.researchState := by
  let _ := PythonText.ascii
  let middle :=
    (exec step pursuedQuestion
      (List.replicate 11 (.calm pursuingBrains))).get (by decide +kernel)
  let final :=
    (exec step middle
      (List.replicate 12 (.calm pursuingBrains))).get (by decide +kernel)
  have reached :
      exec step pursuedQuestion (List.replicate 11 (.calm pursuingBrains)) =
        some middle :=
    (Option.some_get _).symm
  have ran :
      exec step middle (List.replicate 12 (.calm pursuingBrains)) =
        some final :=
    (Option.some_get _).symm
  obtain ⟨_, _, unnoted, _⟩ :=
    issue_life_cycle ⟨rfl, rfl, rfl⟩ reached ran
  exact
    ⟨middle, final, reached, ran, by decide +kernel, by decide +kernel,
      unnoted⟩

end ResearchCos
