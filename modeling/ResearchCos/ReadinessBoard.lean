import ResearchCos.Foundation.Buckets
import ResearchCos.IssueLifeCycle

namespace ResearchCos

open Foundation

/-!
# The readiness board

The board is derived from the issues and the challenges and is never stored.
In a run every one of them stands in one column, and what waits for a human is
what the memo calls a blocker.
-/

/-! ## Columns -/

inductive BoardColumn where
  | answered
  | pending
  | blocked
  | needsHuman
  deriving Repr, DecidableEq

/-- The columns, in their order. -/
def BoardColumn.all : List BoardColumn :=
  [.answered, .pending, .blocked, .needsHuman]

def issueToColumn : IssueStatus → BoardColumn
  | .open
  | .researching
  | .partiallyAnswered
  | .lowConfidence => .pending
  | .answered => .answered
  | .blockedByInternalData
  | .blockedByPermission
  | .blockedByDecision => .blocked
  | .blockedByHuman => .needsHuman

/-- The column of a challenge; a status without one counts as pending. -/
def challengeToColumn : ChallengeStatus → BoardColumn
  | .open => .pending
  | .answered => .answered
  | .needsInternalData => .blocked
  | .needsAlbertDecision
  | .needsBuJudgment => .needsHuman
  | .resolved
  | .escalatedToHuman => .pending

/-- The board before anything is put on it. -/
def emptyBoard : OrderedMap BoardColumn (List String) :=
  BoardColumn.all.foldl (fun board column => board.insert column []) ∅

def deriveBoard (state : ResearchState) :
    OrderedMap BoardColumn (List String) :=
  let board :=
    OrderedMap.appendItems (fun node => issueToColumn node.status)
      IssueNode.id state.issueMap.values emptyBoard
  OrderedMap.appendItems (fun challenge => challengeToColumn challenge.status)
    AlbertChallenge.id state.albertChallengeMap.values board

/-- A resolved challenge is not shown as answered. -/
example : challengeToColumn .resolved = .pending :=
  rfl

/-- The identifiers in a column. -/
def boardColumn (state : ResearchState) (column : BoardColumn) :
    List String :=
  ((state.issueMap.values.filter fun node =>
      issueToColumn node.status = column).map IssueNode.id) ++
    (state.albertChallengeMap.values.filter fun challenge =>
      challengeToColumn challenge.status = column).map AlbertChallenge.id

theorem get?_deriveBoard
    (state : ResearchState)
    (column : BoardColumn) :
    (deriveBoard state).get? column = some (boardColumn state column) := by
  have begins : emptyBoard.get? column = some [] := by
    cases column <;> rfl
  simp only [deriveBoard, OrderedMap.get?_appendItems, begins,
    Option.map_some, List.nil_append]
  rfl

theorem values_deriveBoard
    (state : ResearchState) :
    (deriveBoard state).values = BoardColumn.all.map (boardColumn state) := by
  have columns : (deriveBoard state).keys = BoardColumn.all := by
    simp only [deriveBoard, OrderedMap.keys_appendItems]
    rfl
  rw [← columns]
  refine OrderedMap.values_eq_map_keys fun column _ => ?_
  exact get?_deriveBoard state column

/-- Everything is on the board once. -/
theorem deriveBoard_perm
    (state : ResearchState) :
    (deriveBoard state).values.flatten.Perm
      (state.issueMap.values.map IssueNode.id ++
        state.albertChallengeMap.values.map AlbertChallenge.id) := by
  have covered (column : BoardColumn) : column ∈ BoardColumn.all := by
    cases column <;> decide
  have distinct : BoardColumn.all.Nodup := by
    decide
  rw [values_deriveBoard, ← List.flatMap_def]
  refine (List.flatMap_append_perm _ _ _).symm.trans (.append ?_ ?_)
  · rw [← List.map_flatMap]
    exact
      (flatMap_filter_perm (fun node : IssueNode => issueToColumn node.status)
        distinct fun node _ => covered _).map _
  · rw [← List.map_flatMap]
    exact
      (flatMap_filter_perm
        (fun challenge : AlbertChallenge => challengeToColumn challenge.status)
        distinct fun challenge _ => covered _).map _

/-! ## The board and the blockers of the memo -/

/-- An identifier that the board shows as waiting for a human. -/
def ShownWaiting (state : ResearchState) (id : String) : Prop :=
  id ∈ boardColumn state .blocked ∨ id ∈ boardColumn state .needsHuman

theorem issueToColumn_waits
    (status : IssueStatus) :
    (issueToColumn status = .blocked ∨ issueToColumn status = .needsHuman) ↔
      ∃ blockerType,
        Blockers.ofIssueStatus status = some blockerType ∧
          blockerType ≠ .research := by
  cases status <;> simp [issueToColumn, Blockers.ofIssueStatus]

theorem challengeToColumn_waits
    (status : ChallengeStatus) :
    (challengeToColumn status = .blocked ∨
        challengeToColumn status = .needsHuman) ↔
      ∃ blockerType,
        Blockers.ofChallengeStatus status = some blockerType ∧
          blockerType ≠ .research := by
  cases status <;> simp [challengeToColumn, Blockers.ofChallengeStatus]

/-- What stands in one of two columns, under its own identifier. -/
theorem shownWaiting_iff
    {state : ResearchState}
    (issueKeys : OrderedMap.KeyedBy IssueNode.id state.issueMap)
    (challengeKeys :
      OrderedMap.KeyedBy AlbertChallenge.id state.albertChallengeMap)
    (id : String) :
    ShownWaiting state id ↔
      (∃ node, (id, node) ∈ state.issueMap.entries ∧
          (issueToColumn node.status = .blocked ∨
            issueToColumn node.status = .needsHuman)) ∨
        ∃ challenge, (id, challenge) ∈ state.albertChallengeMap.entries ∧
          (challengeToColumn challenge.status = .blocked ∨
            challengeToColumn challenge.status = .needsHuman) := by
  rw [← issueKeys.exists_named_iff, ← challengeKeys.exists_named_iff]
  simp only [ShownWaiting, boardColumn, List.mem_append, List.mem_map,
    List.mem_filter, decide_eq_true_eq]
  grind

/-- The board and the memo agree on what waits for a human. -/
theorem shownWaiting_iff_blocker
    {state : ResearchState}
    (issueKeys : OrderedMap.KeyedBy IssueNode.id state.issueMap)
    (challengeKeys :
      OrderedMap.KeyedBy AlbertChallenge.id state.albertChallengeMap)
    (id : String) :
    ShownWaiting state id ↔
      ∃ blocker ∈ Blockers.labelBlockers state,
        blocker.blockerType ≠ .research ∧ blocker.sourceId = id := by
  rw [shownWaiting_iff issueKeys challengeKeys]
  simp only [issueToColumn_waits, challengeToColumn_waits,
    Blockers.labelBlockers, List.mem_append, List.mem_filterMap, or_assoc]
  constructor
  · rintro (⟨node, stored, blockerType, labelled, notResearch⟩ |
      ⟨challenge, stored, blockerType, labelled, notResearch⟩)
    · exact
        ⟨_, .inl ⟨(id, node), stored, by rw [labelled]; rfl⟩, notResearch,
          rfl⟩
    · exact
        ⟨_, .inr (.inr ⟨(id, challenge), stored, by rw [labelled]; rfl⟩),
          notResearch, rfl⟩
  · rintro ⟨blocker, labelled, notResearch, rfl⟩
    rcases labelled with ⟨⟨key, node⟩, stored, isBlocker⟩ |
      ⟨⟨key, node⟩, stored, isBlocker⟩ | ⟨⟨key, challenge⟩, stored, isBlocker⟩
    · obtain ⟨blockerType, labelled, rfl⟩ := Option.map_eq_some_iff.mp isBlocker
      exact .inl ⟨node, stored, blockerType, labelled, notResearch⟩
    · split at isBlocker
      · cases isBlocker
        exact absurd rfl notResearch
      · cases isBlocker
    · obtain ⟨blockerType, labelled, rfl⟩ := Option.map_eq_some_iff.mp isBlocker
      exact .inr ⟨challenge, stored, blockerType, labelled, notResearch⟩

/-! ## The challenges of a run -/

section Runs

variable [PythonText]

omit [PythonText] in
theorem relatesAdded_sameChallenges :
    RelatesAdded fun before after =>
      after.albertChallengeMap = before.albertChallengeMap where
  refl := fun _ => rfl
  trans := fun earlier later => later.trans earlier
  add := by
    intro rs after title description now issueType impact confidence added
    simp only [IssueMap.add] at added
    split at added
    · cases added
      rfl
    · cases added

/-- Only an audit changes the challenges. -/
theorem NodeUpdate.challenges
    {env : StepEnv}
    {state : GraphState}
    {world after : World}
    {node : Node}
    {update : Update}
    (written : NodeUpdate env state world node update after) :
    update.researchState.albertChallengeMap =
        state.researchState.albertChallengeMap ∨
      ∃ raised,
        recordChallenges raised state.researchState.albertChallengeMap =
          some update.researchState.albertChallengeMap := by
  cases written with
  | audited audit challenges _ recorded =>
      exact .inr ⟨audit.challenges, recorded⟩
  | issuesPlanned rs expanded
  | cellsPlanned rs _ _ expanded =>
      have same := relatesAdded_sameChallenges.expandIssues expanded
      exact .inl same
  | issuesExpanded rs expanded =>
      exact .inl (relatesAdded_sameChallenges.expandIssues expanded)
  | branched budget =>
      exact
        .inl (relatesAdded_sameChallenges.materializeCompetitor _ _ budget)
  | pushed key target blocked isTarget _ setsBlocked =>
      left
      dsimp only [Update.ofState]
      rw [IssueMap.setStatus_eq_some setsBlocked]
  | reviewBuilt _ _ built
  | reviewPassed _ _ _ built
  | reviewAnswered _ _ _ built =>
      left
      obtain ⟨_, _, _, rfl, _⟩ := buildAndGateMemo_eq_some built
      rfl
  | _ =>
      exact .inl rfl

/-- What is known of the challenges at any moment of a run. -/
structure ChallengesInLife
    (challenges : OrderedMap String AlbertChallenge) : Prop where
  consecutive : OrderedMap.Consecutive ChallengeMap.challengeId challenges
  keyed : OrderedMap.KeyedBy AlbertChallenge.id challenges
  settled :
    OrderedMap.AllValues
      (fun known => ¬(known.status = .answered ∧ known.evidenceRefs ≠ []))
      challenges

theorem ChallengesInLife.record
    {ratio : List Char → List Char → ℚ}
    {challenges next : OrderedMap String AlbertChallenge}
    {challenge : AlbertChallenge}
    (inLife : ChallengesInLife challenges)
    (recorded :
      ChallengeMap.recordChallengeBy ratio challenges challenge = some next) :
    ChallengesInLife next := by
  rcases recordChallengeBy_merges recorded with ⟨key, known, _, _, rfl⟩ | rfl
  · refine ⟨inLife.consecutive.modify _ _, ?_, ?_⟩
    · refine inLife.keyed.modify (fun other => ?_) _
      rw [ChallengeMap.mergedWith, ChallengeMap.promote_id]
      rfl
    · exact
        inLife.settled.modify (fun _ _ => ChallengeMap.promote_settled _) key
  · refine ⟨inLife.consecutive.insert_next ?_ _, inLife.keyed.insert ?_, ?_⟩
    · exact inLife.consecutive.next_absent ChallengeMap.challengeId_injective
    · rw [ChallengeMap.mintedFor, ChallengeMap.promote_id]
      rfl
    · exact inLife.settled.insert (ChallengeMap.promote_settled _)

theorem ChallengesInLife.recordAll
    {raised : List AlbertChallenge}
    {challenges next : OrderedMap String AlbertChallenge}
    (inLife : ChallengesInLife challenges)
    (recorded : recordChallenges raised challenges = some next) :
    ChallengesInLife next := by
  rw [← ChallengeMap.recordChallengesBy_sequenceMatcher] at recorded
  induction raised generalizing challenges with
  | nil =>
      cases recorded
      exact inLife
  | cons challenge rest inductionHypothesis =>
      obtain ⟨middle, first, later⟩ := Option.bind_eq_some_iff.mp recorded
      exact inductionHypothesis (inLife.record first) later

/-- What is known of issues and challenges at any moment of a run. -/
structure BoardInLife (execution : Execution) : Prop where
  issues : IssuesInLife execution
  challenges :
    ChallengesInLife execution.graph.researchState.albertChallengeMap

theorem step_boardInLife
    {execution next : Execution}
    {env : StepEnv}
    (before : BoardInLife execution)
    (stepped : step execution env = some next) :
    BoardInLife next := by
  refine ⟨(step_issuesInLife before.issues stepped).1, ?_⟩
  obtain
    ⟨node, seen, _, same | ⟨update, world, after, reason, ran, moved⟩⟩ :=
      step_writes stepped
  · rw [same]
    exact before.challenges
  · rw [moved]
    rcases (runNode_updates ran).challenges with kept | ⟨_, recorded⟩
    · exact kept ▸ before.challenges
    · exact before.challenges.recordAll recorded

/-! ## The board of a run -/

omit [PythonText] in
/-- Issues and challenges have different identifiers. -/
theorem issueId_ne_challengeId
    (first second : Nat) :
    IssueMap.issueId first ≠ ChallengeMap.challengeId second := by
  intro same
  have characters := congrArg String.toList same
  simp only [IssueMap.issueId, ChallengeMap.challengeId,
    String.toList_append] at characters
  cases characters

omit [PythonText] in
/-- No identifier is given twice. -/
theorem BoardInLife.nodup_ids
    {execution : Execution}
    (inLife : BoardInLife execution) :
    (execution.graph.researchState.issueMap.keys ++
      execution.graph.researchState.albertChallengeMap.keys).Nodup := by
  refine
    List.Nodup.append (OrderedMap.nodupKeys _) (OrderedMap.nodupKeys _) ?_
  rw [inLife.issues.consecutive, inLife.challenges.consecutive]
  intro id isIssue isChallenge
  obtain ⟨first, _, rfl⟩ := List.mem_map.mp isIssue
  obtain ⟨second, _, same⟩ := List.mem_map.mp isChallenge
  exact issueId_ne_challengeId _ _ same.symm

/--
In a run the board shows every issue and every challenge once.  Only challenges
wait for a human, the same ones that block the memo, and a challenge that is
shown as answered has no evidence.
-/
theorem board_of_run
    {execution final : Execution}
    {envs : List StepEnv}
    (nothing : NothingMinted execution.graph.researchState)
    (ran : exec step execution envs = some final) :
    (deriveBoard final.graph.researchState).values.flatten.Perm
        (final.graph.researchState.issueMap.keys ++
          final.graph.researchState.albertChallengeMap.keys) ∧
      (deriveBoard final.graph.researchState).values.flatten.Nodup ∧
      (∀ id,
        ShownWaiting final.graph.researchState id ↔
          ∃ blocker ∈ Blockers.labelBlockers final.graph.researchState,
            blocker.blockerType ≠ .research ∧ blocker.sourceId = id) ∧
      (∀ id,
        ShownWaiting final.graph.researchState id →
          id ∈ final.graph.researchState.albertChallengeMap.keys) ∧
      ∀ known ∈ final.graph.researchState.albertChallengeMap.values,
        challengeToColumn known.status = .answered →
          known.evidenceRefs = [] := by
  have begins : BoardInLife execution := by
    refine ⟨issuesInLife_of_empty nothing, ?_⟩
    rw [nothing.2.1]
    exact
      ⟨.empty, OrderedMap.keyedBy_empty _, OrderedMap.allValues_empty _⟩
  have inLife : BoardInLife final :=
    exec_invariant (motive := BoardInLife) step_boardInLife begins ran
  have issueKeys := inLife.issues.numbered.issueKeys
  have challengeKeys := inLife.challenges.keyed
  have everything := deriveBoard_perm final.graph.researchState
  rw [issueKeys.map_name_values, challengeKeys.map_name_values] at everything
  refine
    ⟨everything, everything.nodup_iff.mpr inLife.nodup_ids,
      shownWaiting_iff_blocker issueKeys challengeKeys, ?_, ?_⟩
  · intro id waits
    rcases (shownWaiting_iff issueKeys challengeKeys id).mp waits with
      ⟨node, stored, column⟩ | ⟨challenge, stored, _⟩
    · have onItsWay :=
        inLife.issues.onTheirWay node (List.mem_map_of_mem stored)
      rcases status_of_moves onItsWay.moves with status | status | status
      all_goals
        rw [status] at column
        rcases column with isBlocked | needsHuman
        · cases isBlocked
        · cases needsHuman
    · exact List.mem_map_of_mem stored
  · intro known member column
    have answered : known.status = .answered := by
      cases status : known.status with
      | answered =>
          rfl
      | _ =>
          rw [status] at column
          cases column
    by_contra evidence
    exact inLife.challenges.settled known member ⟨answered, evidence⟩

end Runs

/-- A question whose one issue is challenged. -/
private def challengedQuestion : Execution where
  graph :=
    { researchState := { runId := "run", originalQuestion := "question" }
      config := { assumeBrief := true } }
  control := .at .intake
  world := {}

private def challengingBrains : Brains :=
  { Brains.silent with
    issueExpander := fun _ =>
      some
        [{ title := "issue"
           description := ""
           issueType := .market
           impact := 3
           confidence := 2 }]
    auditor := fun _ =>
      some
        { verdict := .continue_
          rationale := "rationale"
          challenges :=
            [{ id := "", challenge := "Who decides?"
               status := .needsBuJudgment }] } }

/-- After the first audit the challenge waits for a human. -/
theorem board_of_run_firstAudit :
    letI := PythonText.ascii
    ∃ final,
      exec step challengedQuestion
          (List.replicate 13 (.calm challengingBrains)) =
        some final ∧
      (deriveBoard final.graph.researchState).values =
        [[], ["I-001"], [], ["C-001"]] ∧
      (deriveBoard final.graph.researchState).values.flatten.Nodup := by
  let _ := PythonText.ascii
  let final :=
    (exec step challengedQuestion
      (List.replicate 13 (.calm challengingBrains))).get (by decide +kernel)
  have ran :
      exec step challengedQuestion
          (List.replicate 13 (.calm challengingBrains)) =
        some final :=
    (Option.some_get _).symm
  obtain ⟨_, distinct, _⟩ := board_of_run ⟨rfl, rfl, rfl⟩ ran
  exact ⟨final, ran, by decide +kernel, distinct⟩

end ResearchCos
