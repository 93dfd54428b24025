import ResearchCos.Foundation.Growth
import ResearchCos.MintedIds
import ResearchCos.NodeRecords
import ResearchCos.ReferenceScan

namespace ResearchCos

open Foundation

/-!
# What a run has recorded

The evidence, the trends and the queries of a run are only appended to, and so
is its steering log, whose entries are at most marked as consumed.  Issues,
challenges and tasks stay under their identifiers.  An issue that is closed
keeps its status, and a challenge that is closed stays as it is.
-/

/-! ## Entries that go on -/

/-- An entry of the log stays as it is, or it is marked as consumed. -/
inductive SteeringEvent.MarkedAs : SteeringEvent → SteeringEvent → Prop where
  | same (event : SteeringEvent) :
      MarkedAs event event
  | steer (text at_ : String) (reranked bumped : Bool) :
      MarkedAs (.steer text at_ false reranked) (.steer text at_ true bumped)
  | pull (request : PullRequest) :
      MarkedAs (.requestPull request false) (.requestPull request true)

/-- An entry is marked once. -/
theorem SteeringEvent.MarkedAs.trans
    {first second third : SteeringEvent}
    (earlier : MarkedAs first second)
    (later : MarkedAs second third) :
    MarkedAs first third := by
  cases earlier with
  | same => exact later
  | steer text at_ reranked bumped =>
      cases later
      exact .steer text at_ reranked bumped
  | pull request =>
      cases later
      exact .pull request

/-- An issue later in the run. -/
structure IssueNode.Continues (before after : IssueNode) : Prop where
  id : after.id = before.id
  title : after.title = before.title
  description : after.description = before.description
  issueType : after.issueType = before.issueType
  impact : min before.impact 5 ≤ after.impact
  counterarguments : before.counterarguments <+: after.counterarguments
  evidenceRefs : before.evidenceRefs <+: after.evidenceRefs
  humanBlockers : before.humanBlockers <+: after.humanBlockers
  closed : answeredOrBlocked before.status = true → after.status = before.status

namespace IssueNode.Continues

theorem refl
    (node : IssueNode) :
    node.Continues node :=
  ⟨rfl, rfl, rfl, rfl, min_le_left _ _, List.prefix_rfl, List.prefix_rfl,
    List.prefix_rfl, fun _ => rfl⟩

theorem trans
    {first second third : IssueNode}
    (earlier : first.Continues second)
    (later : second.Continues third) :
    first.Continues third where
  id := later.id.trans earlier.id
  title := later.title.trans earlier.title
  description := later.description.trans earlier.description
  issueType := later.issueType.trans earlier.issueType
  impact := by
    have first := earlier.impact
    have second := later.impact
    omega
  counterarguments := earlier.counterarguments.trans later.counterarguments
  evidenceRefs := earlier.evidenceRefs.trans later.evidenceRefs
  humanBlockers := earlier.humanBlockers.trans later.humanBlockers
  closed := by
    intro wasClosed
    have unchanged := earlier.closed wasClosed
    rw [later.closed (unchanged ▸ wasClosed), unchanged]

end IssueNode.Continues

/-- A challenge later in the run. -/
structure AlbertChallenge.GoesOn (before after : AlbertChallenge) : Prop where
  id : after.id = before.id
  challenge : after.challenge = before.challenge
  continues : ChallengeMap.Continues before after

namespace AlbertChallenge.GoesOn

theorem refl
    (known : AlbertChallenge) :
    known.GoesOn known :=
  ⟨rfl, rfl, .refl known⟩

theorem trans
    {first second third : AlbertChallenge}
    (earlier : first.GoesOn second)
    (later : second.GoesOn third) :
    first.GoesOn third :=
  ⟨later.id.trans earlier.id, later.challenge.trans earlier.challenge,
    earlier.continues.trans later.continues⟩

end AlbertChallenge.GoesOn

/-! ## States that go on -/

/-- Nothing that a run has recorded is lost or rewritten. -/
structure ResearchState.Extends (before after : ResearchState) : Prop where
  evidence : before.evidence <+: after.evidence
  processedReferences :
    before.processedReferences <+: after.processedReferences
  researchedQueries : before.researchedQueries <+: after.researchedQueries
  readinessHistory : before.readinessHistory <+: after.readinessHistory
  convergenceHistory : before.convergenceHistory <+: after.convergenceHistory
  iterationCount : before.iterationCount ≤ after.iterationCount
  deepAuditCount : before.deepAuditCount ≤ after.deepAuditCount
  steeringEvents :
    KeepsPositions SteeringEvent.MarkedAs before.steeringEvents
      after.steeringEvents
  issues :
    OrderedMap.Keeps IssueNode.Continues before.issueMap after.issueMap
  challenges :
    OrderedMap.Keeps AlbertChallenge.GoesOn before.albertChallengeMap
      after.albertChallengeMap
  tasks : OrderedMap.Keeps Eq before.humanTasks after.humanTasks

namespace ResearchState.Extends

theorem refl
    (rs : ResearchState) :
    rs.Extends rs where
  evidence := List.prefix_rfl
  processedReferences := List.prefix_rfl
  researchedQueries := List.prefix_rfl
  readinessHistory := List.prefix_rfl
  convergenceHistory := List.prefix_rfl
  iterationCount := le_rfl
  deepAuditCount := le_rfl
  steeringEvents := .refl .same _
  issues := .refl IssueNode.Continues.refl _
  challenges := .refl AlbertChallenge.GoesOn.refl _
  tasks := .refl (fun _ => rfl) _

theorem trans
    {first second third : ResearchState}
    (earlier : first.Extends second)
    (later : second.Extends third) :
    first.Extends third where
  evidence := earlier.evidence.trans later.evidence
  processedReferences :=
    earlier.processedReferences.trans later.processedReferences
  researchedQueries :=
    earlier.researchedQueries.trans later.researchedQueries
  readinessHistory := earlier.readinessHistory.trans later.readinessHistory
  convergenceHistory :=
    earlier.convergenceHistory.trans later.convergenceHistory
  iterationCount := earlier.iterationCount.trans later.iterationCount
  deepAuditCount := earlier.deepAuditCount.trans later.deepAuditCount
  steeringEvents :=
    earlier.steeringEvents.trans SteeringEvent.MarkedAs.trans
      later.steeringEvents
  issues := earlier.issues.trans later.issues IssueNode.Continues.trans
  challenges :=
    earlier.challenges.trans later.challenges AlbertChallenge.GoesOn.trans
  tasks := earlier.tasks.trans later.tasks Eq.trans

end ResearchState.Extends

/-- The calls of the maps keep their numbers, and challenges keep their keys. -/
structure ResearchState.Numbered (rs : ResearchState) : Prop
    extends WellNumbered rs where
  challengeKeys : OrderedMap.KeyedBy AlbertChallenge.id rs.albertChallengeMap

/-- A state before anything is minted is numbered. -/
theorem ResearchState.numbered_of_empty
    {rs : ResearchState}
    (noIssues : rs.issueMap = ∅)
    (noChallenges : rs.albertChallengeMap = ∅)
    (noTasks : rs.humanTasks = ∅) :
    rs.Numbered where
  issues := noIssues ▸ OrderedMap.freshKeys_empty _
  issueKeys := noIssues ▸ OrderedMap.keyedBy_empty _
  challenges := noChallenges ▸ OrderedMap.freshKeys_empty _
  challengeKeys := noChallenges ▸ OrderedMap.keyedBy_empty _
  tasks := noTasks ▸ HumanTasks.freshIds_empty
  taskKeys := noTasks ▸ OrderedMap.keyedBy_empty _

/-- A change that keeps the numbering and everything that is recorded. -/
def GoesOn (before after : ResearchState) : Prop :=
  before.Numbered → after.Numbered ∧ before.Extends after

namespace GoesOn

theorem refl
    (rs : ResearchState) :
    GoesOn rs rs :=
  fun numbered => ⟨numbered, .refl rs⟩

theorem trans
    {first second third : ResearchState}
    (earlier : GoesOn first second)
    (later : GoesOn second third) :
    GoesOn first third := by
  intro numbered
  obtain ⟨numberedSecond, toSecond⟩ := earlier numbered
  obtain ⟨numberedThird, toThird⟩ := later numberedSecond
  exact ⟨numberedThird, toSecond.trans toThird⟩

/-- A change of fields that are overwritten: the plan, the memo, the scores. -/
theorem of_extends
    {before after : ResearchState}
    (extended : before.Extends after)
    (issueMap : after.issueMap = before.issueMap)
    (challenges : after.albertChallengeMap = before.albertChallengeMap)
    (tasks : after.humanTasks = before.humanTasks) :
    GoesOn before after := by
  intro numbered
  refine ⟨?_, extended⟩
  exact
    { issues := issueMap ▸ numbered.issues
      issueKeys := issueMap ▸ numbered.issueKeys
      challenges := challenges ▸ numbered.challenges
      challengeKeys := challenges ▸ numbered.challengeKeys
      tasks := tasks ▸ numbered.tasks
      taskKeys := tasks ▸ numbered.taskKeys }

end GoesOn

/-! ## Issues -/

/-- A change of the issues alone, under their keys. -/
theorem GoesOn.of_issues
    {rs : ResearchState}
    {issues : OrderedMap String IssueNode}
    (numbered :
      OrderedMap.FreshKeys IssueMap.issueId rs.issueMap →
        OrderedMap.KeyedBy IssueNode.id rs.issueMap →
        OrderedMap.FreshKeys IssueMap.issueId issues ∧
          OrderedMap.KeyedBy IssueNode.id issues ∧
          OrderedMap.Keeps IssueNode.Continues rs.issueMap issues) :
    GoesOn rs { rs with issueMap := issues } := by
  intro before
  obtain ⟨fresh, keyed, kept⟩ := numbered before.issues before.issueKeys
  exact
    ⟨{ before with issues := fresh, issueKeys := keyed },
      { ResearchState.Extends.refl rs with issues := kept }⟩

/-- A change of every issue that each issue survives. -/
theorem GoesOn.of_mapIssues
    {rs : ResearchState}
    {change : IssueNode → IssueNode}
    (continues : ∀ node : IssueNode, node.Continues (change node)) :
    GoesOn rs { rs with issueMap := rs.issueMap.mapValues change } :=
  .of_issues fun fresh keyed =>
    ⟨fresh.mapValues _, keyed.mapValues fun node => (continues node).id,
      .mapValues continues _⟩

theorem applySteerText_continues
    (text : String)
    (node : IssueNode) :
    node.Continues (applySteerText text node) := by
  simp only [applySteerText]
  split
  · refine { IssueNode.Continues.refl node with impact := ?_ }
    show min node.impact 5 ≤ min 5 (node.impact + 1)
    omega
  · exact .refl node

/-- Every steer that waits is marked, and nothing else is touched. -/
theorem marked_consumeSteers
    (events : List SteeringEvent)
    (issues : OrderedMap String IssueNode) :
    List.Forall₂ SteeringEvent.MarkedAs events
      (consumeSteers events issues).1 := by
  induction events, issues using consumeSteers.induct with
  | case1 issues =>
      exact .nil
  | case2 text at_ reranked rest issues events final recursive
      inductionHypothesis =>
      simp only [consumeSteers]
      exact .cons (.steer text at_ reranked _) inductionHypothesis
  | case3 event rest issues unread events final recursive
      inductionHypothesis =>
      rw [consumeSteers]
      · exact .cons (.same event) inductionHypothesis
      · exact unread

theorem consumeSteerEvents_goesOn
    (rs : ResearchState) :
    GoesOn rs (consumeSteerEvents rs) := by
  have bumped :
      GoesOn rs
        { rs with
          issueMap := (consumeSteers rs.steeringEvents rs.issueMap).2 } :=
    consumeSteers_invariant
      (motive := fun issues => GoesOn rs { rs with issueMap := issues })
      (fun text _ before =>
        before.trans (.of_mapIssues (applySteerText_continues text)))
      rs.steeringEvents (GoesOn.refl rs)
  refine bumped.trans (.of_extends ?_ rfl rfl rfl)
  refine
    { ResearchState.Extends.refl _ with
      steeringEvents := .of_forall₂ (marked_consumeSteers _ _) }

/-- An issue that is added gets the next number. -/
theorem relatesAdded_goesOn : RelatesAdded GoesOn where
  refl := .refl
  trans := .trans
  add := by
    intro rs after title description now issueType impact confidence added
    simp only [IssueMap.add] at added
    split at added
    · cases added
      refine .of_issues fun fresh keyed => ⟨?_, ?_, ?_⟩
      · exact fresh.insert_next IssueMap.issueId_injective _
      · exact keyed.insert rfl
      · exact .insert IssueNode.Continues.refl fresh.next_absent _
    · cases added

theorem advanceIssue_continues
    (now query : String)
    (node : IssueNode) :
    node.Continues (advanceIssue now query node) := by
  have appended :
      ∀ advanced : IssueNode,
        node.Continues advanced →
        node.Continues
          { advanced with
            evidenceRefs := advanced.evidenceRefs ++ [query] } :=
    fun advanced continues =>
      { continues with
        evidenceRefs :=
          continues.evidenceRefs.trans (List.prefix_append _ _) }
  have reopened :
      answeredOrBlocked node.status = false →
        ∀ status, node.Continues (node.setStatus status now) :=
    fun isOpen status =>
      { IssueNode.Continues.refl node with
        closed := fun isClosed => by
          rw [isOpen] at isClosed
          cases isClosed }
  apply appended
  cases status : node.status with
  | «open»
  | researching =>
      exact reopened (by rw [status]; rfl) _
  | partiallyAnswered =>
      have advanced := reopened (by rw [status]; rfl) .answered
      exact { advanced with }
  | _ =>
      exact .refl node

theorem advanceIssues_goesOn
    (now : String)
    (raws : List EvidenceBundle)
    (rs : ResearchState) :
    GoesOn rs
      { rs with issueMap := raws.foldl (advanceIssues now) rs.issueMap } := by
  induction raws generalizing rs with
  | nil =>
      exact .refl rs
  | cons raw rest inductionHypothesis =>
      have first :
          GoesOn rs
            { rs with issueMap := advanceIssues now rs.issueMap raw } := by
        simp only [advanceIssues]
        split
        · exact .refl rs
        · split
          · exact .refl rs
          · have continues := advanceIssue_continues now raw.query
            exact .of_issues fun fresh keyed =>
              ⟨fresh.modify _ _, keyed.modify (fun node => (continues node).id) _,
                .modify IssueNode.Continues.refl continues _ _⟩
      exact first.trans (inductionHypothesis _)

theorem prefix_appendNew
    (known new : List String) :
    known <+: appendNew known new :=
  ChallengeMap.prefix_appendNewRefs known new

/-! ## Tasks -/

/-- A change of the tasks alone that adds tasks. -/
theorem GoesOn.of_tasks
    {rs : ResearchState}
    {tasks : OrderedMap String HumanTask}
    (added :
      HumanTasks.FreshIds rs.humanTasks →
        OrderedMap.KeyedBy HumanTask.id rs.humanTasks →
        HumanTasks.FreshIds tasks ∧
          OrderedMap.KeyedBy HumanTask.id tasks ∧
          OrderedMap.Keeps Eq rs.humanTasks tasks) :
    GoesOn rs { rs with humanTasks := tasks } := by
  intro before
  obtain ⟨fresh, keyed, kept⟩ := added before.tasks before.taskKeys
  exact
    ⟨{ before with tasks := fresh, taskKeys := keyed },
      { ResearchState.Extends.refl rs with tasks := kept }⟩

/-- An entry is appended to the log. -/
theorem GoesOn.of_log
    (rs : ResearchState)
    (events : List SteeringEvent) :
    GoesOn rs { rs with steeringEvents := rs.steeringEvents ++ events } :=
  .of_extends
    { ResearchState.Extends.refl rs with
      steeringEvents := (KeepsPositions.refl .same _).append events }
    rfl rfl rfl

/-- The target of a push is blocked and has its task. -/
theorem pushed_goesOn
    {rs blocked : ResearchState}
    {key now : String}
    {target : IssueNode}
    (isTarget : pushTarget rs = some (key, target))
    (isBlocked :
      IssueMap.setStatus
          { rs with
            humanTasks :=
              rs.humanTasks.insert (internalDataTask rs.humanTasks target).id
                (internalDataTask rs.humanTasks target) }
          target.id .blockedByInternalData now =
        some blocked) :
    GoesOn rs
      { blocked with
        issueMap :=
          blocked.issueMap.modify key fun node =>
            if internalDataBlocker ∈ node.humanBlockers then
              node
            else
              { node with
                humanBlockers :=
                  node.humanBlockers ++ [internalDataBlocker] } } := by
  intro numbered
  have stored := pushTarget_stored isTarget
  have isKey : target.id = key := numbered.issueKeys key target stored
  have addressable : Exhaustion.isAddressable target.status = true := by
    have found := List.find?_some isTarget
    exact found
  have minted :
      GoesOn rs
        { rs with
          humanTasks :=
            rs.humanTasks.insert (internalDataTask rs.humanTasks target).id
              (internalDataTask rs.humanTasks target) } :=
    .of_tasks fun fresh keyed =>
      ⟨fresh.insert_next _, keyed.insert rfl,
        .insert (fun _ => rfl) fresh.nextId_absent _⟩
  have marks :
      ∀ node : IssueNode,
        node.Continues
          (if internalDataBlocker ∈ node.humanBlockers then
            node
          else
            { node with
              humanBlockers :=
                node.humanBlockers ++ [internalDataBlocker] }) := by
    intro node
    split
    · exact .refl node
    · exact
        { IssueNode.Continues.refl node with
          humanBlockers := List.prefix_append _ _ }
  -- only the target changes its status, and the target was addressable
  have blocks :
      OrderedMap.Keeps IssueNode.Continues rs.issueMap
        (rs.issueMap.modify key fun node =>
          node.setStatus .blockedByInternalData now) := by
    intro other old storedOld
    rw [OrderedMap.get?_modify, storedOld]
    by_cases same : key = other
    · subst same
      rw [stored] at storedOld
      cases storedOld
      refine ⟨target.setStatus .blockedByInternalData now, by simp, ?_⟩
      refine { IssueNode.Continues.refl target with closed := ?_ }
      intro isClosed
      rw [answeredOrBlocked, addressable] at isClosed
      cases isClosed
    · exact ⟨old, by simp [same], .refl old⟩
  rw [IssueMap.setStatus_eq_some isBlocked, isKey]
  refine minted.trans (.of_issues fun fresh keyed => ⟨?_, ?_, ?_⟩) numbered
  · exact (fresh.modify _ _).modify _ _
  · have named :
        ∀ node : IssueNode,
          (node.setStatus .blockedByInternalData now).id = node.id :=
      fun _ => rfl
    exact (keyed.modify named _).modify (fun node => (marks node).id) _
  · exact
      blocks.trans (.modify IssueNode.Continues.refl marks _ _)
        IssueNode.Continues.trans

theorem mintBlockedCellTasks_goesOn
    (rs : ResearchState) :
    GoesOn rs (mintBlockedCellTasks rs) := by
  simp only [mintBlockedCellTasks]
  split
  · exact .refl rs
  · rename_i grid _
    refine .of_tasks fun fresh keyed => ?_
    obtain ⟨freshAfter, keyedAfter, kept, _⟩ :=
      mintCells_store grid.cells.values fresh keyed
    exact ⟨freshAfter, keyedAfter, kept⟩

theorem notifyNeedsSupplement_goesOn
    (rs : ResearchState)
    (memo : Memo)
    (world : World) :
    GoesOn rs (notifyNeedsSupplement rs memo world).1 := by
  have minted := mintBlockedCellTasks_goesOn rs
  simp only [notifyNeedsSupplement]
  split
  · exact minted
  · exact minted.trans (.of_log _ _)

section Nodes

variable [PythonText]

/-- Assembling a memo adds tasks for the claims that nobody could verify. -/
theorem assembleMemo_goesOn
    {state assembled : ResearchState}
    {prose : Prose}
    {memo : Memo}
    (assembly :
      DecisionMemo.assembleMemo state prose = some (memo, assembled)) :
    GoesOn state assembled := by
  obtain ⟨⟨route, routed⟩, routes, isAssembled⟩ :=
    Option.map_eq_some_iff.mp assembly
  cases isAssembled
  obtain ⟨⟨result, tasks⟩, routesClaims, isRouted⟩ :=
    Option.map_eq_some_iff.mp routes
  cases isRouted
  refine .of_tasks fun fresh keyed => ?_
  have known :
      ∀ text ∈ state.humanTasks.values.map HumanTask.requestedInput,
        DecisionMemo.IsRequested state.humanTasks text := by
    intro text member
    simpa [DecisionMemo.IsRequested] using member
  have unchanged : OrderedMap.Keeps Eq state.humanTasks state.humanTasks :=
    .refl (fun _ => rfl) _
  have nothingYet :
      ∀ task ∈ ({} : DecisionMemo.RouteResult).needsSupplement,
        state.humanTasks.get? task.id = some task := by
    intro task member
    cases member
  obtain ⟨_, _, sameRoute, freshAfter, keyedAfter, kept, _⟩ :=
    routeClaims_stores state (DecisionMemo.collectClaims state) fresh keyed
      unchanged known nothingYet
  rw [routesClaims] at sameRoute
  cases sameRoute
  exact ⟨freshAfter, keyedAfter, kept⟩

theorem buildAndGateMemo_goesOn
    {env : StepEnv}
    {state : GraphState}
    {world after : World}
    {rs : ResearchState}
    (built : buildAndGateMemo env state world = some (rs, after)) :
    GoesOn state.researchState rs := by
  simp only [buildAndGateMemo] at built
  split at built
  · cases Option.some.inj built
    exact .refl _
  · obtain ⟨prose, _, assembles⟩ := Option.bind_eq_some_iff.mp built
    obtain ⟨⟨memo, assembled⟩, isAssembled, notified⟩ :=
      Option.map_eq_some_iff.mp assembles
    have notifies :=
      notifyNeedsSupplement_goesOn
        { assembled with
          finalMemo :=
            some
              (DecisionMemo.renderMemo
                (DecisionMemo.checkEmission assembled memo
                  (state.config.explicitEmit ||
                    isSet assembled.stopReason))) }
        (DecisionMemo.checkEmission assembled memo
          (state.config.explicitEmit || isSet assembled.stopReason))
        world
    rw [congrArg Prod.fst notified] at notifies
    refine (assembleMemo_goesOn isAssembled).trans (GoesOn.trans ?_ notifies)
    exact .of_extends { ResearchState.Extends.refl _ with } rfl rfl rfl

end Nodes

/-! ## Challenges -/

section Challenges

variable [PythonText]

/-- A challenge is merged onto a live one, or added under the next number. -/
theorem recordChallengeBy_merges
    {ratio : List Char → List Char → ℚ}
    {challenges next : OrderedMap String AlbertChallenge}
    {challenge : AlbertChallenge}
    (recorded :
      ChallengeMap.recordChallengeBy ratio challenges challenge = some next) :
    (∃ key known,
        challenges.get? key = some known ∧
          ChallengeMap.isLive known.status = true ∧
          next =
            challenges.modify key (ChallengeMap.mergedWith challenge)) ∨
      next =
        challenges.insert (ChallengeMap.challengeId (challenges.size + 1))
          (ChallengeMap.mintedFor challenges challenge) := by
  cases found :
      ChallengeMap.findLiveMatchBy ratio challenges
        (ChallengeMap.raise challenge) with
  | some key =>
      have isMatch := found
      rw [ChallengeMap.findLiveMatchBy_raise] at isMatch
      rcases ChallengeMap.bestLiveMatchBy_live isMatch with impossible |
        ⟨known, member, live⟩
      · cases impossible
      · rw [ChallengeMap.recordChallengeBy_of_match found,
          Option.some.injEq] at recorded
        exact
          Or.inl
            ⟨key, known, OrderedMap.get?_of_mem_entries member, live,
              recorded.symm⟩
  | none =>
      simp only [ChallengeMap.recordChallengeBy, ChallengeMap.upsertBy, found,
        Option.map_eq_some_iff] at recorded
      obtain ⟨minted, accepted, promoted⟩ := recorded
      split at accepted
      · cases accepted
        rw [← promoted, OrderedMap.modify_insert_self]
        exact Or.inr rfl
      · cases accepted

omit [PythonText] in
/-- A live challenge that is merged onto goes on. -/
theorem mergedWith_goesOn
    (challenge : AlbertChallenge)
    {known : AlbertChallenge}
    (live : ChallengeMap.isLive known.status = true) :
    known.GoesOn (ChallengeMap.mergedWith challenge known) where
  id := by
    rw [ChallengeMap.mergedWith, ChallengeMap.promote_id]
    rfl
  challenge := by
    rw [ChallengeMap.mergedWith, ChallengeMap.promote_challenge]
    rfl
  continues := by
    refine ⟨ChallengeMap.mergedWith_evidenceRefs challenge known, ?_⟩
    intro closed
    rw [live] at closed
    cases closed

omit [PythonText] in
/-- A change of the challenges alone, under their keys. -/
theorem GoesOn.of_challenges
    {rs : ResearchState}
    {challenges : OrderedMap String AlbertChallenge}
    (recorded :
      OrderedMap.FreshKeys ChallengeMap.challengeId rs.albertChallengeMap →
        OrderedMap.KeyedBy AlbertChallenge.id rs.albertChallengeMap →
        OrderedMap.FreshKeys ChallengeMap.challengeId challenges ∧
          OrderedMap.KeyedBy AlbertChallenge.id challenges ∧
          OrderedMap.Keeps AlbertChallenge.GoesOn rs.albertChallengeMap
            challenges) :
    GoesOn rs { rs with albertChallengeMap := challenges } := by
  intro before
  obtain ⟨fresh, keyed, kept⟩ :=
    recorded before.challenges before.challengeKeys
  exact
    ⟨{ before with challenges := fresh, challengeKeys := keyed },
      { ResearchState.Extends.refl rs with challenges := kept }⟩

theorem recordChallenge_goesOn
    {ratio : List Char → List Char → ℚ}
    {rs : ResearchState}
    {next : OrderedMap String AlbertChallenge}
    {challenge : AlbertChallenge}
    (recorded :
      ChallengeMap.recordChallengeBy ratio rs.albertChallengeMap challenge =
        some next) :
    GoesOn rs { rs with albertChallengeMap := next } := by
  refine .of_challenges fun fresh keyed => ?_
  rcases recordChallengeBy_merges recorded with
    ⟨key, known, stored, live, rfl⟩ | rfl
  · refine ⟨fresh.modify _ _, ?_, ?_⟩
    · refine keyed.modify (fun other => ?_) _
      rw [ChallengeMap.mergedWith, ChallengeMap.promote_id]
      rfl
    · intro other old storedOld
      rw [OrderedMap.get?_modify, storedOld]
      by_cases same : key = other
      · subst same
        rw [stored] at storedOld
        cases storedOld
        exact
          ⟨ChallengeMap.mergedWith challenge known, by simp,
            mergedWith_goesOn challenge live⟩
      · exact ⟨old, by simp [same], .refl old⟩
  · refine ⟨?_, keyed.insert ?_, ?_⟩
    · exact fresh.insert_next ChallengeMap.challengeId_injective _
    · rw [ChallengeMap.mintedFor, ChallengeMap.promote_id]
      rfl
    · exact .insert AlbertChallenge.GoesOn.refl fresh.next_absent _

theorem recordChallenges_goesOn
    {rs : ResearchState}
    {raised : List AlbertChallenge}
    {challenges : OrderedMap String AlbertChallenge}
    (recorded :
      recordChallenges raised rs.albertChallengeMap = some challenges) :
    GoesOn rs { rs with albertChallengeMap := challenges } := by
  rw [← ChallengeMap.recordChallengesBy_sequenceMatcher] at recorded
  induction raised generalizing rs with
  | nil =>
      cases recorded
      exact .refl rs
  | cons challenge rest inductionHypothesis =>
      obtain ⟨next, first, later⟩ := Option.bind_eq_some_iff.mp recorded
      have recordsRest :
          GoesOn { rs with albertChallengeMap := next }
            { rs with albertChallengeMap := challenges } :=
        @inductionHypothesis { rs with albertChallengeMap := next } later
      exact (recordChallenge_goesOn first).trans recordsRest

end Challenges

/-! ## Evidence and queries -/

/-- The oldest waiting request is marked. -/
theorem marked_consumePull
    (events : List SteeringEvent) :
    List.Forall₂ SteeringEvent.MarkedAs events (consumePull events) := by
  fun_induction consumePull events with
  | case1 =>
      exact .nil
  | case2 request rest =>
      exact .cons (.pull request) (List.forall₂_same.mpr fun _ _ => .same _)
  | case3 event rest _ inductionHypothesis =>
      exact .cons (.same event) inductionHypothesis

/-- A pull is answered: the answer is logged and its request marked. -/
theorem consumePull_goesOn
    (rs : ResearchState)
    (event : SteeringEvent) :
    GoesOn rs
      { rs with
        steeringEvents := consumePull (rs.steeringEvents ++ [event]) } := by
  refine (GoesOn.of_log rs [event]).trans (.of_extends ?_ rfl rfl rfl)
  exact
    { ResearchState.Extends.refl _ with
      steeringEvents := .of_forall₂ (marked_consumePull _) }

theorem prefix_markProcessed
    (processed : List String)
    (key : String) :
    processed <+: ReferenceStore.markProcessed processed key := by
  simp only [ReferenceStore.markProcessed]
  split
  · exact List.prefix_rfl
  · exact List.prefix_append _ _

theorem prefix_persistAiSources
    (run : Nat)
    (noteWrites : Nat → ReferenceStore.NoteWrite)
    (sources : List Source)
    (store : ReferenceStore.StoreState) :
    store.processedReferences <+:
      (ReferenceStore.persistAiSources run noteWrites sources
        store).processedReferences := by
  induction sources generalizing store with
  | nil =>
      exact List.prefix_rfl
  | cons source rest inductionHypothesis =>
      unfold ReferenceStore.persistAiSources
      cases noteWrites store.attempts with
      | written mtime =>
          refine List.IsPrefix.trans ?_ (inductionHypothesis _)
          exact prefix_markProcessed _ _
      | failed =>
          exact List.prefix_rfl
      | torn text mtime =>
          exact List.prefix_rfl

theorem prefix_foldWorkerResults
    {env : StepEnv}
    {now : String}
    {raws : List EvidenceBundle}
    {rs folded : ResearchState}
    {world after : World}
    {attempts : Nat}
    (folds :
      foldWorkerResults env now raws rs world attempts =
        (some folded, after)) :
    rs.processedReferences <+: folded.processedReferences := by
  induction raws generalizing rs world attempts with
  | nil =>
      cases folds
      exact List.prefix_rfl
  | cons raw rest inductionHypothesis =>
      simp only [foldWorkerResults] at folds
      cases validated : raw.modelValidate with
      | none =>
          rw [validated] at folds
          cases folds
      | some bundle =>
          rw [validated] at folds
          have saved :
              rs.processedReferences <+:
                (persistBundle env (foldBundle now rs bundle) bundle world
                  attempts).1.processedReferences :=
            prefix_persistAiSources world.run env.noteWrites bundle.sources
              { folder := world.folder
                processedReferences := rs.processedReferences
                attempts := attempts }
          exact saved.trans (inductionHypothesis folds)

/-- The queries of a round are remembered behind the earlier ones. -/
theorem prefix_selectResearchIssues
    {env : StepEnv}
    {rs after : ResearchState}
    {selected : List String}
    (selects : selectResearchIssues env rs = some (selected, after)) :
    rs.researchedQueries <+: after.researchedQueries := by
  obtain ⟨rawIds, _, isSelected⟩ := Option.map_eq_some_iff.mp selects
  cases isSelected
  generalize
    (((researchCandidates rs rawIds).insertionSort Candidate.precedes).take
      env.maxResearchPerIter).map Candidate.issueId = chosen
  generalize rs.researchedQueries = known
  induction chosen generalizing known with
  | nil =>
      exact List.prefix_rfl
  | cons issueId rest inductionHypothesis =>
      rw [List.foldl_cons]
      refine List.IsPrefix.trans ?_ (inductionHypothesis _)
      split
      · exact List.prefix_rfl
      · split
        · exact List.prefix_rfl
        · exact List.prefix_append _ _

/-! ## What every step keeps -/

section Runs

variable [PythonText]

omit [PythonText] in
/-- The issues of an update, changed one by one, survive. -/
theorem continues_argued
    (counters : List String)
    (node : IssueNode) :
    node.Continues
      (if node.status = .answered then
        node
      else
        { node with
          counterarguments :=
            appendNew node.counterarguments counters }) := by
  split
  · exact .refl node
  · exact
      { IssueNode.Continues.refl node with
        counterarguments := prefix_appendNew _ _ }

omit [PythonText] in
theorem continues_noted
    (node : IssueNode) :
    node.Continues
      (if isBlocked node.status ∧ node.humanBlockers = [] then
        { node with
          humanBlockers := ["recorded residual blocker (stub)"] }
      else
        node) := by
  split
  · rename_i unnamed
    exact
      { IssueNode.Continues.refl node with
        humanBlockers := unnamed.2 ▸ List.nil_prefix }
  · exact .refl node

/-- No node loses or rewrites what is recorded. -/
theorem NodeUpdate.goesOn
    {env : StepEnv}
    {state : GraphState}
    {world after : World}
    {node : Node}
    {update : Update}
    (written : NodeUpdate env state world node update after) :
    GoesOn state.researchState update.researchState := by
  cases written with
  | intake
  | scopeChecked
  | briefKept
  | planAuditKept
  | planKept
  | explained
  | decided
  | pushedNothing
  | deepAuditKept =>
      exact .refl _
  | clarified
  | briefWritten
  | planAudited =>
      exact
        .of_extends { ResearchState.Extends.refl state.researchState with }
          rfl rfl rfl
  | clarifyAssumed =>
      exact
        .of_extends
          { ResearchState.Extends.refl state.researchState with
            steeringEvents := (KeepsPositions.refl .same _).append _ }
          rfl rfl rfl
  | clarifyAnswered
  | planAssumed
  | planAnswered =>
      exact .of_log _ _
  | issuesPlanned rs expanded =>
      exact
        (consumeSteerEvents_goesOn _).trans
          (relatesAdded_goesOn.expandIssues expanded)
  | cellsPlanned rs plan grid expanded =>
      have filled :=
        (consumeSteerEvents_goesOn state.researchState).trans
          (relatesAdded_goesOn.expandIssues expanded)
      exact
        filled.trans
          (.of_extends { ResearchState.Extends.refl rs with } rfl rfl rfl)
  | issuesExpanded rs expanded =>
      exact relatesAdded_goesOn.expandIssues expanded
  | supervised =>
      exact consumeSteerEvents_goesOn _
  | researched selected queries selects =>
      exact
        .of_extends
          { ResearchState.Extends.refl state.researchState with
            researchedQueries := prefix_selectResearchIssues selects }
          rfl rfl rfl
  | collected processed after folds =>
      have folded := prefix_foldWorkerResults folds
      refine
        (advanceIssues_goesOn state.config.now state.workerResults
          state.researchState).trans (.of_extends ?_ rfl rfl rfl)
      refine
        { ResearchState.Extends.refl _ with
          evidence := ?_
          processedReferences := ?_ }
      · exact
          (List.prefix_append _ state.workerResults).trans
            (List.prefix_append _ _)
      · refine folded.trans ?_
        show processed <+:
          (collectReferences env.converters after.folder
            _).processedReferences
        rw [ReferenceStore.processedReferences_collectReferences]
        exact List.prefix_append _ _
  | argued counters =>
      exact .of_mapIssues (continues_argued counters)
  | audited audit challenges _ recorded =>
      have marks :
          ∀ known : IssueNode,
            known.Continues
              { known with lastAudited := some state.config.now } :=
        fun known => { IssueNode.Continues.refl known with }
      refine
        (recordChallenges_goesOn recorded).trans
          ((GoesOn.of_mapIssues marks).trans (.of_extends ?_ rfl rfl rfl))
      exact
        { ResearchState.Extends.refl _ with
          convergenceHistory := List.prefix_append _ _ }
  | noted =>
      exact .of_mapIssues continues_noted
  | scored =>
      exact
        .of_extends
          { ResearchState.Extends.refl state.researchState with
            readinessHistory := List.prefix_append _ _
            iterationCount := (lt_add_one _).le }
          rfl rfl rfl
  | branched budget =>
      exact relatesAdded_goesOn.materializeCompetitor _ _ budget
  | pullDefaulted
  | pullAnswered =>
      exact consumePull_goesOn _ _
  | pushed key target blocked isTarget _ isBlocked =>
      exact pushed_goesOn isTarget isBlocked
  | deepAudited =>
      exact
        .of_extends
          { ResearchState.Extends.refl state.researchState with
            deepAuditCount := (lt_add_one _).le }
          rfl rfl rfl
  | reviewBuilt rs _ built =>
      exact buildAndGateMemo_goesOn built
  | reviewPassed rs _ _ built
  | reviewAnswered rs _ _ built =>
      exact (buildAndGateMemo_goesOn built).trans (.of_log _ _)

omit [PythonText] in
theorem GoesOn.of_stopReason
    (rs : ResearchState)
    (reason : Option String) :
    GoesOn rs { rs with stopReason := reason } :=
  .of_extends { ResearchState.Extends.refl rs with } rfl rfl rfl

omit [PythonText] in
/-- Following an edge records at most a stop reason. -/
theorem successor_goesOn
    (cap : Option ActiveCap)
    (state : GraphState)
    (node : Node) :
    GoesOn state.researchState
      (successor cap state node).2.researchState := by
  rcases successor_state cap state node with same | recorded
  · rw [same]
    exact .refl _
  · rw [recorded]
    exact .of_stopReason _ _

/-- A step loses nothing, whether it moves on, pauses or crashes. -/
theorem step_goesOn
    {execution next : Execution}
    {env : StepEnv}
    (stepped : step execution env = some next) :
    GoesOn execution.graph.researchState next.graph.researchState := by
  obtain
    ⟨node, seen, _, same | ⟨update, world, after, reason, ran, moved⟩⟩ :=
      step_writes stepped
  · rw [same]
    exact .refl _
  · rw [moved]
    exact
      (runNode_updates ran).goesOn.trans (.of_stopReason _ reason)

/-- What is recorded at any moment of a run is still there at its end. -/
theorem run_goesOn
    {execution final : Execution}
    {envs : List StepEnv}
    (ran : exec step execution envs = some final) :
    GoesOn execution.graph.researchState final.graph.researchState :=
  exec_invariant
    (motive := fun reached =>
      GoesOn execution.graph.researchState reached.graph.researchState)
    (fun before stepped => before.trans (step_goesOn stepped))
    (GoesOn.refl _)
    ran

/-! ## The snapshot of the artifacts' node -/

/-- The run is numbered and goes on from what the artifacts' node saved last. -/
structure SnapshotContinued (execution : Execution) : Prop where
  numbered : execution.graph.researchState.Numbered
  saved :
    ∀ saved, execution.world.snapshot = some saved →
      saved.Numbered ∧ saved.Extends execution.graph.researchState

/-- Building the memo leaves the snapshot alone. -/
theorem snapshot_buildAndGateMemo
    {env : StepEnv}
    {state : GraphState}
    {world after : World}
    {rs : ResearchState}
    (built : buildAndGateMemo env state world = some (rs, after)) :
    after.snapshot = world.snapshot := by
  simp only [buildAndGateMemo] at built
  split at built
  · cases Option.some.inj built
    rfl
  · obtain ⟨prose, _, assembles⟩ := Option.bind_eq_some_iff.mp built
    obtain ⟨⟨memo, assembled⟩, _, notified⟩ :=
      Option.map_eq_some_iff.mp assembles
    have isAfter : (notifyNeedsSupplement _ _ world).2 = after :=
      congrArg Prod.snd notified
    rw [← isAfter, notifyNeedsSupplement]
    split
    · exact rfl
    · exact rfl

omit [PythonText] in
/-- Folding results leaves the snapshot alone, also when it raises. -/
theorem snapshot_foldWorkerResults
    {env : StepEnv}
    {now : String}
    {raws : List EvidenceBundle}
    {rs : ResearchState}
    {world after : World}
    {attempts : Nat}
    {result : Option ResearchState}
    (folds :
      foldWorkerResults env now raws rs world attempts = (result, after)) :
    after.snapshot = world.snapshot := by
  obtain ⟨folder, folded⟩ :=
    foldWorkerResults_world env now raws rs world attempts
  have isAfter : { world with folder := folder } = after := by
    rw [← folded, folds]
  rw [← isAfter]

/-- Only the artifacts' node saves a snapshot: the state that it writes. -/
theorem NodeUpdate.snapshot
    {env : StepEnv}
    {state : GraphState}
    {world after : World}
    {node : Node}
    {update : Update}
    (written : NodeUpdate env state world node update after) :
    after.snapshot = world.snapshot ∨
      after.snapshot = some update.researchState := by
  cases written with
  | noted =>
      exact Or.inr rfl
  | collected processed after folds =>
      exact Or.inl (snapshot_foldWorkerResults folds)
  | reviewBuilt _ _ built
  | reviewPassed _ _ _ built
  | reviewAnswered _ _ _ built =>
      exact Or.inl (snapshot_buildAndGateMemo built)
  | _ =>
      exact Or.inl rfl

/-- A node that pauses or raises saves no snapshot. -/
theorem snapshot_of_visit
    {env : StepEnv}
    {node : Node}
    {execution : Execution}
    (unwritten :
      ∀ update world,
        runNode env execution.graph
            (receiveDrops env.drops execution.world) node ≠
          .update update world) :
    (visit env node execution).world.snapshot = execution.world.snapshot := by
  unfold visit
  cases ran :
      runNode env execution.graph
        (receiveDrops env.drops execution.world) node with
  | update update world =>
      exact absurd ran (unwritten update world)
  | interrupt ask world =>
      show world.snapshot = _
      rcases runNode_interrupt ran with same | ⟨_, rs, built⟩
      · rw [same]
        rfl
      · exact (snapshot_buildAndGateMemo built).trans rfl
  | raise world =>
      show world.snapshot = _
      rcases runNode_raise ran with same | ⟨_, folds⟩
      · rw [same]
        rfl
      · exact (snapshot_foldWorkerResults folds).trans rfl

theorem step_snapshotContinued
    {execution next : Execution}
    {env : StepEnv}
    (continued : SnapshotContinued execution)
    (stepped : step execution env = some next) :
    SnapshotContinued next := by
  obtain ⟨numbered, extended⟩ := step_goesOn stepped continued.numbered
  refine ⟨numbered, ?_⟩
  have goesOn :
      ∀ saved, execution.world.snapshot = some saved →
        saved.Numbered ∧ saved.Extends next.graph.researchState := by
    intro saved isSaved
    obtain ⟨numberedSaved, before⟩ := continued.saved saved isSaved
    exact ⟨numberedSaved, before.trans extended⟩
  obtain ⟨node, seen, _, rfl⟩ := step_visits stepped
  by_cases writes :
      ∃ update world,
        runNode seen execution.graph
            (receiveDrops seen.drops execution.world) node =
          .update update world
  · obtain ⟨update, world, ran⟩ := writes
    have moved :
        visit seen node execution =
          conclude seen.cap node execution (.update update world) := by
      rw [visit, ran]
    intro saved isSaved
    rw [moved] at isSaved goesOn ⊢
    rcases (runNode_updates ran).snapshot with kept | written
    · exact goesOn saved (kept.symm.trans isSaved)
    · have isUpdate : update.researchState = saved :=
        Option.some.inj (written.symm.trans isSaved)
      have numberedUpdate :=
        ((runNode_updates ran).goesOn continued.numbered).1
      have edge :=
        successor_goesOn seen.cap (execution.graph.apply update) node
          numberedUpdate
      exact isUpdate ▸ ⟨numberedUpdate, edge.2⟩
  · simp only [not_exists] at writes
    intro saved isSaved
    rw [snapshot_of_visit writes] at isSaved
    exact goesOn saved isSaved

/--
Whatever a run of the graph has recorded at some moment stands at every later
one, and so does what the artifacts' node has saved last on the way.  What a
command saves by itself at a pause or at the end is not part of such a run.
-/
theorem recorded_never_lost
    {execution middle final : Execution}
    {earlier later : List StepEnv}
    (numbered : execution.graph.researchState.Numbered)
    (unsaved : execution.world.snapshot = none)
    (reached : exec step execution earlier = some middle)
    (ran : exec step middle later = some final) :
    middle.graph.researchState.Extends final.graph.researchState ∧
      ∀ saved, final.world.snapshot = some saved →
        saved.Numbered ∧ saved.Extends final.graph.researchState := by
  have started : SnapshotContinued execution := by
    refine ⟨numbered, ?_⟩
    intro saved isSaved
    rw [unsaved] at isSaved
    cases isSaved
  have continued :=
    exec_invariant (motive := SnapshotContinued) step_snapshotContinued
      started reached
  have whole :=
    exec_invariant (motive := SnapshotContinued) step_snapshotContinued
      continued ran
  exact ⟨(run_goesOn ran continued.numbered).2, whole.saved⟩

end Runs

/-- A question that is entered with its brief assumed. -/
private def assumedQuestion : Execution where
  graph :=
    { researchState := { runId := "run", originalQuestion := "question" }
      config := { assumeBrief := true } }
  control := .at .intake
  world := {}

/-- A run that has saved a snapshot still has what it logged before. -/
theorem recorded_never_lost_assumedQuestion :
    letI := PythonText.ascii
    ∃ middle final,
      exec step assumedQuestion
          (List.replicate 7 (.calm Brains.silent)) =
        some middle ∧
      exec step middle (List.replicate 9 (.calm Brains.silent)) =
        some final ∧
      middle.graph.researchState.steeringEvents ≠ [] ∧
      final.world.snapshot.isSome = true ∧
      middle.graph.researchState.Extends final.graph.researchState ∧
      ∀ saved, final.world.snapshot = some saved →
        saved.Numbered ∧ saved.Extends final.graph.researchState := by
  let _ := PythonText.ascii
  let middle :=
    (exec step assumedQuestion
      (List.replicate 7 (.calm Brains.silent))).get (by decide +kernel)
  let final :=
    (exec step middle
      (List.replicate 9 (.calm Brains.silent))).get (by decide +kernel)
  have reached :
      exec step assumedQuestion (List.replicate 7 (.calm Brains.silent)) =
        some middle :=
    (Option.some_get _).symm
  have ran :
      exec step middle (List.replicate 9 (.calm Brains.silent)) =
        some final :=
    (Option.some_get _).symm
  exact
    ⟨middle, final, reached, ran, by decide +kernel, by decide +kernel,
      recorded_never_lost (ResearchState.numbered_of_empty rfl rfl rfl) rfl
        reached ran⟩

end ResearchCos
