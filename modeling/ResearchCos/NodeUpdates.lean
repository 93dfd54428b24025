import ResearchCos.EmissionGates
import ResearchCos.Graph

namespace ResearchCos

open Foundation

/-!
# What the nodes write

A node that neither raises nor pauses writes one of the updates below.  What
every node keeps is proved by going through them, without opening the nodes.
-/

/-! ## Parts of the nodes -/

/-- Every decision but rework leaves the research state alone. -/
theorem decideCos_cases
    (emitDespiteDegradedAudit : Bool)
    (state : GraphState) :
    (∃ decision budget,
        decideCos emitDespiteDegradedAudit state =
          { researchState := state.researchState
            lastDecision := some decision
            branchBudget := some budget }) ∨
      ∃ budget,
        decideCos emitDespiteDegradedAudit state =
          { researchState :=
              (materializeCompetitor state.researchState state.config.now
                budget).1
            lastDecision := some .branch
            branchBudget :=
              some
                (materializeCompetitor state.researchState state.config.now
                  budget).2 } := by
  cases stage : cosStage state with
  | rework =>
      simp only [decideCos, stage]
      exact Or.inr ⟨_, rfl⟩
  | _ =>
      simp only [decideCos, stage]
      exact Or.inl ⟨_, _, rfl⟩

/-- The issues that wait for a human say so. -/
def notedBlockers (rs : ResearchState) : ResearchState :=
  { rs with
    issueMap :=
      rs.issueMap.mapValues fun node =>
        if isBlocked node.status ∧ node.humanBlockers = [] then
          { node with
            humanBlockers := ["recorded residual blocker (stub)"] }
        else
          node }

/-- A notice adds tasks and at most one event. -/
theorem notifyNeedsSupplement_eq
    (rs : ResearchState)
    (memo : Memo)
    (world : World) :
    ∃ tasks log,
      (notifyNeedsSupplement rs memo world).1 =
          { rs with
            humanTasks := tasks
            steeringEvents := rs.steeringEvents ++ log } ∧
        (log = [] ∨ log = [.notifySupplement memo.needsSupplement]) := by
  have minted := mintBlockedCellTasks_eq rs
  simp only [notifyNeedsSupplement]
  split
  · refine ⟨(mintBlockedCellTasks rs).humanTasks, [], ?_, Or.inl rfl⟩
    rw [List.append_nil]
    exact minted
  · refine ⟨(mintBlockedCellTasks rs).humanTasks, _, ?_, Or.inr rfl⟩
    rw [minted]

section Nodes

variable [PythonText]

/-- Building the memo adds tasks, a memo and at most one event. -/
theorem buildAndGateMemo_eq_some
    {env : StepEnv}
    {state : GraphState}
    {world after : World}
    {rs : ResearchState}
    (built : buildAndGateMemo env state world = some (rs, after)) :
    ∃ tasks log memo,
      rs =
          { state.researchState with
            humanTasks := tasks
            steeringEvents := state.researchState.steeringEvents ++ log
            finalMemo := memo } ∧
        (log = [] ∨ ∃ needs, log = [.notifySupplement needs]) := by
  simp only [buildAndGateMemo] at built
  split at built
  · cases built
    refine
      ⟨state.researchState.humanTasks, [], state.researchState.finalMemo, ?_,
        Or.inl rfl⟩
    rw [List.append_nil]
  · obtain ⟨prose, _, assembles⟩ := Option.bind_eq_some_iff.mp built
    obtain ⟨⟨memo, assembled⟩, isAssembled, notified⟩ :=
      Option.map_eq_some_iff.mp assembles
    obtain ⟨tasks, rfl⟩ := (DecisionMemo.assembleMemo_eq_some isAssembled).1
    obtain ⟨minted, log, notices, isLog⟩ :=
      notifyNeedsSupplement_eq _ _ world
    rw [congrArg Prod.fst notified] at notices
    exact ⟨_, log, _, notices, isLog.imp id fun one => ⟨_, one⟩⟩

/-! ## Updates -/

/-- The updates that a node may write, and the surroundings it leaves. -/
inductive NodeUpdate (env : StepEnv) (state : GraphState) (world : World) :
    Node → Update → World → Prop where
  | intake :
      NodeUpdate env state world .intake (nodeIntake state) world
  | scopeChecked :
      NodeUpdate env state world .scope (.ofState state.researchState) world
  | clarified :
      Clarify.clarifyConverged state.researchState = true →
      NodeUpdate env state world .clarify
        (.ofState { state.researchState with clarifyConverged := true }) world
  | clarifyAssumed :
      state.config.assumeBrief = true →
      NodeUpdate env state world .clarify
        (.ofState
          { state.researchState with
            steeringEvents :=
              state.researchState.steeringEvents ++
                [.clarifyAssumed
                  (Clarify.missingCriteria state.researchState)]
            clarifyConverged := true })
        world
  | clarifyAnswered (questions : List String) (answer : Answer) :
      env.answer = some answer →
      NodeUpdate env state world .clarify
        (.ofState
          { state.researchState with
            steeringEvents :=
              state.researchState.steeringEvents ++
                [.clarifyAsk questions
                    (Clarify.missingCriteria state.researchState),
                  .clarifyAnswer answer
                    (Clarify.missingCriteria state.researchState)] })
        world
  | briefKept :
      isSet state.researchState.researchBrief = true →
      NodeUpdate env state world .writeBrief (.ofState state.researchState) world
  | briefWritten (brief : String) :
      env.brains.briefWriter state.researchState = some brief →
      NodeUpdate env state world .writeBrief
        (.ofState { state.researchState with researchBrief := some brief })
        world
  | issuesPlanned (rs : ResearchState) :
      expandIssues env state.config.now
          (consumeSteerEvents state.researchState) = some rs →
      env.brains.orchestrator = none →
      NodeUpdate env state world .orchestratorPlan (.ofState rs) world
  | cellsPlanned (rs : ResearchState)
      (plan : ResearchState → Option TaskGrid) (grid : TaskGrid) :
      expandIssues env state.config.now
          (consumeSteerEvents state.researchState) = some rs →
      env.brains.orchestrator = some plan →
      plan rs = some grid →
      NodeUpdate env state world .orchestratorPlan
        (.ofState { rs with taskGrid := some grid }) world
  | planAuditKept :
      NodeUpdate env state world .planAudit (.ofState state.researchState) world
  | planAudited (audit : AuditResult) :
      env.brains.auditor state.researchState = some audit →
      NodeUpdate env state world .planAudit
        { researchState :=
            { state.researchState with lastAudit := some audit }
          lastPlanSig := some (gridSignature state.researchState) }
        world
  | planAssumed (firstCycle : Bool) (cells : List String) :
      state.config.assumeBrief = true →
      NodeUpdate env state world .planApproval
        { researchState :=
            { state.researchState with
              steeringEvents :=
                state.researchState.steeringEvents ++
                  [.planAssumed firstCycle cells] }
          h7ApprovedN := some cells.length }
        world
  | planKept :
      NodeUpdate env state world .planApproval (.ofState state.researchState)
        world
  | planAnswered (firstCycle : Bool) (cells : List String) (answer : Answer) :
      env.answer = some answer →
      NodeUpdate env state world .planApproval
        { researchState :=
            { state.researchState with
              steeringEvents :=
                state.researchState.steeringEvents ++
                  [.planApproval firstCycle cells,
                    .planApprovalAnswer answer] }
          h7ApprovedN := some cells.length }
        world
  | issuesExpanded (rs : ResearchState) :
      expandIssues env state.config.now state.researchState = some rs →
      NodeUpdate env state world .issueExpansion
        { researchState := rs
          prereqs := some { state.flags with broadExpansion := true } }
        world
  | supervised :
      NodeUpdate env state world .supervisor (nodeSupervisor state) world
  | researched (selected queries : List String) :
      selectResearchIssues env state.researchState =
        some
          (selected,
            { state.researchState with researchedQueries := queries }) →
      NodeUpdate env state world .researchFanout
        { researchState :=
            { state.researchState with researchedQueries := queries }
          workerResults :=
            some
              (runResearchFanout env.brains
                { state.researchState with researchedQueries := queries }
                selected) }
        world
  | collected (processed : List String) (after : World) :
      foldWorkerResults env state.config.now state.workerResults
          state.researchState world 0 =
        (some
          { state.researchState with
            evidence := state.researchState.evidence ++ state.workerResults
            issueMap :=
              state.workerResults.foldl (advanceIssues state.config.now)
                state.researchState.issueMap
            processedReferences := processed },
          after) →
      NodeUpdate env state world .collect
        { researchState :=
            CellGates.classifyGridCells
              (collectReferences env.converters after.folder
                { state.researchState with
                  evidence :=
                    state.researchState.evidence ++ state.workerResults
                  issueMap :=
                    state.workerResults.foldl
                      (advanceIssues state.config.now)
                      state.researchState.issueMap
                  processedReferences := processed })
          prereqs := some { state.flags with sourceConfidenceChecked := true }
          workerResults := some [] }
        after
  | argued (counters : List String) :
      env.brains.skeptic state.researchState
          (state.researchState.evidence.getLast?.getD { query := "" }) =
        some counters →
      NodeUpdate env state world .skeptic
        { researchState :=
            { state.researchState with
              issueMap :=
                state.researchState.issueMap.mapValues fun node =>
                  if node.status = .answered then
                    node
                  else
                    { node with
                      counterarguments :=
                        appendNew node.counterarguments counters } }
          prereqs := some { state.flags with counterargumentPass := true } }
        world
  | audited (audit : AuditResult)
      (challenges : OrderedMap String AlbertChallenge) :
      env.brains.auditor state.researchState = some audit →
      recordChallenges audit.challenges
          state.researchState.albertChallengeMap = some challenges →
      NodeUpdate env state world .albertAudit
        { researchState :=
            { Convergence.recordSignal
                { state.researchState with
                  lastAudit := some audit
                  albertChallengeMap := challenges } with
              issueMap :=
                state.researchState.issueMap.mapValues fun node =>
                  { node with lastAudited := some state.config.now } }
          prereqs :=
            some
              { state.flags with
                albertAuditRan := true
                pendingQuestionsExtracted := true } }
        world
  | noted :
      NodeUpdate env state world .artifactUpdate
        { researchState := notedBlockers state.researchState
          prereqs := some { state.flags with blockersClassified := true } }
        { world with snapshot := some (notedBlockers state.researchState) }
  | scored (advised score : ReadinessScore) :
      env.brains.scorer state.researchState = some advised →
      (score =
        if state.researchState.albertChallengeMap.entries = [] then
          advised
        else
          { advised with
            albertChallengeReadiness :=
              Convergence.albertChallengeReadiness state.researchState }) →
      NodeUpdate env state world .readinessScoring
        (.ofState
          { state.researchState with
            readinessScore := some score
            readinessHistory :=
              state.researchState.readinessHistory ++
                [{ sum := score.axes.sum
                   iteration := state.researchState.iterationCount }]
            iterationCount := state.researchState.iterationCount + 1 })
        world
  | explained :
      NodeUpdate env state world .antiPremature (nodeAntiPremature state) world
  | decided (decision : Decision) (budget : Budget) :
      NodeUpdate env state world .cosDecision
        { researchState := state.researchState
          lastDecision := some decision
          branchBudget := some budget }
        world
  | branched (budget : Budget) :
      NodeUpdate env state world .cosDecision
        { researchState :=
            (materializeCompetitor state.researchState state.config.now
              budget).1
          lastDecision := some .branch
          branchBudget :=
            some
              (materializeCompetitor state.researchState state.config.now
                budget).2 }
        world
  | pullDefaulted (payload : PullPayload) :
      payload = buildPullPayload state.researchState →
      NodeUpdate env state world .humanPull
        (.ofState
          { state.researchState with
            steeringEvents :=
              consumePull
                (state.researchState.steeringEvents ++
                  [.autoDefault payload.defaultIfNoResponse
                    payload.defaultIfNoResponse payload.context]) })
        world
  | pullAnswered (choice : Option String) (text : String) :
      env.answer.isSome = true →
      NodeUpdate env state world .humanPull
        (.ofState
          { state.researchState with
            steeringEvents :=
              consumePull
                (state.researchState.steeringEvents ++
                  [.pullAnswer choice text
                    (buildPullPayload state.researchState).context]) })
        world
  | pushedNothing :
      pushTarget state.researchState = none →
      NodeUpdate env state world .humanPush (.ofState state.researchState) world
  | pushed (key : String) (target : IssueNode) (blocked : ResearchState) :
      pushTarget state.researchState = some (key, target) →
      InRange (internalDataTask state.researchState.humanTasks target).priority →
      IssueMap.setStatus
          { state.researchState with
            humanTasks :=
              state.researchState.humanTasks.insert
                (internalDataTask state.researchState.humanTasks target).id
                (internalDataTask state.researchState.humanTasks target) }
          target.id .blockedByInternalData state.config.now =
        some blocked →
      NodeUpdate env state world .humanPush
        (.ofState
          { blocked with
            issueMap :=
              blocked.issueMap.modify key fun node =>
                if internalDataBlocker ∈ node.humanBlockers then
                  node
                else
                  { node with
                    humanBlockers :=
                      node.humanBlockers ++ [internalDataBlocker] } })
        world
  | deepAuditKept :
      env.brains.deepAuditor = none →
      NodeUpdate env state world .deepAudit (.ofState state.researchState) world
  | deepAudited (deep : ResearchState → Option AuditResult)
      (audit : AuditResult) :
      env.brains.deepAuditor = some deep →
      deep state.researchState = some audit →
      NodeUpdate env state world .deepAudit
        (.ofState
          { state.researchState with
            lastAudit := some audit
            deepAuditCount := state.researchState.deepAuditCount + 1 })
        world
  | reviewBuilt (rs : ResearchState) (after : World) :
      buildAndGateMemo env state world = some (rs, after) →
      state.config.enableH6 = false →
      NodeUpdate env state world .humanReview (.ofState rs) after
  | reviewPassed (rs : ResearchState) (after : World) (reason : String) :
      buildAndGateMemo env state world = some (rs, after) →
      state.mode = .auto →
      NodeUpdate env state world .humanReview
        (.ofState
          { rs with
            steeringEvents :=
              rs.steeringEvents ++ [.autoReviewPass reason] })
        after
  | reviewAnswered (rs : ResearchState) (after : World) (answer : Answer) :
      buildAndGateMemo env state world = some (rs, after) →
      env.answer = some answer →
      NodeUpdate env state world .humanReview
        (.ofState
          { rs with
            steeringEvents :=
              rs.steeringEvents ++ [.reviewDecision (reviewAnswer answer)] })
        after

/-- A node that ends with an update has written one of these. -/
theorem runNode_updates
    {env : StepEnv}
    {state : GraphState}
    {world after : World}
    {node : Node}
    {update : Update}
    (ran : runNode env state world node = .update update after) :
    NodeUpdate env state world node update after := by
  cases node with
  | intake =>
      cases ran
      exact .intake
  | scope =>
      obtain ⟨rfl, ended⟩ := NodeResult.ofOption_eq_update ran
      obtain ⟨_, _, rfl⟩ := Option.map_eq_some_iff.mp ended
      exact .scopeChecked
  | clarify =>
      simp only [runNode, nodeClarify] at ran
      split at ran
      · rename_i converged
        cases ran
        exact .clarified converged
      · split at ran
        · rename_i assumed
          cases ran
          exact .clarifyAssumed assumed
        · split at ran
          · cases ran
          · rename_i questions _
            split at ran
            · cases ran
            · rename_i answer answered
              cases ran
              exact .clarifyAnswered questions answer answered
  | writeBrief =>
      obtain ⟨rfl, ended⟩ := NodeResult.ofOption_eq_update ran
      simp only [nodeWriteBrief] at ended
      split at ended
      · rename_i briefed
        cases ended
        exact .briefKept briefed
      · obtain ⟨brief, isBrief, rfl⟩ := Option.map_eq_some_iff.mp ended
        exact .briefWritten brief isBrief
  | orchestratorPlan =>
      obtain ⟨rfl, ended⟩ := NodeResult.ofOption_eq_update ran
      obtain ⟨rs, expanded, plans⟩ := Option.bind_eq_some_iff.mp ended
      split at plans
      · rename_i noPlanner
        cases plans
        exact .issuesPlanned rs expanded noPlanner
      · rename_i plan isPlan
        obtain ⟨grid, isGrid, rfl⟩ := Option.map_eq_some_iff.mp plans
        exact .cellsPlanned rs plan grid expanded isPlan isGrid
  | planAudit =>
      obtain ⟨rfl, ended⟩ := NodeResult.ofOption_eq_update ran
      simp only [nodePlanAudit] at ended
      split at ended
      · cases ended
        exact .planAuditKept
      · obtain ⟨audit, isAudit, rfl⟩ := Option.map_eq_some_iff.mp ended
        exact .planAudited audit isAudit
  | planApproval =>
      simp only [runNode, nodePlanApproval] at ran
      -- the plan and the number approved last do not matter here
      repeat' split at ran
      all_goals cases ran
      all_goals first
        | exact .planAssumed _ _ ‹_›
        | exact .planKept
        | exact .planAnswered _ _ _ ‹_›
  | issueExpansion =>
      obtain ⟨rfl, ended⟩ := NodeResult.ofOption_eq_update ran
      obtain ⟨rs, expanded, rfl⟩ := Option.map_eq_some_iff.mp ended
      exact .issuesExpanded rs expanded
  | supervisor =>
      cases ran
      exact .supervised
  | researchFanout =>
      obtain ⟨rfl, ended⟩ := NodeResult.ofOption_eq_update ran
      obtain ⟨⟨selected, rs⟩, selects, rfl⟩ := Option.map_eq_some_iff.mp ended
      have shape := selects
      obtain ⟨rawIds, _, isPair⟩ := Option.map_eq_some_iff.mp shape
      cases isPair
      exact .researched _ _ selects
  | collect =>
      simp only [runNode, nodeCollect] at ran
      split at ran
      · cases ran
      · rename_i folded saved folds
        obtain ⟨processed, rfl⟩ := foldWorkerResults_eq_some folds
        cases ran
        exact .collected processed _ folds
  | skeptic =>
      obtain ⟨rfl, ended⟩ := NodeResult.ofOption_eq_update ran
      obtain ⟨counters, isCounters, rfl⟩ := Option.map_eq_some_iff.mp ended
      exact .argued counters isCounters
  | albertAudit =>
      obtain ⟨rfl, ended⟩ := NodeResult.ofOption_eq_update ran
      obtain ⟨audit, isAudit, records⟩ := Option.bind_eq_some_iff.mp ended
      obtain ⟨challenges, recorded, rfl⟩ := Option.map_eq_some_iff.mp records
      exact .audited audit challenges isAudit recorded
  | artifactUpdate =>
      simp only [runNode, nodeArtifactUpdate] at ran
      split at ran
      · cases ran
        exact .noted
      · cases ran
  | readinessScoring =>
      obtain ⟨rfl, ended⟩ := NodeResult.ofOption_eq_update ran
      obtain ⟨advised, isAdvised, rfl⟩ := Option.map_eq_some_iff.mp ended
      exact .scored advised _ isAdvised rfl
  | antiPremature =>
      cases ran
      exact .explained
  | cosDecision =>
      simp only [runNode, nodeCosDecision] at ran
      rcases decideCos_cases env.emitDespiteDegradedAudit state with
        ⟨decision, budget, decides⟩ | ⟨budget, decides⟩
      · rw [decides] at ran
        cases ran
        exact .decided decision budget
      · rw [decides] at ran
        cases ran
        exact .branched budget
  | humanPull =>
      simp only [runNode, nodeHumanPull, recordPullAnswer] at ran
      split at ran
      · cases ran
        exact .pullDefaulted _ rfl
      · split at ran
        · cases ran
        · rename_i answer answered
          cases ran
          exact .pullAnswered _ _ (by rw [answered]; rfl)
  | humanPush =>
      obtain ⟨rfl, ended⟩ := NodeResult.ofOption_eq_update ran
      simp only [nodeHumanPush] at ended
      split at ended
      · rename_i nothing
        cases ended
        exact .pushedNothing nothing
      · rename_i key target isTarget
        split at ended
        · rename_i inRange
          obtain ⟨blocked, isBlocked, rfl⟩ := Option.map_eq_some_iff.mp ended
          exact .pushed key target blocked isTarget inRange isBlocked
        · cases ended
  | deepAudit =>
      obtain ⟨rfl, ended⟩ := NodeResult.ofOption_eq_update ran
      simp only [nodeDeepAudit] at ended
      split at ended
      · rename_i noAuditor
        cases ended
        exact .deepAuditKept noAuditor
      · rename_i deep isDeep
        obtain ⟨audit, isAudit, rfl⟩ := Option.map_eq_some_iff.mp ended
        exact .deepAudited deep audit isDeep isAudit
  | humanReview =>
      simp only [runNode, nodeHumanReview] at ran
      split at ran
      · cases ran
      · rename_i rs saved built
        split at ran
        · rename_i reviewsNot
          cases ran
          exact .reviewBuilt rs _ built (by simpa using reviewsNot)
        · split at ran
          · rename_i passes
            cases ran
            exact .reviewPassed rs _ _ built passes.1
          · split at ran
            · cases ran
            · rename_i answer answered
              cases ran
              exact .reviewAnswered rs _ answer built answered

/-! ## Pauses and exceptions -/

/-- A pause leaves the surroundings alone, unless a memo was built before. -/
theorem runNode_interrupt
    {env : StepEnv}
    {state : GraphState}
    {world after : World}
    {node : Node}
    {ask : Ask}
    (ran : runNode env state world node = .interrupt ask after) :
    after = world ∨
      node = .humanReview ∧
        ∃ rs, buildAndGateMemo env state world = some (rs, after) := by
  cases node with
  | intake
  | supervisor
  | antiPremature
  | cosDecision =>
      cases ran
  | clarify =>
      simp only [runNode, nodeClarify] at ran
      repeat' split at ran
      all_goals cases ran
      exact Or.inl rfl
  | planApproval =>
      simp only [runNode, nodePlanApproval] at ran
      repeat' split at ran
      all_goals cases ran
      all_goals exact Or.inl rfl
  | humanPull =>
      simp only [runNode, nodeHumanPull] at ran
      repeat' split at ran
      all_goals cases ran
      exact Or.inl rfl
  | collect =>
      simp only [runNode, nodeCollect] at ran
      split at ran <;> cases ran
  | artifactUpdate =>
      simp only [runNode, nodeArtifactUpdate] at ran
      split at ran <;> cases ran
  | humanReview =>
      simp only [runNode, nodeHumanReview] at ran
      split at ran
      · cases ran
      · rename_i rs saved built
        repeat' split at ran
        all_goals cases ran
        exact Or.inr ⟨rfl, rs, built⟩
  | _ =>
      exact absurd ran NodeResult.ofOption_ne_interrupt

/-- An exception leaves the surroundings alone, unless results were folded. -/
theorem runNode_raise
    {env : StepEnv}
    {state : GraphState}
    {world after : World}
    {node : Node}
    (ran : runNode env state world node = .raise after) :
    after = world ∨
      node = .collect ∧
        foldWorkerResults env state.config.now state.workerResults
            state.researchState world 0 = (none, after) := by
  cases node with
  | intake
  | supervisor
  | antiPremature
  | cosDecision =>
      cases ran
  | clarify =>
      simp only [runNode, nodeClarify] at ran
      repeat' split at ran
      all_goals cases ran
      exact Or.inl rfl
  | planApproval =>
      simp only [runNode, nodePlanApproval] at ran
      repeat' split at ran
      all_goals cases ran
  | humanPull =>
      simp only [runNode, nodeHumanPull] at ran
      repeat' split at ran
      all_goals cases ran
  | collect =>
      simp only [runNode, nodeCollect] at ran
      split at ran
      · rename_i saved folds
        cases ran
        exact Or.inr ⟨rfl, folds⟩
      · cases ran
  | artifactUpdate =>
      simp only [runNode, nodeArtifactUpdate] at ran
      split at ran
      · cases ran
      · cases ran
        exact Or.inl rfl
  | humanReview =>
      simp only [runNode, nodeHumanReview] at ran
      repeat' split at ran
      all_goals cases ran
      exact Or.inl rfl
  | _ =>
      exact Or.inl (NodeResult.ofOption_eq_raise ran)

/-- A step keeps the channels, or writes an update and a stop reason. -/
theorem step_writes
    {execution next : Execution}
    {env : StepEnv}
    (stepped : step execution env = some next) :
    ∃ node seen,
      Visits execution env node seen ∧
        (next.graph = execution.graph ∨
          ∃ update world after reason,
            runNode seen execution.graph world node = .update update after ∧
              next.graph =
                { execution.graph.apply update with
                  researchState :=
                    { update.researchState with stopReason := reason } }) := by
  obtain ⟨node, seen, visits, rfl⟩ := step_visits stepped
  refine ⟨node, seen, visits, ?_⟩
  rcases visit_cases seen node execution with
    ⟨world, raised⟩ | ⟨ask, world, _, paused⟩ | ⟨update, world, ran, moved⟩
  · rw [raised]
    exact Or.inl rfl
  · rw [paused]
    exact Or.inl rfl
  · rw [moved]
    right
    rcases successor_state seen.cap (execution.graph.apply update) node with
      same | recorded
    · exact
        ⟨update, _, world, update.researchState.stopReason, ran, same⟩
    · exact ⟨update, _, world, _, ran, recorded⟩

end Nodes

end ResearchCos
