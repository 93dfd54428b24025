import ResearchCos.CellGates
import ResearchCos.GraphState
import ResearchCos.WorkerProxy

namespace ResearchCos

open Foundation

/-!
# The nodes of the graph

Every node as a function of the channels and of its surroundings.  A node that
pauses is executed again from the same channels once the answer is there.
-/

/-- A channel update that only carries the research state. -/
def Update.ofState (researchState : ResearchState) : Update where
  researchState := researchState

/-! ## Before the loop -/

def nodeIntake (state : GraphState) : Update where
  researchState := state.researchState
  branchBudget := some { breadth := defaultBreadth, depth := defaultDepth }
  prereqs := some {}
  workerResults := some []

def nodeScope (env : StepEnv) (state : GraphState) : Option Update :=
  (env.brains.clarifyGate state.researchState).map fun _ =>
    Update.ofState state.researchState

def nodeWriteBrief (env : StepEnv) (state : GraphState) : Option Update :=
  let rs := state.researchState
  if isSet rs.researchBrief then
    some (Update.ofState rs)
  else
    (env.brains.briefWriter rs).map fun brief =>
      Update.ofState { rs with researchBrief := some brief }

/-- Ask for the missing criteria, unless the brief is pinned down or assumed. -/
def nodeClarify (env : StepEnv) (state : GraphState) (world : World) :
    NodeResult :=
  let rs := state.researchState
  let missing := Clarify.missingCriteria rs
  if Clarify.clarifyConverged rs then
    .update (Update.ofState { rs with clarifyConverged := true }) world
  else if state.config.assumeBrief then
    .update
      (Update.ofState
        { rs with
          steeringEvents := rs.steeringEvents ++ [.clarifyAssumed missing]
          clarifyConverged := true })
      world
  else
    let asked :=
      match env.brains.clarifier with
      | none =>
          some
            (missing.map fun (criterion : Criterion) =>
              "請補充：" ++ criterion.value)
      | some ask => ask rs missing
    match asked with
    | none => .raise world
    | some questions =>
        match env.answer with
        | none => .interrupt (.clarify questions missing) world
        | some answer =>
            .update
              (Update.ofState
                { rs with
                  steeringEvents :=
                    rs.steeringEvents ++
                      [.clarifyAsk questions missing,
                        .clarifyAnswer answer missing] })
              world

/-! ## Planning -/

/-- Whether a steer text names an issue. -/
def steerNames (text : String) (node : IssueNode) : Bool :=
  node.title ≠ "" && (isSubstring node.title text || isSubstring text node.title)

/-- Raise the impact of an issue that a steer text names. -/
def applySteerText (text : String) (node : IssueNode) : IssueNode :=
  if steerNames text node then
    { node with impact := min 5 (node.impact + 1) }
  else
    node

/-- Apply the steer events in order, each of them once. -/
def consumeSteers :
    List SteeringEvent → OrderedMap String IssueNode →
      List SteeringEvent × OrderedMap String IssueNode
  | [], issues => ([], issues)
  | .steer text at_ false _ :: rest, issues =>
      let bumped := issues.values.any (steerNames text)
      let (events, final) :=
        consumeSteers rest (issues.mapValues (applySteerText text))
      (.steer text at_ true bumped :: events, final)
  | event :: rest, issues =>
      let (events, final) := consumeSteers rest issues
      (event :: events, final)

/-- What every bump keeps holds of the issues after the steers. -/
theorem consumeSteers_invariant
    {motive : OrderedMap String IssueNode → Prop}
    (kept :
      ∀ text issues,
        motive issues → motive (issues.mapValues (applySteerText text)))
    (events : List SteeringEvent)
    {issues : OrderedMap String IssueNode}
    (holds : motive issues) :
    motive (consumeSteers events issues).2 := by
  induction events, issues using consumeSteers.induct with
  | case1 issues =>
      exact holds
  | case2 text at_ reranked rest issues events final recursive
      inductionHypothesis =>
      simp only [consumeSteers]
      exact inductionHypothesis (kept text issues holds)
  | case3 event rest issues other events final recursive
      inductionHypothesis =>
      rw [consumeSteers]
      · exact inductionHypothesis holds
      · exact other

def consumeSteerEvents (rs : ResearchState) : ResearchState :=
  let (events, issues) := consumeSteers rs.steeringEvents rs.issueMap
  { rs with steeringEvents := events, issueMap := issues }

/-- Add the drafted issues one by one. -/
def addDrafts (now : String) :
    List IssueDraft → ResearchState → Option ResearchState
  | [], rs => some rs
  | draft :: rest, rs =>
      (IssueMap.add rs draft.title draft.description draft.issueType .open now
        draft.impact draft.confidence).bind (addDrafts now rest)

/-- Fill an empty issue map; a filled one stays as it is. -/
def expandIssues (env : StepEnv) (now : String) (rs : ResearchState) :
    Option ResearchState :=
  if rs.issueMap.entries = [] then
    (env.brains.issueExpander rs).bind fun drafts => addDrafts now drafts rs
  else
    some rs

/-- A relation of states that composes and that an added issue satisfies. -/
structure RelatesAdded
    (Relates : ResearchState → ResearchState → Prop) : Prop where
  refl : ∀ rs, Relates rs rs
  trans :
    ∀ {first second third},
      Relates first second → Relates second third → Relates first third
  add :
    ∀ {rs after title description now issueType impact confidence},
      IssueMap.add rs title description issueType .open now impact
          confidence = some after →
        Relates rs after

/-- Drafts that are added one by one. -/
theorem RelatesAdded.addDrafts
    {Relates : ResearchState → ResearchState → Prop}
    (relates : RelatesAdded Relates)
    {now : String}
    {drafts : List IssueDraft}
    {rs after : ResearchState}
    (added : addDrafts now drafts rs = some after) :
    Relates rs after := by
  induction drafts generalizing rs with
  | nil =>
      cases added
      exact relates.refl _
  | cons draft rest inductionHypothesis =>
      obtain ⟨middle, first, later⟩ := Option.bind_eq_some_iff.mp added
      exact relates.trans (relates.add first) (inductionHypothesis later)

/-- A map that is filled, or was filled before. -/
theorem RelatesAdded.expandIssues
    {Relates : ResearchState → ResearchState → Prop}
    (relates : RelatesAdded Relates)
    {env : StepEnv}
    {now : String}
    {rs after : ResearchState}
    (expanded : expandIssues env now rs = some after) :
    Relates rs after := by
  simp only [ResearchCos.expandIssues] at expanded
  split at expanded
  · obtain ⟨drafts, _, added⟩ := Option.bind_eq_some_iff.mp expanded
    exact relates.addDrafts added
  · cases expanded
    exact relates.refl _

def nodeOrchestratorPlan (env : StepEnv) (state : GraphState) : Option Update :=
  (expandIssues env state.config.now
      (consumeSteerEvents state.researchState)).bind fun rs =>
    match env.brains.orchestrator with
    | none => some (Update.ofState rs)
    | some plan =>
        (plan rs).map fun grid =>
          Update.ofState { rs with taskGrid := some grid }

/-- The identifiers and the status of all cells, in the order of identifiers. -/
def gridSignature (rs : ResearchState) : String :=
  match rs.taskGrid with
  | none => ""
  | some grid =>
      "|".intercalate
        ((grid.cells.values.insertionSort fun first second =>
            Ranking.stringLe first.id second.id).map fun cell =>
          cell.id ++ ":CellStatus." ++ cell.status.value)

/-- Audit the plan, unless the grid is the one audited last. -/
def nodePlanAudit (env : StepEnv) (state : GraphState) : Option Update :=
  let rs := state.researchState
  let signature := gridSignature rs
  if signature ≠ "" ∧ some signature = state.lastPlanSig then
    some (Update.ofState rs)
  else
    (env.brains.auditor rs).map fun audit =>
      { researchState := { rs with lastAudit := some audit }
        lastPlanSig := some signature }

/-- The number of new cells that asks for a new approval. -/
def h7MajorDelta : Nat :=
  2

/-- Ask to approve the first plan and every major change of it. -/
def nodePlanApproval (env : StepEnv) (state : GraphState) (world : World) :
    NodeResult :=
  let rs := state.researchState
  let cells :=
    match rs.taskGrid with
    | none => []
    | some grid => grid.cells.values.map TaskCell.id
  let firstCycle := state.h7ApprovedN.isNone
  let major :=
    match state.h7ApprovedN with
    | none => false
    | some approved => decide (approved + h7MajorDelta ≤ cells.length)
  if state.config.assumeBrief then
    .update
      { researchState :=
          { rs with
            steeringEvents :=
              rs.steeringEvents ++ [.planAssumed firstCycle cells] }
        h7ApprovedN := some cells.length }
      world
  else if !(firstCycle || major) then
    .update (Update.ofState rs) world
  else
    match env.answer with
    | none => .interrupt (.planApproval cells firstCycle) world
    | some answer =>
        .update
          { researchState :=
              { rs with
                steeringEvents :=
                  rs.steeringEvents ++
                    [.planApproval firstCycle cells,
                      .planApprovalAnswer answer] }
            h7ApprovedN := some cells.length }
          world

def nodeIssueExpansion (env : StepEnv) (state : GraphState) : Option Update :=
  (expandIssues env state.config.now state.researchState).map fun rs =>
    { researchState := rs
      prereqs := some { state.flags with broadExpansion := true } }

/-! ## Research -/

def nodeSupervisor (state : GraphState) : Update where
  researchState := consumeSteerEvents state.researchState
  workerResults := some []

/-- A selectable issue: tied to an open challenge, its impact, its key. -/
structure Candidate where
  hasChallenge : Bool
  impact : Int
  issueId : String
  deriving Repr, DecidableEq

/-- Challenged issues first, then higher impact, ties as they come. -/
def Candidate.precedes (first second : Candidate) : Prop :=
  second.hasChallenge = false ∧ first.hasChallenge = true ∨
    second.hasChallenge = first.hasChallenge ∧ second.impact ≤ first.impact

instance : DecidableRel Candidate.precedes := fun _ _ =>
  inferInstanceAs (Decidable (_ ∨ _))

/-- Whether an issue is answered or waits for a human. -/
def answeredOrBlocked (status : IssueStatus) : Bool :=
  !Exhaustion.isAddressable status

/-- The issues worth a search, among those the supervisor names. -/
def researchCandidates
    (rs : ResearchState)
    (rawIds : List String) : List Candidate :=
  let challenged :=
    (Convergence.unresolvedChallenges rs).filterMap AlbertChallenge.issueId
  rawIds.filterMap fun issueId =>
    (rs.issueMap.get? issueId).bind fun node =>
      if answeredOrBlocked node.status ∨ node.title ∈ rs.researchedQueries then
        none
      else
        some
          { hasChallenge := decide (issueId ∈ challenged)
            impact := node.impact
            issueId := issueId }

/-- Select the issues of this round and remember their queries. -/
def selectResearchIssues (env : StepEnv) (rs : ResearchState) :
    Option (List String × ResearchState) :=
  (env.brains.supervisor rs).map fun rawIds =>
    let selected :=
      (((researchCandidates rs rawIds).insertionSort Candidate.precedes).take
        env.maxResearchPerIter).map Candidate.issueId
    let queries :=
      selected.foldl
        (fun known issueId =>
          match rs.issueMap.get? issueId with
          | none => known
          | some node =>
              if node.title ∈ known then known else known ++ [node.title])
        rs.researchedQueries
    (selected, { rs with researchedQueries := queries })

section Casing

variable [PythonText]

/-- Critique, rank and compress one bundle; a brain that raises drops it. -/
def critiqueBundle (brains : Brains) (bundle : EvidenceBundle) :
    Option EvidenceBundle :=
  (brains.sourceCritic bundle).bind fun reviewed =>
    brains.compressor (Ranking.apply brains.curator reviewed)

/-- Research the selected issues, each through its own proxy. -/
def runResearchFanout
    (brains : Brains)
    (rs : ResearchState)
    (selected : List String) : List EvidenceBundle :=
  (selected.filterMap fun issueId =>
    brains.researcher (buildWorkerProxy rs issueId) issueId).filterMap
      (critiqueBundle brains)

def nodeResearchFanout (env : StepEnv) (state : GraphState) : Option Update :=
  (selectResearchIssues env state.researchState).map fun (selected, rs) =>
    { researchState := rs
      workerResults := some (runResearchFanout env.brains rs selected) }

/-! ## Collecting the results -/

omit [PythonText] in
/-- The issue of a bundle after the bundle is folded in. -/
def advanceIssue (now query : String) (node : IssueNode) : IssueNode :=
  let advanced :=
    match node.status with
    | .open
    | .researching => node.setStatus .partiallyAnswered now
    | .partiallyAnswered =>
        { node.setStatus .answered now with confidence := 4 }
    | _ => node
  { advanced with evidenceRefs := advanced.evidenceRefs ++ [query] }

omit [PythonText] in
/-- Advance the issue that a bundle is about. -/
def advanceIssues
    (now : String)
    (issues : OrderedMap String IssueNode)
    (bundle : EvidenceBundle) : OrderedMap String IssueNode :=
  match bundle.issueId with
  | none => issues
  | some issueId =>
      if issueId = "" then
        issues
      else
        issues.modify issueId (advanceIssue now bundle.query)

omit [PythonText] in
/-- Fold one bundle into the evidence and advance its issue. -/
def foldBundle
    (now : String)
    (rs : ResearchState)
    (bundle : EvidenceBundle) : ResearchState :=
  { rs with
    evidence := rs.evidence ++ [bundle]
    issueMap := advanceIssues now rs.issueMap bundle }

omit [PythonText] in
/-- Save the sources of a bundle in the reference store. -/
def persistBundle
    (env : StepEnv)
    (rs : ResearchState)
    (bundle : EvidenceBundle)
    (world : World)
    (attempts : Nat) : ResearchState × World × Nat :=
  let store :=
    ReferenceStore.persistAiSources world.run env.noteWrites bundle.sources
      { folder := world.folder
        processedReferences := rs.processedReferences
        attempts := attempts }
  ({ rs with processedReferences := store.processedReferences },
    { world with folder := store.folder }, store.attempts)

omit [PythonText] in
/--
Fold all worker results.  A result that does not validate raises; the notes
saved before it stay on disk.
-/
def foldWorkerResults (env : StepEnv) (now : String) :
    List EvidenceBundle → ResearchState → World → Nat →
      Option ResearchState × World
  | [], rs, world, _ => (some rs, world)
  | raw :: rest, rs, world, attempts =>
      match raw.modelValidate with
      | none => (none, world)
      | some bundle =>
          let (saved, savedWorld, laterAttempts) :=
            persistBundle env (foldBundle now rs bundle) bundle world attempts
          foldWorkerResults env now rest saved savedWorld laterAttempts

omit [PythonText] in
/-- Folding writes the evidence, the issues and the processed references. -/
theorem foldWorkerResults_eq_some
    {env : StepEnv}
    {now : String}
    {raws : List EvidenceBundle}
    {rs folded : ResearchState}
    {world after : World}
    {attempts : Nat}
    (folds :
      foldWorkerResults env now raws rs world attempts =
        (some folded, after)) :
    ∃ processed, folded =
      { rs with
        evidence := rs.evidence ++ raws
        issueMap := raws.foldl (advanceIssues now) rs.issueMap
        processedReferences := processed } := by
  induction raws generalizing rs world attempts with
  | nil =>
      cases folds
      refine ⟨folded.processedReferences, ?_⟩
      rw [List.append_nil, List.foldl_nil]
  | cons raw rest inductionHypothesis =>
      simp only [foldWorkerResults] at folds
      cases validated : raw.modelValidate with
      | none =>
          rw [validated] at folds
          cases folds
      | some bundle =>
          rw [validated] at folds
          obtain ⟨rfl, _⟩ := EvidenceBundle.modelValidate_eq_some validated
          obtain ⟨processed, rfl⟩ := inductionHypothesis folds
          refine ⟨processed, ?_⟩
          simp only [persistBundle, foldBundle, List.append_assoc,
            List.singleton_append, List.foldl_cons]

omit [PythonText] in
/-- Folding writes nothing but the reference folder, even when it raises. -/
theorem foldWorkerResults_world
    (env : StepEnv)
    (now : String)
    (raws : List EvidenceBundle)
    (rs : ResearchState)
    (world : World)
    (attempts : Nat) :
    ∃ folder, (foldWorkerResults env now raws rs world attempts).2 =
      { world with folder := folder } := by
  induction raws generalizing rs world attempts with
  | nil =>
      exact ⟨world.folder, rfl⟩
  | cons raw rest inductionHypothesis =>
      simp only [foldWorkerResults]
      cases raw.modelValidate with
      | none =>
          exact ⟨world.folder, rfl⟩
      | some bundle =>
          obtain ⟨folder, isAfter⟩ := inductionHypothesis _ _ _
          exact ⟨folder, isAfter.trans rfl⟩

/-- Scan the reference folder; the bundles of a scan that raises are lost. -/
def collectReferences
    (converters : Converters)
    (folder : ReferenceFolder)
    (rs : ResearchState) : ResearchState :=
  let outcome :=
    ReferenceStore.scanReferenceFolder converters folder rs.processedReferences
  { rs with
    processedReferences := outcome.processedReferences
    evidence := rs.evidence ++ outcome.result.getD [] }

def nodeCollect (env : StepEnv) (state : GraphState) (world : World) :
    NodeResult :=
  match foldWorkerResults env state.config.now state.workerResults
      state.researchState world 0 with
  | (none, after) => .raise after
  | (some folded, after) =>
      .update
        { researchState :=
            CellGates.classifyGridCells
              (collectReferences env.converters after.folder folded)
          prereqs := some { state.flags with sourceConfidenceChecked := true }
          workerResults := some [] }
        after

/-! ## Critique and audit -/

omit [PythonText] in
/-- Append the texts that are not there yet. -/
def appendNew (known new : List String) : List String :=
  new.foldl (fun all text => if text ∈ all then all else all ++ [text]) known

omit [PythonText] in
def nodeSkeptic (env : StepEnv) (state : GraphState) : Option Update :=
  let rs := state.researchState
  let last := rs.evidence.getLast?.getD { query := "" }
  (env.brains.skeptic rs last).map fun counters =>
    { researchState :=
        { rs with
          issueMap :=
            rs.issueMap.mapValues fun node =>
              if node.status = .answered then
                node
              else
                { node with
                  counterarguments :=
                    appendNew node.counterarguments counters } }
      prereqs := some { state.flags with counterargumentPass := true } }

/-- Record one challenge; an answered one with evidence is resolved. -/
def recordChallenge
    (challenges : OrderedMap String AlbertChallenge)
    (challenge : AlbertChallenge) :
    Option (OrderedMap String AlbertChallenge) :=
  (ChallengeMap.upsert challenges
    { challenge := challenge.challenge
      whyAlbertWouldAsk :=
        if challenge.whyAlbertWouldAsk = "" then
          none
        else
          some challenge.whyAlbertWouldAsk
      currentAnswer :=
        if challenge.currentAnswer = "" then
          none
        else
          some challenge.currentAnswer
      status := some challenge.status
      classification := challenge.classification
      confidence :=
        if challenge.confidence = 0 then none else some challenge.confidence
      evidenceRefs :=
        if challenge.evidenceRefs = [] then
          none
        else
          some challenge.evidenceRefs
      issueId := challenge.issueId }).map fun (recorded, key) =>
    recorded.modify key fun merged =>
      if merged.status = .answered ∧ merged.evidenceRefs ≠ [] then
        { merged with status := .resolved }
      else
        merged

/-- Record the challenges of an audit one by one. -/
def recordChallenges :
    List AlbertChallenge → OrderedMap String AlbertChallenge →
      Option (OrderedMap String AlbertChallenge)
  | [], challenges => some challenges
  | challenge :: rest, challenges =>
      (recordChallenge challenges challenge).bind (recordChallenges rest)

def nodeAlbertAudit (env : StepEnv) (state : GraphState) : Option Update :=
  let rs := state.researchState
  (env.brains.auditor rs).bind fun audit =>
    (recordChallenges audit.challenges rs.albertChallengeMap).map
      fun challenges =>
        let recorded :=
          Convergence.recordSignal
            { rs with
              lastAudit := some audit
              albertChallengeMap := challenges }
        { researchState :=
            { recorded with
              issueMap :=
                recorded.issueMap.mapValues fun node =>
                  { node with lastAudited := some state.config.now } }
          prereqs :=
            some
              { state.flags with
                albertAuditRan := true
                pendingQuestionsExtracted := true } }

end Casing

/-- Whether an issue waits for a human. -/
def isBlocked : IssueStatus → Bool
  | .blockedByHuman
  | .blockedByInternalData
  | .blockedByPermission
  | .blockedByDecision => true
  | _ => false

/-- Note the residual blockers and save a snapshot. -/
def nodeArtifactUpdate (env : StepEnv) (state : GraphState) (world : World) :
    NodeResult :=
  let rs := state.researchState
  let noted :=
    { rs with
      issueMap :=
        rs.issueMap.mapValues fun node =>
          if isBlocked node.status ∧ node.humanBlockers = [] then
            { node with
              humanBlockers := ["recorded residual blocker (stub)"] }
          else
            node }
  if env.snapshotSaved then
    .update
      { researchState := noted
        prereqs := some { state.flags with blockersClassified := true } }
      { world with snapshot := some noted }
  else
    .raise world

def nodeReadinessScoring (env : StepEnv) (state : GraphState) : Option Update :=
  let rs := state.researchState
  (env.brains.scorer rs).map fun advised =>
    let score :=
      if rs.albertChallengeMap.entries = [] then
        advised
      else
        { advised with
          albertChallengeReadiness := Convergence.albertChallengeReadiness rs }
    Update.ofState
      { rs with
        readinessScore := some score
        readinessHistory :=
          rs.readinessHistory ++
            [{ sum := score.axes.sum, iteration := rs.iterationCount }]
        iterationCount := rs.iterationCount + 1 }

def nodeAntiPremature (state : GraphState) : Update where
  researchState := state.researchState
  prereqs :=
    match state.researchState.lastAudit with
    | none => some state.flags
    | some audit =>
        if audit.rationale = "" then
          some state.flags
        else
          some { state.flags with explicitContinueExplanation := true }

/-! ## The decision -/

/-- The oldest request to ask the human that is still waiting. -/
def pendingPull : List SteeringEvent → Option PullRequest
  | [] => none
  | .requestPull request false :: _ => some request
  | _ :: rest => pendingPull rest

/-- Consume the oldest waiting request. -/
def consumePull : List SteeringEvent → List SteeringEvent
  | [] => []
  | .requestPull request false :: rest => .requestPull request true :: rest
  | event :: rest => event :: consumePull rest

/-- Add the issue about competitors while the budget lasts. -/
def materializeCompetitor
    (rs : ResearchState)
    (now : String)
    (budget : Budget) : ResearchState × Budget :=
  if budget.canBranch && !IssueMap.hasType rs .competitor then
    -- the ratings of the added issue are constants within their range
    ((IssueMap.add rs "競品是否已有此能力?" "Albert 會挑戰的競品角度"
        .competitor .open now 4 1).getD rs,
      budget.spend)
  else
    (rs, budget)

/-- The issue about competitors is added, or nothing is. -/
theorem RelatesAdded.materializeCompetitor
    {Relates : ResearchState → ResearchState → Prop}
    (relates : RelatesAdded Relates)
    (rs : ResearchState)
    (now : String)
    (budget : Budget) :
    Relates rs (materializeCompetitor rs now budget).1 := by
  simp only [ResearchCos.materializeCompetitor]
  split
  · cases added :
      IssueMap.add rs "競品是否已有此能力?" "Albert 會挑戰的競品角度"
        .competitor .open now 4 1 with
    | none =>
        exact relates.refl rs
    | some after =>
        exact relates.add added
  · exact relates.refl rs

/-- Whether the last audit recommends an action. -/
def auditRecommends (rs : ResearchState) (decision : Decision) : Bool :=
  match rs.lastAudit with
  | none => false
  | some audit => audit.recommendedNextAction = some decision

/-- Whether the last audit demands rework. -/
def auditDemandsRework (rs : ResearchState) : Bool :=
  match rs.lastAudit with
  | none => false
  | some audit => audit.verdict = .rework

/-- A request to ask the human is waiting, or the audit recommends to ask. -/
def asksForPull (rs : ResearchState) : Bool :=
  (pendingPull rs.steeringEvents).isSome || auditRecommends rs .pullHuman

/-- The stage that settles the decision. -/
inductive CosStage where
  | pull
  | rework
  | premature
  | exhausted
  | saturated
  | residual
  | addressable
  deriving Repr, DecidableEq

/-- The stages are tried in this order. -/
def cosStage (state : GraphState) : CosStage :=
  let rs := state.researchState
  if asksForPull rs then
    .pull
  else if auditDemandsRework rs then
    .rework
  else if !state.flags.allDone then
    .premature
  else if Exhaustion.terminalEligible rs state.flags then
    .exhausted
  else if auditRecommends rs .synthesize || Exhaustion.plateau rs 2 then
    .saturated
  else if !Exhaustion.hasAddressable rs then
    .residual
  else
    .addressable

/-- A stopping decision past both emission gates. -/
def gatedDecision
    (emitDespiteDegradedAudit : Bool)
    (rs : ResearchState)
    (decision : Decision) : Decision :=
  Convergence.gateEmission rs
    (EmissionGate.assertAuditRan emitDespiteDegradedAudit rs decision)

/-- The decision of the stage that settles it, with the budget it leaves. -/
def decideCos
    (emitDespiteDegradedAudit : Bool)
    (state : GraphState) : Update :=
  let rs := state.researchState
  let budget :=
    state.branchBudget.getD { breadth := defaultBreadth, depth := defaultDepth }
  let decided (decision : Decision) : Update :=
    { researchState := rs
      lastDecision := some decision
      branchBudget := some budget }
  match cosStage state with
  | .pull => decided .pullHuman
  | .rework =>
      let (branched, spent) := materializeCompetitor rs state.config.now budget
      { researchState := branched
        lastDecision := some .branch
        branchBudget := some spent }
  | .premature => decided .continueResearch
  | .exhausted =>
      decided (gatedDecision emitDespiteDegradedAudit rs .terminalStop)
  | .saturated =>
      decided (gatedDecision emitDespiteDegradedAudit rs .synthesize)
  | .residual => decided .pushHuman
  | .addressable => decided .continueResearch

def nodeCosDecision (env : StepEnv) (state : GraphState) : Update :=
  decideCos env.emitDespiteDegradedAudit state

/-- The emission gates let a decision pass or turn it into more research. -/
theorem gatedDecision_cases
    (emitDespiteDegradedAudit : Bool)
    (rs : ResearchState)
    (decision : Decision) :
    gatedDecision emitDespiteDegradedAudit rs decision = decision ∨
      gatedDecision emitDespiteDegradedAudit rs decision =
        .continueResearch := by
  unfold gatedDecision
  rcases assertAuditRan_cases emitDespiteDegradedAudit rs decision with
      passed | refused
  · rw [passed]
    exact gateEmission_cases rs decision
  · rw [refused]
    exact Or.inr rfl

/-- A decision to ask the human is made exactly when there is something to ask. -/
theorem decideCos_pullHuman_iff
    {emitDespiteDegradedAudit : Bool}
    {state : GraphState} :
    (decideCos emitDespiteDegradedAudit state).lastDecision =
        some .pullHuman ↔
      asksForPull state.researchState = true := by
  have stagePull :
      cosStage state = .pull ↔ asksForPull state.researchState = true := by
    simp only [cosStage]
    split
    · rename_i asks
      simp [asks]
    · rename_i asksNot
      simp only [asksNot, Bool.false_eq_true, iff_false]
      repeat' split
      all_goals simp
  rw [← stagePull]
  cases stage : cosStage state with
  | exhausted =>
      rcases gatedDecision_cases emitDespiteDegradedAudit
          state.researchState .terminalStop with passed | refused
      · simp [decideCos, stage, passed]
      · simp [decideCos, stage, refused]
  | saturated =>
      rcases gatedDecision_cases emitDespiteDegradedAudit
          state.researchState .synthesize with passed | refused
      · simp [decideCos, stage, passed]
      · simp [decideCos, stage, refused]
  | _ =>
      simp [decideCos, stage]

/-! ## Human gates -/

/-- What a pull asks: the queued request, or a general question. -/
def buildPullPayload (rs : ResearchState) : PullPayload :=
  match pendingPull rs.steeringEvents with
  | some request =>
      { context := request.context.getD ""
        why := request.why.getD ""
        options := request.options.getD ["A", "B", "C"]
        aiRecommendation := request.aiRecommendation.getD ""
        impactPerOption := request.impactPerOption.getD []
        defaultIfNoResponse := request.defaultIfNoResponse.getD "" }
  | none =>
      { context := "研究方向需人類定奪（" ++ rs.originalQuestion ++ "）"
        why := "決策準則不明或多條高影響路徑互斥"
        options := ["A: 採用 AI 建議", "B: 改變方向", "C: 暫停等更多資訊"]
        aiRecommendation := "A"
        impactPerOption := []
        defaultIfNoResponse :=
          orDefault rs.fallbackBehaviorIfHumanUnavailable "A" }

/-- Record the answer to a pull and consume its request. -/
def recordPullAnswer
    (rs : ResearchState)
    (payload : PullPayload)
    (answer : Answer) : ResearchState :=
  let (choice, text) :=
    match answer with
    | .text answer => (some answer, answer)
    | .reply choice answer => (choice, answer.getD "")
  { rs with
    steeringEvents :=
      consumePull
        (rs.steeringEvents ++ [.pullAnswer choice text payload.context]) }

/-- Ask the human, or apply the default of a low-risk pull in auto mode. -/
def nodeHumanPull (env : StepEnv) (state : GraphState) (world : World) :
    NodeResult :=
  let rs := state.researchState
  let payload := buildPullPayload rs
  if state.mode = .auto ∧ PullRisk.classifyPull rs = .low then
    .update
      (Update.ofState
        { rs with
          steeringEvents :=
            consumePull
              (rs.steeringEvents ++
                [.autoDefault payload.defaultIfNoResponse
                  payload.defaultIfNoResponse payload.context]) })
      world
  else
    match env.answer with
    | none => .interrupt (.pull payload) world
    | some answer =>
        .update (Update.ofState (recordPullAnswer rs payload answer)) world

/-- Higher impact first, ties as they come. -/
def higherImpact (first second : String × IssueNode) : Prop :=
  second.2.impact ≤ first.2.impact

instance : DecidableRel higherImpact := fun first second =>
  inferInstanceAs (Decidable (second.2.impact ≤ first.2.impact))

/-- The issue that is handed to a human: addressable, of the highest impact. -/
def pushTarget (rs : ResearchState) : Option (String × IssueNode) :=
  (rs.issueMap.entries.insertionSort higherImpact).find? fun entry =>
    Exhaustion.isAddressable entry.2.status

def internalDataBlocker : String :=
  "已建立 HumanTask（內部資料）"

/-- The task that asks for internal data about an issue. -/
def internalDataTask
    (tasks : OrderedMap String HumanTask)
    (target : IssueNode) : HumanTask where
  id := HumanTasks.nextId tasks
  taskTitle := "提供內部資料：" ++ target.title
  requestedInput := "內部資料 / 受限文件"
  whyNeeded := "問題「" ++ target.title ++ "」需要外部研究無法取得的內部資料"
  blockingQuestion := target.title
  priority := target.impact
  canContinueWithoutIt := true
  fallbackPlan := "先研究相鄰未受阻的問題，待人類回填內部資料後再續"
  status := .open

/-- Hand an addressable issue to a human and block it, without a pause. -/
def nodeHumanPush (state : GraphState) : Option Update :=
  let rs := state.researchState
  match pushTarget rs with
  | none => some (Update.ofState rs)
  | some (key, target) =>
      let task := internalDataTask rs.humanTasks target
      if InRange task.priority then
        (IssueMap.setStatus
          { rs with humanTasks := rs.humanTasks.insert task.id task }
          target.id .blockedByInternalData state.config.now).map
            fun blocked =>
              Update.ofState
                { blocked with
                  issueMap :=
                    blocked.issueMap.modify key fun node =>
                      if internalDataBlocker ∈ node.humanBlockers then
                        node
                      else
                        { node with
                          humanBlockers :=
                            node.humanBlockers ++ [internalDataBlocker] } }
      else
        none

def nodeDeepAudit (env : StepEnv) (state : GraphState) : Option Update :=
  let rs := state.researchState
  match env.brains.deepAuditor with
  | none => some (Update.ofState rs)
  | some deep =>
      (deep rs).map fun audit =>
        Update.ofState
          { rs with
            lastAudit := some audit
            deepAuditCount := rs.deepAuditCount + 1 }

/-! ## Review -/

/-- An open task that asks for internal data. -/
def isInternalDataTask (task : HumanTask) : Bool :=
  task.status = .open &&
    isSubstring "內部"
      (task.requestedInput ++ "\n" ++ task.whyNeeded ++ "\n" ++ task.taskTitle)

/-- The task that asks for the data of a blocked cell. -/
def blockedCellTask (cell : TaskCell) : HumanTask where
  id := "HT-CELL-" ++ cell.id
  taskTitle := "提供內部資料：" ++ cell.vendor ++ " " ++ cell.specGroup
  requestedInput := "內部資料 / 受限文件"
  whyNeeded :=
    cell.vendor ++ " " ++ cell.specGroup ++
      " 的公開資料已窮盡（程式判定），需內部 / 受限文件才能補齊此格規格。"
  blockingQuestion := cell.objective
  priority := 5
  canContinueWithoutIt := true
  fallbackPlan := "先繼續其他 cell；此格僅列於『需內部資料』，不以推測填補。"
  status := .open

/-- Record a task for every blocked cell that has none. -/
def mintBlockedCellTasks (rs : ResearchState) : ResearchState :=
  match rs.taskGrid with
  | none => rs
  | some grid =>
      { rs with
        humanTasks :=
          grid.cells.values.foldl
            (fun tasks cell =>
              let task := blockedCellTask cell
              if cell.status = .blocked ∧ tasks.contains task.id = false then
                tasks.insert task.id task
              else
                tasks)
            rs.humanTasks }

/-- Minting tasks adds tasks only. -/
theorem mintBlockedCellTasks_eq
    (rs : ResearchState) :
    mintBlockedCellTasks rs =
      { rs with humanTasks := (mintBlockedCellTasks rs).humanTasks } := by
  simp only [mintBlockedCellTasks]
  split <;> rfl

/-- Whether this run has already sent its email. -/
def supplementEmailSent (rs : ResearchState) : Bool :=
  rs.steeringEvents.any fun event =>
    match event with
    | .notifySupplement _ => true
    | _ => false

/-- Keep the first task of every identifier. -/
def dedupTasks : List HumanTask → List String → List HumanTask
  | [], _ => []
  | task :: rest, seen =>
      if task.id ∈ seen then
        dedupTasks rest seen
      else
        task :: dedupTasks rest (task.id :: seen)

/-- Email the open supplements and internal-data tasks, once in a run. -/
def notifyNeedsSupplement (rs : ResearchState) (memo : Memo) (world : World) :
    ResearchState × World :=
  let minted := mintBlockedCellTasks rs
  let supplements :=
    minted.humanTasks.values.filter fun task =>
      task.requestedInput ∈ memo.needsSupplement
  let internal := minted.humanTasks.values.filter isInternalDataTask
  let tasks := dedupTasks (supplements ++ internal) []
  if tasks = [] ∨ supplementEmailSent minted = true then
    (minted, world)
  else
    ({ minted with
       steeringEvents :=
         minted.steeringEvents ++ [.notifySupplement memo.needsSupplement] },
      { world with
        notices :=
          world.notices ++
            [{ runId := minted.runId, taskIds := tasks.map HumanTask.id }] })

section Review

variable [PythonText]

/-- Assemble, gate and store the memo, and notify about its supplements. -/
def buildAndGateMemo (env : StepEnv) (state : GraphState) (world : World) :
    Option (ResearchState × World) :=
  let rs := state.researchState
  match env.brains.synthesizer with
  | none => some (rs, world)
  | some writeSections =>
      (writeSections rs).bind fun prose =>
        (DecisionMemo.assembleMemo rs prose).map fun (memo, assembled) =>
          let explicit :=
            state.config.explicitEmit || isSet assembled.stopReason
          let gated := DecisionMemo.checkEmission assembled memo explicit
          notifyNeedsSupplement
            { assembled with
              finalMemo := some (DecisionMemo.renderMemo gated) }
            gated world

omit [PythonText] in
/-- The text that is recorded for the answer to a review. -/
def reviewAnswer : Answer → String
  | .text answer => answer
  | .reply _ answer => answer.getD "confirm"

/-- Produce the memo and let the human confirm it where that is asked for. -/
def nodeHumanReview (env : StepEnv) (state : GraphState) (world : World) :
    NodeResult :=
  match buildAndGateMemo env state world with
  | none => .raise world
  | some (rs, after) =>
      if !state.config.enableH6 then
        .update (Update.ofState rs) after
      else if state.mode = .auto ∧ PullRisk.auditHighRisk rs = false then
        .update
          (Update.ofState
            { rs with
              steeringEvents :=
                rs.steeringEvents ++
                  [.autoReviewPass "auto 模式略過 H6 確認，直接產出"] })
          after
      else
        match env.answer with
        | none => .interrupt .review after
        | some answer =>
            .update
              (Update.ofState
                { rs with
                  steeringEvents :=
                    rs.steeringEvents ++
                      [.reviewDecision (reviewAnswer answer)] })
              after

end Review

end ResearchCos
