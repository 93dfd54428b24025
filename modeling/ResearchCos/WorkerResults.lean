import ResearchCos.Collecting

namespace ResearchCos

open Foundation

/-!
# How often a worker result is folded

The channel of the worker results only grows: writing an empty list into it, as
three nodes do to reset it, adds nothing.  A result is folded once when the
fan-out finds the channel empty, and once more in every later round.
-/

/-- The fan-out is about to run and its channel is empty. -/
def FindsEmptyChannel (execution : Execution) (_env : StepEnv) : Prop :=
  execution.control.node? = some .researchFanout →
    execution.graph.workerResults = []

/-- The results that the fan-out finds in its channel. -/
def repeatedBundles (execution : Execution) (_env : StepEnv) :
    List EvidenceBundle :=
  if execution.control.node? = some .researchFanout then
    execution.graph.workerResults
  else
    []

/-- The results that are returned and not folded yet. -/
def pendingResults (execution : Execution) : List EvidenceBundle :=
  if execution.control.node? = some .collect then
    execution.graph.workerResults
  else
    []

/-- The number of bundles about an issue. -/
def countAbout (issueId : String) (bundles : List EvidenceBundle) : Nat :=
  bundles.countP fun bundle => bundle.issueId = some issueId

theorem countAbout_append
    (issueId : String)
    (first second : List EvidenceBundle) :
    countAbout issueId (first ++ second) =
      countAbout issueId first + countAbout issueId second :=
  List.countP_append

theorem repeatedBundles_eq_nil_iff
    {execution : Execution}
    {env : StepEnv} :
    repeatedBundles execution env = [] ↔ FindsEmptyChannel execution env := by
  unfold repeatedBundles FindsEmptyChannel
  split
  · rename_i researching
    simp [researching]
  · rename_i researchingNot
    simp [researchingNot]

/-! ## One bundle, one step forward -/

/-- Advancing an issue takes it one step forward at most. -/
theorem progress_advanceIssue
    (now query : String)
    (node : IssueNode) :
    (advanceIssue now query node).status.progress ≤
      node.status.progress + 1 := by
  unfold advanceIssue
  cases status : node.status <;>
    simp [status, IssueNode.setStatus, IssueStatus.progress]

/-- A bundle takes no issue but its own forward. -/
theorem progressOf_advanceIssues
    (now : String)
    (issues : OrderedMap String IssueNode)
    (bundle : EvidenceBundle)
    (issueId : String) :
    progressOf (advanceIssues now issues bundle) issueId ≤
      progressOf issues issueId + countAbout issueId [bundle] := by
  unfold advanceIssues
  cases about : bundle.issueId with
  | none =>
      exact Nat.le_add_right _ _
  | some key =>
      by_cases isEmpty : key = ""
      · simp only [isEmpty, ↓reduceIte]
        exact Nat.le_add_right _ _
      · simp only [isEmpty, ↓reduceIte]
        unfold progressOf
        rw [OrderedMap.get?_modify]
        by_cases same : key = issueId
        · subst key
          have counted : countAbout issueId [bundle] = 1 := by
            simp [countAbout, about]
          rw [if_pos rfl, counted]
          cases issues.get? issueId with
          | none =>
              exact Nat.zero_le _
          | some node =>
              exact progress_advanceIssue now bundle.query node
        · rw [if_neg same]
          exact Nat.le_add_right _ _

theorem progressOf_foldl_advanceIssues
    (now : String)
    (bundles : List EvidenceBundle)
    (issues : OrderedMap String IssueNode)
    (issueId : String) :
    progressOf (bundles.foldl (advanceIssues now) issues) issueId ≤
      progressOf issues issueId + countAbout issueId bundles := by
  induction bundles generalizing issues with
  | nil =>
      exact le_rfl
  | cons bundle rest inductionHypothesis =>
      have first := progressOf_advanceIssues now issues bundle issueId
      have later := inductionHypothesis (advanceIssues now issues bundle)
      have counted :
          countAbout issueId (bundle :: rest) =
            countAbout issueId [bundle] + countAbout issueId rest :=
        countAbout_append issueId [bundle] rest
      rw [List.foldl_cons, counted]
      omega

/-! ## The ledger of a run -/

section Runs

variable [PythonText]

/-- The account of a run: what was emitted so far and where it ended up. -/
structure Accounted
    (initial : Execution)
    (labels : List StepEnv)
    (reached : Execution) : Prop where
  /-- Every emitted bundle is in the evidence or still in the channel. -/
  evidence :
    (reached.graph.researchState.evidence ++ pendingResults reached).Perm
      (initial.graph.researchState.evidence ++
        (observe step returnedBundles initial labels ++
          (observe step repeatedBundles initial labels ++
            observe step scannedBundles initial labels)))
  /-- No issue has come further than bundles about it were emitted. -/
  progress :
    ∀ issueId,
      progressOf reached.graph.researchState.issueMap issueId +
          countAbout issueId (pendingResults reached) ≤
        progressOf initial.graph.researchState.issueMap issueId +
          countAbout issueId
            (observe step returnedBundles initial labels ++
              observe step repeatedBundles initial labels)

omit [PythonText] in
theorem pendingResults_of_not_collect
    {execution : Execution}
    (collectsNot : execution.control.node? ≠ some .collect) :
    pendingResults execution = [] :=
  if_neg collectsNot

/-- A collecting step moves the channel into the evidence. -/
theorem Accounted.collected
    {initial execution next : Execution}
    {labels : List StepEnv}
    {env : StepEnv}
    {folded : ResearchState}
    {after : World}
    (accounted : Accounted initial labels execution)
    (ran : exec step initial labels = some execution)
    (collecting : execution.control.node? = some .collect)
    (collects : Collects execution env next folded after) :
    Accounted initial (labels ++ [env]) next := by
  have noReturn : returnedBundles execution env = [] := by
    simp [returnedBundles, collecting]
  have noRepeat : repeatedBundles execution env = [] := by
    simp [repeatedBundles, collecting]
  have pendingBefore :
      pendingResults execution = execution.graph.workerResults :=
    if_pos collecting
  have pendingAfter : pendingResults next = [] := by
    apply pendingResults_of_not_collect
    rw [collects.control]
    simp [Control.node?]
  constructor
  · have evidenceBefore := accounted.evidence
    rw [List.perm_iff_count] at evidenceBefore ⊢
    intro bundle
    have before := evidenceBefore bundle
    rw [collects.evidence collecting, pendingAfter]
    rw [pendingBefore] at before
    simp only [observe_snoc _ ran, noReturn, noRepeat, List.append_nil,
      List.count_append] at before ⊢
    omega
  · intro issueId
    have before := accounted.progress issueId
    have advanced :=
      progressOf_foldl_advanceIssues execution.graph.config.now
        execution.graph.workerResults
        execution.graph.researchState.issueMap issueId
    rw [collects.issueMap, pendingAfter]
    rw [pendingBefore] at before
    simp only [observe_snoc _ ran, noReturn, noRepeat, List.append_nil]
    exact le_trans advanced before

/-- The fan-out adds its results to those that it finds in the channel. -/
theorem Accounted.researched
    {initial execution next : Execution}
    {labels : List StepEnv}
    {env : StepEnv}
    (accounted : Accounted initial labels execution)
    (ran : exec step initial labels = some execution)
    (researching : execution.control.node? = some .researchFanout)
    (kept :
      KeepsResearch execution.graph.researchState next.graph.researchState)
    (channel :
      next.graph.workerResults =
        execution.graph.workerResults ++ returnedBundles execution env)
    (leads : next.control = .at .collect) :
    Accounted initial (labels ++ [env]) next := by
  have noScan : scannedBundles execution env = [] := by
    simp [scannedBundles, researching]
  have found :
      repeatedBundles execution env = execution.graph.workerResults :=
    if_pos researching
  have pendingBefore : pendingResults execution = [] := by
    apply pendingResults_of_not_collect
    simp [researching]
  have pendingAfter :
      pendingResults next =
        execution.graph.workerResults ++ returnedBundles execution env := by
    rw [pendingResults, if_pos (by rw [leads]; rfl), channel]
  constructor
  · have evidenceBefore := accounted.evidence
    rw [List.perm_iff_count] at evidenceBefore ⊢
    intro bundle
    have before := evidenceBefore bundle
    rw [kept.evidence, pendingAfter]
    rw [pendingBefore] at before
    simp only [observe_snoc _ ran, noScan, found, List.append_nil,
      List.count_append] at before ⊢
    omega
  · intro issueId
    have before := accounted.progress issueId
    have notFurther := kept.progress issueId
    rw [pendingAfter]
    rw [pendingBefore] at before
    simp only [observe_snoc _ ran, found, countAbout_append] at before ⊢
    have nothing : countAbout issueId [] = 0 := rfl
    omega

/-- An idle step emits nothing and folds nothing. -/
theorem Accounted.idle
    {initial execution next : Execution}
    {labels : List StepEnv}
    {env : StepEnv}
    (accounted : Accounted initial labels execution)
    (ran : exec step initial labels = some execution)
    (collectsNot : execution.control.node? ≠ some .collect)
    (researchesNot : execution.control.node? ≠ some .researchFanout)
    (kept :
      KeepsResearch execution.graph.researchState next.graph.researchState)
    (leadsNot : next.control.node? ≠ some .collect) :
    Accounted initial (labels ++ [env]) next := by
  have noScan : scannedBundles execution env = [] :=
    if_neg collectsNot
  have noReturn : returnedBundles execution env = [] :=
    if_neg researchesNot
  have noRepeat : repeatedBundles execution env = [] :=
    if_neg researchesNot
  have pendingBefore := pendingResults_of_not_collect collectsNot
  have pendingAfter := pendingResults_of_not_collect leadsNot
  constructor
  · have before := accounted.evidence
    rw [pendingBefore] at before
    rw [kept.evidence, pendingAfter]
    simpa only [observe_snoc _ ran, noReturn, noRepeat, noScan,
      List.append_nil] using before
  · intro issueId
    have before := accounted.progress issueId
    have notFurther := kept.progress issueId
    rw [pendingAfter]
    rw [pendingBefore] at before
    simp only [observe_snoc _ ran, noReturn, noRepeat, List.append_nil]
    exact le_trans (Nat.add_le_add_right notFurther _) before

/-- One more step of a run keeps its account, unless it crashes. -/
theorem Accounted.step
    {initial execution next : Execution}
    {labels : List StepEnv}
    {env : StepEnv}
    (accounted : Accounted initial labels execution)
    (ran : exec step initial labels = some execution)
    (stepped : step execution env = some next)
    (alive : next.control ≠ .crashed) :
    Accounted initial (labels ++ [env]) next := by
  cases step_outcome stepped with
  | lost _ crashed _ _ =>
      exact absurd crashed alive
  | collected collecting collects =>
      exact accounted.collected ran collecting collects
  | researched researching kept _ channel leads =>
      rcases leads with crashed | leads
      · exact absurd crashed alive
      · exact accounted.researched ran researching kept channel leads
  | idle collectsNot researchesNot kept _ _ leadsNot =>
      exact accounted.idle ran collectsNot researchesNot kept leadsNot

/-- Every run that has not crashed is accounted for. -/
theorem accounted_of_run
    {initial reached : Execution}
    {labels : List StepEnv}
    (started : Started initial)
    (ran : exec step initial labels = some reached)
    (alive : reached.control ≠ .crashed) :
    Accounted initial labels reached := by
  apply exec_induction
    (motive := fun labels reached =>
      reached.control ≠ .crashed → Accounted initial labels reached)
    ?_ ?_ ran alive
  · intro _
    have pending : pendingResults initial = [] := by
      unfold Started at started
      simp [pendingResults, started, Control.node?]
    exact
      { evidence := by simp [pending, observe]
        progress := fun issueId => by simp [pending, observe] }
  · intro earlier state env next reachedState soFar stepped nextAlive
    exact
      (soFar (alive_of_step stepped)).step reachedState stepped nextAlive

/-- The channel keeps everything that a run has returned. -/
theorem workerResults_of_run
    {initial reached : Execution}
    {labels : List StepEnv}
    (ran : exec step initial labels = some reached) :
    reached.graph.workerResults =
      initial.graph.workerResults ++
        observe step returnedBundles initial labels := by
  apply exec_induction
    (motive := fun labels reached =>
      reached.graph.workerResults =
        initial.graph.workerResults ++
          observe step returnedBundles initial labels)
    ?_ ?_ ran
  · exact (List.append_nil _).symm
  · intro earlier execution env next ranEarlier channelBefore stepped
    rw [observe_snoc _ ranEarlier, ← List.append_assoc, ← channelBefore]
    cases step_outcome stepped with
    | lost collecting _ unchanged _ =>
        simp [unchanged, returnedBundles, collecting]
    | collected collecting collects =>
        simp [collects.workerResults, returnedBundles, collecting]
    | researched _ _ _ channel _ =>
        exact channel
    | idle _ researchesNot _ _ channel _ =>
        simp [channel, returnedBundles, researchesNot]

/-- Every result is in the evidence once, or still waits to be folded. -/
def FoldedOnce
    (initial : Execution)
    (labels : List StepEnv)
    (reached : Execution) : Prop :=
  (reached.graph.researchState.evidence ++ pendingResults reached).Perm
    (initial.graph.researchState.evidence ++
      (observe step returnedBundles initial labels ++
        observe step scannedBundles initial labels))

/-- Every result advances its issue once, when its round is collected. -/
structure AdvancedOnce (initial : Execution) (labels : List StepEnv) : Prop where
  rounds :
    ∀ {earlier later : List StepEnv} {research collect : StepEnv}
        {before middle after : Execution},
      labels = earlier ++ research :: collect :: later →
      exec step initial earlier = some before →
      before.control.node? = some .researchFanout →
      step before research = some middle →
      step middle collect = some after →
      after.control ≠ .crashed →
      after.graph.researchState.issueMap =
        (returnedBundles before research).foldl
          (advanceIssues middle.graph.config.now)
          middle.graph.researchState.issueMap
  otherwise :
    ∀ {earlier later : List StepEnv} {env : StepEnv}
        {before after : Execution},
      labels = earlier ++ env :: later →
      exec step initial earlier = some before →
      step before env = some after →
      before.control.node? ≠ some .collect →
      ∀ issueId,
        progressOf after.graph.researchState.issueMap issueId ≤
          progressOf before.graph.researchState.issueMap issueId

/-- Only the results that the fan-out finds in its channel are folded again. -/
theorem foldedOnce_iff_nothing_repeated
    {initial reached : Execution}
    {labels : List StepEnv}
    (accounted : Accounted initial labels reached) :
    FoldedOnce initial labels reached ↔
      observe step repeatedBundles initial labels = [] := by
  constructor
  · intro once
    have lengths := once.length_eq.symm.trans accounted.evidence.length_eq
    simp only [List.length_append] at lengths
    apply List.eq_nil_of_length_eq_zero
    omega
  · intro nothingRepeated
    have evidence := accounted.evidence
    rw [nothingRepeated, List.nil_append] at evidence
    exact evidence

/-- Nothing is repeated exactly when the fan-out always finds it empty. -/
theorem nothing_repeated_iff
    {initial reached : Execution}
    {labels : List StepEnv}
    (ran : exec step initial labels = some reached) :
    observe step repeatedBundles initial labels = [] ↔
      AllSteps step FindsEmptyChannel initial labels := by
  rw [observe_eq_nil_iff repeatedBundles ran]
  simp only [repeatedBundles_eq_nil_iff]

/-- No step but a collecting one brings an issue further. -/
theorem step_progress_le
    {execution next : Execution}
    {env : StepEnv}
    (stepped : step execution env = some next)
    (collectsNot : execution.control.node? ≠ some .collect)
    (issueId : String) :
    progressOf next.graph.researchState.issueMap issueId ≤
      progressOf execution.graph.researchState.issueMap issueId := by
  cases step_outcome stepped with
  | lost collecting _ _ _ =>
      exact absurd collecting collectsNot
  | collected collecting _ =>
      exact absurd collecting collectsNot
  | researched _ kept _ _ _ =>
      exact kept.progress issueId
  | idle _ _ kept _ _ _ =>
      exact kept.progress issueId

/-- A round whose channel was empty advances issues by its own results. -/
theorem advancedOnce_of_findsEmptyChannel
    {initial : Execution}
    {labels : List StepEnv}
    (empty : AllSteps step FindsEmptyChannel initial labels) :
    AdvancedOnce initial labels := by
  constructor
  · intro earlier later research collect before middle after shape ran
      researches researched collected alive
    have channelEmpty : before.graph.workerResults = [] :=
      empty shape ran researches
    rcases step_researchFanout researched researches with
        ⟨_, _, channel, crashed | leads⟩
    · exact absurd crashed (alive_of_step collected)
    · rw [channelEmpty, List.nil_append] at channel
      have collects : middle.control.node? = some .collect := by
        rw [leads]
        rfl
      rcases step_collect collected collects with
          ⟨crashed, _, _⟩ | ⟨folded, world, collecting⟩
      · exact absurd crashed alive
      · rw [collecting.issueMap, channel]
  · intro earlier later env before after _ _ stepped collectsNot issueId
    exact step_progress_le stepped collectsNot issueId

/--
A run folds every worker result once exactly when its fan-out always finds the
channel empty; then each result advances its issue once, and no issue comes
further than there are results about it.
-/
theorem workerResults_foldedOnce_iff
    {initial reached : Execution}
    {labels : List StepEnv}
    (started : Started initial)
    (ran : exec step initial labels = some reached)
    (alive : reached.control ≠ .crashed) :
    (FoldedOnce initial labels reached ↔
        AllSteps step FindsEmptyChannel initial labels) ∧
      (AllSteps step FindsEmptyChannel initial labels →
        AdvancedOnce initial labels ∧
          ∀ issueId,
            progressOf reached.graph.researchState.issueMap issueId ≤
              progressOf initial.graph.researchState.issueMap issueId +
                countAbout issueId
                  (observe step returnedBundles initial labels)) := by
  have accounted := accounted_of_run started ran alive
  refine
    ⟨(foldedOnce_iff_nothing_repeated accounted).trans
      (nothing_repeated_iff ran), ?_⟩
  intro empty
  refine ⟨advancedOnce_of_findsEmptyChannel empty, ?_⟩
  intro issueId
  have bound := accounted.progress issueId
  rw [(nothing_repeated_iff ran).mpr empty, List.append_nil] at bound
  exact le_trans (Nat.le_add_right _ _) bound

end Runs

/-- A run that is not asked anything. -/
private def oneIssueRun : Execution where
  graph :=
    { researchState := { runId := "run", originalQuestion := "question" }
      config := { assumeBrief := true } }
  control := .at .intake
  world := {}

/-- The only result of a run. -/
private def onlyResult : EvidenceBundle where
  query := "query"
  issueId := some "I-001"

/-- Surroundings with one issue, and with one result for it. -/
private def oneResult : StepEnv :=
  StepEnv.calm
    { Brains.silent with
      issueExpander := fun _ =>
        some
          [{ title := "title", description := "", issueType := .technical
             impact := 3, confidence := 2 }]
      researcher := fun _ _ => some onlyResult }

/-- In its second round a run folds its only result again. -/
theorem secondRound_folds_onlyResult_again :
    letI := PythonText.ascii
    ∃ reached,
      exec step oneIssueRun (List.replicate 22 oneResult) = some reached ∧
        reached.control = .at .skeptic ∧
        observe step returnedBundles oneIssueRun
            (List.replicate 22 oneResult) = [onlyResult] ∧
        reached.graph.researchState.evidence = [onlyResult, onlyResult] ∧
        (reached.graph.researchState.issueMap.get? "I-001").map
            IssueNode.status = some .answered ∧
        ¬FoldedOnce oneIssueRun (List.replicate 22 oneResult) reached := by
  let _ := PythonText.ascii
  let reached :=
    (exec step oneIssueRun (List.replicate 22 oneResult)).get
      (by decide +kernel)
  refine ⟨reached, (Option.some_get _).symm, by decide +kernel,
    by decide +kernel, by decide +kernel, by decide +kernel, ?_⟩
  unfold FoldedOnce
  decide +kernel

/-- In its first round a run folds its only result once. -/
theorem workerResults_foldedOnce_firstRound :
    letI := PythonText.ascii
    AllSteps step FindsEmptyChannel oneIssueRun
        (List.replicate 10 oneResult) ∧
      AdvancedOnce oneIssueRun (List.replicate 10 oneResult) := by
  let _ := PythonText.ascii
  let reached :=
    (exec step oneIssueRun (List.replicate 10 oneResult)).get
      (by decide +kernel)
  have ran :
      exec step oneIssueRun (List.replicate 10 oneResult) = some reached :=
    (Option.some_get _).symm
  have started : Started oneIssueRun := rfl
  obtain ⟨once, advanced⟩ :=
    workerResults_foldedOnce_iff started ran (by decide +kernel)
  have foldedOnce :
      FoldedOnce oneIssueRun (List.replicate 10 oneResult) reached := by
    unfold FoldedOnce
    decide +kernel
  have empty :
      AllSteps step FindsEmptyChannel oneIssueRun
        (List.replicate 10 oneResult) :=
    once.mp foldedOnce
  exact ⟨empty, (advanced empty).1⟩

end ResearchCos
