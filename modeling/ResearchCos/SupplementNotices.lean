import ResearchCos.CommandLine
import ResearchCos.NodeUpdates

namespace ResearchCos

open Foundation

/-!
# The email about supplements

The review emails before it pauses, and the mark that an email was sent is one
of the changes that the pause discards.  So a review that has something to
email does so every time it is executed, until it gets its answer.
-/

/-- The surroundings in which a node ends. -/
def NodeResult.world : NodeResult → World
  | .update _ world => world
  | .interrupt _ world => world
  | .raise world => world

section Notices

variable [PythonText]

omit [PythonText] in
/-- The tasks for blocked cells, for the given items and for internal data. -/
def emailTasks (rs : ResearchState) (items : List String) : List HumanTask :=
  let tasks := (mintBlockedCellTasks rs).humanTasks.values
  dedupTasks
    (tasks.filter (fun task => task.requestedInput ∈ items) ++
      tasks.filter isInternalDataTask)
    []

/-- The tasks that the email of a review is about. -/
def supplementTasks (rs : ResearchState) : List HumanTask :=
  match DecisionMemo.routeCitations rs with
  | none => []
  | some (route, routed) =>
      emailTasks routed (route.needsSupplement.map HumanTask.requestedInput)

/-- There is something to email, and no mark that an email was sent. -/
def OwesEmail (rs : ResearchState) : Prop :=
  supplementTasks rs ≠ [] ∧ supplementEmailSent rs = false

instance (rs : ResearchState) : Decidable (OwesEmail rs) :=
  inferInstanceAs (Decidable (_ ∧ _))

omit [PythonText] in
/-- The review asks a human and has no answer yet. -/
def ReviewPauses (env : StepEnv) (state : GraphState) : Prop :=
  state.config.enableH6 = true ∧
    ¬(state.mode = .auto ∧
      PullRisk.auditHighRisk state.researchState = false) ∧
    env.answer = none

omit [PythonText] in
instance (env : StepEnv) (state : GraphState) :
    Decidable (ReviewPauses env state) :=
  inferInstanceAs (Decidable (_ ∧ ¬_ ∧ _))

/-! ## Who emails -/

omit [PythonText] in
/-- Folding results sends no email. -/
theorem foldWorkerResults_notices
    (env : StepEnv)
    (now : String)
    (raws : List EvidenceBundle)
    (rs : ResearchState)
    (world : World)
    (attempts : Nat) :
    (foldWorkerResults env now raws rs world attempts).2.notices =
      world.notices := by
  obtain ⟨folder, isAfter⟩ :=
    foldWorkerResults_world env now raws rs world attempts
  rw [isAfter]

/-- Only the review sends emails. -/
theorem runNode_notices
    {node : Node}
    (reviewsNot : node ≠ .humanReview)
    (env : StepEnv)
    (state : GraphState)
    (world : World) :
    (runNode env state world node).world.notices = world.notices := by
  have folds :=
    foldWorkerResults_notices env state.config.now state.workerResults
      state.researchState world 0
  cases ran : runNode env state world node with
  | update update after =>
      cases runNode_updates ran with
      | collected _ _ folded =>
          rw [folded] at folds
          exact folds
      | reviewBuilt
      | reviewPassed
      | reviewAnswered =>
          exact absurd rfl reviewsNot
      | _ =>
          rfl
  | interrupt ask after =>
      rcases runNode_interrupt ran with rfl | ⟨reviews, _⟩
      · rfl
      · exact absurd reviews reviewsNot
  | raise after =>
      rcases runNode_raise ran with rfl | ⟨_, folded⟩
      · rfl
      · rw [folded] at folds
        exact folds

omit [PythonText] in
/-- The gates do not change what needs a supplement. -/
theorem checkEmission_needsSupplement
    (state : ResearchState)
    (memo : Memo)
    (explicit : Bool) :
    (DecisionMemo.checkEmission state memo explicit).needsSupplement =
      memo.needsSupplement := by
  simp only [DecisionMemo.checkEmission]
  repeat' split
  all_goals rfl

omit [PythonText] in
/-- The text of the memo does not change the tasks of the email. -/
theorem emailTasks_finalMemo
    (rs : ResearchState)
    (finalMemo : Option String)
    (items : List String) :
    emailTasks { rs with finalMemo := finalMemo } items =
      emailTasks rs items := by
  have sameTasks :
      (mintBlockedCellTasks { rs with finalMemo := finalMemo }).humanTasks =
        (mintBlockedCellTasks rs).humanTasks := by
    simp only [mintBlockedCellTasks]
    split <;> rfl
  simp only [emailTasks, sameTasks]

omit [PythonText] in
/-- One email is sent when there are tasks for it and none was sent before. -/
theorem notifyNeedsSupplement_notices
    (rs : ResearchState)
    (memo : Memo)
    (world : World) :
    (notifyNeedsSupplement rs memo world).2.notices.length =
      world.notices.length +
        if emailTasks rs memo.needsSupplement ≠ [] ∧
            supplementEmailSent rs = false then 1 else 0 := by
  have mintedLog :
      supplementEmailSent (mintBlockedCellTasks rs) =
        supplementEmailSent rs := by
    rw [mintBlockedCellTasks_eq]
    rfl
  simp only [notifyNeedsSupplement, mintedLog]
  split
  · rename_i nothing
    rw [if_neg]
    · rfl
    · rintro ⟨someTasks, notSent⟩
      rcases nothing with noTasks | sent
      · exact someTasks noTasks
      · rw [notSent] at sent
        cases sent
  · rename_i owes
    rw [not_or, Bool.not_eq_true] at owes
    have owed :
        emailTasks rs memo.needsSupplement ≠ [] ∧
          supplementEmailSent rs = false :=
      owes
    rw [if_pos owed]
    simp

/-- Building the memo emails exactly what is owed. -/
theorem buildAndGateMemo_notices
    {env : StepEnv}
    {state : GraphState}
    {world after : World}
    {rs : ResearchState}
    (built : buildAndGateMemo env state world = some (rs, after)) :
    after.notices.length =
      world.notices.length +
        if env.brains.synthesizer.isSome = true ∧
            OwesEmail state.researchState then 1 else 0 := by
  simp only [buildAndGateMemo] at built
  split at built
  · rename_i noWriter
    cases built
    simp [noWriter]
  · rename_i writeSections writer
    obtain ⟨prose, _, assembles⟩ := Option.bind_eq_some_iff.mp built
    obtain ⟨⟨memo, assembled⟩, isAssembled, notified⟩ :=
      Option.map_eq_some_iff.mp assembles
    simp only [DecisionMemo.assembleMemo, Option.map_eq_some_iff,
      Prod.exists, Prod.mk.injEq] at isAssembled
    obtain ⟨route, routed, isRouted, rfl, rfl⟩ := isAssembled
    have logKept :
        supplementEmailSent routed =
          supplementEmailSent state.researchState := by
      simp only [DecisionMemo.routeCitations, Option.map_eq_some_iff,
        Prod.exists, Prod.mk.injEq] at isRouted
      obtain ⟨_, _, _, _, rfl⟩ := isRouted
      rfl
    have tasks :
        supplementTasks state.researchState =
          emailTasks routed
            (route.needsSupplement.map HumanTask.requestedInput) := by
      rw [supplementTasks, isRouted]
    have sent := congrArg (fun outcome => outcome.2.notices.length) notified
    simp only [notifyNeedsSupplement_notices, checkEmission_needsSupplement,
      emailTasks_finalMemo] at sent
    have owes :
        OwesEmail state.researchState ↔
          emailTasks routed
              (route.needsSupplement.map HumanTask.requestedInput) ≠ [] ∧
            supplementEmailSent routed = false := by
      simp only [OwesEmail, tasks, logKept]
    rw [← sent]
    simp only [writer, Option.isSome_some, true_and, owes]
    rfl

/-! ## What one execution of the review does -/

/-- The emails after a review, however it ends. -/
theorem nodeHumanReview_notices
    (env : StepEnv)
    (state : GraphState)
    (world : World) :
    (nodeHumanReview env state world).world.notices.length ≤
      world.notices.length + 1 := by
  simp only [nodeHumanReview]
  split
  · exact Nat.le_succ _
  · rename_i rs after built
    have sent := buildAndGateMemo_notices built
    have within : after.notices.length ≤ world.notices.length + 1 := by
      rw [sent]
      split <;> omega
    repeat' split
    all_goals exact within

/-- Building the memo keeps the last audit. -/
theorem buildAndGateMemo_lastAudit
    {env : StepEnv}
    {state : GraphState}
    {world after : World}
    {rs : ResearchState}
    (built : buildAndGateMemo env state world = some (rs, after)) :
    rs.lastAudit = state.researchState.lastAudit := by
  simp only [buildAndGateMemo] at built
  split at built
  · cases built
    rfl
  · obtain ⟨prose, _, assembles⟩ := Option.bind_eq_some_iff.mp built
    obtain ⟨⟨memo, assembled⟩, isAssembled, notified⟩ :=
      Option.map_eq_some_iff.mp assembles
    obtain ⟨tasks, rfl⟩ := (DecisionMemo.assembleMemo_eq_some isAssembled).1
    have kept := congrArg (fun outcome => outcome.1.lastAudit) notified
    simp only [notifyNeedsSupplement] at kept
    split at kept
    all_goals
      rw [← kept, mintBlockedCellTasks_eq]

/-- A review that pauses has emailed exactly what was owed. -/
theorem nodeHumanReview_paused
    {env : StepEnv}
    {state : GraphState}
    {world after : World}
    {ask : Ask}
    (paused : nodeHumanReview env state world = .interrupt ask after) :
    ReviewPauses env state ∧
      after.notices.length =
        world.notices.length +
          if env.brains.synthesizer.isSome = true ∧
              OwesEmail state.researchState then 1 else 0 := by
  simp only [nodeHumanReview] at paused
  split at paused
  · cases paused
  · rename_i rs afterMemo built
    have sameRisk :
        PullRisk.auditHighRisk rs =
          PullRisk.auditHighRisk state.researchState := by
      simp only [PullRisk.auditHighRisk, buildAndGateMemo_lastAudit built]
    split at paused
    · cases paused
    · rename_i asks
      split at paused
      · cases paused
      · rename_i notSkipped
        split at paused
        · rename_i unanswered
          cases paused
          refine ⟨⟨by simpa using asks, ?_, unanswered⟩,
            buildAndGateMemo_notices built⟩
          rw [← sameRisk]
          exact notSkipped
        · cases paused

/-- A review that raises has sent nothing. -/
theorem nodeHumanReview_raised
    {env : StepEnv}
    {state : GraphState}
    {world after : World}
    (raised : nodeHumanReview env state world = .raise after) :
    after = world := by
  simp only [nodeHumanReview] at raised
  split at raised
  · cases raised
    rfl
  · repeat' split at raised
    all_goals cases raised

/-! ## Runs -/

/-- The surroundings after a visit are those in which the node ended. -/
theorem visit_world
    (env : StepEnv)
    (node : Node)
    (execution : Execution) :
    (visit env node execution).world =
      (runNode env execution.graph
        (receiveDrops env.drops execution.world) node).world := by
  rw [visit]
  cases runNode env execution.graph
      (receiveDrops env.drops execution.world) node <;> rfl

/-- A review that is about to pause owes no email. -/
def PausesSilently (execution : Execution) (env : StepEnv) : Prop :=
  execution.control.node? = some .humanReview →
    ReviewPauses (execution.control.sees env) execution.graph →
    env.brains.synthesizer.isSome = true →
    ¬OwesEmail execution.graph.researchState

instance (execution : Execution) (env : StepEnv) :
    Decidable (PausesSilently execution env) :=
  inferInstanceAs (Decidable (_ → _ → _ → ¬_))

omit [PythonText] in
/-- The emails of a run: none before its end, one at most by then. -/
structure EmailsOnce (sent : Nat) (execution : Execution) : Prop where
  before :
    execution.control ≠ .ended → execution.world.notices.length = sent
  after : execution.world.notices.length ≤ sent + 1

/-- A step whose pause is silent emails at the end only. -/
theorem EmailsOnce.step
    {sent : Nat}
    {execution next : Execution}
    {env : StepEnv}
    (once : EmailsOnce sent execution)
    (silent : PausesSilently execution env)
    (continued : continueRun execution env = some next) :
    EmailsOnce sent next := by
  obtain ⟨node, standsAt, rfl⟩ := continueRun_visits continued
  have notEnded : execution.control ≠ .ended := by
    rintro ended
    rw [ended] at standsAt
    cases standsAt
  have soFar := once.before notEnded
  by_cases reviews : node = .humanReview
  · subst node
    have sent :=
      nodeHumanReview_notices (execution.control.sees env) execution.graph
        (receiveDrops (execution.control.sees env).drops execution.world)
    rw [← soFar]
    cases ended :
        nodeHumanReview (execution.control.sees env) execution.graph
          (receiveDrops (execution.control.sees env).drops
            execution.world) with
    | raise after =>
        rw [visit, runNode, ended]
        obtain rfl := nodeHumanReview_raised ended
        exact ⟨fun _ => rfl, Nat.le_succ _⟩
    | interrupt ask after =>
        rw [visit, runNode, ended]
        obtain ⟨pauses, emailed⟩ := nodeHumanReview_paused ended
        have nothing : after.notices.length = execution.world.notices.length := by
          rw [emailed, if_neg]
          · rfl
          · rintro ⟨writer, owed⟩
            exact silent standsAt pauses
              (by
                cases control : execution.control <;>
                  simpa [Control.sees, control] using writer) owed
        exact ⟨fun _ => nothing, by simp [conclude, nothing]⟩
    | update update after =>
        rw [ended] at sent
        rw [visit, runNode, ended]
        exact ⟨fun running => absurd rfl running, sent⟩
  · have kept :
        (visit (execution.control.sees env) node execution).world.notices =
          execution.world.notices := by
      rw [visit_world]
      exact runNode_notices reviews _ _ _
    rw [← soFar]
    exact ⟨fun _ => congrArg List.length kept,
      (congrArg List.length kept).trans_le (Nat.le_succ _)⟩

omit [PythonText] in
/-- A node sees its surroundings up to the answer. -/
theorem Control.sees_eq
    (control : Control)
    (env : StepEnv) :
    control.sees env =
      { env with answer := (control.sees env).answer } := by
  cases control <;> rfl

/-- Whether a memo can be built does not depend on the answer or the world. -/
theorem buildAndGateMemo_again
    {env : StepEnv}
    {state : GraphState}
    {world after : World}
    {rs : ResearchState}
    (built : buildAndGateMemo env state world = some (rs, after))
    (answer : Option Answer)
    (other : World) :
    (buildAndGateMemo { env with answer := answer } state other).isSome =
      true := by
  simp only [buildAndGateMemo] at built ⊢
  split at built
  · simp
  · obtain ⟨prose, written, assembles⟩ := Option.bind_eq_some_iff.mp built
    obtain ⟨⟨memo, assembled⟩, isAssembled, _⟩ :=
      Option.map_eq_some_iff.mp assembles
    simp [written, isAssembled]

/-- A review emails what is owed whenever it can build its memo. -/
theorem nodeHumanReview_emails
    {env : StepEnv}
    {state : GraphState}
    {world after : World}
    {rs : ResearchState}
    (built : buildAndGateMemo env state world = some (rs, after)) :
    (nodeHumanReview env state world).world = after := by
  simp only [nodeHumanReview, built]
  repeat' split
  all_goals rfl

/-- A paused review that owed its email emails again when it is executed again. -/
theorem noisyPause_emails_again
    {execution paused : Execution}
    {env : StepEnv}
    {ask : Ask}
    (continued : continueRun execution env = some paused)
    (pausedThere : paused.control = .pausedAt .humanReview ask)
    (noisy : ¬PausesSilently execution env)
    (answer : Option Answer) :
    ∃ next,
      continueRun paused { env with answer := answer } = some next ∧
        next.world.notices.length = execution.world.notices.length + 2 := by
  simp only [PausesSilently, Classical.not_imp, not_not] at noisy
  obtain ⟨standsAt, pauses, writer, owes⟩ := noisy
  obtain ⟨node, visits, rfl⟩ := continueRun_visits continued
  obtain rfl := Option.some.inj (standsAt.symm.trans visits)
  have writerSeen :
      (execution.control.sees env).brains.synthesizer.isSome = true := by
    rw [Control.sees_eq]
    exact writer
  cases ended :
      nodeHumanReview (execution.control.sees env) execution.graph
        (receiveDrops (execution.control.sees env).drops
          execution.world) with
  | raise after =>
      rw [visit, runNode, ended] at pausedThere
      cases pausedThere
  | update update after =>
      rw [visit, runNode, ended] at pausedThere
      cases pausedThere
  | interrupt asked after =>
      obtain ⟨_, emailed⟩ := nodeHumanReview_paused ended
      rw [if_pos ⟨writerSeen, owes⟩] at emailed
      have isPaused :
          visit (execution.control.sees env) .humanReview execution =
            { execution with
              control := .pausedAt .humanReview asked
              world := after } := by
        rw [visit, runNode, ended]
        rfl
      rw [isPaused]
      refine ⟨_, rfl, ?_⟩
      rw [visit_world]
      have rebuilds :
          (buildAndGateMemo { env with answer := answer } execution.graph
            (receiveDrops env.drops after)).isSome = true := by
        rw [Control.sees_eq] at ended
        cases built :
            buildAndGateMemo
              { env with answer := (execution.control.sees env).answer }
              execution.graph
              (receiveDrops env.drops execution.world) with
        | none =>
            simp only [nodeHumanReview] at ended
            rw [built] at ended
            cases ended
        | some outcome =>
            exact buildAndGateMemo_again built answer _
      obtain ⟨⟨rs, afterAgain⟩, rebuilt⟩ :=
        Option.isSome_iff_exists.mp rebuilds
      have emailedAgain := buildAndGateMemo_notices rebuilt
      rw [if_pos ⟨writer, owes⟩] at emailedAgain
      calc
        _ = afterAgain.notices.length :=
          congrArg (fun world => world.notices.length)
            (nodeHumanReview_emails rebuilt)
        _ = after.notices.length + 1 := emailedAgain
        _ = execution.world.notices.length + 2 := by
          rw [emailed]
          rfl

/--
A run whose reviews owe no email when they pause emails once at most; a review
that owes one when it pauses emails again with every further execution.
-/
theorem supplementEmails_at_most_once :
    (∀ (start reached : Execution) (labels : List StepEnv),
        Started start →
        AllSteps continueRun PausesSilently start labels →
        exec continueRun start labels = some reached →
        reached.world.notices.length ≤ start.world.notices.length + 1) ∧
      ∀ (execution paused : Execution) (env : StepEnv) (ask : Ask),
        continueRun execution env = some paused →
        paused.control = .pausedAt .humanReview ask →
        ¬PausesSilently execution env →
        ∀ answer, ∃ next,
          continueRun paused { env with answer := answer } = some next ∧
            next.world.notices.length =
              execution.world.notices.length + 2 := by
  refine ⟨?_, fun _ _ _ _ => noisyPause_emails_again⟩
  intro start reached labels started silent ran
  have atFirst : EmailsOnce start.world.notices.length start :=
    ⟨fun _ => rfl, Nat.le_succ _⟩
  have once : EmailsOnce start.world.notices.length reached :=
    AllSteps.invariant
      (fun before silentStep continued => before.step silentStep continued)
      atFirst silent ran
  exact once.after

end Notices

/-- An interactive run with one pass whose state has a task for a human. -/
private def supplementRun (tasks : OrderedMap String HumanTask) :
    Execution where
  graph :=
    { researchState :=
        { runId := "run"
          originalQuestion := "question"
          humanTasks := tasks }
      config :=
        { maxIterations := 1
          mode := some .interactive
          enableH6 := true
          assumeBrief := true } }
  control := .at .intake
  world := {}

/-- Surroundings that write a memo and confirm it. -/
private def confirmingHuman : StepEnv :=
  { StepEnv.calm
      { Brains.silent with
        synthesizer := some fun _ => some fun _ => none } with
    answer := some (.text "confirm") }

/-- One pause at the review, and two emails about the same task. -/
theorem oneReviewPause_emails_twice :
    letI := PythonText.ascii
    ∃ reached,
      exec continueRun
          (supplementRun
            ((∅ : OrderedMap String HumanTask).insert "HT-001"
              { id := "HT-001", taskTitle := "提供內部資料" }))
          (List.replicate 19 confirmingHuman) =
        some reached ∧
        reached.control = .ended ∧
        reached.world.notices.length = 2 := by
  let _ := PythonText.ascii
  let reached :=
    (exec continueRun
      (supplementRun
        ((∅ : OrderedMap String HumanTask).insert "HT-001"
          { id := "HT-001", taskTitle := "提供內部資料" }))
      (List.replicate 19 confirmingHuman)).get
      (by decide +kernel)
  exact ⟨reached, (Option.some_get _).symm, by decide +kernel,
    by decide +kernel⟩

/-- The review of a run without tasks for a human pauses silently. -/
private theorem supplementRun_pausesSilently :
    letI := PythonText.ascii
    AllSteps continueRun PausesSilently (supplementRun ∅)
      (List.replicate 19 confirmingHuman) := by
  decide +kernel

/-- A review without anything to email may pause as often as it likes. -/
theorem quietReviewPause_emails_once :
    letI := PythonText.ascii
    ∃ reached,
      exec continueRun (supplementRun ∅)
          (List.replicate 19 confirmingHuman) =
        some reached ∧
        reached.world.notices.length ≤ 1 := by
  let _ := PythonText.ascii
  let reached :=
    (exec continueRun (supplementRun ∅)
      (List.replicate 19 confirmingHuman)).get (by decide +kernel)
  have ran :
      exec continueRun (supplementRun ∅)
          (List.replicate 19 confirmingHuman) =
        some reached :=
    (Option.some_get _).symm
  exact ⟨reached, ran,
    supplementEmails_at_most_once.1 (supplementRun ∅) reached _ rfl
      supplementRun_pausesSilently ran⟩

end ResearchCos
