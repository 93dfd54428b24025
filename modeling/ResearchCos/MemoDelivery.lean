import ResearchCos.NodeRecords
import ResearchCos.SteerDelivery

namespace ResearchCos

open Foundation

/-!
# The memo that is reviewed and the memo that is delivered

The review asks the synthesizer before it pauses and asks it again when it is
executed with the answer.  What the human could read at the pause is the memo
of the state that the command saved there; what is delivered is the memo of the
second execution.
-/

section Wording

variable [PythonText]

/-! ## One memo from two answers -/

/-- A section as it stands in the memo. -/
def sectionText (part : MemoSection) : String :=
  "\n## " ++ part.title ++ "\n\n" ++ part.body

/-- The sections that an answer of the synthesizer fills, as one text. -/
def wording (rs : ResearchState) (prose : Prose) : Option String :=
  (DecisionMemo.assembleMemo rs prose).map fun (memo, _) =>
    DecisionMemo.joinLines (memo.sections.map sectionText)

/-- The memo that a review stores for an answer of the synthesizer. -/
def reviewedText (state : GraphState) (prose : Prose) : Option String :=
  (DecisionMemo.assembleMemo state.researchState prose).map
    fun (memo, assembled) =>
      DecisionMemo.renderMemo
        (DecisionMemo.checkEmission assembled memo
          (state.config.explicitEmit || isSet assembled.stopReason))

omit [PythonText] in
/-- What stands above the sections: the title and a refusal. -/
def memoHeading (memo : Memo) : List String :=
  "# §22 Decision Memo" ::
    match memo.refusedReason with
    | none => []
    | some reason =>
        if memo.emitted ∨ reason = "" then
          []
        else
          ["\n> ⚠ NOT EMITTED — " ++ reason ++ "\n"]

omit [PythonText] in
/-- A memo with sections is its heading followed by its sections. -/
theorem renderMemo_eq
    {memo : Memo}
    (someSection : memo.sections ≠ []) :
    DecisionMemo.renderMemo memo =
      DecisionMemo.joinLines (memoHeading memo) ++ "\n" ++
        DecisionMemo.joinLines (memo.sections.map sectionText) := by
  have sectionsLeft : memo.sections.map sectionText ≠ [] := by
    simpa using someSection
  have headingFirst : memoHeading memo ≠ [] :=
    List.cons_ne_nil _ _
  rw [DecisionMemo.joinLines, DecisionMemo.joinLines,
    ← String.intercalate_append_of_ne_nil headingFirst sectionsLeft]
  rfl

omit [PythonText] in
/-- The gates read the unverified claims of a memo and nothing else of it. -/
theorem checkEmission_heading
    (state : ResearchState)
    {first second : Memo}
    (explicit : Bool)
    (sameClaims : first.unverifiedKeyClaims = second.unverifiedKeyClaims) :
    memoHeading (DecisionMemo.checkEmission state first explicit) =
      memoHeading (DecisionMemo.checkEmission state second explicit) := by
  simp only [DecisionMemo.checkEmission, sameClaims]
  split
  · rfl
  · repeat' split
    all_goals rfl

omit [PythonText] in
/-- Gated memos with the same unverified claims differ in their sections only. -/
theorem renderMemo_checkEmission_iff
    (state : ResearchState)
    {first second : Memo}
    (explicit : Bool)
    (sameClaims : first.unverifiedKeyClaims = second.unverifiedKeyClaims)
    (firstSection : first.sections ≠ [])
    (secondSection : second.sections ≠ []) :
    DecisionMemo.renderMemo
          (DecisionMemo.checkEmission state first explicit) =
        DecisionMemo.renderMemo
          (DecisionMemo.checkEmission state second explicit) ↔
      DecisionMemo.joinLines (first.sections.map sectionText) =
        DecisionMemo.joinLines (second.sections.map sectionText) := by
  have firstKept := (DecisionMemo.checkEmission_keeps state first explicit).1
  have secondKept := (DecisionMemo.checkEmission_keeps state second explicit).1
  have firstShown := renderMemo_eq (firstKept.trans_ne firstSection)
  have secondShown := renderMemo_eq (secondKept.trans_ne secondSection)
  rw [firstKept] at firstShown
  rw [secondKept, ← checkEmission_heading state explicit sameClaims]
    at secondShown
  rw [firstShown, secondShown, String.append_right_inj]

/-- An assembled memo has its sections. -/
theorem assembleMemo_sections
    {rs assembled : ResearchState}
    {prose : Prose}
    {memo : Memo}
    (assembly : DecisionMemo.assembleMemo rs prose = some (memo, assembled)) :
    memo.sections ≠ [] := by
  have someKey : DecisionMemo.memoOrder ≠ [] := by decide
  rw [(DecisionMemo.assembleMemo_eq_some assembly).2.2]
  simpa only [ne_eq, List.map_eq_nil_iff] using someKey

/-- Every answer is assembled, and with the same unverified claims. -/
theorem assembleMemo_again
    {rs assembled : ResearchState}
    {first : Prose}
    {memo : Memo}
    (assembly : DecisionMemo.assembleMemo rs first = some (memo, assembled))
    (second : Prose) :
    ∃ other,
      DecisionMemo.assembleMemo rs second = some (other, assembled) ∧
        memo.unverifiedKeyClaims = other.unverifiedKeyClaims := by
  obtain ⟨⟨route, routed⟩, isRouted, shape⟩ :=
    Option.map_eq_some_iff.mp assembly
  obtain ⟨rfl, rfl⟩ := Prod.mk.inj shape
  exact ⟨_, Option.map_eq_some_iff.mpr ⟨_, isRouted, rfl⟩, rfl⟩

/-- Two answers give one memo exactly when their sections read the same. -/
theorem reviewedText_eq_iff
    (state : GraphState)
    (first second : Prose) :
    reviewedText state first = reviewedText state second ↔
      wording state.researchState first =
        wording state.researchState second := by
  cases assembly :
      DecisionMemo.assembleMemo state.researchState first with
  | none =>
      have alsoNone :
          DecisionMemo.assembleMemo state.researchState second = none := by
        cases assembles :
            DecisionMemo.assembleMemo state.researchState second with
        | none =>
            rfl
        | some outcome =>
            obtain ⟨other, again, _⟩ := assembleMemo_again assembles first
            cases assembly.symm.trans again
      rw [reviewedText, reviewedText, wording, wording, assembly, alsoNone]
      exact iff_of_true rfl rfl
  | some outcome =>
      obtain ⟨other, again, sameClaims⟩ := assembleMemo_again assembly second
      have gated :=
        renderMemo_checkEmission_iff outcome.2
          (state.config.explicitEmit || isSet outcome.2.stopReason)
          sameClaims (assembleMemo_sections assembly)
          (assembleMemo_sections again)
      rw [reviewedText, reviewedText, wording, wording, assembly, again]
      constructor
      · intro same
        exact congrArg some (gated.mp (Option.some.inj same))
      · intro same
        exact congrArg some (gated.mpr (Option.some.inj same))

/-! ## One execution of the review -/

omit [PythonText] in
/-- The synthesizer answers a call. -/
def Writes (env : StepEnv) (rs : ResearchState) (prose : Prose) : Prop :=
  ∃ writeSections,
    env.brains.synthesizer = some writeSections ∧
      writeSections rs = some prose

/-- Building the memo stores the text of the answer. -/
theorem buildAndGateMemo_finalMemo
    {env : StepEnv}
    {state : GraphState}
    {world after : World}
    {rs : ResearchState}
    {prose : Prose}
    (writes : Writes env state.researchState prose)
    (built : buildAndGateMemo env state world = some (rs, after)) :
    rs.finalMemo = reviewedText state prose ∧ rs.finalMemo.isSome = true := by
  obtain ⟨writeSections, writer, written⟩ := writes
  simp only [buildAndGateMemo, writer, written, Option.bind_some,
    Option.map_eq_some_iff, Prod.exists] at built
  obtain ⟨memo, assembled, assembly, notified⟩ := built
  have kept := congrArg Prod.fst notified ▸
    notifyNeedsSupplement_keepsRecord _ _ world
  rw [kept.finalMemo, reviewedText, assembly]
  exact ⟨rfl, rfl⟩

/-- A review that updates or pauses has built its memo. -/
theorem nodeHumanReview_built
    {env : StepEnv}
    {state : GraphState}
    {world : World}
    (completes :
      ∀ after, nodeHumanReview env state world ≠ .raise after) :
    ∃ rs after,
      buildAndGateMemo env state world = some (rs, after) ∧
        ∀ update later,
          nodeHumanReview env state world = .update update later →
          update.researchState.finalMemo = rs.finalMemo := by
  cases built : buildAndGateMemo env state world with
  | none =>
      exact absurd (by simp only [nodeHumanReview, built]) (completes world)
  | some outcome =>
      refine ⟨outcome.1, outcome.2, rfl, ?_⟩
      intro update later updated
      simp only [nodeHumanReview, built] at updated
      repeat' split at updated
      all_goals first
        | cases updated
          rfl
        | cases updated

/-- A review that pauses has built its memo and asks for the review. -/
theorem nodeHumanReview_interrupt
    {env : StepEnv}
    {state : GraphState}
    {world after : World}
    {ask : Ask}
    (asks : nodeHumanReview env state world = .interrupt ask after) :
    ask = .review ∧
      ∃ rs, buildAndGateMemo env state world = some (rs, after) := by
  cases built : buildAndGateMemo env state world with
  | none =>
      simp only [nodeHumanReview, built] at asks
      cases asks
  | some outcome =>
      simp only [nodeHumanReview, built] at asks
      repeat' split at asks
      all_goals cases asks
      exact ⟨rfl, outcome.1, rfl⟩

/-! ## Commands -/

omit [PythonText] in
/-- The surroundings of the node that a command executes. -/
def Command.env? : Command → Option StepEnv
  | .proceed env
  | .runResume env
  | .resume _ _ env => some env
  | .steer _ _ _
  | .runResumeState _ _ _ => none

omit [PythonText] in
/-- The segment that a command belongs to. -/
def Command.segment (current : Segment) : Command → Segment
  | .runResume _
  | .runResumeState _ _ _ => .run
  | .resume _ _ _ => .resume
  | .proceed _
  | .steer _ _ _ => current

omit [PythonText] in
/-- Whether a command enters the run again with its snapshot. -/
def Command.reenters : Command → Bool
  | .runResumeState _ _ _ => true
  | _ => false

omit [PythonText] in
/-- Whether a command is a steer. -/
def Command.isSteer : Command → Bool
  | .steer _ _ _ => true
  | _ => false

/-- A command that has surroundings executes one node in them. -/
theorem deskStep_executes
    {desk next : Desk}
    {command : Command}
    {env : StepEnv}
    (surrounded : command.env? = some env)
    (stepped : deskStep desk command = some next) :
    ∃ node answer,
      desk.execution.control.node? = some node ∧
        next =
          advance { env with answer := answer } node
            { desk with segment := command.segment desk.segment } := by
  cases command with
  | proceed own =>
      cases surrounded
      simp only [deskStep] at stepped
      split at stepped
      · rename_i node standsAt
        exact ⟨node, none, by rw [standsAt]; rfl,
          (Option.some.inj stepped).symm⟩
      · cases stepped
  | runResume own =>
      cases surrounded
      simp only [deskStep] at stepped
      split at stepped
      · rename_i node ask standsAt
        exact ⟨node, none, by rw [standsAt]; rfl,
          (Option.some.inj stepped).symm⟩
      · cases stepped
  | resume choice answer own =>
      cases surrounded
      simp only [deskStep] at stepped
      split at stepped
      · rename_i node ask standsAt
        split at stepped
        · cases stepped
        · exact ⟨node, _, by rw [standsAt]; rfl,
            (Option.some.inj stepped).symm⟩
      · cases stepped
  | steer text now note =>
      cases surrounded
  | runResumeState now maxIterations assumeBrief =>
      cases surrounded

/-- A steer changes the snapshot only. -/
theorem deskStep_steer
    {desk next : Desk}
    {command : Command}
    (steers : command.isSteer = true)
    (stepped : deskStep desk command = some next) :
    next.execution.graph = desk.execution.graph ∧
      next.execution.control = desk.execution.control := by
  cases command with
  | steer text now note =>
      simp only [deskStep] at stepped
      split at stepped
      · cases stepped
        exact ⟨rfl, rfl⟩
      · cases stepped
        exact ⟨rfl, rfl⟩
      · cases stepped
  | _ =>
      cases steers

/-- Steers leave the channels and the pause alone. -/
theorem steers_keep
    {desk final : Desk}
    {commands : List Command}
    (onlySteers : ∀ command ∈ commands, command.isSteer = true)
    (ran : exec deskStep desk commands = some final) :
    final.execution.graph = desk.execution.graph ∧
      final.execution.control = desk.execution.control := by
  induction commands generalizing desk with
  | nil =>
      cases ran
      exact ⟨rfl, rfl⟩
  | cons command rest inductionHypothesis =>
      obtain ⟨next, stepped, ranRest⟩ := Option.bind_eq_some_iff.mp ran
      obtain ⟨graphKept, controlKept⟩ :=
        deskStep_steer (onlySteers command List.mem_cons_self) stepped
      obtain ⟨graphLater, controlLater⟩ :=
        inductionHypothesis
          (fun later member =>
            onlySteers later (List.mem_cons_of_mem _ member))
          ranRest
      exact ⟨graphLater.trans graphKept, controlLater.trans controlKept⟩

/-- A segment that pauses saves the state of the checkpoint, or its own. -/
theorem advance_paused
    {env : StepEnv}
    {node target : Node}
    {ask : Ask}
    {desk : Desk}
    (pauses :
      (advance env node desk).execution.control = .pausedAt target ask) :
    node = target ∧
      (∃ after,
        runNode env desk.execution.graph
            (receiveDrops env.drops desk.execution.world) node =
          .interrupt ask after) ∧
      (advance env node desk).execution.graph = desk.execution.graph ∧
      (advance env node desk).execution.world.snapshot =
        some
          (match desk.segment with
          | .run => desk.execution.graph.researchState
          | .resume => inPlaceState env desk.execution ask) := by
  have graphKept := (advance_execution env node desk).1
  have visited := pauses
  rw [(advance_execution env node desk).2] at visited
  rcases visit_cases env node desk.execution with
    ⟨world, raised⟩ | ⟨asked, world, ran, paused⟩ | ⟨update, world, ran, moved⟩
  · rw [raised] at visited
    cases visited
  · rw [paused] at visited
    obtain ⟨rfl, rfl⟩ := Control.pausedAt.inj visited
    refine ⟨rfl, ⟨world, ran⟩, ?_, ?_⟩
    · rw [graphKept, paused]
    · simp only [advance, paused]
      cases desk.segment <;> rfl
  · rw [moved] at visited
    cases next :
        (successor env.cap (desk.execution.graph.apply update) node).1 <;>
      · rw [next] at visited
        cases visited

/-- A segment ends the run when the review updates. -/
theorem advance_ended
    {env : StepEnv}
    {desk : Desk}
    (ends : (advance env .humanReview desk).execution.control = .ended) :
    ∃ update world,
      nodeHumanReview env desk.execution.graph
          (receiveDrops env.drops desk.execution.world) =
        .update update world ∧
        (advance env .humanReview desk).execution.graph =
          desk.execution.graph.apply update := by
  have graphKept := (advance_execution env .humanReview desk).1
  rw [(advance_execution env .humanReview desk).2] at ends
  rcases visit_cases env .humanReview desk.execution with
    ⟨world, raised⟩ | ⟨asked, world, ran, paused⟩ | ⟨update, world, ran, moved⟩
  · rw [raised] at ends
    cases ends
  · rw [paused] at ends
    cases ends
  · refine ⟨update, world, ran, ?_⟩
    rw [graphKept, moved]
    rfl

/-! ## The pause and the end -/

/-- A review that pauses in a command and is answered, steered at most between. -/
structure AnsweredReview
    (desk paused ended : Desk)
    (pausing : Command)
    (shown written : Prose) : Prop where
  pauses : deskStep desk pausing = some paused
  atReview : ∃ ask, paused.execution.control = .pausedAt .humanReview ask
  shows :
    ∃ env,
      pausing.env? = some env ∧
        Writes env desk.execution.graph.researchState shown
  answers :
    ∃ steers waiting choice answer env,
      (∀ command ∈ steers, command.isSteer = true) ∧
        exec deskStep paused steers = some waiting ∧
        Writes env desk.execution.graph.researchState written ∧
        deskStep waiting (.resume choice answer env) = some ended
  ends : ended.execution.control = .ended

/-- The memo saved at the pause is the memo at the end. -/
def DeliversReviewed (paused ended : Desk) : Prop :=
  ∃ saved memo,
    paused.execution.world.snapshot = some saved ∧
      saved.finalMemo = some memo ∧
      ended.execution.graph.researchState.finalMemo = some memo

/--
A resumed segment saves the memo of the first answer, so both answers have to
read the same.  Any other segment saves the checkpoint, which has to hold the
memo of the second answer already.
-/
def SavesDelivered
    (desk : Desk)
    (pausing : Command)
    (shown written : Prose) : Prop :=
  match pausing.segment desk.segment with
  | .run =>
      desk.execution.graph.researchState.finalMemo =
        reviewedText desk.execution.graph written
  | .resume =>
      wording desk.execution.graph.researchState shown =
        wording desk.execution.graph.researchState written

/-- At the pause the snapshot holds the old memo, or the one of the first answer. -/
theorem AnsweredReview.saved
    {desk paused ended : Desk}
    {pausing : Command}
    {shown written : Prose}
    (review : AnsweredReview desk paused ended pausing shown written) :
    paused.execution.graph = desk.execution.graph ∧
      ∃ saved,
        paused.execution.world.snapshot = some saved ∧
          saved.finalMemo =
            match pausing.segment desk.segment with
            | .run => desk.execution.graph.researchState.finalMemo
            | .resume => reviewedText desk.execution.graph shown := by
  obtain ⟨ask, atReview⟩ := review.atReview
  obtain ⟨env, surrounded, writes⟩ := review.shows
  obtain ⟨node, answer, _, rfl⟩ := deskStep_executes surrounded review.pauses
  obtain ⟨rfl, ⟨after, asks⟩, graphKept, snapshot⟩ := advance_paused atReview
  refine ⟨graphKept, _, snapshot, ?_⟩
  cases pausing.segment desk.segment with
  | run =>
      rfl
  | resume =>
      obtain ⟨rfl, rs, built⟩ := nodeHumanReview_interrupt asks
      have writesAgain :
          Writes { env with answer := answer }
            desk.execution.graph.researchState shown :=
        writes
      have stored := buildAndGateMemo_finalMemo writesAgain built
      simp only [inPlaceState, built, Option.map_some, Option.getD_some]
      exact stored.1

/-- At the end the channels hold the memo of the second answer. -/
theorem AnsweredReview.delivered
    {desk paused ended : Desk}
    {pausing : Command}
    {shown written : Prose}
    (review : AnsweredReview desk paused ended pausing shown written) :
    ended.execution.graph.researchState.finalMemo =
        reviewedText desk.execution.graph written ∧
      ended.execution.graph.researchState.finalMemo.isSome = true := by
  obtain ⟨ask, atReview⟩ := review.atReview
  obtain ⟨steers, waiting, choice, answer, env, onlySteers, steered, writes,
    resumed⟩ := review.answers
  obtain ⟨graphKept, controlKept⟩ := steers_keep onlySteers steered
  have sameGraph := graphKept.trans review.saved.1
  have ends := review.ends
  simp only [deskStep, controlKept, atReview] at resumed
  split at resumed
  · cases resumed
  · cases resumed
    obtain ⟨update, world, updated, isEnd⟩ := advance_ended ends
    obtain ⟨rs, after, built, memoKept⟩ :=
      nodeHumanReview_built (fun after raised => by
        rw [updated] at raised
        cases raised)
    have writesAgain :
        Writes
          { env with
            answer := some (.reply choice (some (answer.getD ""))) }
          waiting.execution.graph.researchState written := by
      rw [sameGraph]
      exact writes
    have stored := buildAndGateMemo_finalMemo writesAgain built
    have memo := memoKept update world updated
    rw [isEnd]
    simp only [GraphState.apply, memo]
    rw [sameGraph] at stored
    exact stored

omit [PythonText] in
/-- No memo has been written while the run is not over. -/
def Memoless (desk : Desk) : Prop :=
  desk.execution.control ≠ .ended →
    desk.execution.graph.researchState.finalMemo = none

/-- A visit before the end leaves a run without a memo. -/
theorem visit_memoless
    {env : StepEnv}
    {node : Node}
    {execution : Execution}
    (noMemo : execution.graph.researchState.finalMemo = none)
    (goesOn : (visit env node execution).control ≠ .ended) :
    (visit env node execution).graph.researchState.finalMemo = none := by
  cases visit_visited env node execution with
  | crashed sameGraph _ =>
      rw [sameGraph]
      exact noMemo
  | paused ask sameGraph _ =>
      rw [sameGraph]
      exact noMemo
  | moved update records sameGraph isNext =>
      have notReview : node ≠ .humanReview := by
        rintro rfl
        exact goesOn isNext
      rw [sameGraph, (successor_channels _ _ _).1]
      exact (records.finalMemo notReview).trans noMemo

/-- A run that is not entered again stays without a memo until its end. -/
theorem Memoless.step
    {desk next : Desk}
    {command : Command}
    (memoless : Memoless desk)
    (notAgain : command.reenters = false)
    (stepped : deskStep desk command = some next) :
    Memoless next := by
  intro goesOn
  cases surrounded : command.env? with
  | some env =>
      obtain ⟨node, answer, standsAt, rfl⟩ :=
        deskStep_executes surrounded stepped
      have notEnded : desk.execution.control ≠ .ended := by
        intro ended
        rw [ended] at standsAt
        cases standsAt
      obtain ⟨sameGraph, sameControl⟩ :=
        advance_execution { env with answer := answer } node
          { desk with segment := command.segment desk.segment }
      rw [sameGraph]
      rw [sameControl] at goesOn
      exact visit_memoless (memoless notEnded) goesOn
  | none =>
      have steers : command.isSteer = true := by
        cases command with
        | steer text now note =>
            rfl
        | runResumeState now maxIterations assumeBrief =>
            cases notAgain
        | _ =>
            cases surrounded
      obtain ⟨sameGraph, sameControl⟩ := deskStep_steer steers stepped
      rw [sameGraph]
      exact memoless (sameControl ▸ goesOn)

/--
The memo that the human reviewed is delivered exactly when the saved one is the
one of the second answer.  In a run that is entered once without a memo, a
pause that is saved from the checkpoint shows no memo at all.
-/
theorem reviewedMemo_delivered_iff :
    (∀ (desk paused ended : Desk) (pausing : Command)
        (shown written : Prose),
        AnsweredReview desk paused ended pausing shown written →
        (DeliversReviewed paused ended ↔
          SavesDelivered desk pausing shown written)) ∧
      ∀ (start desk paused ended : Desk) (commands : List Command)
        (pausing : Command) (shown written : Prose),
        Started start.execution →
        start.execution.graph.researchState.finalMemo = none →
        (∀ command ∈ commands, command.reenters = false) →
        exec deskStep start commands = some desk →
        AnsweredReview desk paused ended pausing shown written →
        pausing.segment desk.segment = .run →
        ¬DeliversReviewed paused ended := by
  have exact :
      ∀ {desk paused ended : Desk} {pausing : Command}
        {shown written : Prose},
        AnsweredReview desk paused ended pausing shown written →
        (DeliversReviewed paused ended ↔
          SavesDelivered desk pausing shown written) := by
    intro desk paused ended pausing shown written review
    obtain ⟨_, saved, snapshot, memoSaved⟩ := review.saved
    obtain ⟨memoAtEnd, someMemo⟩ := review.delivered
    obtain ⟨memo, isMemo⟩ := Option.isSome_iff_exists.mp someMemo
    have delivers :
        DeliversReviewed paused ended ↔
          saved.finalMemo =
            ended.execution.graph.researchState.finalMemo := by
      constructor
      · rintro ⟨other, text, sameSnapshot, isText, alsoText⟩
        cases snapshot.symm.trans sameSnapshot
        exact isText.trans alsoText.symm
      · intro same
        exact ⟨saved, memo, snapshot, same.trans isMemo, isMemo⟩
    rw [delivers, memoSaved, memoAtEnd, SavesDelivered]
    cases pausing.segment desk.segment with
    | run =>
        exact Iff.rfl
    | resume =>
        exact reviewedText_eq_iff _ _ _
  refine ⟨fun _ _ _ _ _ _ => exact, ?_⟩
  intro start desk paused ended commands pausing shown written started noMemo
    onceEntered ran review runSegment
  have neverAgain :
      AllSteps deskStep (fun _ command => command.reenters = false) start
        commands := by
    intro earlier command later middle shape _
    exact onceEntered command (by rw [shape]; simp)
  have memoless : Memoless desk :=
    AllSteps.invariant
      (fun before notAgain stepped => Memoless.step before notAgain stepped)
      (fun _ => noMemo) neverAgain ran
  have notEnded : desk.execution.control ≠ .ended := by
    obtain ⟨env, surrounded, _⟩ := review.shows
    obtain ⟨node, _, standsAt, _⟩ :=
      deskStep_executes surrounded review.pauses
    intro ended
    rw [ended] at standsAt
    cases standsAt
  rw [exact review, SavesDelivered, runSegment]
  obtain ⟨memoAtEnd, someMemo⟩ := review.delivered
  rw [memoAtEnd] at someMemo
  intro same
  rw [← same, memoless notEnded] at someMemo
  cases someMemo

end Wording

/-- A run with one pass to go on a brief that is pinned down. -/
private def onePassRun (assumeBrief : Bool) : Desk where
  execution :=
    { graph :=
        { researchState :=
            { runId := "run"
              originalQuestion := "question"
              researchBrief := some "brief"
              decisionCriterion := some "criterion"
              successForm := some "form"
              fallbackBehaviorIfHumanUnavailable := some "fallback" }
          config :=
            { maxIterations := 1
              mode := some .interactive
              enableH6 := true
              assumeBrief := assumeBrief } }
      control := .at .intake
      world := {} }
  segment := .run

/-- Surroundings whose synthesizer writes one text into every section. -/
private def writing (text : String) : StepEnv :=
  .calm
    { Brains.silent with
      synthesizer := some fun _ => some fun _ => some text }

/-- The commands up to the review, in one segment. -/
private def straightToReview : List Command :=
  List.replicate 17 (.proceed (writing "a"))

/-- The commands up to the review, with an answered plan between. -/
private def answeredToReview : List Command :=
  List.replicate 7 (.proceed (writing "a")) ++
    .resume (some "A") none (writing "a") ::
      List.replicate 10 (.proceed (writing "a"))

/-- A human confirms a review that showed no memo, and the run delivers one. -/
theorem confirmedPause_showed_no_memo :
    letI := PythonText.ascii
    ∃ desk paused ended,
      exec deskStep (onePassRun true) straightToReview = some desk ∧
        AnsweredReview desk paused ended (.proceed (writing "a"))
          (fun _ => some "a") (fun _ => some "a") ∧
        ¬DeliversReviewed paused ended := by
  let _ := PythonText.ascii
  let desk :=
    (exec deskStep (onePassRun true) straightToReview).get
      (by decide +kernel)
  let paused :=
    (deskStep desk (.proceed (writing "a"))).get (by decide +kernel)
  let ended :=
    (deskStep paused (.resume (some "confirm") none (writing "a"))).get
      (by decide +kernel)
  refine ⟨desk, paused, ended, (Option.some_get _).symm, ?_, ?_⟩
  · exact
      { pauses := (Option.some_get _).symm
        atReview := ⟨.review, by decide +kernel⟩
        shows := ⟨_, rfl, _, rfl, rfl⟩
        answers :=
          ⟨[], paused, some "confirm", none, writing "a", by simp, rfl,
            ⟨_, rfl, rfl⟩, (Option.some_get _).symm⟩
        ends := by decide +kernel }
  · rintro ⟨saved, memo, snapshot, isMemo, _⟩
    have noMemo :
        paused.execution.world.snapshot.bind ResearchState.finalMemo =
          none := by
      decide +kernel
    rw [snapshot, Option.bind_some, isMemo] at noMemo
    cases noMemo

/-- A synthesizer that answers twice the same delivers what was reviewed. -/
theorem steadySynthesizer_delivers_reviewed :
    letI := PythonText.ascii
    ∃ desk paused ended,
      exec deskStep (onePassRun false) answeredToReview = some desk ∧
        AnsweredReview desk paused ended (.proceed (writing "a"))
          (fun _ => some "a") (fun _ => some "a") ∧
        DeliversReviewed paused ended := by
  let _ := PythonText.ascii
  let desk :=
    (exec deskStep (onePassRun false) answeredToReview).get
      (by decide +kernel)
  let paused :=
    (deskStep desk (.proceed (writing "a"))).get (by decide +kernel)
  let ended :=
    (deskStep paused (.resume (some "confirm") none (writing "a"))).get
      (by decide +kernel)
  have review :
      AnsweredReview desk paused ended (.proceed (writing "a"))
        (fun _ => some "a") (fun _ => some "a") :=
    { pauses := (Option.some_get _).symm
      atReview := ⟨.review, by decide +kernel⟩
      shows := ⟨_, rfl, _, rfl, rfl⟩
      answers :=
        ⟨[], paused, some "confirm", none, writing "a", by simp, rfl,
          ⟨_, rfl, rfl⟩, (Option.some_get _).symm⟩
      ends := by decide +kernel }
  have resumedSegment : desk.segment = .resume := by
    decide +kernel
  refine
    ⟨desk, paused, ended, (Option.some_get _).symm, review,
      (reviewedMemo_delivered_iff.1 desk paused ended _ _ _ review).mpr ?_⟩
  simp only [SavesDelivered, Command.segment, resumedSegment]

end ResearchCos
