import ResearchCos.HardBounds

namespace ResearchCos

open Foundation

/-!
# Answers to the final review

The review offers to confirm or to go back to research.  The answer is written
into the steering log and read by nobody: the review has one edge, to the end.
-/

/-- The options that the review offers. -/
inductive ReviewOption where
  | confirm
  | revise
  deriving Repr, DecidableEq

def ReviewOption.label : ReviewOption → String
  | .confirm => "confirm"
  | .revise => "revise"

def ReviewOption.text : ReviewOption → String
  | .confirm => "confirm: 同意產出"
  | .revise => "revise: 退回繼續研究"

/-- What an answer says: its choice, or its text where no choice is made. -/
def Answer.chosen : Answer → String
  | .text answer => answer
  | .reply choice answer => orDefault choice (answer.getD "")

/-- An answer chooses an option by its label or by its text. -/
def Answer.chooses (answer : Answer) (option : ReviewOption) : Bool :=
  decide (answer.chosen = option.label ∨ answer.chosen = option.text)

/-- A confirmation; no response at all counts as one by default. -/
def Answer.confirms (answer : Answer) : Bool :=
  decide (answer.chosen = "") || answer.chooses .confirm

/-- No answer confirms and asks for a revision at once. -/
theorem Answer.chooses_revise_of_confirms
    {answer : Answer}
    (confirms : answer.confirms = true) :
    answer.chooses .revise = false := by
  simp only [Answer.confirms, Answer.chooses, Bool.or_eq_true,
    decide_eq_true_eq] at confirms
  simp only [Answer.chooses, decide_eq_false_iff_not]
  rcases confirms with nothing | label | text
  · rw [nothing]
    decide
  · rw [label]
    decide
  · rw [text]
    decide

/-- A bound that ends the run whatever the human would like. -/
def HardBoundHit (execution : Execution) (env : StepEnv) : Prop :=
  RunCap.capHitNow env.cap = true ∨ ceilingHit execution.graph = true

instance (execution : Execution) (env : StepEnv) :
    Decidable (HardBoundHit execution env) :=
  inferInstanceAs (Decidable (_ ∨ _))

section Runs

variable [PythonText]

/-- The run does not end before another research cycle. -/
def ResearchesBeforeEnd (execution : Execution) : Prop :=
  ∀ labels final,
    exec step execution labels = some final →
    final.control = .ended →
    ∃ earlier later middle,
      labels = earlier ++ later ∧
        exec step execution earlier = some middle ∧
        middle.control = .at .researchFanout

/--
What an answer asks for: the run ends at once only when it is confirmed, or
when a hard bound leaves no room for a revision, and a revision leads to
another research cycle otherwise.
-/
structure HonoursAnswer
    (execution : Execution)
    (env : StepEnv)
    (answer : Answer)
    (next : Execution) : Prop where
  ends :
    next.control = .ended →
      answer.confirms = true ∨
        (answer.chooses .revise = true ∧ HardBoundHit execution env)
  revises :
    answer.chooses .revise = true →
      ¬HardBoundHit execution env →
      ResearchesBeforeEnd next

/-- An answered review that completes is the end of the run. -/
theorem answeredReview_ends
    {execution next : Execution}
    {env : StepEnv}
    {ask : Ask}
    (paused : execution.control = .pausedAt .humanReview ask)
    (answered : env.answer.isSome = true)
    (stepped : step execution env = some next)
    (completes : next.control ≠ .crashed) :
    next.control = .ended := by
  simp only [step, paused, answered, if_true, Option.some.injEq] at stepped
  subst next
  rcases visit_humanReview env execution with
    crashed | ended | ⟨unanswered, _⟩
  · exact absurd crashed completes
  · exact ended
  · rw [answered] at unanswered
    cases unanswered

/-- A run that is over researches no more. -/
theorem not_researchesBeforeEnd_of_ended
    {execution : Execution}
    (ended : execution.control = .ended) :
    ¬ResearchesBeforeEnd execution := by
  intro researches
  obtain ⟨earlier, later, middle, shape, ran, research⟩ :=
    researches [] execution rfl ended
  obtain ⟨rfl, rfl⟩ := List.append_eq_nil_iff.mp shape.symm
  cases ran
  rw [ended] at research
  cases research

/--
Wherever a run waits for the answer to its review, the answer is honoured
exactly when it is a confirmation, or a revision that a hard bound forbids.
-/
theorem reviewAnswer_honoured_iff
    {execution next : Execution}
    {env : StepEnv}
    {ask : Ask}
    {answer : Answer}
    (paused : execution.control = .pausedAt .humanReview ask)
    (answered : env.answer = some answer)
    (stepped : step execution env = some next)
    (completes : next.control ≠ .crashed) :
    HonoursAnswer execution env answer next ↔
      (answer.confirms = true ∨
        (answer.chooses .revise = true ∧ HardBoundHit execution env)) := by
  have hasAnswer : env.answer.isSome = true := by
    rw [answered]
    rfl
  have ended := answeredReview_ends paused hasAnswer stepped completes
  constructor
  · intro honoured
    exact honoured.ends ended
  · intro allowed
    refine ⟨fun _ => allowed, ?_⟩
    intro revises noBound
    rcases allowed with confirms | ⟨_, bound⟩
    · rw [Answer.chooses_revise_of_confirms confirms] at revises
      cases revises
    · exact absurd bound noBound

end Runs

/-- A run that asks for a review, with passes to spare. -/
private def reviewedRun : Execution where
  graph :=
    { researchState := { runId := "run", originalQuestion := "question" }
      config :=
        { mode := some .interactive, enableH6 := true, assumeBrief := true } }
  control := .at .intake
  world := {}

/-- Surroundings with one verdict of the auditor and one answer of the human. -/
private def auditing
    (verdict : AuditVerdict)
    (recommended : Option Decision)
    (answer : String) : StepEnv :=
  { StepEnv.calm
      { Brains.silent with
        auditor := fun _ =>
          some
            { verdict := verdict
              recommendedNextAction := recommended
              rationale := "rationale" } } with
    answer := some (.text answer) }

/-- One pass that demands rework, and one after which the run is summed up. -/
private def twoPasses : List StepEnv :=
  List.replicate 16 (auditing .rework none "") ++
    List.replicate 12 (auditing .continue_ (some .synthesize) "")

/-- A revision is asked for with cycles to spare, and the run is over. -/
theorem revisedReview_ends_run :
    letI := PythonText.ascii
    let env := auditing .continue_ (some .synthesize) "revise: 退回繼續研究"
    ∃ execution next,
      exec step reviewedRun twoPasses = some execution ∧
        execution.control = .pausedAt .humanReview .review ∧
        step execution env = some next ∧
        ¬HardBoundHit execution env ∧
        next.control = .ended ∧
        ¬HonoursAnswer execution env (.text "revise: 退回繼續研究") next := by
  let _ := PythonText.ascii
  let env := auditing .continue_ (some .synthesize) "revise: 退回繼續研究"
  let execution := (exec step reviewedRun twoPasses).get (by decide +kernel)
  let next := (step execution env).get (by decide +kernel)
  have ended : next.control = .ended := by
    decide +kernel
  have noBound : ¬HardBoundHit execution env := by
    decide +kernel
  refine
    ⟨execution, next, (Option.some_get _).symm, by decide +kernel,
      (Option.some_get _).symm, noBound, ended, ?_⟩
  intro honoured
  exact
    not_researchesBeforeEnd_of_ended ended
      (honoured.revises (by decide) noBound)

/-- A confirmation of the same review is honoured. -/
theorem confirmedReview_honoured :
    letI := PythonText.ascii
    let env := auditing .continue_ (some .synthesize) "confirm"
    ∃ execution next,
      exec step reviewedRun twoPasses = some execution ∧
        step execution env = some next ∧
        HonoursAnswer execution env (.text "confirm") next := by
  let _ := PythonText.ascii
  let env := auditing .continue_ (some .synthesize) "confirm"
  let execution := (exec step reviewedRun twoPasses).get (by decide +kernel)
  let next := (step execution env).get (by decide +kernel)
  have paused : execution.control = .pausedAt .humanReview .review := by
    decide +kernel
  have stepped : step execution env = some next :=
    (Option.some_get _).symm
  have completes : next.control ≠ .crashed := by
    decide +kernel
  exact
    ⟨execution, next, (Option.some_get _).symm, stepped,
      (reviewAnswer_honoured_iff paused rfl stepped completes).mpr
        (Or.inl (by decide))⟩

end ResearchCos
