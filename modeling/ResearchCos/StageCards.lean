import ResearchCos.DebateRecord
import ResearchCos.IssueEdits

namespace ResearchCos

open Foundation

/-!
# The cards that say what is new

The cards of the research and of the critique show what arrived since they were
rendered last.  How far they have read is left out of every dump, so it starts
from nothing whenever a run is entered or resumed.
-/

/-- How far the cards have read in this process. -/
structure ObsPrev where
  researchN : Nat := 0
  critiqueN : Nat := 0
  deriving Repr, DecidableEq

/-- How many have arrived since the last count. -/
def deltaCount (previous current : Nat) : Int :=
  (current : Int) - previous

/-- The last `count` entries of a list. -/
def lastOf {α : Type} (count : Int) (entries : List α) : List α :=
  entries.drop (entries.length - count.toNat)

/-- A card with a line for each new entry, or the one of an idle stage. -/
def deltaCard {α : Type}
    (noun : String)
    (line : α → String)
    (delta : Int)
    (entries : List α) : String :=
  if delta ≤ 0 then
    "本站無動作"
  else
    "\n".intercalate
      (("+" ++ toString delta ++ " " ++ noun) ::
        (lastOf delta entries).map line)

/-- The line of a bundle: its query and its first claim. -/
def researchLine (bundle : EvidenceBundle) : String :=
  let top :=
    match bundle.claims with
    | [] => "(no claim)"
    | claim :: _ => claim.claim
  "  • " ++ bundle.query ++ ": " ++ top

def renderResearch (rs : ResearchState) (seen : ObsPrev) : String × ObsPrev :=
  let current := rs.evidence.length
  (deltaCard "evidence" researchLine (deltaCount seen.researchN current)
      rs.evidence,
    { seen with researchN := current })

/-- The counterarguments of all issues, each at its first place. -/
def seenCounterarguments (rs : ResearchState) : List String :=
  appendNew [] (rs.issueMap.values.flatMap IssueNode.counterarguments)

def critiqueLine (counterargument : String) : String :=
  "  • " ++ counterargument

def renderCritique (rs : ResearchState) (seen : ObsPrev) : String × ObsPrev :=
  let current := (seenCounterarguments rs).length
  (deltaCard "反論" critiqueLine (deltaCount seen.critiqueN current)
      (seenCounterarguments rs),
    { seen with critiqueN := current })

/-! ## A process that renders its cards -/

/-- A run with the cards that the process at work has rendered. -/
structure WatchedRun where
  execution : Execution
  seen : ObsPrev := {}
  researchCards : List String := []
  critiqueCards : List String := []

namespace WatchedRun

/-- The process enters the run, or resumes it: nothing has been shown. -/
def enter (execution : Execution) : WatchedRun where
  execution := execution

/-- Render the card of a stage over the state that the stage has left. -/
def render (run : WatchedRun) : Stage → WatchedRun
  | .research =>
      let (card, seen) :=
        renderResearch run.execution.graph.researchState run.seen
      { run with seen := seen, researchCards := run.researchCards ++ [card] }
  | .critique =>
      let (card, seen) :=
        renderCritique run.execution.graph.researchState run.seen
      { run with seen := seen, critiqueCards := run.critiqueCards ++ [card] }
  | _ => run

end WatchedRun

/-- The process that executes the next step. -/
def processOf (run : WatchedRun) : WatchedRun :=
  match run.execution.control with
  | .pausedAt _ _ => .enter run.execution
  | _ => run

section Steps

variable [PythonText]

/-- One step of the run and the cards that it renders. -/
def watchedStep (run : WatchedRun) (env : StepEnv) : Option WatchedRun :=
  (step run.execution env).map fun next =>
    (reportedStages run.execution next).foldl WatchedRun.render
      { processOf run with execution := next }

end Steps

/-! ## Cards of chunks -/

/-- The card that shows a chunk of new entries. -/
def chunkCard {α : Type}
    (noun : String)
    (line : α → String)
    (chunk : List α) : String :=
  if chunk = [] then
    "本站無動作"
  else
    "\n".intercalate
      (("+" ++ toString (chunk.length : Int) ++ " " ++ noun) ::
        chunk.map line)

/-- A card over a count that was reached shows the entries after it. -/
theorem deltaCard_eq_chunkCard {α : Type}
    {noun : String}
    {line : α → String}
    {mark : Nat}
    {entries : List α}
    (reached : mark ≤ entries.length) :
    deltaCard noun line (deltaCount mark entries.length) entries =
      chunkCard noun line (entries.drop mark) := by
  have delta :
      deltaCount mark entries.length = ((entries.drop mark).length : Int) := by
    rw [deltaCount, List.length_drop]
    omega
  by_cases idle : entries.drop mark = []
  · rw [deltaCard, chunkCard, delta, idle]
    rfl
  · have some : 0 < (entries.drop mark).length :=
      List.length_pos_iff.mpr idle
    have fromMark :
        entries.length - (entries.drop mark).length = mark := by
      rw [List.length_drop]
      omega
    rw [deltaCard, chunkCard, delta, if_neg (by omega), if_neg idle, lastOf,
      Int.toNat_natCast, fromMark]

/-- The cards are those of the chunks that a reader has shown. -/
structure ShownOnce {α : Type}
    (noun : String)
    (line : α → String)
    (cards : List String)
    (reader : Reader α)
    (record : List α) : Prop where
  isExact : reader.Exact record
  isCards : cards = reader.shown.map (chunkCard noun line)
  upToDate : reader.shown = [] ∨ reader.shown.flatten = record

namespace ShownOnce

variable {α : Type} {noun : String} {line : α → String}
  {cards : List String} {reader : Reader α} {record longer : List α}

/-- A process that begins has shown nothing. -/
theorem begin
    (record : List α) :
    ShownOnce noun line [] {} record :=
  ⟨Reader.exact_new record, rfl, Or.inl rfl⟩

/-- A card is rendered after entries may have arrived. -/
theorem render
    (shown : ShownOnce noun line cards reader record)
    (grows : record <+: longer) :
    ShownOnce noun line
      (cards ++
        [deltaCard noun line (deltaCount reader.mark longer.length) longer])
      (reader.look longer) longer := by
  have grown := shown.isExact.grow grows
  refine ⟨grown.look, ?_, Or.inr grown.shown_of_look⟩
  rw [deltaCard_eq_chunkCard grown.1, shown.isCards, Reader.look,
    List.map_append, List.map_singleton]

end ShownOnce

/-! ## The research cards -/

section Runs

variable [PythonText]

/-- Only the collect node adds evidence. -/
theorem NodeUpdate.evidence
    {env : StepEnv}
    {state : GraphState}
    {world after : World}
    {node : Node}
    {update : Update}
    (written : NodeUpdate env state world node update after) :
    state.researchState.evidence <+: update.researchState.evidence ∧
      (node ≠ .collect →
        update.researchState.evidence = state.researchState.evidence) := by
  by_cases collects : node = .collect
  · subst collects
    refine ⟨?_, fun other => absurd rfl other⟩
    cases written
    exact
      (List.prefix_append _ state.workerResults).trans
        (List.prefix_append _ _)
  · have same :
        update.researchState.evidence = state.researchState.evidence := by
      by_cases researches : node = .researchFanout
      · subst researches
        cases written
        rfl
      · exact (written.idle collects researches).1.research.evidence
    exact ⟨same ▸ List.prefix_rfl, fun _ => same⟩

omit [PythonText] in
/-- The stages of a node render the card of the node and no other. -/
theorem render_stages
    (node : Node)
    (run : WatchedRun) :
    (node.stages.foldl WatchedRun.render run).execution = run.execution ∧
      (node ≠ .collect →
        (node.stages.foldl WatchedRun.render run).researchCards =
            run.researchCards ∧
          (node.stages.foldl WatchedRun.render run).seen.researchN =
            run.seen.researchN) ∧
      (node ≠ .skeptic →
        (node.stages.foldl WatchedRun.render run).critiqueCards =
            run.critiqueCards ∧
          (node.stages.foldl WatchedRun.render run).seen.critiqueN =
            run.seen.critiqueN) := by
  cases node with
  | collect =>
      exact ⟨rfl, fun other => absurd rfl other, fun _ => ⟨rfl, rfl⟩⟩
  | skeptic =>
      exact ⟨rfl, fun _ => ⟨rfl, rfl⟩, fun other => absurd rfl other⟩
  | _ =>
      exact ⟨rfl, fun _ => ⟨rfl, rfl⟩, fun _ => ⟨rfl, rfl⟩⟩

omit [PythonText] in
/-- A completed node does not leave a crashed run. -/
theorem elim_ne_crashed
    (target : Option Node) :
    target.elim Control.ended Control.at ≠ .crashed := by
  cases target <;> nofun

/-- A watched step is a step of the run, rendered when it has not crashed. -/
theorem watchedStep_eq_some
    {run next : WatchedRun}
    {env : StepEnv}
    (stepped : watchedStep run env = some next) :
    ∃ node after,
      run.execution.control.node? = some node ∧
        step run.execution env = some after ∧
        (after.control = .crashed ∧
              after.graph = run.execution.graph ∧
              next = { processOf run with execution := after } ∨
          next =
            node.stages.foldl WatchedRun.render
              { processOf run with execution := after }) := by
  obtain ⟨after, isStep, rendered⟩ := Option.map_eq_some_iff.mp stepped
  obtain ⟨node, seen, visits, isAfter⟩ := step_visits isStep
  refine ⟨node, after, visits.node?, isStep, ?_⟩
  by_cases crashed : after.control = .crashed
  · refine Or.inl ⟨crashed, ?_, ?_⟩
    · rw [isAfter] at crashed ⊢
      cases visit_visited seen node run.execution with
      | crashed sameGraph =>
          exact sameGraph
      | paused _ sameGraph =>
          exact sameGraph
      | moved update _ _ control =>
          rw [control] at crashed
          exact absurd crashed (elim_ne_crashed _)
    · rw [← rendered, reportedStages, if_pos crashed]
      rfl
  · right
    rw [← rendered, reportedStages, if_neg crashed, visits.node?]

/-- What a step does to the evidence. -/
theorem step_evidence
    {execution next : Execution}
    {env : StepEnv}
    {node : Node}
    (entered : execution.control.node? = some node)
    (stepped : step execution env = some next) :
    execution.graph.researchState.evidence <+:
        next.graph.researchState.evidence ∧
      (node ≠ .collect →
        next.graph.researchState.evidence =
          execution.graph.researchState.evidence) := by
  obtain
    ⟨other, seen, visits,
      same | ⟨update, world, after, reason, ran, moved⟩⟩ :=
        step_writes stepped
  · rw [same]
    exact ⟨List.prefix_rfl, fun _ => rfl⟩
  · obtain rfl : other = node :=
      Option.some.inj (visits.node?.symm.trans entered)
    rw [moved]
    exact (runNode_updates ran).evidence

omit [PythonText] in
/-- What the research cards of the process have shown of the evidence. -/
def ResearchShown (run : WatchedRun) : Prop :=
  ∃ reader : Reader EvidenceBundle,
    reader.mark = run.seen.researchN ∧
      ShownOnce "evidence" researchLine run.researchCards reader
        run.execution.graph.researchState.evidence

omit [PythonText] in
theorem ResearchShown.processOf
    {run : WatchedRun}
    (shown : ResearchShown run) :
    ResearchShown (processOf run) := by
  unfold ResearchCos.processOf
  split
  · exact ⟨{}, rfl, .begin _⟩
  · exact shown

omit [PythonText] in
@[simp] theorem execution_processOf
    (run : WatchedRun) :
    (processOf run).execution = run.execution := by
  unfold processOf
  split <;> rfl

theorem watchedStep_researchShown
    {run next : WatchedRun}
    {env : StepEnv}
    (shown : ResearchShown run)
    (stepped : watchedStep run env = some next) :
    ResearchShown next := by
  obtain ⟨reader, isMark, before⟩ := shown.processOf
  rw [execution_processOf] at before
  obtain ⟨node, after, entered, isStep, ⟨_, sameGraph, rfl⟩ | rfl⟩ :=
    watchedStep_eq_some stepped
  · exact ⟨reader, isMark, by simpa only [sameGraph] using before⟩
  · obtain ⟨grows, unchanged⟩ := step_evidence entered isStep
    obtain ⟨execution, kept, _⟩ :=
      render_stages node { processOf run with execution := after }
    by_cases collects : node = .collect
    · subst collects
      refine ⟨reader.look after.graph.researchState.evidence, rfl, ?_⟩
      rw [execution]
      have rendered := before.render grows
      rw [isMark] at rendered
      exact rendered
    · obtain ⟨sameCards, sameMark⟩ := kept collects
      refine ⟨reader, isMark.trans sameMark.symm, ?_⟩
      rw [execution, sameCards]
      simpa only [unchanged collects] using before

/--
At every moment of a run the research cards of the process at work show every
bundle of the evidence once, in order, from its first card on.
-/
theorem research_cards_once
    {execution : Execution}
    {final : WatchedRun}
    {envs : List StepEnv}
    (ran : exec watchedStep (.enter execution) envs = some final) :
    ∃ chunks : List (List EvidenceBundle),
      final.researchCards = chunks.map (chunkCard "evidence" researchLine) ∧
        (chunks ≠ [] →
          chunks.flatten =
            final.execution.graph.researchState.evidence) := by
  have begins : ResearchShown (.enter execution) :=
    ⟨{}, rfl, .begin _⟩
  obtain ⟨reader, _, shown⟩ :=
    exec_invariant (motive := ResearchShown) watchedStep_researchShown begins
      ran
  refine ⟨reader.shown, shown.isCards, fun some => ?_⟩
  exact shown.upToDate.resolve_left some

end Runs

/-- A question whose one issue is researched, and criticised in each pass. -/
private def researchedQuestion : Execution where
  graph :=
    { researchState := { runId := "run", originalQuestion := "question" }
      config := { assumeBrief := true } }
  control := .at .intake
  world := {}

private def findingBrains : Brains :=
  { Brains.silent with
    issueExpander := fun _ =>
      some
        [{ title := "issue"
           description := ""
           issueType := .market
           impact := 3
           confidence := 2 }]
    researcher := fun rs issueId =>
      some { query := rs.originalQuestion, issueId := some issueId } }

/-- After the first pass the card shows its one bundle. -/
theorem research_cards_once_firstPass :
    letI := PythonText.ascii
    ∃ final,
      exec watchedStep (.enter researchedQuestion)
          (List.replicate 11 (.calm findingBrains)) =
        some final ∧
      final.researchCards =
        ["+1 evidence\n  • question: (no claim)"] ∧
      ∃ chunks : List (List EvidenceBundle),
        final.researchCards =
            chunks.map (chunkCard "evidence" researchLine) ∧
          (chunks ≠ [] →
            chunks.flatten =
              final.execution.graph.researchState.evidence) := by
  let _ := PythonText.ascii
  let final :=
    (exec watchedStep (.enter researchedQuestion)
      (List.replicate 11 (.calm findingBrains))).get (by decide +kernel)
  have ran :
      exec watchedStep (.enter researchedQuestion)
          (List.replicate 11 (.calm findingBrains)) =
        some final :=
    (Option.some_get _).symm
  exact ⟨final, ran, by decide +kernel, research_cards_once ran⟩

end ResearchCos
