import ResearchCos.CostAccounting
import ResearchCos.Foundation.BoundedGather
import ResearchCos.GraphNodes

namespace ResearchCos

open Foundation

/-!
# The concurrent fan-out

The researchers of a round run side by side behind a semaphore, and their
bundles are critiqued one after the other once all of them have ended.  However
they interleave, the node writes what it would write if they ran in turn.
-/

section FanOut

variable [PythonText]

omit [PythonText] in
/-- What the researcher of a selected issue ends with; `none` if it raises. -/
def researchOne
    (brains : Brains)
    (rs : ResearchState)
    (selected : List String)
    (index : Nat) : Option EvidenceBundle :=
  selected[index]?.bind fun issueId =>
    brains.researcher (buildWorkerProxy rs issueId) issueId

omit [PythonText] in
/-- The gather of the researchers, each of them to begin. -/
def fanOutStart
    (override : Option Int)
    (selected : List String) : Gather (Option EvidenceBundle) :=
  .start (SdkClient.maxConcurrent override) selected.length

/-- The bundles of the researchers that did not raise, critiqued in turn. -/
def critiquedBundles
    (brains : Brains)
    (gather : Gather (Option EvidenceBundle)) : List EvidenceBundle :=
  (gather.results.filterMap id).filterMap (critiqueBundle brains)

omit [PythonText] in
theorem maxConcurrent_pos
    (override : Option Int) :
    0 < SdkClient.maxConcurrent override := by
  unfold SdkClient.maxConcurrent
  repeat' split
  all_goals omega

omit [PythonText] in
/-- The outcomes in the order of the selection. -/
theorem map_researchOne
    (brains : Brains)
    (rs : ResearchState)
    (selected : List String) :
    (List.range selected.length).map (researchOne brains rs selected) =
      selected.map fun issueId =>
        brains.researcher (buildWorkerProxy rs issueId) issueId := by
  refine List.ext_getElem (by simp) fun index inRange inSelected => ?_
  rw [List.length_map] at inSelected
  simp [researchOne, List.getElem?_eq_getElem inSelected]

/--
In every interleaving of the researchers at most as many run at once as the cap
allows, none waits forever, and the node writes the bundles of the sequential
fan-out, whoever finishes first.
-/
theorem fanOut_any_interleaving
    {env : StepEnv}
    {state : GraphState}
    {override : Option Int}
    {selected : List String}
    {rs : ResearchState}
    {moves : List (GatherMove (Option EvidenceBundle))}
    {final : Gather (Option EvidenceBundle)}
    (selects :
      selectResearchIssues env state.researchState = some (selected, rs))
    (ends :
      ∀ move ∈ moves,
        Gather.GatherMove.Ends (researchOne env.brains rs selected) move)
    (ran : exec Gather.step (fanOutStart override selected) moves = some final) :
    final.inside ≤ SdkClient.maxConcurrent override ∧
      moves.length ≤ 3 * selected.length ∧
      (final.AllDone ∨
        ∃ move next,
          final.step move = some next ∧
            Gather.GatherMove.Ends (researchOne env.brains rs selected) move) ∧
      (final.AllDone →
        nodeResearchFanout env state =
          some
            { researchState := rs
              workerResults := some (critiquedBundles env.brains final) }) := by
  obtain ⟨capped, bounded, progress, results⟩ :=
    Gather.gathered_of_run (maxConcurrent_pos override) ends ran
  refine ⟨capped, bounded, progress, fun done => ?_⟩
  have gathered :
      final.results.filterMap id =
        selected.filterMap fun issueId =>
          env.brains.researcher (buildWorkerProxy rs issueId) issueId := by
    rw [results done, map_researchOne, List.filterMap_map]
    rfl
  simp only [nodeResearchFanout, selects, Option.map_some, runResearchFanout,
    critiquedBundles, gathered]

end FanOut

/-- Two issues that wait for research. -/
private def twoIssuesState : GraphState where
  researchState :=
    { runId := "run"
      originalQuestion := "question"
      issueMap :=
        ((∅ : OrderedMap String IssueNode).insert "ISSUE-001"
          { id := "ISSUE-001"
            title := "first"
            description := ""
            issueType := .market
            status := .open
            impact := 3
            confidence := 2 }).insert "ISSUE-002"
          { id := "ISSUE-002"
            title := "second"
            description := ""
            issueType := .risk
            status := .open
            impact := 3
            confidence := 2 } }

private def echoingEnv : StepEnv :=
  .calm
    { Brains.silent with
      researcher := fun _ issueId =>
        some { query := issueId, issueId := some issueId } }

private def bundleOfIssue (issueId : String) : Option EvidenceBundle :=
  some { query := issueId, issueId := some issueId }

private theorem twoIssues_selected :
    (selectResearchIssues echoingEnv
      twoIssuesState.researchState).isSome = true := by
  decide +kernel

/-- The second researcher finishes before the first one, behind one permit. -/
theorem fanOut_any_interleaving_secondFirst :
    letI := PythonText.ascii
    ∃ selected rs final,
      selectResearchIssues echoingEnv twoIssuesState.researchState =
          some (selected, rs) ∧
        exec Gather.step (fanOutStart (some 1) selected)
            [.enter 1, .enter 0, .finish 1 (bundleOfIssue "ISSUE-002"),
              .resume 0, .finish 0 (bundleOfIssue "ISSUE-001")] =
          some final ∧
        nodeResearchFanout echoingEnv twoIssuesState =
          some
            { researchState := rs
              workerResults :=
                some (critiquedBundles echoingEnv.brains final) } := by
  let _ := PythonText.ascii
  let selection :=
    (selectResearchIssues echoingEnv twoIssuesState.researchState).get
      twoIssues_selected
  have selects :
      selectResearchIssues echoingEnv twoIssuesState.researchState =
        some (selection.1, selection.2) :=
    (Option.some_get twoIssues_selected).symm
  let moves : List (GatherMove (Option EvidenceBundle)) :=
    [.enter 1, .enter 0, .finish 1 (bundleOfIssue "ISSUE-002"), .resume 0,
      .finish 0 (bundleOfIssue "ISSUE-001")]
  let final :=
    (exec Gather.step (fanOutStart (some 1) selection.1) moves).get
      (by decide +kernel)
  have ran :
      exec Gather.step (fanOutStart (some 1) selection.1) moves = some final :=
    (Option.some_get _).symm
  have ends :
      ∀ move ∈ moves,
        Gather.GatherMove.Ends
          (researchOne echoingEnv.brains selection.2 selection.1) move := by
    simp only [moves, List.forall_mem_cons, List.not_mem_nil,
      false_implies, implies_true, and_true, Gather.GatherMove.Ends, true_and]
    decide +kernel
  have done : final.AllDone := by
    have ended :
        ∀ task ∈ final.tasks,
          task = .done (bundleOfIssue "ISSUE-001") ∨
            task = .done (bundleOfIssue "ISSUE-002") := by
      decide +kernel
    exact fun task isTask => (ended task isTask).elim
      (fun first => ⟨_, first⟩) fun second => ⟨_, second⟩
  exact
    ⟨selection.1, selection.2, final, selects, ran,
      (fanOut_any_interleaving selects ends ran).2.2.2 done⟩

end ResearchCos
