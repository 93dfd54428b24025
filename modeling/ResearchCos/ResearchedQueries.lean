import ResearchCos.ExpansionFlag
import ResearchCos.IssueSelection
import ResearchCos.MintedIds

namespace ResearchCos

open Foundation

/-!
# A query is researched once

The titles of the selected issues are remembered after the selection, and a
remembered title is never selected again.  Within one selection nothing is
remembered yet, so two issues with one title may be selected together.
-/

/-! ## What the selection depends on -/

/-- Issues whose names stay the same. -/
theorem names_of_keys
    {before after : ResearchState}
    (keys : after.issueMap.keys = before.issueMap.keys) :
    ∀ issueId ∈ after.issueMap.keys,
      issueId ∈ before.issueMap.keys ∨ ∃ n, issueId = IssueMap.issueId n :=
  fun _ member => Or.inl (keys ▸ member)

/-- Remembered queries and planned cells stay; new issues have minted names. -/
structure KeepsSelection (before after : ResearchState) : Prop where
  queries : after.researchedQueries = before.researchedQueries
  grid : after.taskGrid = before.taskGrid
  names :
    ∀ issueId ∈ after.issueMap.keys,
      issueId ∈ before.issueMap.keys ∨ ∃ n, issueId = IssueMap.issueId n

namespace KeepsSelection

theorem refl
    (rs : ResearchState) :
    KeepsSelection rs rs :=
  ⟨rfl, rfl, names_of_keys rfl⟩

theorem trans
    {first second third : ResearchState}
    (earlier : KeepsSelection first second)
    (later : KeepsSelection second third) :
    KeepsSelection first third :=
  ⟨later.queries.trans earlier.queries, later.grid.trans earlier.grid,
    fun issueId member =>
      (later.names issueId member).elim (earlier.names issueId) Or.inr⟩

/-- Adding an issue. -/
theorem of_add
    {rs after : ResearchState}
    {title description now : String}
    {issueType : IssueType}
    {status : IssueStatus}
    {impact confidence : Int}
    (added :
      IssueMap.add rs title description issueType status now impact
        confidence = some after) :
    KeepsSelection rs after := by
  obtain ⟨node, _, _, rfl⟩ := IssueMap.add_eq_some added
  refine ⟨rfl, rfl, fun issueId member => ?_⟩
  rw [OrderedMap.keys_insert] at member
  split at member
  · exact Or.inl member
  · rcases List.mem_append.mp member with known | minted
    · exact Or.inl known
    · exact Or.inr ⟨_, List.mem_singleton.mp minted⟩

/-- Setting the status of an issue. -/
theorem of_setStatus
    {rs after : ResearchState}
    {issueId now : String}
    {status : IssueStatus}
    (set : IssueMap.setStatus rs issueId status now = some after) :
    KeepsSelection rs after := by
  rw [IssueMap.setStatus_eq_some set]
  exact ⟨rfl, rfl, names_of_keys (OrderedMap.keys_modify _ _ _)⟩

/-- Adding issues keeps the queries. -/
theorem relatesAdded : RelatesAdded KeepsSelection :=
  ⟨refl, .trans, .of_add⟩

end KeepsSelection

theorem consumeSteerEvents_keepsSelection
    (rs : ResearchState) :
    KeepsSelection rs (consumeSteerEvents rs) :=
  ⟨rfl, rfl, names_of_keys (keys_consumeSteers _ _)⟩

/-- What a node may do to the queries, the cells and the names of issues. -/
structure NodeSelection
    (node : Node)
    (state : GraphState)
    (update : Update) : Prop where
  queries :
    node ≠ .researchFanout →
      update.researchState.researchedQueries =
        state.researchState.researchedQueries
  grid :
    node ≠ .orchestratorPlan → node ≠ .collect →
      update.researchState.taskGrid = state.researchState.taskGrid
  names :
    ∀ issueId ∈ update.researchState.issueMap.keys,
      issueId ∈ state.researchState.issueMap.keys ∨
        ∃ n, issueId = IssueMap.issueId n

/-- Most nodes keep what the selection depends on. -/
theorem KeepsSelection.node
    {node : Node}
    {state : GraphState}
    {update : Update}
    (kept : KeepsSelection state.researchState update.researchState) :
    NodeSelection node state update :=
  ⟨fun _ => kept.queries, fun _ _ => kept.grid, kept.names⟩

section Nodes

variable [PythonText]

/-- The review asks for data, and selects nothing. -/
theorem review_keepsSelection
    {env : StepEnv}
    {state : GraphState}
    {world after : World}
    {rs : ResearchState}
    (built : buildAndGateMemo env state world = some (rs, after)) :
    KeepsSelection state.researchState rs := by
  obtain ⟨tasks, log, memo, rfl, _⟩ := buildAndGateMemo_eq_some built
  exact ⟨rfl, rfl, names_of_keys rfl⟩

/-- Only the fan-out remembers queries, and issues have minted names. -/
theorem NodeUpdate.selects
    {env : StepEnv}
    {state : GraphState}
    {world after : World}
    {node : Node}
    {update : Update}
    (written : NodeUpdate env state world node update after) :
    NodeSelection node state update := by
  cases written with
  | intake
  | scopeChecked
  | clarified
  | clarifyAssumed
  | clarifyAnswered
  | briefKept
  | briefWritten
  | planAuditKept
  | planAudited
  | planAssumed
  | planKept
  | planAnswered
  | scored
  | explained
  | decided
  | pullDefaulted
  | pullAnswered
  | pushedNothing
  | deepAuditKept
  | deepAudited =>
      exact ⟨fun _ => rfl, fun _ _ => rfl, names_of_keys rfl⟩
  | issuesPlanned rs expanded
  | cellsPlanned rs _ _ expanded =>
      have kept : KeepsSelection state.researchState rs :=
        (consumeSteerEvents_keepsSelection _).trans
          (KeepsSelection.relatesAdded.expandIssues expanded)
      exact
        ⟨fun _ => kept.queries, fun other => absurd rfl other, kept.names⟩
  | issuesExpanded rs expanded =>
      exact (KeepsSelection.relatesAdded.expandIssues expanded).node
  | supervised =>
      exact (consumeSteerEvents_keepsSelection _).node
  | researched =>
      exact ⟨fun other => absurd rfl other, fun _ _ => rfl, fun _ => Or.inl⟩
  | collected =>
      exact
        ⟨fun _ => rfl, fun _ other => absurd rfl other,
          names_of_keys (keys_advanceIssues _ _ _)⟩
  | argued
  | audited
  | noted =>
      exact
        ⟨fun _ => rfl, fun _ _ => rfl,
          names_of_keys (OrderedMap.keys_mapEntries _ _)⟩
  | branched budget =>
      exact
        (KeepsSelection.relatesAdded.materializeCompetitor _ _ budget).node
  | pushed _ _ blocked _ _ isBlocked =>
      have kept := KeepsSelection.of_setStatus isBlocked
      refine
        ⟨fun _ => kept.queries, fun _ _ => kept.grid, fun issueId member =>
          kept.names issueId ?_⟩
      rw [← OrderedMap.keys_modify blocked.issueMap]
      exact member
  | reviewBuilt _ _ built =>
      exact (review_keepsSelection built).node
  | reviewPassed _ _ _ built
  | reviewAnswered _ _ _ built =>
      have kept := review_keepsSelection built
      exact ⟨fun _ => kept.queries, fun _ _ => kept.grid, kept.names⟩

end Nodes

/-! ## Selected titles -/

/-- The query that an issue stands for: its title. -/
def queryOf (rs : ResearchState) (issueId : String) : Option String :=
  (rs.issueMap.get? issueId).map IssueNode.title

/-- What is worth a search, among the issues that the supervisor names. -/
def namedCandidates (env : StepEnv) (rs : ResearchState) : List Candidate :=
  match env.brains.supervisor rs with
  | none => []
  | some rawIds => researchCandidates rs rawIds

/-- The titles of the issues that a step selects. -/
def selectedTitles (execution : Execution) (env : StepEnv) : List String :=
  if execution.control.node? = some .researchFanout then
    match selectResearchIssues env execution.graph.researchState with
    | none => []
    | some (selected, _) =>
        selected.filterMap (queryOf execution.graph.researchState)
  else
    []

/--
Of two issues that the supervisor names and that are worth a search under one
title, at least one has too many others ahead of it to be selected.
-/
def TitlesApart (execution : Execution) (env : StepEnv) : Prop :=
  execution.control.node? = some .researchFanout →
    ∀ first ∈ (namedCandidates env execution.graph.researchState).zipIdx,
      ∀ second ∈ (namedCandidates env execution.graph.researchState).zipIdx,
        first.2 < second.2 →
        queryOf execution.graph.researchState first.1.issueId =
          queryOf execution.graph.researchState second.1.issueId →
        env.maxResearchPerIter ≤
            StableSort.rank Candidate.precedes
              (namedCandidates env execution.graph.researchState) first ∨
          env.maxResearchPerIter ≤
            StableSort.rank Candidate.precedes
              (namedCandidates env execution.graph.researchState) second

instance (execution : Execution) (env : StepEnv) :
    Decidable (TitlesApart execution env) :=
  inferInstanceAs (Decidable (_ → _))

/-- One selected issue after the other is remembered. -/
def rememberQuery
    (rs : ResearchState)
    (known : List String)
    (issueId : String) : List String :=
  match rs.issueMap.get? issueId with
  | none => known
  | some node =>
      if node.title ∈ known then known else known ++ [node.title]

/-- Nothing is forgotten, and every selected title is remembered. -/
theorem mem_foldl_rememberQuery
    {rs : ResearchState}
    {selected known : List String}
    {title : String}
    (member :
      title ∈ known ∨ title ∈ selected.filterMap (queryOf rs)) :
    title ∈ selected.foldl (rememberQuery rs) known := by
  induction selected generalizing known with
  | nil =>
      simpa using member
  | cons issueId rest inductionHypothesis =>
      refine inductionHypothesis ?_
      rcases member with before | isSelected
      · refine Or.inl ?_
        unfold rememberQuery
        repeat' split
        all_goals first
          | exact before
          | exact List.mem_append_left _ before
      · rw [List.filterMap_cons] at isSelected
        cases found : rs.issueMap.get? issueId with
        | none =>
            simp only [queryOf, found, Option.map_none] at isSelected
            exact Or.inr isSelected
        | some node =>
            simp only [queryOf, found, Option.map_some,
              List.mem_cons] at isSelected
            rcases isSelected with rfl | later
            · refine Or.inl ?_
              simp only [rememberQuery, found]
              split
              · assumption
              · exact List.mem_append_right _ List.mem_cons_self
            · exact Or.inr later

/-- The selection ranks what is named, and remembers what it selects. -/
theorem selectResearchIssues_eq_some
    {env : StepEnv}
    {rs after : ResearchState}
    {selected : List String}
    (selects : selectResearchIssues env rs = some (selected, after)) :
    selected =
        (((namedCandidates env rs).insertionSort Candidate.precedes).take
          env.maxResearchPerIter).map Candidate.issueId ∧
      after.researchedQueries =
        selected.foldl (rememberQuery rs) rs.researchedQueries := by
  obtain ⟨rawIds, named, shape⟩ := Option.map_eq_some_iff.mp selects
  cases shape
  refine ⟨?_, rfl⟩
  simp only [namedCandidates, named]

/-- A candidate stands for a query that was not researched. -/
theorem query_of_namedCandidate
    {env : StepEnv}
    {rs : ResearchState}
    {candidate : Candidate}
    (member : candidate ∈ namedCandidates env rs) :
    ∃ title,
      queryOf rs candidate.issueId = some title ∧
        title ∉ rs.researchedQueries := by
  unfold namedCandidates at member
  split at member
  · cases member
  · obtain ⟨_, node, found, _, isNew, _⟩ := mem_researchCandidates member
    exact ⟨node.title, by rw [queryOf, found]; rfl, isNew⟩

/-- The selected titles are those of the best candidates. -/
theorem map_some_titles
    {env : StepEnv}
    {rs after : ResearchState}
    {selected : List String}
    (selects : selectResearchIssues env rs = some (selected, after)) :
    (selected.filterMap (queryOf rs)).map some =
      (((namedCandidates env rs).insertionSort Candidate.precedes).take
        env.maxResearchPerIter).map
          fun candidate => queryOf rs candidate.issueId := by
  rw [(selectResearchIssues_eq_some selects).1]
  have allNamed :
      ∀ candidate ∈
        ((namedCandidates env rs).insertionSort Candidate.precedes).take
          env.maxResearchPerIter,
        candidate ∈ namedCandidates env rs :=
    fun candidate member =>
      (List.mem_insertionSort _).mp (List.mem_of_mem_take member)
  generalize
    ((namedCandidates env rs).insertionSort Candidate.precedes).take
      env.maxResearchPerIter = best at allNamed
  induction best with
  | nil =>
      rfl
  | cons candidate rest inductionHypothesis =>
      obtain ⟨title, isTitle, _⟩ :=
        query_of_namedCandidate (allNamed candidate List.mem_cons_self)
      rw [List.map_cons, List.filterMap_cons_some isTitle, List.map_cons,
        inductionHypothesis fun other member =>
          allNamed other (List.mem_cons_of_mem _ member),
        List.map_cons, isTitle]

/-- Together the selected titles are distinct when the best ones are apart. -/
theorem nodup_selectedTitles_iff
    (execution : Execution)
    (env : StepEnv) :
    (selectedTitles execution env).Nodup ↔ TitlesApart execution env := by
  by_cases atFanout : execution.control.node? = some .researchFanout
  · rw [selectedTitles, if_pos atFanout]
    cases selects : selectResearchIssues env execution.graph.researchState with
    | none =>
        have noNames :
            namedCandidates env execution.graph.researchState = [] := by
          rw [selectResearchIssues, Option.map_eq_none_iff] at selects
          rw [namedCandidates, selects]
        refine iff_of_true List.nodup_nil fun _ first isFirst => ?_
        rw [noNames] at isFirst
        cases isFirst
    | some result =>
        obtain ⟨selected, after⟩ := result
        rw [← List.nodup_map_iff (Option.some_injective String),
          map_some_titles selects,
          StableSort.nodup_take_insertionSort_iff]
        exact ⟨fun apart _ => apart, fun apart => apart atFanout⟩
  · rw [selectedTitles, if_neg atFanout]
    exact
      iff_of_true List.nodup_nil fun isFanout => absurd isFanout atFanout

/-- What is selected was not researched before. -/
theorem selectedTitles_new
    {execution : Execution}
    {env : StepEnv}
    {title : String}
    (member : title ∈ selectedTitles execution env) :
    title ∉ execution.graph.researchState.researchedQueries := by
  unfold selectedTitles at member
  split at member
  · cases selects : selectResearchIssues env execution.graph.researchState with
    | none =>
        rw [selects] at member
        cases member
    | some result =>
        obtain ⟨selected, after⟩ := result
        rw [selects] at member
        have isBest := List.mem_map_of_mem (f := some) member
        rw [map_some_titles selects] at isBest
        obtain ⟨candidate, isTaken, isTitle⟩ := List.mem_map.mp isBest
        obtain ⟨other, isOther, isNew⟩ :=
          query_of_namedCandidate
            ((List.mem_insertionSort _).mp (List.mem_of_mem_take isTaken))
        cases isTitle.symm.trans isOther
        exact isNew
  · cases member

section Runs

variable [PythonText]

omit [PythonText] in
/-- Following an edge forgets no query. -/
theorem successor_queries
    (cap : Option ActiveCap)
    (state : GraphState)
    (node : Node) :
    (successor cap state node).2.researchState.researchedQueries =
      state.researchState.researchedQueries := by
  rcases successor_state cap state node with same | recorded
  · rw [same]
  · rw [recorded]
    rfl

/-- After a fan-out the selected titles are remembered, too. -/
theorem visit_fanout_remembers
    {env : StepEnv}
    {execution : Execution}
    {title : String}
    (atFanout : execution.control.node? = some .researchFanout)
    (member :
      title ∈ execution.graph.researchState.researchedQueries ∨
        title ∈ selectedTitles execution env) :
    title ∈
      (visit env .researchFanout
        execution).graph.researchState.researchedQueries := by
  rw [selectedTitles, if_pos atFanout] at member
  cases selects : selectResearchIssues env execution.graph.researchState with
  | none =>
      rw [selects] at member
      simp only [visit, runNode, nodeResearchFanout, selects, Option.map_none,
        NodeResult.ofOption, conclude]
      exact member.resolve_right List.not_mem_nil
  | some result =>
      obtain ⟨selected, after⟩ := result
      rw [selects] at member
      simp only [visit, runNode, nodeResearchFanout, selects, Option.map_some,
        NodeResult.ofOption, conclude, successor_queries]
      change title ∈ after.researchedQueries
      rw [(selectResearchIssues_eq_some selects).2]
      exact mem_foldl_rememberQuery member

/-- A step forgets no query, and remembers what it selects. -/
theorem step_remembers
    {execution next : Execution}
    {env : StepEnv}
    {title : String}
    (stepped : step execution env = some next)
    (member :
      title ∈ execution.graph.researchState.researchedQueries ∨
        title ∈ selectedTitles execution env) :
    title ∈ next.graph.researchState.researchedQueries := by
  obtain ⟨node, seen, visits, rfl⟩ := step_visits stepped
  by_cases fansOut : node = .researchFanout
  · subst fansOut
    have sameTitles :
        selectedTitles execution seen = selectedTitles execution env := by
      rw [visits.seen_eq]
      rfl
    rw [← sameTitles] at member
    exact visit_fanout_remembers visits.node? member
  · have selectsNothing : selectedTitles execution env = [] := by
      refine if_neg fun atFanout => fansOut ?_
      exact Option.some.inj (visits.node?.symm.trans atFanout)
    rw [selectsNothing] at member
    have known := member.resolve_right List.not_mem_nil
    rcases visit_cases seen node execution with
      ⟨world, raised⟩ | ⟨ask, world, _, paused⟩ | ⟨update, world, ran, moved⟩
    · rw [raised]
      exact known
    · rw [paused]
      exact known
    · have selects := (runNode_updates ran).selects
      rw [moved]
      simp only [successor_queries]
      change title ∈ update.researchState.researchedQueries
      rw [selects.queries fansOut]
      exact known

/-- Every title that was selected so far is remembered. -/
theorem selectedTitles_remembered
    {initial final : Execution}
    {labels : List StepEnv}
    (ran : exec step initial labels = some final) :
    ∀ title ∈ observe step selectedTitles initial labels,
      title ∈ final.graph.researchState.researchedQueries := by
  refine
    exec_induction
      (motive := fun labels state =>
        ∀ title ∈ observe step selectedTitles initial labels,
          title ∈ state.graph.researchState.researchedQueries)
      (fun _ member => by cases member) ?_ ran
  intro labels state env next reached before stepped title member
  rw [observe_snoc selectedTitles reached env] at member
  refine step_remembers stepped ?_
  exact (List.mem_append.mp member).imp_left (before title)

/--
In every run, no title is selected twice exactly when at every fan-out no two
issues with one title are both among the best that are named.
-/
theorem selectedTitles_nodup_iff
    {initial final : Execution}
    {labels : List StepEnv}
    (ran : exec step initial labels = some final) :
    (observe step selectedTitles initial labels).Nodup ↔
      AllSteps step TitlesApart initial labels := by
  refine
    exec_induction
      (motive := fun labels _ =>
        (observe step selectedTitles initial labels).Nodup ↔
          AllSteps step TitlesApart initial labels)
      ?_ ?_ ran
  · exact iff_of_true List.nodup_nil (allSteps_nil TitlesApart initial)
  · intro labels state env next reached before stepped
    rw [observe_snoc selectedTitles reached env, List.nodup_append,
      nodup_selectedTitles_iff, before]
    constructor
    · rintro ⟨apartBefore, apartNow, _⟩
      exact AllSteps.snoc apartBefore reached apartNow
    · intro apart
      refine ⟨apart.of_append, apart.last reached, ?_⟩
      rintro earlier isEarlier later isLater rfl
      exact
        selectedTitles_new isLater
          (selectedTitles_remembered reached earlier isEarlier)

end Runs

/-- A fresh run with a brief that is assumed. -/
private def untitledRun : Execution where
  graph :=
    { researchState := { runId := "run", originalQuestion := "question" }
      config := { assumeBrief := true } }
  control := .at .intake
  world := {}

private def draftOf (title : String) : IssueDraft where
  title := title
  description := title
  issueType := .market
  impact := 3
  confidence := 2

/-- Surroundings whose expander proposes issues with the given titles. -/
private def entitled (titles : List String) : StepEnv :=
  .calm
    { Brains.silent with
      issueExpander := fun _ => some (titles.map draftOf)
      supervisor := fun rs => some (SupervisorStub.select rs) }

/-- Two issues with one title are selected together. -/
theorem sameTitle_selectedTwice :
    letI := PythonText.ascii
    ∃ final,
      exec step untitledRun
          (List.replicate 9 (entitled ["market", "market"])) =
        some final ∧
      observe step selectedTitles untitledRun
          (List.replicate 9 (entitled ["market", "market"])) =
        ["market", "market"] ∧
      ¬(observe step selectedTitles untitledRun
        (List.replicate 9 (entitled ["market", "market"]))).Nodup := by
  let _ := PythonText.ascii
  have ran :
      (exec step untitledRun
        (List.replicate 9 (entitled ["market", "market"]))).isSome = true := by
    decide +kernel
  have titles :
      observe step selectedTitles untitledRun
          (List.replicate 9 (entitled ["market", "market"])) =
        ["market", "market"] := by
    decide +kernel
  refine ⟨_, (Option.some_get ran).symm, titles, ?_⟩
  rw [titles]
  decide

private theorem twoTitles_apart :
    letI := PythonText.ascii
    AllSteps step TitlesApart untitledRun
      (List.replicate 9 (entitled ["market", "roi"])) := by
  decide +kernel

/-- Issues with different titles are selected once. -/
theorem twoTitles_selectedOnce :
    letI := PythonText.ascii
    observe step selectedTitles untitledRun
          (List.replicate 9 (entitled ["market", "roi"])) =
        ["market", "roi"] ∧
      (observe step selectedTitles untitledRun
        (List.replicate 9 (entitled ["market", "roi"]))).Nodup := by
  let _ := PythonText.ascii
  have ran :
      (exec step untitledRun
        (List.replicate 9 (entitled ["market", "roi"]))).isSome = true := by
    decide +kernel
  have titles :
      observe step selectedTitles untitledRun
          (List.replicate 9 (entitled ["market", "roi"])) =
        ["market", "roi"] := by
    decide +kernel
  exact
    ⟨titles,
      (selectedTitles_nodup_iff (Option.some_get ran).symm).mpr
        twoTitles_apart⟩

end ResearchCos
