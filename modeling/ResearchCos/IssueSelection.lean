import ResearchCos.Foundation.StableSort
import ResearchCos.GraphNodes

namespace ResearchCos

open Foundation

/-!
# The issues of a round

The supervisor names the first four issues that more research can answer.  The
selection ranks what is left of them once the queries that were researched are
taken out, so an issue further back in the map is never ranked at all.
-/

namespace SupervisorStub

/-- How many issues the supervisor names at most. -/
def maxConcurrent : Nat :=
  4

/-- The identifiers of the addressable issues, in the order of the map. -/
def addressableIds (rs : ResearchState) : List String :=
  (rs.issueMap.values.filter fun node =>
    Exhaustion.isAddressable node.status).map IssueNode.id

def select (rs : ResearchState) : List String :=
  (addressableIds rs).take maxConcurrent

end SupervisorStub

/-! ## The order of the candidates -/

instance : Std.Total Candidate.precedes where
  total first second := by
    unfold Candidate.precedes
    cases first.hasChallenge <;> cases second.hasChallenge <;>
      simp [le_total]

instance : IsTrans Candidate Candidate.precedes where
  trans first second third := by
    unfold Candidate.precedes
    cases first.hasChallenge <;> cases second.hasChallenge <;>
      cases third.hasChallenge <;> simp <;> omega

/-! ## What is worth a search -/

/-- All issues that are worth a search, in the order of the map. -/
def eligibleCandidates (rs : ResearchState) : List Candidate :=
  researchCandidates rs rs.issueMap.keys

/-- The best issues of the whole map. -/
def bestIssues (count : Nat) (rs : ResearchState) : List String :=
  (((eligibleCandidates rs).insertionSort Candidate.precedes).take
    count).map Candidate.issueId

/-- A candidate stands under the identifier that was looked up. -/
theorem mem_researchCandidates
    {rs : ResearchState}
    {rawIds : List String}
    {candidate : Candidate}
    (member : candidate ∈ researchCandidates rs rawIds) :
    candidate.issueId ∈ rawIds ∧
      ∃ node,
        rs.issueMap.get? candidate.issueId = some node ∧
          Exhaustion.isAddressable node.status = true ∧
          node.title ∉ rs.researchedQueries ∧
          candidate.impact = node.impact := by
  simp only [researchCandidates, List.mem_filterMap,
    Option.bind_eq_some_iff, Option.ite_none_left_eq_some, not_or,
    Option.some.injEq] at member
  obtain ⟨issueId, isRaw, node, isNode, ⟨notClosed, isNew⟩, rfl⟩ := member
  refine ⟨isRaw, node, isNode, ?_, isNew, rfl⟩
  simpa [answeredOrBlocked] using notClosed

/-- What the selection makes of one identifier. -/
def candidate? (rs : ResearchState) (issueId : String) : Option Candidate :=
  (researchCandidates rs [issueId]).head?

/-- The candidates are found one by one. -/
theorem researchCandidates_eq
    (rs : ResearchState)
    (rawIds : List String) :
    researchCandidates rs rawIds = rawIds.filterMap (candidate? rs) := by
  refine List.filterMap_congr fun issueId _ => ?_
  simp only [candidate?, researchCandidates, List.filterMap_cons,
    List.filterMap_nil]
  split
  · rename_i nothing
    rw [nothing]
    rfl
  · rename_i found
    rw [found]
    rfl

theorem issueId_of_candidate?
    {rs : ResearchState}
    {issueId : String}
    {candidate : Candidate}
    (found : candidate? rs issueId = some candidate) :
    candidate.issueId = issueId :=
  List.mem_singleton.mp
    (mem_researchCandidates (List.mem_of_head? found)).1

/-- Naming fewer issues filters the candidates. -/
theorem researchCandidates_filter
    (rs : ResearchState)
    (keep : String → Bool)
    (rawIds : List String) :
    researchCandidates rs (rawIds.filter keep) =
      (researchCandidates rs rawIds).filter fun candidate =>
        keep candidate.issueId := by
  rw [researchCandidates_eq, researchCandidates_eq]
  induction rawIds with
  | nil =>
      rfl
  | cons issueId rest inductionHypothesis =>
      cases found : candidate? rs issueId with
      | none =>
          rw [List.filterMap_cons_none found, ← inductionHypothesis,
            List.filter_cons]
          split
          · rw [List.filterMap_cons_none found]
          · rfl
      | some candidate =>
          rw [List.filterMap_cons_some found, List.filter_cons,
            List.filter_cons, issueId_of_candidate? found,
            ← inductionHypothesis]
          split
          · rw [List.filterMap_cons_some found]
          · rfl

/-- In a map that is keyed by its issues their identifiers are the keys. -/
theorem ids_eq_keys
    {rs : ResearchState}
    (keyed : OrderedMap.KeyedBy IssueNode.id rs.issueMap) :
    rs.issueMap.values.map IssueNode.id = rs.issueMap.keys := by
  rw [OrderedMap.values, OrderedMap.keys, List.map_map]
  exact
    List.map_congr_left fun entry member =>
      keyed entry.1 entry.2 (OrderedMap.get?_of_mem_entries member)

/-- A part of a list without repetitions is what a filter for it keeps. -/
theorem filter_mem_of_sublist
    {part whole : List String}
    (distinct : whole.Nodup)
    (within : part.Sublist whole) :
    whole.filter (fun item => decide (item ∈ part)) = part := by
  induction within with
  | slnil =>
      rfl
  | @cons part whole head within inductionHypothesis =>
      rw [List.nodup_cons] at distinct
      have notIn : head ∉ part := fun member =>
        distinct.1 (within.subset member)
      rw [List.filter_cons_of_neg (by simpa using notIn)]
      exact inductionHypothesis distinct.2
  | @cons_cons part whole head within inductionHypothesis =>
      rw [List.nodup_cons] at distinct
      rw [List.filter_cons_of_pos (by simp)]
      refine congrArg _ ?_
      refine Eq.trans ?_ (inductionHypothesis distinct.2)
      refine List.filter_congr fun item member => ?_
      have other : item ≠ head := fun same => distinct.1 (same ▸ member)
      simp [other]

/-- The supervisor names issues of the map, in its order. -/
theorem select_sublist_keys
    {rs : ResearchState}
    (keyed : OrderedMap.KeyedBy IssueNode.id rs.issueMap) :
    (SupervisorStub.select rs).Sublist rs.issueMap.keys := by
  rw [← ids_eq_keys keyed]
  exact
    (List.take_sublist _ _).trans (List.filter_sublist.map IssueNode.id)

/-! ## Selecting the best -/

/-- The selection is the best of the whole map, and never starves. -/
def SelectsBest (env : StepEnv) (rs : ResearchState) : Prop :=
  ∃ selected after,
    selectResearchIssues env rs = some (selected, after) ∧
      selected = bestIssues env.maxResearchPerIter rs ∧
      (eligibleCandidates rs ≠ [] → selected ≠ [])

/--
The selection takes the best of the whole map exactly when each of them is one
of the first four addressable issues.
-/
theorem selectsBest_iff
    {env : StepEnv}
    {rs : ResearchState}
    (keyed : OrderedMap.KeyedBy IssueNode.id rs.issueMap)
    (stub :
      env.brains.supervisor = fun state => some (SupervisorStub.select state))
    (some_ : 1 ≤ env.maxResearchPerIter) :
    SelectsBest env rs ↔
      ∀ issueId ∈ bestIssues env.maxResearchPerIter rs,
        issueId ∈ SupervisorStub.select rs := by
  have distinct : rs.issueMap.keys.Nodup := rs.issueMap.nodupKeys
  have named :
      researchCandidates rs (SupervisorStub.select rs) =
        (eligibleCandidates rs).filter fun candidate =>
          decide (candidate.issueId ∈ SupervisorStub.select rs) := by
    rw [eligibleCandidates, ← researchCandidates_filter rs fun issueId =>
        decide (issueId ∈ SupervisorStub.select rs),
      filter_mem_of_sublist distinct (select_sublist_keys keyed)]
  have selects (selected : List String) :
      (∃ after, selectResearchIssues env rs = some (selected, after)) ↔
        selected =
          ((((eligibleCandidates rs).filter fun candidate =>
              decide (candidate.issueId ∈ SupervisorStub.select rs)).insertionSort
            Candidate.precedes).take
              env.maxResearchPerIter).map Candidate.issueId := by
    simp only [selectResearchIssues, stub, Option.map_some, named,
      Option.some.injEq, Prod.mk.injEq, exists_and_left, exists_eq',
      and_true]
    exact eq_comm
  constructor
  · rintro ⟨selected, after, isSelected, isBest, _⟩ issueId member
    rw [← isBest, (selects selected).mp ⟨after, isSelected⟩] at member
    obtain ⟨candidate, isTaken, rfl⟩ := List.mem_map.mp member
    have isNamed :=
      (List.mem_insertionSort _).mp (List.mem_of_mem_take isTaken)
    exact of_decide_eq_true (List.mem_filter.mp isNamed).2
  · intro amongFirst
    have sameBest :=
      (StableSort.take_insertionSort_filter_iff Candidate.precedes
        (fun candidate =>
          decide (candidate.issueId ∈ SupervisorStub.select rs))
        (eligibleCandidates rs) env.maxResearchPerIter).mpr
        fun candidate isTaken =>
          decide_eq_true
            (amongFirst _ (List.mem_map_of_mem isTaken))
    obtain ⟨after, isSelected⟩ := (selects _).mpr rfl
    rw [sameBest] at isSelected
    refine ⟨_, after, isSelected, rfl, ?_⟩
    intro something nothing
    have noLength := congrArg List.length nothing
    rw [List.length_map, List.length_take, List.length_insertionSort,
      List.length_nil] at noLength
    have positive := List.length_pos_iff.mpr something
    omega

private def issue (number title : String) (impact : Int) : IssueNode where
  id := number
  title := title
  description := title
  issueType := .technical
  status := .open
  impact := impact
  confidence := 1

/-- Five open issues, of which the first four were researched. -/
private def fiveIssues : ResearchState where
  runId := "run"
  originalQuestion := "question"
  issueMap :=
    ((((((∅ : OrderedMap String IssueNode).insert "I-001"
      (issue "I-001" "intent" 3)).insert "I-002"
      (issue "I-002" "roi" 3)).insert "I-003"
      (issue "I-003" "risk" 3)).insert "I-004"
      (issue "I-004" "market" 3)).insert "I-005"
      (issue "I-005" "competitor" 5))
  researchedQueries := ["intent", "roi", "risk", "market"]

private def stubbed : StepEnv :=
  .calm
    { Brains.silent with
      supervisor := fun rs => some (SupervisorStub.select rs) }

/-- The fifth issue is never selected, although it is the best one. -/
theorem fifthIssue_starves :
    (selectResearchIssues stubbed fiveIssues).map Prod.fst = some [] ∧
      bestIssues 3 fiveIssues = ["I-005"] ∧
      ¬SelectsBest stubbed fiveIssues := by
  have nothing :
      (selectResearchIssues stubbed fiveIssues).map Prod.fst = some [] := by
    decide +kernel
  have best : bestIssues 3 fiveIssues = ["I-005"] := by
    decide +kernel
  refine ⟨nothing, best, ?_⟩
  rintro ⟨selected, after, isSelected, isBest, _⟩
  rw [isSelected] at nothing
  cases nothing
  cases isBest.trans best

/-- The first two of the issues, before anything was researched. -/
private def twoIssues : ResearchState where
  runId := "run"
  originalQuestion := "question"
  issueMap :=
    ((∅ : OrderedMap String IssueNode).insert "I-001"
      (issue "I-001" "intent" 3)).insert "I-002" (issue "I-002" "roi" 4)

private theorem twoIssues_keyed :
    OrderedMap.KeyedBy IssueNode.id twoIssues.issueMap := by
  unfold twoIssues
  refine OrderedMap.KeyedBy.insert (OrderedMap.KeyedBy.insert ?_ rfl) rfl
  exact OrderedMap.keyedBy_empty _

/-- Of two issues the better one is selected first. -/
theorem twoIssues_selectsBest :
    bestIssues 3 twoIssues = ["I-002", "I-001"] ∧
      SelectsBest stubbed twoIssues :=
  ⟨by decide +kernel,
    (selectsBest_iff twoIssues_keyed rfl (by decide)).mpr (by decide +kernel)⟩

end ResearchCos
