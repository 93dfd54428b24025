import ResearchCos.RealBrains

namespace ResearchCos

open Foundation

/-!
# Ratings that are assigned without a check

Two brains write an integer of their model into a field without a check: the
source critic assigns the confidence of a claim, and the orchestrator rates a
cell whose type knows no bounds.  A run keeps every rating within its bounds as
long as these integers are.
-/

/-! ## The ratings of the critic -/

/-- The confidence that is assigned last to the claim at a position. -/
def lastRating (position : Nat) : List RatedClaim → Option Int
  | [] => none
  | rated :: later =>
      (lastRating position later).or
        (if rated.index = some (position : Int) then
          rated.confidence
        else
          none)

/-- The critic leaves every claim of a bundle with a rating within the bounds. -/
def RawCritique.RatesInRange
    (critique : RawCritique)
    (bundle : EvidenceBundle) : Prop :=
  ∀ position < bundle.claims.length,
    ∀ rating ∈ lastRating position critique.claims, InRange rating

/-- One rating concerns the claim at its index. -/
theorem confidence_rateClaim
    (claims : List Claim)
    (rated : RatedClaim)
    (position : Nat) :
    (RealSourceCritic.rateClaim claims rated)[position]?.map Claim.confidence =
      claims[position]?.map fun claim =>
        (if rated.index = some (position : Int) then
          rated.confidence
        else
          none).getD claim.confidence := by
  rw [RealSourceCritic.getElem?_rateClaim, Option.map_map]
  congr 1
  funext claim
  by_cases here : rated.index = some (position : Int)
  · simp [here]
  · simp [here]

/-- All ratings leave a claim with the last one that is given for it. -/
theorem confidence_foldl_rateClaim
    (ratings : List RatedClaim)
    (claims : List Claim)
    (position : Nat) :
    (ratings.foldl RealSourceCritic.rateClaim claims)[position]?.map
        Claim.confidence =
      claims[position]?.map fun claim =>
        (lastRating position ratings).getD claim.confidence := by
  induction ratings generalizing claims with
  | nil =>
      rfl
  | cons rated later inductionHypothesis =>
      have first := confidence_rateClaim claims rated position
      rw [List.foldl_cons, inductionHypothesis]
      calc
        _ =
            ((RealSourceCritic.rateClaim claims rated)[position]?.map
                Claim.confidence).map
              (lastRating position later).getD := by
          rw [Option.map_map]
          rfl
        _ = _ := by
          rw [first, Option.map_map]
          simp only [lastRating, Option.getD_or]
          rfl

/-- A review keeps a bundle within its bounds exactly when its ratings are. -/
theorem review_valid_iff
    {critique : RawCritique}
    {bundle reviewed : EvidenceBundle}
    (valid : bundle.Valid)
    (claims :
      reviewed.claims =
        critique.claims.foldl RealSourceCritic.rateClaim bundle.claims)
    (observations : reviewed.observations = bundle.observations) :
    reviewed.Valid ↔ critique.RatesInRange bundle := by
  have assigned := confidence_foldl_rateClaim critique.claims bundle.claims
  rw [EvidenceBundle.Valid, observations, claims, and_iff_left valid.2]
  constructor
  · intro inRange position within rating isLast
    have here := assigned position
    rw [List.getElem?_eq_getElem within, isLast, Option.map_some,
      Option.getD_some, Option.map_eq_some_iff] at here
    obtain ⟨claim, isClaim, rfl⟩ := here
    exact inRange claim (List.mem_of_getElem? isClaim)
  · intro rates claim member
    obtain ⟨position, isClaim⟩ := List.mem_iff_getElem?.mp member
    have here := assigned position
    rw [isClaim, Option.map_some, eq_comm, Option.map_eq_some_iff] at here
    obtain ⟨known, isKnown, sameConfidence⟩ := here
    obtain ⟨within, _⟩ := List.getElem?_eq_some_iff.mp isKnown
    rw [← sameConfidence]
    cases isLast : lastRating position critique.claims with
    | none =>
        exact valid.1 known (List.mem_of_getElem? isKnown)
    | some rating =>
        exact rates position within rating isLast

section Runs

variable [PythonText]

/-- Ranking and compressing leave the ratings alone. -/
theorem critiqueBundle_valid
    {real : RealBrains}
    {bundle result : EvidenceBundle}
    (valid : bundle.Valid)
    (rates :
      ∀ critique,
        real.critique bundle = some critique → critique.RatesInRange bundle)
    (survives : critiqueBundle real.brains bundle = some result) :
    result.Valid := by
  obtain ⟨reviewed, isReviewed, compresses⟩ :=
    Option.bind_eq_some_iff.mp survives
  have reviewedValid : reviewed.Valid := by
    simp only [RealBrains.brains, RealSourceCritic.review] at isReviewed
    split at isReviewed
    · cases isReviewed
      exact valid
    · obtain ⟨critique, answered, rfl⟩ :=
        Option.map_eq_some_iff.mp isReviewed
      refine (review_valid_iff valid ?_ ?_).mpr (rates critique answered)
      · rfl
      · rfl
  have rankedValid :
      (Ranking.apply real.brains.curator reviewed).Valid := by
    refine ⟨?_, reviewedValid.2⟩
    intro claim member
    obtain ⟨known, isKnown, rfl⟩ := List.mem_map.mp member
    exact reviewedValid.1 known isKnown
  obtain ⟨summary, _, rfl⟩ := Option.map_eq_some_iff.mp compresses
  dsimp only
  split <;> exact rankedValid

/-! ## The cells of the plan -/

/-- Every proposal that is the first under a new name is within the bounds. -/
def NewCellsInRange
    (planned : OrderedMap String TaskCell)
    (proposals : List (Option ProposedCell)) : Prop :=
  ∀ earlier proposed later,
    proposals = earlier ++ some proposed :: later →
    planned.contains proposed.cell.id = false →
    (∀ other, some other ∈ earlier → other.cell.id ≠ proposed.cell.id) →
    proposed.cell.InBounds

omit [PythonText] in
theorem contains_addCell
    (cells : OrderedMap String TaskCell)
    (cell : TaskCell)
    (name : String) :
    (Orchestrator.addCell cells cell).contains name =
      (cells.contains name || decide (cell.id = name)) := by
  simp only [Orchestrator.addCell]
  split
  · rename_i taken
    by_cases same : cell.id = name
    · simp [← same, taken]
    · simp [same]
  · by_cases same : cell.id = name <;>
      simp [OrderedMap.contains, OrderedMap.get?_insert, same]

omit [PythonText] in
/-- A cell is added within the bounds when the first proposal of its name is. -/
theorem addProposals_inBounds
    {proposals : List (Option ProposedCell)}
    {cells after : OrderedMap String TaskCell}
    (inBounds : OrderedMap.AllValues TaskCell.InBounds cells)
    (newInRange : NewCellsInRange cells proposals)
    (added : RealOrchestrator.addProposals proposals cells = some after) :
    OrderedMap.AllValues TaskCell.InBounds after := by
  induction proposals generalizing cells with
  | nil =>
      cases added
      exact inBounds
  | cons proposal rest inductionHypothesis =>
      cases proposal with
      | none =>
          cases added
      | some proposed =>
          refine inductionHypothesis ?_ ?_ added
          · simp only [Orchestrator.addCell]
            split
            · exact inBounds
            · rename_i missing
              refine inBounds.insert ?_
              exact
                newInRange [] proposed rest rfl (by simpa using missing)
                  fun _ member => absurd member List.not_mem_nil
          · intro earlier other later shape isNew firstOfName
            rw [contains_addCell, Bool.or_eq_false_iff,
              decide_eq_false_iff_not] at isNew
            refine
              newInRange (some proposed :: earlier) other later
                (congrArg _ shape) isNew.1 ?_
            intro before member
            rcases List.mem_cons.mp member with isHead | inEarlier
            · cases isHead
              exact isNew.2
            · exact firstOfName before inEarlier

/-! ## Steps whose unchecked integers are in range -/

/-- What the models return for an unchecked field of a node is in range. -/
def AnswersInRange
    (real : RealBrains)
    (env : StepEnv)
    (state : GraphState) : Node → Prop
  | .orchestratorPlan =>
      ∀ proposals,
        real.plan = some proposals →
        NewCellsInRange (Orchestrator.plannedCells state.researchState)
          proposals
  | .researchFanout =>
      ∀ selected rs,
        selectResearchIssues env state.researchState = some (selected, rs) →
        ∀ issueId ∈ selected,
          ∀ bundle critique,
            real.research (buildWorkerProxy rs issueId) issueId =
              some bundle →
            real.critique bundle = some critique →
            critique.RatesInRange bundle
  | _ => True

/-- The brains ask models, and their unchecked integers are in range. -/
def AsksInRange (desk : Desk) (command : Command) : Prop :=
  ∀ env,
    command.env? = some env →
    ∃ real : RealBrains,
      env.brains = real.brains ∧
        ∀ node,
          desk.execution.control.node? = some node →
          AnswersInRange real env desk.execution.graph node

/-- Audits and scores are constructed, whatever the models return. -/
theorem RealBrains.constructs
    (real : RealBrains) :
    real.brains.Constructs := by
  have audits
      {auditor : Auditor}
      {rs : ResearchState}
      {audit : AuditResult}
      (audited : auditor.audit real.intOfText rs = some audit) :
      audit.Valid := by
    cases auditor with
    | simulator answer =>
        obtain ⟨raw, _, mapped⟩ := Option.bind_eq_some_iff.mp audited
        exact AlbertContract.toAudit_inRange mapped
    | real albert albertEnv =>
        simp only [Auditor.audit] at audited
        cases returned : albert.audit albertEnv rs with
        | error raised =>
            rw [returned] at audited
            cases audited
        | ok outcome =>
            rw [returned] at audited
            cases audited
            rcases RealAlbert.audit_cases returned with mapped | ⟨_, rfl⟩
            · obtain ⟨_, _, raw, _, _, _, _, isMapped⟩ := mapped
              exact AlbertContract.toAudit_inRange isMapped
            · exact fun _ member => nomatch member
  refine ⟨fun _ _ audited => audits audited, ?_, ?_⟩
  · intro deep rs audit isDeep audited
    cases isDeep
    exact audits audited
  · intro rs score scored
    obtain ⟨raw, _, checked⟩ := Option.bind_eq_some_iff.mp scored
    split at checked
    · rename_i valid
      cases checked
      exact valid
    · cases checked

/-- In such a step the brains keep to the bounds. -/
theorem AsksInRange.keepsToBounds
    {desk : Desk}
    {command : Command}
    (asks : AsksInRange desk command)
    (inBounds : desk.execution.InBounds) :
    KeepsToBounds desk command where
  constructs := by
    intro env surrounded
    obtain ⟨real, isReal, _⟩ := asks env surrounded
    rw [isReal]
    exact real.constructs
  fills := by
    intro env node surrounded standsAt
    obtain ⟨real, isReal, answers⟩ := asks env surrounded
    have inRange := answers node standsAt
    cases node with
    | orchestratorPlan =>
        intro update planned
        obtain ⟨rs, expanded, plans⟩ := Option.bind_eq_some_iff.mp planned
        have gridKept :
            Orchestrator.plannedCells rs =
              Orchestrator.plannedCells
                desk.execution.graph.researchState := by
          simp only [Orchestrator.plannedCells,
            (KeepsRecord.relatesAdded.expandIssues expanded).taskGrid]
          rfl
        simp only [isReal, RealBrains.brains] at plans
        obtain ⟨grid, isGrid, rfl⟩ := Option.map_eq_some_iff.mp plans
        obtain ⟨proposals, answered, adds⟩ := Option.bind_eq_some_iff.mp isGrid
        obtain ⟨cells, added, rfl⟩ := Option.map_eq_some_iff.mp adds
        rw [gridKept] at added
        exact
          addProposals_inBounds inBounds.state.cells
            (inRange proposals answered) added
    | researchFanout =>
        intro update researched
        obtain ⟨⟨selected, rs⟩, selects, rfl⟩ :=
          Option.map_eq_some_iff.mp researched
        intro bundle member
        obtain ⟨raw, isRaw, survives⟩ := List.mem_filterMap.mp member
        obtain ⟨issueId, isSelected, isResearched⟩ :=
          List.mem_filterMap.mp isRaw
        rw [isReal] at isResearched survives
        exact
          critiqueBundle_valid (RealBrains.research_valid isResearched)
            (fun critique answered =>
              inRange selected rs selects issueId isSelected raw critique
                isResearched answered)
            survives
    | _ =>
        trivial

/-! ## Whole runs -/

omit [PythonText] in
/-- A run that is about to begin: there is nothing to rate yet. -/
structure Desk.Begins (desk : Desk) : Prop where
  atIntake : desk.execution.control = .at .intake
  unrated :
    desk.execution.graph.researchState.rated =
      (∅, ∅, ∅, [], none, none, none)
  noResults : desk.execution.graph.workerResults = []
  saved :
    ∀ saved ∈ desk.execution.world.snapshot,
      saved.rated = (∅, ∅, ∅, [], none, none, none)

/--
The results that wait are read back unchanged and folded without an error, all
ratings are within their bounds, and what is saved is loaded again.
-/
structure BoundsHold (desk : Desk) : Prop where
  results :
    ∀ bundle ∈ desk.execution.graph.workerResults,
      bundle.modelValidate = some bundle
  collects :
    ∀ env now world attempts,
      (foldWorkerResults env now desk.execution.graph.workerResults
          desk.execution.graph.researchState world attempts).1.isSome = true
  state : desk.execution.graph.researchState.InBounds
  loads :
    ∀ world,
      loadSnapshot (saveSnapshot desk.execution.graph.researchState world) =
        some desk.execution.graph.researchState
  saved :
    ∀ saved ∈ desk.execution.world.snapshot,
      loadSnapshot desk.execution.world = some saved

omit [PythonText] in
theorem unrated_inBounds
    {rs : ResearchState}
    (unrated : rs.rated = (∅, ∅, ∅, [], none, none, none)) :
    rs.InBounds := by
  have empty :
      ResearchState.InBounds { runId := "", originalQuestion := "" } :=
    ⟨by decide, OrderedMap.allValues_empty _⟩
  exact empty.congr unrated

omit [PythonText] in
theorem Desk.Begins.inBounds
    {desk : Desk}
    (begins : desk.Begins) :
    desk.execution.InBounds where
  state := unrated_inBounds begins.unrated
  results := by
    rw [begins.noResults]
    exact fun _ member => nomatch member
  saved := fun saved isSaved => unrated_inBounds (begins.saved saved isSaved)

omit [PythonText] in
/-- What is within its bounds is validated, folded, saved and loaded. -/
theorem BoundsHold.of_inBounds
    {desk : Desk}
    (inBounds : desk.execution.InBounds) :
    BoundsHold desk where
  results := fun bundle member => if_pos (inBounds.results bundle member)
  collects := fun _ _ _ _ => foldWorkerResults_isSome inBounds.results _ _ _
  state := inBounds.state
  loads := fun _ => loadSnapshot_saveSnapshot.mpr inBounds.state.valid
  saved := by
    intro saved isSaved
    rw [loadSnapshot, Option.mem_def.mp isSaved]
    exact if_pos (inBounds.saved saved isSaved).valid

/--
In every run whose models return integers in range for the fields that are not
checked, the bounds hold in every state that is reached.
-/
theorem askedInRange_boundsHold
    {start final : Desk}
    {commands : List Command}
    (begins : start.Begins)
    (asks : AllSteps deskStep AsksInRange start commands)
    (ran : exec deskStep start commands = some final) :
    BoundsHold final := by
  have inBounds : final.execution.InBounds :=
    AllSteps.invariant
      (motive := fun desk => desk.execution.InBounds)
      (fun before asks stepped =>
        deskStep_inBounds (asks.keepsToBounds before) before stepped)
      begins.inBounds asks ran
  exact .of_inBounds inBounds

end Runs

/-! ## A critic that overrates a claim -/

/-- Models that find one claim, which the critic rates. -/
private def oneClaimRated (confidence : Int) : RealBrains where
  texts := .silent
  issues := some [{ title := "q", issueType := "market" }]
  plan :=
    some
      [some
        { vendor := "v"
          specGroup := "s"
          objective := "o"
          impact := some 4
          successCriteria := none }]
  disk := fun _ => .notASurvey
  source := .web
  retrieval :=
    { download := fun _ => .unreachable
      useDocling := false
      docling := fun _ => none
      pymupdf4llm := fun _ => none
      pypdf := fun _ => none
      maxRounds := 1 }
  findings := fun _ => { search := some { claims := [{ claim := "c" }] } }
  critique := fun _ =>
    some { claims := [{ index := some 0, confidence := some confidence }] }
  summary := fun _ => some ""
  intOfText := fun _ => none
  auditor := .simulator (some (.dict []))
  deepAuditor := .simulator (some (.dict []))
  score := none

/-- A run that is about to begin. -/
private def beginning : Desk where
  segment := .run
  execution :=
    { graph :=
        { researchState := { runId := "r", originalQuestion := "q" }
          config := { assumeBrief := true } }
      control := .at .intake
      world := {} }

/-- The nodes from the intake to the fan-out, one by one. -/
private def untilResearched (confidence : Int) : List Command :=
  letI := PythonText.ascii
  List.replicate 9 (.proceed (.calm (oneClaimRated confidence).brains))

private theorem beginning_begins : beginning.Begins :=
  ⟨rfl, rfl, rfl, fun _ saved => nomatch saved⟩

/-- One rating in range leaves every claim in range. -/
private theorem oneRating_inRange
    {critique : RawCritique}
    (answered :
      some
          { claims :=
              [{ index := some 0, confidence := some 5 : RatedClaim }] } =
        some critique)
    (bundle : EvidenceBundle) :
    critique.RatesInRange bundle := by
  cases answered
  intro position _ rating isLast
  simp only [lastRating, Option.none_or, Option.mem_def,
    Option.ite_none_right_eq_some] at isLast
  cases isLast.2
  decide

private theorem untilResearched_asksInRange :
    letI := PythonText.ascii
    AllSteps deskStep AsksInRange beginning (untilResearched 5) := by
  let _ := PythonText.ascii
  intro earlier command later desk shape _ env surrounded
  have member : command ∈ untilResearched 5 := by
    rw [shape]
    simp
  rw [List.eq_of_mem_replicate member] at surrounded
  cases surrounded
  refine ⟨oneClaimRated 5, rfl, fun node _ => ?_⟩
  cases node with
  | orchestratorPlan =>
      intro proposals planned before proposed after isSplit _ _
      cases planned
      have isProposed :
          some proposed ∈ before ++ some proposed :: after := by
        simp
      rw [← isSplit, List.mem_singleton] at isProposed
      cases isProposed
      decide
  | researchFanout =>
      intro _ _ _ _ _ bundle critique _ answered
      exact oneRating_inRange answered bundle
  | _ =>
      trivial

/-- A run to which this applies: the claim is found and rated in range. -/
theorem oneClaimRated_boundsHold :
    letI := PythonText.ascii
    ∃ final,
      exec deskStep beginning (untilResearched 5) = some final ∧
        final.execution.graph.workerResults ≠ [] ∧ BoundsHold final := by
  let _ := PythonText.ascii
  have ran :
      exec deskStep beginning (untilResearched 5) =
        some
          ((exec deskStep beginning (untilResearched 5)).get
            (by decide +kernel)) :=
    (Option.some_get _).symm
  exact
    ⟨_, ran, by decide +kernel,
      askedInRange_boundsHold beginning_begins untilResearched_asksInRange
        ran⟩

/-- A confidence of nine leaves a result that no node can read back. -/
theorem overrated_notBoundsHold :
    letI := PythonText.ascii
    ¬∀ start final commands,
      Desk.Begins start →
      (∀ command ∈ commands, ∀ env,
        command.env? = some env →
        ∃ real : RealBrains, env.brains = real.brains) →
      exec deskStep start commands = some final →
      BoundsHold final := by
  let _ := PythonText.ascii
  intro always
  have ran :
      exec deskStep beginning (untilResearched 9) =
        some
          ((exec deskStep beginning (untilResearched 9)).get
            (by decide +kernel)) :=
    (Option.some_get _).symm
  have asksModels :
      ∀ command ∈ untilResearched 9, ∀ env,
        command.env? = some env →
        ∃ real : RealBrains, env.brains = real.brains := by
    intro command member env surrounded
    rw [List.eq_of_mem_replicate member] at surrounded
    cases surrounded
    exact ⟨oneClaimRated 9, rfl⟩
  have held := always _ _ _ beginning_begins asksModels ran
  have refused :
      ¬∀ bundle ∈
          ((exec deskStep beginning (untilResearched 9)).get
            (by decide +kernel)).execution.graph.workerResults,
        bundle.modelValidate = some bundle := by
    decide +kernel
  exact refused held.results

end ResearchCos
