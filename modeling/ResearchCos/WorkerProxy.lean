import ResearchCos.DecisionGates

namespace ResearchCos

open Foundation

/-!
# The worker's view of an issue

A researcher never sees the run state but a proxy that carries one issue.  The
router and the prompt of the researcher were written for the full state; the
last section says on which states the proxy makes no difference to them.
-/

/-- The selected evidence source. -/
inductive ResearchSource where
  | web
  | internal
  | auto
  | both
  deriving Repr, DecidableEq

/-- The researchers that handle one issue. -/
inductive Route where
  | web
  | internal
  | both
  deriving Repr, DecidableEq

/-- What a path named in the brief is on disk. -/
inductive SurveyFolder where
  | notASurvey
  | unreadable
  | survey (requirementTopics : List String)
  deriving Repr, DecidableEq

/-- The survey folders on disk, by the path the brief names. -/
abbrev SurveyDisk :=
  String → SurveyFolder

namespace ResearchRouter

/-! ## The cross-check phrase -/

/-- Whether a character matches a lower-case one when case is ignored. -/
def matchesChar (lowerCase c : Char) : Bool :=
  c.toLower = lowerCase || (lowerCase = 's' && c = 'ſ') ||
    (lowerCase = 'k' && c = '\u212A')

/-- The rest of a text after a word at its beginning, case ignored. -/
def afterWord : List Char → List Char → Option (List Char)
  | [], text => some text
  | _ :: _, [] => none
  | letter :: word, c :: text =>
      if matchesChar letter c then afterWord word text else none

/-- One word of each group occurs, in the order of the groups. -/
def occursInOrder : List (List String) → List Char → Bool
  | [], _ => true
  | group :: later, text =>
      text.tails.any fun suffix =>
        group.any fun word =>
          (afterWord word.toList suffix).any (occursInOrder later)

/-- The two words of "cross-check", apart by at most one space or hyphen. -/
def mentionsCrossCheck (text : List Char) : Bool :=
  text.tails.any fun suffix =>
    (afterWord "cross".toList suffix).any fun rest =>
      (afterWord "check".toList rest).isSome ||
        match rest with
        | [] => false
        | c :: later =>
            (isPySpace c || c = '-') &&
              (afterWord "check".toList later).isSome

/-- Words for the market, for a comparison and for internal data. -/
def marketWords : List String :=
  ["市場", "market", "競品"]

def comparisonWords : List String :=
  ["vs", "對比", "比較"]

def internalWords : List String :=
  ["內部"]

/-- The brief asks to check internal data against the market. -/
def crossCheckRequested (state : ResearchState) : Bool :=
  let text := (state.researchBrief.getD "").toList
  mentionsCrossCheck text ||
    (text.splitOn '\n').any fun line =>
      occursInOrder [internalWords, comparisonWords, marketWords] line ||
        occursInOrder [marketWords, comparisonWords, internalWords] line

/-! ## Routing -/

/-- Title and description of an issue, or its identifier when it is unknown. -/
def issueText (state : ResearchState) (issueId : String) : String :=
  match state.issueMap.get? issueId with
  | none => issueId
  | some node => node.title ++ " " ++ node.description

section Routing

variable [PythonText]

/-- All words of some topic appear in the issue. -/
def topicsOverlap (issueText : String) (requirementTopics : List String) : Bool :=
  let issueTokens := tokenize issueText
  requirementTopics.any fun topic =>
    let parts := tokenize topic
    !parts.isEmpty && parts.all fun part => issueTokens.contains part

/-- Internal documents are available, or a survey covers the issue. -/
def internalRelevant
    (disk : SurveyDisk)
    (state : ResearchState)
    (issueId : String) : Bool :=
  state.internalDocumentsAvailable = some true ||
    state.availableSources.any fun path =>
      match disk path with
      | .notASurvey => false
      | .unreadable => false
      | .survey topics => topicsOverlap (issueText state issueId) topics

/-- The researchers that handle an issue. -/
def routeForIssue
    (disk : SurveyDisk)
    (state : ResearchState)
    (issueId : String)
    (source : ResearchSource) : Route :=
  match source with
  | .web => .web
  | .internal => .internal
  | .both => .both
  | .auto =>
      if internalRelevant disk state issueId then
        if crossCheckRequested state then .both else .internal
      else
        .web

end Routing

end ResearchRouter

/-! ## Prompt of the researcher -/

namespace RealResearcher

/-- The unresolved challenges tied to an issue. -/
def openChallenges
    (state : ResearchState)
    (issueId : String) : List AlbertChallenge :=
  (Convergence.unresolvedChallenges state).filter fun challenge =>
    challenge.issueId = some issueId

/-- The part of the prompt that names the open challenges of the issue. -/
def openChallengesForIssue (state : ResearchState) (issueId : String) : String :=
  let live := openChallenges state issueId
  if live = [] then
    ""
  else
    "\n\nALBERT IS CHALLENGING THIS ISSUE — find evidence to ANSWER these " ++
      "open challenges:\n" ++
      "\n".intercalate
        (live.map fun challenge =>
          "- [" ++ challenge.id ++ "] " ++ challenge.challenge) ++ "\n"

/-- The target fields of the issue's cell. -/
def cellCriteria (state : ResearchState) (issueId : String) : List String :=
  match state.taskGrid with
  | none => []
  | some grid =>
      match grid.cells.get? issueId with
      | none => []
      | some cell => cell.successCriteria

/-- The part of the prompt that names the target fields. -/
def targetFields (criteria : List String) : String :=
  if criteria = [] then
    ""
  else
    "\nTARGET FIELDS to fill (emit observations for these): " ++
      ", ".intercalate criteria ++ "\n"

/-- Title and prompt for one issue. -/
def userPrompt (state : ResearchState) (issueId : String) : String × String :=
  let node := state.issueMap.get? issueId
  let title := (node.map IssueNode.title).getD issueId
  let desc := (node.map IssueNode.description).getD ""
  (title,
    "SUB-ISSUE:\n" ++ title ++ "\n" ++ desc ++ "\n\n" ++
      "CONTEXT (original question): " ++ state.originalQuestion ++ "\n" ++
      openChallengesForIssue state issueId ++ "\n" ++
      targetFields (cellCriteria state issueId) ++
      "Run ONE WebSearch for this sub-issue and return sources + grounded " ++
      "claims.")

end RealResearcher

/-! ## The proxy -/

/-- A throwaway state with the one issue a researcher works on. -/
def buildWorkerProxy (state : ResearchState) (issueId : String) : ResearchState :=
  let node := state.issueMap.get? issueId
  let title := (node.map IssueNode.title).getD issueId
  let description := (node.map IssueNode.description).getD ""
  { runId := "_worker"
    originalQuestion := state.originalQuestion
    iterationCount := state.iterationCount
    issueMap :=
      (∅ : OrderedMap String IssueNode).insert issueId
        { id := issueId
          title := title
          description := if description = "" then title else description
          issueType := (node.map IssueNode.issueType).getD .technical
          status := .researching
          impact := 3
          confidence := 2 } }

/-! ## Where the proxy is faithful -/

section Faithfulness

variable [PythonText]

/-- Router and prompt see the same through the proxy as in the full state. -/
structure FaithfulProxy
    (disk : SurveyDisk)
    (state : ResearchState)
    (issueId : String)
    (source : ResearchSource) : Prop where
  sameRoute :
    ResearchRouter.routeForIssue disk (buildWorkerProxy state issueId)
        issueId source =
      ResearchRouter.routeForIssue disk state issueId source
  sameChallenges :
    RealResearcher.openChallengesForIssue (buildWorkerProxy state issueId)
        issueId =
      RealResearcher.openChallengesForIssue state issueId
  sameTargetFields :
    RealResearcher.targetFields
        (RealResearcher.cellCriteria (buildWorkerProxy state issueId) issueId) =
      RealResearcher.targetFields
        (RealResearcher.cellCriteria state issueId)

/-- Through the proxy an automatic route always leads to the web. -/
theorem routeForIssue_proxy_auto
    (disk : SurveyDisk)
    (state : ResearchState)
    (issueId : String) :
    ResearchRouter.routeForIssue disk (buildWorkerProxy state issueId)
      issueId .auto = .web := by
  simp [ResearchRouter.routeForIssue, ResearchRouter.internalRelevant,
    buildWorkerProxy]

/-- The brief offers no internal documents and no survey on the issue. -/
def NothingInternal
    (disk : SurveyDisk)
    (state : ResearchState)
    (issueId : String) : Prop :=
  state.internalDocumentsAvailable ≠ some true ∧
    ∀ path ∈ state.availableSources, ∀ topics, disk path = .survey topics →
      ResearchRouter.topicsOverlap (ResearchRouter.issueText state issueId)
        topics = false

/-- Internal material is relevant exactly when the brief offers some. -/
theorem internalRelevant_eq_false_iff
    {disk : SurveyDisk}
    {state : ResearchState}
    {issueId : String} :
    ResearchRouter.internalRelevant disk state issueId = false ↔
      NothingInternal disk state issueId := by
  simp only [ResearchRouter.internalRelevant, NothingInternal,
    Bool.or_eq_false_iff, decide_eq_false_iff_not, List.any_eq_false]
  apply and_congr_right
  intro _
  apply forall₂_congr
  intro path _
  cases disk path <;> simp

/-- An automatic route leads to the web when nothing internal is relevant. -/
theorem routeForIssue_auto_eq_web_iff
    {disk : SurveyDisk}
    {state : ResearchState}
    {issueId : String} :
    ResearchRouter.routeForIssue disk state issueId .auto = .web ↔
      NothingInternal disk state issueId := by
  rw [← internalRelevant_eq_false_iff]
  unfold ResearchRouter.routeForIssue
  cases ResearchRouter.internalRelevant disk state issueId with
  | false =>
      simp
  | true =>
      cases ResearchRouter.crossCheckRequested state <;> simp

omit [PythonText] in
/-- The challenge part is empty exactly when no open challenge is tied to the issue. -/
theorem openChallengesForIssue_eq_empty_iff
    {state : ResearchState}
    {issueId : String} :
    RealResearcher.openChallengesForIssue state issueId = "" ↔
      RealResearcher.openChallenges state issueId = [] := by
  simp only [RealResearcher.openChallengesForIssue]
  split
  · rename_i noneOpen
    simp [noneOpen]
  · rename_i someOpen
    simp [someOpen]

omit [PythonText] in
/-- The field part is empty exactly when there are no target fields. -/
theorem targetFields_eq_empty_iff
    {criteria : List String} :
    RealResearcher.targetFields criteria = "" ↔ criteria = [] := by
  unfold RealResearcher.targetFields
  split
  · rename_i noneNamed
    simp [noneNamed]
  · rename_i someNamed
    simp [someNamed]

/-- The proxy is routed alike unless an automatic route sees something internal. -/
theorem routeForIssue_proxy_iff
    {disk : SurveyDisk}
    {state : ResearchState}
    {issueId : String}
    {source : ResearchSource} :
    ResearchRouter.routeForIssue disk (buildWorkerProxy state issueId)
          issueId source =
        ResearchRouter.routeForIssue disk state issueId source ↔
      (source = .auto → NothingInternal disk state issueId) := by
  cases source with
  | auto =>
      rw [routeForIssue_proxy_auto, eq_comm, routeForIssue_auto_eq_web_iff]
      simp
  | _ =>
      simp [ResearchRouter.routeForIssue]

omit [PythonText] in
theorem openChallenges_eq_nil_iff
    {state : ResearchState}
    {issueId : String} :
    RealResearcher.openChallenges state issueId = [] ↔
      ∀ challenge ∈ Convergence.unresolvedChallenges state,
        challenge.issueId ≠ some issueId := by
  simp [RealResearcher.openChallenges, List.filter_eq_nil_iff]

omit [PythonText] in
theorem cellCriteria_eq_nil_iff
    {state : ResearchState}
    {issueId : String} :
    RealResearcher.cellCriteria state issueId = [] ↔
      ∀ grid, state.taskGrid = some grid →
        ∀ cell, grid.cells.get? issueId = some cell →
          cell.successCriteria = [] := by
  simp only [RealResearcher.cellCriteria]
  cases state.taskGrid with
  | none =>
      simp
  | some grid =>
      cases found : grid.cells.get? issueId <;> simp [found]

/--
The proxy is faithful exactly when it drops nothing that matters: no internal
material for an automatic route, no open challenge and no target field.
-/
theorem faithfulProxy_iff
    (disk : SurveyDisk)
    (state : ResearchState)
    (issueId : String)
    (source : ResearchSource) :
    FaithfulProxy disk state issueId source ↔
      (source = .auto → NothingInternal disk state issueId) ∧
        (∀ challenge ∈ Convergence.unresolvedChallenges state,
          challenge.issueId ≠ some issueId) ∧
        ∀ grid, state.taskGrid = some grid →
          ∀ cell, grid.cells.get? issueId = some cell →
            cell.successCriteria = [] := by
  have proxyChallenges :
      RealResearcher.openChallengesForIssue (buildWorkerProxy state issueId)
        issueId = "" :=
    openChallengesForIssue_eq_empty_iff.mpr rfl
  have proxyFields :
      RealResearcher.targetFields
          (RealResearcher.cellCriteria (buildWorkerProxy state issueId)
            issueId) = "" :=
    targetFields_eq_empty_iff.mpr rfl
  rw [← openChallenges_eq_nil_iff, ← cellCriteria_eq_nil_iff]
  constructor
  · intro faithful
    refine ⟨routeForIssue_proxy_iff.mp faithful.sameRoute, ?_, ?_⟩
    · apply openChallengesForIssue_eq_empty_iff.mp
      rw [← faithful.sameChallenges]
      exact proxyChallenges
    · apply targetFields_eq_empty_iff.mp
      rw [← faithful.sameTargetFields]
      exact proxyFields
  · rintro ⟨nothingInternal, nothingOpen, noFields⟩
    exact
      { sameRoute := routeForIssue_proxy_iff.mpr nothingInternal
        sameChallenges := by
          rw [proxyChallenges]
          exact
            (openChallengesForIssue_eq_empty_iff.mpr nothingOpen).symm
        sameTargetFields := by
          rw [proxyFields]
          exact (targetFields_eq_empty_iff.mpr noFields).symm }

end Faithfulness

/-- A run whose brief marks internal documents as available. -/
private def internalDocumentsRun : ResearchState where
  runId := "run"
  originalQuestion := "question"
  internalDocumentsAvailable := some true
  issueMap :=
    (∅ : OrderedMap String IssueNode).insert "I-001"
      { id := "I-001", title := "title", description := "description"
        issueType := .technical, status := .open, impact := 3
        confidence := 2 }

/-- Through the proxy an internal issue is sent to the web. -/
theorem proxy_routes_internalDocuments_to_web :
    letI := PythonText.ascii
    internalDocumentsRun.issueMap.contains "I-001" = true ∧
      ResearchRouter.routeForIssue (fun _ => .notASurvey)
          (buildWorkerProxy internalDocumentsRun "I-001") "I-001" .auto =
        .web ∧
      ResearchRouter.routeForIssue (fun _ => .notASurvey)
          internalDocumentsRun "I-001" .auto = .internal ∧
      ¬FaithfulProxy (fun _ => .notASurvey) internalDocumentsRun "I-001"
        .auto := by
  let _ := PythonText.ascii
  refine ⟨by decide, by decide, by decide, fun faithful => ?_⟩
  exact absurd faithful.sameRoute (by decide)

end ResearchCos
