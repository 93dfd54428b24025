import ResearchCos.IssueSelection
import ResearchCos.RealBrains

namespace ResearchCos

open Foundation

/-!
# The two bundles of brains

A run has the stubs or the models for its brains.  Either way a researcher
returns its bundle under the identifier of the issue it was sent for, and the
critique of a bundle leaves that identifier alone.
-/

/-! ## The stubs -/

namespace ResearcherStub

/-- The iteration from which on the stub has nothing new to say. -/
def staleAfter : Int :=
  3

/-- The canned bundle of an issue. -/
def research (state : ResearchState) (issueId : String) : EvidenceBundle :=
  let title := ((state.issueMap.get? issueId).map IssueNode.title).getD issueId
  let saturated := decide (staleAfter ≤ state.iterationCount)
  let source : Source :=
    { id := "S-" ++ issueId
      title := "來源：" ++ title
      sourceType := .secondary
      quality := .medium }
  let claim : Claim :=
    { claim := "關於「" ++ title ++ "」的初步結論（stub）"
      sourceRefs := [source.id]
      confidence := if saturated then 4 else 3
      notes := if saturated then "saturated-identical" else "canned" }
  { query := title
    issueId := some issueId
    claims := [claim]
    sources := [source]
    missingEvidence := if saturated then [] else ["更多一手資料"]
    coverageGaps := if saturated then [] else ["未檢查內部資料：" ++ title] }

end ResearcherStub

namespace CompressorStub

/-- Add a summary of the bundle to the follow-ups, if it is new. -/
def compress (bundle : EvidenceBundle) : EvidenceBundle :=
  let summary :=
    "摘要：" ++ bundle.query ++ " → " ++ toString bundle.claims.length ++
      " 條 claim"
  if summary ∈ bundle.suggestedFollowups then
    bundle
  else
    { bundle with
      suggestedFollowups := bundle.suggestedFollowups ++ [summary] }

end CompressorStub

/-! ## The bundles -/

section Bundles

variable [PythonText]

namespace RoutingResearcher

/-- The bundle of one researcher or of both, on the route of the issue. -/
def research
    (disk : SurveyDisk)
    (selected : ResearchSource)
    (web internal : ResearchState → String → Option EvidenceBundle)
    (proxy : ResearchState)
    (issueId : String) : Option EvidenceBundle :=
  match ResearchRouter.routeForIssue disk proxy issueId selected with
  | .web => web proxy issueId
  | .internal => internal proxy issueId
  | .both =>
      (web proxy issueId).bind fun primary =>
        (internal proxy issueId).map fun secondary =>
          mergeBundles primary secondary

end RoutingResearcher

/-- The bundle of the researcher of internal documents. -/
def internalResearch
    (found : String → Option InternalFinding)
    (proxy : ResearchState)
    (issueId : String) : Option EvidenceBundle :=
  (found issueId).map
    (internalBundle (RealResearcher.userPrompt proxy issueId).1 (some issueId))

/-- The models route an issue as the stubs do. -/
theorem RealBrains.research_eq
    (real : RealBrains) :
    real.research =
      RoutingResearcher.research real.disk real.source
        (fun proxy issueId =>
          RealResearcher.research real.retrieval (real.findings issueId) proxy
            issueId)
        (internalResearch fun issueId => (real.findings issueId).internal) :=
  rfl

/-- What the stubs leave open: the documents on disk, and the other brains. -/
structure MockBrains where
  others : Brains
  disk : SurveyDisk
  source : ResearchSource
  internal : String → Option InternalFinding

def MockBrains.brains (mock : MockBrains) : Brains :=
  { mock.others with
    supervisor := fun state => some (SupervisorStub.select state)
    researcher :=
      RoutingResearcher.research mock.disk mock.source
        (fun proxy issueId => some (ResearcherStub.research proxy issueId))
        (internalResearch mock.internal)
    sourceCritic := some
    compressor := fun bundle => some (CompressorStub.compress bundle)
    orchestrator := some MockOrchestrator.plan }

/-- The brains of a run: the stubs, or the models. -/
inductive Bundled : Brains → Prop where
  | mock (mock : MockBrains) : Bundled mock.brains
  | real (real : RealBrains) : Bundled real.brains

/-- Either bundle has an orchestrator. -/
theorem Bundled.orchestrates
    {brains : Brains}
    (bundled : Bundled brains) :
    IsOrchestrator brains.orchestrator := by
  cases bundled with
  | mock mock =>
      exact .mock
  | real real =>
      exact .real fun _ => real.plan

/-! ## The issue of a bundle -/

/-- A researcher names the issue it was sent for. -/
def NamesIssue
    (research : ResearchState → String → Option EvidenceBundle) : Prop :=
  ∀ proxy issueId bundle,
    research proxy issueId = some bundle → bundle.issueId = some issueId

theorem Escalation.issueId_nextRound
    (escalation : Escalation) :
    escalation.nextRound.bundle.issueId = escalation.bundle.issueId := by
  simp only [nextRound]
  split
  · rfl
  · split <;> rfl

theorem Escalation.issueId_afterCall
    (escalation : Escalation)
    (rest : List (Nat × Source)) :
    (escalation.afterCall rest).bundle.issueId =
      escalation.bundle.issueId := by
  simp only [afterCall]
  split
  · rfl
  · split
    · exact issueId_nextRound _
    · rfl

/-- Taking a document over leaves the issue of the bundle alone. -/
theorem Escalation.issueId_conclude
    (escalation : Escalation)
    (position : Nat)
    (source : Source)
    (rest : List (Nat × Source))
    (text : String)
    (extraction : Option RawExtraction) :
    (escalation.conclude position source rest text
        extraction).bundle.issueId =
      escalation.bundle.issueId := by
  simp only [conclude]
  split
  · exact issueId_afterCall _ _
  · split
    · rfl
    · exact issueId_afterCall _ _

theorem issueId_escalate
    {documents : List (String × Option RawExtraction)}
    {escalation : Escalation}
    {bundle : EvidenceBundle}
    (escalated : RealResearcher.escalate documents escalation = some bundle) :
    bundle.issueId = escalation.bundle.issueId := by
  induction documents generalizing escalation with
  | nil =>
      simp only [RealResearcher.escalate] at escalated
      split at escalated
      · cases escalated
        rfl
      · cases escalated
  | cons call later inductionHypothesis =>
      simp only [RealResearcher.escalate] at escalated
      split at escalated
      · cases escalated
        rfl
      · rw [inductionHypothesis escalated, Escalation.issueId_conclude]
        rfl
      · cases escalated

/-- The researcher on the web names its issue. -/
theorem webResearch_namesIssue
    (retrieval : RetrievalEnv)
    (findings : Findings) :
    NamesIssue (RealResearcher.research retrieval findings) := by
  intro proxy issueId bundle researched
  obtain ⟨raw, _, found⟩ := Option.bind_eq_some_iff.mp researched
  obtain ⟨searched, built, escalated⟩ := Option.bind_eq_some_iff.mp found
  obtain ⟨rfl, _⟩ := EvidenceBundle.modelValidate_eq_some built
  rw [issueId_escalate escalated, Escalation.start,
    Escalation.issueId_nextRound]

/-- The researcher of internal documents names its issue. -/
theorem internalResearch_namesIssue
    (found : String → Option InternalFinding) :
    NamesIssue (internalResearch found) := by
  intro proxy issueId bundle researched
  obtain ⟨finding, _, rfl⟩ := Option.map_eq_some_iff.mp researched
  cases finding <;> rfl

/-- On every route the issue is named. -/
theorem routingResearch_namesIssue
    {disk : SurveyDisk}
    {selected : ResearchSource}
    {web internal : ResearchState → String → Option EvidenceBundle}
    (webNames : NamesIssue web)
    (internalNames : NamesIssue internal) :
    NamesIssue (RoutingResearcher.research disk selected web internal) := by
  intro proxy issueId bundle researched
  unfold RoutingResearcher.research at researched
  split at researched
  · exact webNames _ _ _ researched
  · exact internalNames _ _ _ researched
  · obtain ⟨primary, isPrimary, merges⟩ :=
      Option.bind_eq_some_iff.mp researched
    obtain ⟨secondary, isSecondary, rfl⟩ := Option.map_eq_some_iff.mp merges
    rw [mergeBundles, webNames _ _ _ isPrimary,
      internalNames _ _ _ isSecondary, ite_self]

/-- Whichever brains a run has, a bundle names the issue it was sought for. -/
theorem Bundled.namesIssue
    {brains : Brains}
    (bundled : Bundled brains) :
    NamesIssue brains.researcher := by
  cases bundled with
  | mock mock =>
      refine
        routingResearch_namesIssue ?_
          (internalResearch_namesIssue mock.internal)
      intro proxy issueId bundle researched
      cases researched
      rfl
  | real real =>
      rw [RealBrains.brains, real.research_eq]
      refine
        routingResearch_namesIssue (fun proxy issueId => ?_)
          (internalResearch_namesIssue _)
      exact
        webResearch_namesIssue real.retrieval (real.findings issueId) proxy
          issueId

/-- The critique of a bundle leaves its issue alone. -/
theorem Bundled.issueId_critiqueBundle
    {brains : Brains}
    (bundled : Bundled brains)
    {bundle critiqued : EvidenceBundle}
    (critiques : critiqueBundle brains bundle = some critiqued) :
    critiqued.issueId = bundle.issueId := by
  obtain ⟨reviewed, isReviewed, compresses⟩ :=
    Option.bind_eq_some_iff.mp critiques
  cases bundled with
  | mock mock =>
      cases isReviewed
      cases compresses
      simp only [CompressorStub.compress]
      split <;> rfl
  | real real =>
      have sameReviewed : reviewed.issueId = bundle.issueId := by
        simp only [RealBrains.brains, RealSourceCritic.review] at isReviewed
        split at isReviewed
        · cases isReviewed
          rfl
        · obtain ⟨_, _, rfl⟩ := Option.map_eq_some_iff.mp isReviewed
          rfl
      obtain ⟨text, _, rfl⟩ := Option.map_eq_some_iff.mp compresses
      dsimp only
      split
      · exact sameReviewed
      · exact sameReviewed

end Bundles

end ResearchCos
