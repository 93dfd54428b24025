import ResearchCos.NodeFrames

namespace ResearchCos

open Foundation

/-!
# Iterations and steers

Only the readiness scoring counts an iteration, and only the two nodes at the
head of a cycle touch the steers of the human: they consume all of them.
-/

/-- A steer of the human as the steering log keeps it. -/
structure Steer where
  text : String
  at_ : String
  consumed : Bool
  reranked : Bool
  deriving Repr, DecidableEq

/-- The steer that an event records. -/
def SteeringEvent.steer? : SteeringEvent → Option Steer
  | .steer text at_ consumed reranked =>
      some
        { text := text
          at_ := at_
          consumed := consumed
          reranked := reranked }
  | _ => none

/-- The steers of a research state in the order of their arrival. -/
def steersOf (rs : ResearchState) : List Steer :=
  rs.steeringEvents.filterMap SteeringEvent.steer?

/-- A change that counts no iteration and leaves the steers alone. -/
structure KeepsBooks (before after : ResearchState) : Prop where
  iterationCount : after.iterationCount = before.iterationCount
  steers : steersOf after = steersOf before

namespace KeepsBooks

/-- A change of fields that are not kept account of. -/
theorem of_eq
    {before after : ResearchState}
    (iterationCount : after.iterationCount = before.iterationCount)
    (steeringEvents : after.steeringEvents = before.steeringEvents) :
    KeepsBooks before after :=
  ⟨iterationCount, congrArg (List.filterMap _) steeringEvents⟩

theorem refl
    (rs : ResearchState) :
    KeepsBooks rs rs :=
  .of_eq rfl rfl

theorem trans
    {first second third : ResearchState}
    (earlier : KeepsBooks first second)
    (later : KeepsBooks second third) :
    KeepsBooks first third :=
  ⟨later.iterationCount.trans earlier.iterationCount,
    later.steers.trans earlier.steers⟩

/-- Logging events that are no steers. -/
theorem of_log
    {before after : ResearchState}
    {events : List SteeringEvent}
    (iterationCount : after.iterationCount = before.iterationCount)
    (logged : after.steeringEvents = before.steeringEvents ++ events)
    (noSteers : events.filterMap SteeringEvent.steer? = []) :
    KeepsBooks before after := by
  refine ⟨iterationCount, ?_⟩
  rw [steersOf, logged, List.filterMap_append, noSteers, List.append_nil]
  rfl

/-- Adding an issue. -/
theorem of_add
    {rs after : ResearchState}
    {title description now : String}
    {issueType : IssueType}
    {status : IssueStatus}
    {impact confidence : Int}
    (added :
      IssueMap.add rs title description issueType status now impact
        confidence = some after) :
    KeepsBooks rs after := by
  obtain ⟨node, _, _, rfl⟩ := IssueMap.add_eq_some added
  exact .of_eq rfl rfl

/-- Setting the status of an issue. -/
theorem of_setStatus
    {rs after : ResearchState}
    {issueId now : String}
    {status : IssueStatus}
    (set : IssueMap.setStatus rs issueId status now = some after) :
    KeepsBooks rs after := by
  rw [IssueMap.setStatus_eq_some set]
  exact .of_eq rfl rfl

/-- Adding issues keeps the books. -/
theorem relatesAdded : RelatesAdded KeepsBooks :=
  ⟨refl, .trans, .of_add⟩

end KeepsBooks

/-! ## Consuming steers -/

/-- A steer after the head of a cycle: consumed, and unchanged if it was. -/
structure Consumed (before after : Steer) : Prop where
  text : after.text = before.text
  at_ : after.at_ = before.at_
  consumed : after.consumed = true
  once : before.consumed = true → after = before

/-- Every steer is consumed and keeps its place. -/
theorem steers_consumeSteers
    (events : List SteeringEvent)
    (issues : OrderedMap String IssueNode) :
    List.Forall₂ Consumed (events.filterMap SteeringEvent.steer?)
      ((consumeSteers events issues).1.filterMap SteeringEvent.steer?) := by
  induction events, issues using consumeSteers.induct with
  | case1 issues =>
      exact .nil
  | case2 text at_ reranked rest issues events final recursive
      inductionHypothesis =>
      simp only [consumeSteers, List.filterMap_cons, SteeringEvent.steer?]
      refine .cons ⟨rfl, rfl, rfl, ?_⟩ inductionHypothesis
      intro consumed
      cases consumed
  | case3 event rest issues unread events final recursive
      inductionHypothesis =>
      rw [consumeSteers]
      · cases event with
        | steer text at_ consumed reranked =>
            cases consumed with
            | false =>
                exact absurd rfl (unread text at_ reranked)
            | true =>
                exact .cons ⟨rfl, rfl, rfl, fun _ => rfl⟩
                  inductionHypothesis
        | _ =>
            exact inductionHypothesis
      · exact unread

/-- The head of a cycle consumes every steer. -/
theorem steersOf_consumeSteerEvents
    (rs : ResearchState) :
    List.Forall₂ Consumed (steersOf rs)
      (steersOf (consumeSteerEvents rs)) :=
  steers_consumeSteers rs.steeringEvents rs.issueMap

/-! ## Books of the nodes -/

/-- Consuming a request to ask the human leaves the steers alone. -/
theorem steers_consumePull
    (events : List SteeringEvent) :
    (consumePull events).filterMap SteeringEvent.steer? =
      events.filterMap SteeringEvent.steer? := by
  induction events using consumePull.induct with
  | case1 =>
      rfl
  | case2 request rest =>
      rfl
  | case3 event rest unasked inductionHypothesis =>
      rw [consumePull]
      · simp only [List.filterMap_cons, inductionHypothesis]
      · exact unasked

/-- Logging the outcome of a pull and consuming its request. -/
theorem KeepsBooks.of_pull
    {before after : ResearchState}
    {event : SteeringEvent}
    (iterationCount : after.iterationCount = before.iterationCount)
    (logged :
      after.steeringEvents = consumePull (before.steeringEvents ++ [event]))
    (noSteer : event.steer? = none) :
    KeepsBooks before after := by
  refine ⟨iterationCount, ?_⟩
  rw [steersOf, logged, steers_consumePull, List.filterMap_append]
  simp [noSteer, steersOf]

/-- What executing a node does to the iteration count and to the steers. -/
def NodeBooks (node : Node) (before after : ResearchState) : Prop :=
  match node with
  | .readinessScoring =>
      after.iterationCount = before.iterationCount + 1 ∧
        steersOf after = steersOf before
  | .orchestratorPlan
  | .supervisor =>
      after.iterationCount = before.iterationCount ∧
        List.Forall₂ Consumed (steersOf before) (steersOf after)
  | _ => KeepsBooks before after

section Nodes

variable [PythonText]

/-- Building the memo counts no iteration and touches no steer. -/
theorem buildAndGateMemo_keepsBooks
    {env : StepEnv}
    {state : GraphState}
    {world after : World}
    {rs : ResearchState}
    (built : buildAndGateMemo env state world = some (rs, after)) :
    KeepsBooks state.researchState rs := by
  obtain ⟨tasks, log, memo, rfl, rfl | ⟨needs, rfl⟩⟩ :=
    buildAndGateMemo_eq_some built
  · exact .of_log rfl rfl rfl
  · exact .of_log rfl rfl rfl

/-- What every node does to the iteration count and to the steers. -/
theorem NodeUpdate.books
    {env : StepEnv}
    {state : GraphState}
    {world after : World}
    {node : Node}
    {update : Update}
    (written : NodeUpdate env state world node update after) :
    NodeBooks node state.researchState update.researchState := by
  cases written with
  | intake
  | scopeChecked
  | briefKept
  | planAuditKept
  | planKept
  | explained
  | decided
  | pushedNothing
  | deepAuditKept =>
      exact .refl _
  | clarified
  | briefWritten
  | planAudited
  | researched
  | collected
  | argued
  | audited
  | noted
  | deepAudited =>
      exact .of_eq rfl rfl
  | clarifyAssumed
  | clarifyAnswered
  | planAssumed
  | planAnswered =>
      exact .of_log rfl rfl rfl
  | issuesPlanned rs expanded
  | cellsPlanned rs _ _ expanded =>
      have kept := KeepsBooks.relatesAdded.expandIssues expanded
      exact ⟨kept.iterationCount,
        kept.steers ▸ steersOf_consumeSteerEvents state.researchState⟩
  | issuesExpanded rs expanded =>
      exact KeepsBooks.relatesAdded.expandIssues expanded
  | supervised =>
      exact ⟨rfl, steersOf_consumeSteerEvents state.researchState⟩
  | scored =>
      exact ⟨rfl, rfl⟩
  | branched budget =>
      exact KeepsBooks.relatesAdded.materializeCompetitor _ _ budget
  | pullDefaulted
  | pullAnswered =>
      exact .of_pull rfl rfl rfl
  | pushed _ _ _ _ _ isBlocked =>
      have kept := KeepsBooks.of_setStatus isBlocked
      exact ⟨kept.iterationCount, kept.steers⟩
  | reviewBuilt _ _ built =>
      exact buildAndGateMemo_keepsBooks built
  | reviewPassed _ _ _ built
  | reviewAnswered _ _ _ built =>
      exact (buildAndGateMemo_keepsBooks built).trans (.of_log rfl rfl rfl)

end Nodes

end ResearchCos
