import Mathlib.Logic.Relation
import ResearchCos.RunHistory

namespace ResearchCos

open Foundation

/-!
# How the issues of a run change

Outside the critique an issue is added, raised, advanced, stamped, blocked or
given a blocker.  What these edits keep, every run keeps between two critiques.
-/

/-- A pushed issue says so, once. -/
def markPushed (node : IssueNode) : IssueNode :=
  if internalDataBlocker ∈ node.humanBlockers then
    node
  else
    { node with humanBlockers := node.humanBlockers ++ [internalDataBlocker] }

/-- One edit of the issues by a node; only a push blocks an issue. -/
inductive IssueEdit (node : Node) :
    OrderedMap String IssueNode → OrderedMap String IssueNode → Prop where
  | raised (text : String) (issues : OrderedMap String IssueNode) :
      IssueEdit node issues (issues.mapValues (applySteerText text))
  | added {issues : OrderedMap String IssueNode} {minted : IssueNode} :
      issues.get? (IssueMap.issueId (issues.size + 1)) = none →
      minted.status = .open →
      minted.counterarguments = [] →
      minted.humanBlockers = [] →
      minted.id = IssueMap.issueId (issues.size + 1) →
      IssueEdit node issues
        (issues.insert (IssueMap.issueId (issues.size + 1)) minted)
  | advanced (now query key : String)
      (issues : OrderedMap String IssueNode) :
      IssueEdit node issues (issues.modify key (advanceIssue now query))
  | stamped (now : String) (issues : OrderedMap String IssueNode) :
      IssueEdit node issues
        (issues.mapValues fun issue => { issue with lastAudited := some now })
  | noted (rs : ResearchState) :
      IssueEdit node rs.issueMap (notedBlockers rs).issueMap
  | pushed {issues : OrderedMap String IssueNode} {key : String}
      {target : IssueNode} (now : String) :
      node = .humanPush →
      issues.get? key = some target →
      Exhaustion.isAddressable target.status = true →
      IssueEdit node issues
        (issues.modify key fun issue =>
          markPushed (issue.setStatus .blockedByInternalData now))

/-- A change of the state by a node that edits its issues. -/
structure EditsIssues (node : Node) (before after : ResearchState) : Prop where
  goesOn : GoesOn before after
  edits :
    before.Numbered →
      Relation.ReflTransGen (IssueEdit node) before.issueMap after.issueMap

namespace EditsIssues

variable {node : Node}

/-- A change that leaves the issues alone. -/
theorem of_eq
    {before after : ResearchState}
    (goesOn : GoesOn before after)
    (same : after.issueMap = before.issueMap) :
    EditsIssues node before after :=
  ⟨goesOn, fun _ => same ▸ .refl⟩

theorem refl
    (rs : ResearchState) :
    EditsIssues node rs rs :=
  .of_eq (.refl rs) rfl

theorem trans
    {first second third : ResearchState}
    (earlier : EditsIssues node first second)
    (later : EditsIssues node second third) :
    EditsIssues node first third :=
  ⟨earlier.goesOn.trans later.goesOn, fun numbered =>
    (earlier.edits numbered).trans
      (later.edits (earlier.goesOn numbered).1)⟩

/-- Adding issues edits the issues. -/
theorem relatesAdded : RelatesAdded (EditsIssues node) where
  refl := .refl
  trans := .trans
  add := by
    intro rs after title description now issueType impact confidence added
    refine ⟨relatesAdded_goesOn.add added, fun numbered => .single ?_⟩
    simp only [IssueMap.add] at added
    split at added
    · cases added
      exact .added numbered.issues.next_absent rfl rfl rfl rfl
    · cases added

end EditsIssues

theorem consumeSteerEvents_editsIssues
    (node : Node)
    (rs : ResearchState) :
    EditsIssues node rs (consumeSteerEvents rs) := by
  refine ⟨consumeSteerEvents_goesOn rs, fun _ => ?_⟩
  exact
    consumeSteers_invariant
      (motive := Relation.ReflTransGen (IssueEdit node) rs.issueMap)
      (fun text issues before => before.tail (.raised text issues))
      rs.steeringEvents .refl

theorem edits_advanceIssues
    (node : Node)
    (now : String)
    (raws : List EvidenceBundle)
    (issues : OrderedMap String IssueNode) :
    Relation.ReflTransGen (IssueEdit node) issues
      (raws.foldl (advanceIssues now) issues) := by
  induction raws generalizing issues with
  | nil =>
      exact .refl
  | cons raw rest inductionHypothesis =>
      refine Relation.ReflTransGen.trans ?_ (inductionHypothesis _)
      simp only [advanceIssues]
      split
      · exact .refl
      · split
        · exact .refl
        · exact .single (.advanced _ _ _ _)

/-- A push blocks its target and marks it. -/
theorem pushed_issueMap
    {rs blocked : ResearchState}
    {key now : String}
    {target : IssueNode}
    (numbered : rs.Numbered)
    (isTarget : pushTarget rs = some (key, target))
    {tasks : OrderedMap String HumanTask}
    (isBlocked :
      IssueMap.setStatus { rs with humanTasks := tasks } target.id
          .blockedByInternalData now =
        some blocked) :
    rs.issueMap.get? key = some target ∧
      Exhaustion.isAddressable target.status = true ∧
      (blocked.issueMap.modify key fun node =>
          if internalDataBlocker ∈ node.humanBlockers then
            node
          else
            { node with
              humanBlockers := node.humanBlockers ++ [internalDataBlocker] }) =
        rs.issueMap.modify key fun issue =>
          markPushed (issue.setStatus .blockedByInternalData now) := by
  have stored := pushTarget_stored isTarget
  have isKey : target.id = key := numbered.issueKeys key target stored
  have addressable : Exhaustion.isAddressable target.status = true := by
    have found := List.find?_some isTarget
    exact found
  refine ⟨stored, addressable, ?_⟩
  rw [IssueMap.setStatus_eq_some isBlocked, isKey]
  exact OrderedMap.modify_modify _ _ _ _

section Nodes

variable [PythonText]

/-- Every node but the critique edits the issues. -/
theorem NodeUpdate.editsIssues
    {env : StepEnv}
    {state : GraphState}
    {world after : World}
    {node : Node}
    {update : Update}
    (written : NodeUpdate env state world node update after)
    (arguesNot : node ≠ .skeptic) :
    EditsIssues node state.researchState update.researchState := by
  have goesOn := written.goesOn
  cases written with
  | argued =>
      exact absurd rfl arguesNot
  | issuesPlanned rs expanded
  | cellsPlanned rs _ _ expanded =>
      have edited :=
        (consumeSteerEvents_editsIssues .orchestratorPlan
            state.researchState).trans
          (EditsIssues.relatesAdded.expandIssues expanded)
      exact ⟨goesOn, edited.edits⟩
  | issuesExpanded rs expanded =>
      exact EditsIssues.relatesAdded.expandIssues expanded
  | supervised =>
      exact consumeSteerEvents_editsIssues _ _
  | collected =>
      exact ⟨goesOn, fun _ => edits_advanceIssues _ _ _ _⟩
  | audited =>
      exact ⟨goesOn, fun _ => .single (.stamped _ _)⟩
  | noted =>
      exact ⟨goesOn, fun _ => .single (.noted _)⟩
  | branched budget =>
      exact EditsIssues.relatesAdded.materializeCompetitor _ _ budget
  | pushed key target blocked isTarget _ isBlocked =>
      refine ⟨goesOn, fun numbered => ?_⟩
      obtain ⟨stored, addressable, isAfter⟩ :=
        pushed_issueMap numbered isTarget isBlocked
      have edited :
          IssueEdit .humanPush state.researchState.issueMap
            (state.researchState.issueMap.modify key fun issue =>
              markPushed
                (issue.setStatus .blockedByInternalData state.config.now)) :=
        .pushed state.config.now rfl stored addressable
      exact .single (isAfter ▸ edited)
  | reviewBuilt _ _ built
  | reviewPassed _ _ _ built
  | reviewAnswered _ _ _ built =>
      refine .of_eq goesOn ?_
      obtain ⟨_, _, _, rfl, _⟩ := buildAndGateMemo_eq_some built
      rfl
  | _ =>
      exact .of_eq goesOn rfl

end Nodes

end ResearchCos
