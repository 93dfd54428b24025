import ResearchCos.MintedIds
import ResearchCos.StageCards

namespace ResearchCos

open Foundation

/-!
# The critique cards

A card shows the end of the list of all counterarguments, as many as the list
has grown by.  These are the new ones only if nothing is added further up: an
issue that still takes counterarguments has those of every later issue, so new
ones enter the list at its end.
-/

/-! ## Texts that are appended once -/

theorem mem_appendNew
    {known new : List String}
    {text : String} :
    text ∈ appendNew known new ↔ text ∈ known ∨ text ∈ new := by
  induction new generalizing known with
  | nil =>
      simp [appendNew]
  | cons head rest inductionHypothesis =>
      rw [appendNew, List.foldl_cons, ← appendNew, inductionHypothesis]
      split
      · rename_i isKnown
        rw [List.mem_cons]
        constructor
        · exact Or.imp id Or.inr
        · rintro (inKnown | rfl | inRest)
          · exact Or.inl inKnown
          · exact Or.inl isKnown
          · exact Or.inr inRest
      · simp only [List.mem_append, List.mem_cons, List.not_mem_nil, or_false,
          or_assoc]

theorem nodup_appendNew
    {known : List String}
    (nodup : known.Nodup)
    (new : List String) :
    (appendNew known new).Nodup := by
  induction new generalizing known with
  | nil =>
      exact nodup
  | cons head rest inductionHypothesis =>
      rw [appendNew, List.foldl_cons, ← appendNew]
      split
      · exact inductionHypothesis nodup
      · rename_i isNew
        refine inductionHypothesis (List.nodup_append.mpr ?_)
        refine ⟨nodup, List.nodup_singleton head, ?_⟩
        intro text inKnown other isHead same
        rw [List.mem_singleton.mp isHead] at same
        exact isNew (same ▸ inKnown)

theorem appendNew_append
    (known first later : List String) :
    appendNew known (first ++ later) =
      appendNew (appendNew known first) later :=
  List.foldl_append

theorem appendNew_of_subset
    {known new : List String}
    (subset : new ⊆ known) :
    appendNew known new = known := by
  induction new with
  | nil =>
      rfl
  | cons head rest inductionHypothesis =>
      rw [List.cons_subset] at subset
      rw [appendNew, List.foldl_cons, if_pos subset.1]
      exact inductionHypothesis subset.2

/-! ## Issues that are nested -/

/-- A later issue has no counterargument that an open earlier one lacks. -/
def NestedIssues (issues : List IssueNode) : Prop :=
  issues.Pairwise fun earlier later =>
    earlier.status ≠ .answered →
      later.counterarguments ⊆ earlier.counterarguments

/-- The issue keeps its counterarguments, and an answer is final. -/
structure IssueNode.Carries (old new : IssueNode) : Prop where
  counterarguments : new.counterarguments = old.counterarguments
  answered : old.status = .answered → new.status = .answered

/-- The critique of one issue. -/
def argue (counters : List String) (node : IssueNode) : IssueNode :=
  if node.status = .answered then
    node
  else
    { node with
      counterarguments := appendNew node.counterarguments counters }

theorem status_argue
    (counters : List String)
    (node : IssueNode) :
    (argue counters node).status = node.status := by
  unfold argue
  split <;> rfl

theorem counterarguments_argue
    (counters : List String)
    (node : IssueNode) :
    (argue counters node).counterarguments =
      if node.status = .answered then
        node.counterarguments
      else
        appendNew node.counterarguments counters := by
  unfold argue
  split <;> rfl

theorem NestedIssues.argue
    {issues : List IssueNode}
    (nested : NestedIssues issues)
    (counters : List String) :
    NestedIssues (issues.map (argue counters)) := by
  refine List.pairwise_map.mpr (nested.imp ?_)
  intro earlier later subset
  rw [status_argue]
  intro isOpen text member
  rw [counterarguments_argue, if_neg isOpen, mem_appendNew]
  rw [counterarguments_argue] at member
  split at member
  · exact Or.inl (subset isOpen member)
  · exact (mem_appendNew.mp member).imp_left fun known => subset isOpen known

/-- What a critique adds to nested issues stands behind what was seen. -/
theorem NestedIssues.seen_argue
    {issues : List IssueNode}
    (nested : NestedIssues issues)
    (counters known : List String) :
    appendNew known (issues.flatMap IssueNode.counterarguments) <+:
      appendNew known
        ((issues.map (ResearchCos.argue counters)).flatMap
          IssueNode.counterarguments) := by
  induction issues generalizing known with
  | nil =>
      exact List.prefix_rfl
  | cons node rest inductionHypothesis =>
      obtain ⟨below, nestedRest⟩ := List.pairwise_cons.mp nested
      simp only [List.map_cons, List.flatMap_cons, appendNew_append,
        counterarguments_argue]
      split
      · exact inductionHypothesis nestedRest _
      · -- the later issues add nothing to what this one has
        rename_i isOpen
        have covered :
            rest.flatMap IssueNode.counterarguments ⊆
              appendNew known node.counterarguments := by
          intro text member
          obtain ⟨later, isLater, inLater⟩ := List.mem_flatMap.mp member
          exact mem_appendNew.mpr (Or.inr (below later isLater isOpen inLater))
        rw [appendNew_of_subset covered]
        obtain ⟨added, isAdded⟩ := prefix_appendNew node.counterarguments counters
        rw [← isAdded, appendNew_append]
        exact (prefix_appendNew _ _).trans (prefix_appendNew _ _)

/-! ## Edits of the issues -/

namespace IssueNode.Carries

theorem refl
    (node : IssueNode) :
    node.Carries node :=
  ⟨rfl, fun answered => answered⟩

theorem trans
    {first second third : IssueNode}
    (earlier : first.Carries second)
    (later : second.Carries third) :
    first.Carries third :=
  ⟨later.counterarguments.trans earlier.counterarguments,
    later.answered ∘ earlier.answered⟩

end IssueNode.Carries

/-- Old issues carry their counterarguments, new ones have none. -/
abbrev CarriesIssues (before after : OrderedMap String IssueNode) : Prop :=
  OrderedMap.Grows IssueNode.Carries
    (fun node => node.counterarguments = []) before after

theorem carries_advanceIssue
    (now query : String)
    (node : IssueNode) :
    node.Carries (advanceIssue now query node) := by
  unfold advanceIssue
  cases status : node.status <;>
    exact ⟨rfl, by simp [status, IssueNode.setStatus]⟩

theorem IssueEdit.carries
    {node : Node}
    {before after : OrderedMap String IssueNode}
    (edit : IssueEdit node before after) :
    CarriesIssues before after := by
  cases edit with
  | raised text =>
      refine .mapValues (fun node => ?_) _
      unfold applySteerText
      split
      · exact ⟨rfl, id⟩
      · exact .refl node
  | added absent _ new =>
      exact .insert IssueNode.Carries.refl absent new
  | advanced now query =>
      exact
        .modify IssueNode.Carries.refl fun node _ =>
          carries_advanceIssue now query node
  | stamped =>
      refine .mapValues (fun node => ?_) _
      exact ⟨rfl, id⟩
  | noted rs =>
      simp only [notedBlockers]
      refine .mapValues (fun node => ?_) _
      split
      · exact ⟨rfl, id⟩
      · exact .refl node
  | pushed now _ stored addressable =>
      refine .modify IssueNode.Carries.refl fun issue isTarget => ?_
      rw [stored] at isTarget
      cases isTarget
      refine ⟨?_, fun answered => ?_⟩
      · unfold markPushed
        split <;> rfl
      · rw [answered] at addressable
        cases addressable

theorem carries_of_edits
    {node : Node}
    {before after : OrderedMap String IssueNode}
    (edits : Relation.ReflTransGen (IssueEdit node) before after) :
    CarriesIssues before after := by
  induction edits with
  | refl =>
      exact OrderedMap.Grows.refl IssueNode.Carries.refl before
  | tail _ last inductionHypothesis =>
      have stays :
          ∀ {old new : IssueNode}, old.Carries new →
            old.counterarguments = [] → new.counterarguments = [] :=
        fun carries isNew => carries.counterarguments.trans isNew
      exact
        OrderedMap.Grows.trans IssueNode.Carries.trans stays
          inductionHypothesis last.carries

/-- Outside the critique nothing is added to what was seen. -/
theorem flatMap_of_carries
    {before after : OrderedMap String IssueNode}
    (carries : CarriesIssues before after) :
    after.values.flatMap IssueNode.counterarguments =
      before.values.flatMap IssueNode.counterarguments := by
  obtain ⟨kept, added, isAfter, related, empty⟩ := carries.values
  have nothing : added.flatMap IssueNode.counterarguments = [] := by
    rw [List.flatMap_eq_nil_iff]
    exact empty
  rw [isAfter, List.flatMap_append, nothing, List.append_nil]
  clear isAfter
  generalize before.values = issues at related
  induction related with
  | nil =>
      rfl
  | cons carries _ inductionHypothesis =>
      rw [List.flatMap_cons, List.flatMap_cons, carries.counterarguments,
        inductionHypothesis]

/-- Every new issue comes from an old one. -/
theorem exists_related
    {olds news : List IssueNode}
    (related : List.Forall₂ IssueNode.Carries olds news)
    {new : IssueNode}
    (member : new ∈ news) :
    ∃ old ∈ olds, old.Carries new := by
  induction related with
  | nil =>
      cases member
  | cons carries _ inductionHypothesis =>
      rcases List.mem_cons.mp member with rfl | later
      · exact ⟨_, List.mem_cons_self, carries⟩
      · obtain ⟨old, wasLater, carriesLater⟩ := inductionHypothesis later
        exact ⟨old, List.mem_cons_of_mem _ wasLater, carriesLater⟩

/-- Edits keep the issues nested. -/
theorem nested_of_carries
    {before after : OrderedMap String IssueNode}
    (carries : CarriesIssues before after)
    (nested : NestedIssues before.values) :
    NestedIssues after.values := by
  obtain ⟨kept, added, isAfter, related, empty⟩ := carries.values
  rw [isAfter]
  have emptyBelow :
      ∀ earlier : IssueNode, ∀ later ∈ added,
        earlier.status ≠ .answered →
          later.counterarguments ⊆ earlier.counterarguments := by
    intro earlier later isAdded _
    rw [empty later isAdded]
    exact List.nil_subset _
  refine List.pairwise_append.mpr ⟨?_, ?_, ?_⟩
  · generalize before.values = issues at related nested
    clear isAfter emptyBelow
    induction related with
    | nil =>
        exact .nil
    | @cons old new olds news carries others inductionHypothesis =>
        obtain ⟨below, nestedRest⟩ := List.pairwise_cons.mp nested
        refine List.pairwise_cons.mpr ⟨?_, inductionHypothesis nestedRest⟩
        intro later isLater isOpen
        obtain ⟨oldLater, wasLater, carriesLater⟩ :=
          exists_related others isLater
        rw [carries.counterarguments, carriesLater.counterarguments]
        exact below oldLater wasLater fun answered =>
          isOpen (carries.answered answered)
  · exact
      List.pairwise_of_forall_mem_list fun earlier _ later isLater =>
        emptyBelow earlier later isLater
  · exact fun earlier _ later isLater => emptyBelow earlier later isLater

/-! ## The cards of a run -/

section Runs

variable [PythonText]

omit [PythonText] in
/-- A state whose issues are numbered and nested. -/
structure CritiqueState (rs : ResearchState) : Prop where
  numbered : rs.Numbered
  nested : NestedIssues rs.issueMap.values

/-- What every node does to the counterarguments that were seen. -/
theorem NodeUpdate.counterarguments
    {env : StepEnv}
    {state : GraphState}
    {world after : World}
    {node : Node}
    {update : Update}
    (written : NodeUpdate env state world node update after)
    (before : CritiqueState state.researchState) :
    CritiqueState update.researchState ∧
      seenCounterarguments state.researchState <+:
        seenCounterarguments update.researchState ∧
      (node ≠ .skeptic →
        seenCounterarguments update.researchState =
          seenCounterarguments state.researchState) := by
  have numbered := (written.goesOn before.numbered).1
  by_cases argues : node = .skeptic
  · subst argues
    cases written with
    | argued counters =>
        refine ⟨⟨numbered, ?_⟩, ?_, fun other => absurd rfl other⟩
        · rw [OrderedMap.values_mapValues]
          exact before.nested.argue counters
        · rw [seenCounterarguments, seenCounterarguments,
            OrderedMap.values_mapValues]
          exact before.nested.seen_argue counters []
  · have carries :=
      carries_of_edits ((written.editsIssues argues).edits before.numbered)
    have same :
        seenCounterarguments update.researchState =
          seenCounterarguments state.researchState := by
      rw [seenCounterarguments, flatMap_of_carries carries]
      rfl
    exact
      ⟨⟨numbered, nested_of_carries carries before.nested⟩,
        same ▸ List.prefix_rfl, fun _ => same⟩

omit [PythonText] in
theorem CritiqueState.of_stopReason
    {rs : ResearchState}
    (critique : CritiqueState rs)
    (reason : Option String) :
    CritiqueState { rs with stopReason := reason } :=
  ⟨(GoesOn.of_stopReason rs reason critique.numbered).1, critique.nested⟩

/-- What a step does to the counterarguments that were seen. -/
theorem step_counterarguments
    {execution next : Execution}
    {env : StepEnv}
    {node : Node}
    (before : CritiqueState execution.graph.researchState)
    (entered : execution.control.node? = some node)
    (stepped : step execution env = some next) :
    CritiqueState next.graph.researchState ∧
      seenCounterarguments execution.graph.researchState <+:
        seenCounterarguments next.graph.researchState ∧
      (node ≠ .skeptic →
        seenCounterarguments next.graph.researchState =
          seenCounterarguments execution.graph.researchState) := by
  obtain
    ⟨other, seen, visits,
      same | ⟨update, world, after, reason, ran, moved⟩⟩ :=
        step_writes stepped
  · rw [same]
    exact ⟨before, List.prefix_rfl, fun _ => rfl⟩
  · obtain rfl : other = node :=
      Option.some.inj (visits.node?.symm.trans entered)
    obtain ⟨critique, grows, unchanged⟩ :=
      (runNode_updates ran).counterarguments before
    rw [moved]
    exact ⟨critique.of_stopReason reason, grows, unchanged⟩

omit [PythonText] in
/-- What the critique cards of the process have shown. -/
structure CritiqueShown (run : WatchedRun) : Prop where
  critique : CritiqueState run.execution.graph.researchState
  shown :
    ∃ reader : Reader String,
      reader.mark = run.seen.critiqueN ∧
        ShownOnce "反論" critiqueLine run.critiqueCards reader
          (seenCounterarguments run.execution.graph.researchState)

omit [PythonText] in
theorem CritiqueShown.processOf
    {run : WatchedRun}
    (shown : CritiqueShown run) :
    CritiqueShown (processOf run) := by
  unfold ResearchCos.processOf
  split
  · exact ⟨shown.critique, {}, rfl, .begin _⟩
  · exact shown

theorem watchedStep_critiqueShown
    {run next : WatchedRun}
    {env : StepEnv}
    (shown : CritiqueShown run)
    (stepped : watchedStep run env = some next) :
    CritiqueShown next := by
  obtain ⟨critique, reader, isMark, before⟩ := shown.processOf
  rw [execution_processOf] at critique before
  obtain ⟨node, after, entered, isStep, ⟨_, sameGraph, rfl⟩ | rfl⟩ :=
    watchedStep_eq_some stepped
  · refine ⟨?_, reader, isMark, ?_⟩
    · simpa only [sameGraph] using critique
    · simpa only [sameGraph] using before
  · obtain ⟨critiqueAfter, grows, unchanged⟩ :=
      step_counterarguments critique entered isStep
    obtain ⟨execution, _, kept⟩ :=
      render_stages node { processOf run with execution := after }
    refine ⟨execution.symm ▸ critiqueAfter, ?_⟩
    by_cases argues : node = .skeptic
    · subst argues
      refine
        ⟨reader.look (seenCounterarguments after.graph.researchState), rfl, ?_⟩
      rw [execution]
      have rendered := before.render grows
      rw [isMark] at rendered
      exact rendered
    · obtain ⟨sameCards, sameMark⟩ := kept argues
      refine ⟨reader, isMark.trans sameMark.symm, ?_⟩
      rw [execution, sameCards]
      simpa only [unchanged argues] using before

/--
At every moment of a run the critique cards of the process at work show every
counterargument of the issues exactly once, from its first card on.
-/
theorem critique_cards_once
    {execution : Execution}
    {final : WatchedRun}
    {envs : List StepEnv}
    (unminted : NothingMinted execution.graph.researchState)
    (ran : exec watchedStep (.enter execution) envs = some final) :
    ∃ chunks : List (List String),
      final.critiqueCards = chunks.map (chunkCard "反論" critiqueLine) ∧
        chunks.flatten.Nodup ∧
        (chunks ≠ [] →
          ∀ counterargument,
            counterargument ∈ chunks.flatten ↔
              ∃ issue ∈
                  final.execution.graph.researchState.issueMap.values,
                counterargument ∈ issue.counterarguments) := by
  have begins : CritiqueShown (.enter execution) := by
    refine ⟨⟨?_, ?_⟩, {}, rfl, .begin _⟩
    · exact
        ResearchState.numbered_of_empty unminted.1 unminted.2.1 unminted.2.2
    · rw [WatchedRun.enter, unminted.1]
      exact .nil
  obtain ⟨_, reader, _, shown⟩ :=
    exec_invariant (motive := CritiqueShown) watchedStep_critiqueShown begins
      ran
  have nodup :
      (seenCounterarguments final.execution.graph.researchState).Nodup :=
    nodup_appendNew List.nodup_nil _
  refine ⟨reader.shown, shown.isCards, ?_, ?_⟩
  · rcases shown.upToDate with none | all
    · rw [none]
      exact List.nodup_nil
    · rw [all]
      exact nodup
  · intro some counterargument
    rw [shown.upToDate.resolve_left some, seenCounterarguments, mem_appendNew,
      List.mem_flatMap]
    simp only [List.not_mem_nil, false_or]

end Runs

/-- A question with one issue, criticised anew in each of two passes. -/
private def criticisedQuestion : Execution where
  graph :=
    { researchState := { runId := "run", originalQuestion := "question" }
      config := { assumeBrief := true } }
  control := .at .intake
  world := {}

private def criticalBrains (counters : List String) : Brains :=
  { Brains.silent with
    issueExpander := fun _ =>
      some
        [{ title := "issue"
           description := ""
           issueType := .market
           impact := 3
           confidence := 2 }]
    skeptic := fun _ _ => some counters }

/-- The second pass shows the counterargument that the first one lacks. -/
theorem critique_cards_once_secondPass :
    letI := PythonText.ascii
    ∃ final,
      exec watchedStep (.enter criticisedQuestion)
          (List.replicate 14 (.calm (criticalBrains ["a"])) ++
            List.replicate 10 (.calm (criticalBrains ["b", "a"]))) =
        some final ∧
      final.critiqueCards = ["+1 反論\n  • a", "+1 反論\n  • b"] ∧
      ∃ chunks : List (List String),
        final.critiqueCards = chunks.map (chunkCard "反論" critiqueLine) ∧
          chunks.flatten.Nodup ∧
          (chunks ≠ [] →
            ∀ counterargument,
              counterargument ∈ chunks.flatten ↔
                ∃ issue ∈
                    final.execution.graph.researchState.issueMap.values,
                  counterargument ∈ issue.counterarguments) := by
  let _ := PythonText.ascii
  let envs :=
    List.replicate 14 (StepEnv.calm (criticalBrains ["a"])) ++
      List.replicate 10 (.calm (criticalBrains ["b", "a"]))
  let final :=
    (exec watchedStep (.enter criticisedQuestion) envs).get
      (by decide +kernel)
  have ran :
      exec watchedStep (.enter criticisedQuestion) envs = some final :=
    (Option.some_get _).symm
  exact
    ⟨final, ran, by decide +kernel,
      critique_cards_once ⟨rfl, rfl, rfl⟩ ran⟩

end ResearchCos
