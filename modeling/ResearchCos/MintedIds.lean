import ResearchCos.ChallengeDialogue
import ResearchCos.EmissionGates

namespace ResearchCos

open Foundation

/-!
# Minted identifiers

Issues, challenges and tasks are minted under numbers one beyond the size of
their map; tasks of blocked cells share the map of tasks under names of their
own.  No call ever assigns to an identifier that is in use, in whatever order
the calls come and whatever happens to the entries in between.
-/

namespace IssueMap

/-- The identifier minted for the `n`-th issue. -/
def issueId (n : Nat) : String :=
  "I-" ++ pad3 n

/-- Different numbers mint different identifiers. -/
theorem issueId_injective : Function.Injective issueId := by
  intro first second same
  have sameCharacters := congrArg String.toList same
  simp only [issueId, String.toList_append, List.append_cancel_left_eq,
    String.toList_inj] at sameCharacters
  exact pad3_injective sameCharacters

end IssueMap

/-! ## Calls -/

/-- What the rest of the program does between two calls. -/
structure Revision where
  evidence : List EvidenceBundle
  taskGrid : Option TaskGrid
  issue : IssueNode → IssueNode
  challenge : AlbertChallenge → AlbertChallenge
  task : HumanTask → HumanTask

namespace Revision

/-- Entries change in place and keep their identifiers. -/
def reviseIssue (revision : Revision) (node : IssueNode) : IssueNode :=
  { revision.issue node with id := node.id }

def reviseChallenge
    (revision : Revision)
    (challenge : AlbertChallenge) : AlbertChallenge :=
  { revision.challenge challenge with id := challenge.id }

def reviseTask (revision : Revision) (task : HumanTask) : HumanTask :=
  { revision.task task with id := task.id }

def apply (revision : Revision) (state : ResearchState) : ResearchState :=
  { state with
    evidence := revision.evidence
    taskGrid := revision.taskGrid
    issueMap := state.issueMap.mapValues revision.reviseIssue
    albertChallengeMap :=
      state.albertChallengeMap.mapValues revision.reviseChallenge
    humanTasks := state.humanTasks.mapValues revision.reviseTask }

end Revision

/-- A call that may mint identifiers, or a revision in between. -/
inductive MapCall where
  | addIssue
      (title description : String)
      (issueType : IssueType)
      (status : IssueStatus)
      (now : String)
      (impact confidence : Int)
  | addChallenge
      (challenge whyAlbertWouldAsk : String)
      (status : ChallengeStatus)
      (classification : Option Classification)
      (confidence : Int)
  | upsertChallenge (raised : RaisedChallenge)
  | humanPush (now : String)
  | routeCitations
  | mintBlockedCellTasks
  | elsewhere (revision : Revision)

/-- Handing over an issue raises before anything is assigned. -/
def pushRaises (state : ResearchState) : Bool :=
  match pushTarget state with
  | none => false
  | some (_, target) => !decide (InRange target.impact)

section Calls

variable [PythonText]

/--
The state after a call.  An entry that does not validate raises before it is
assigned, and leaves the state as it was; any other exception has no successor.
-/
def callStep (state : ResearchState) : MapCall → Option ResearchState
  | .addIssue title description issueType status now impact confidence =>
      some
        ((IssueMap.add state title description issueType status now impact
          confidence).getD state)
  | .addChallenge challenge whyAlbertWouldAsk status classification
      confidence =>
      some
        { state with
          albertChallengeMap :=
            (ChallengeMap.add state.albertChallengeMap challenge
              whyAlbertWouldAsk status classification confidence).getD
              state.albertChallengeMap }
  | .upsertChallenge raised =>
      some
        { state with
          albertChallengeMap :=
            ((ChallengeMap.upsert state.albertChallengeMap raised).map
              Prod.fst).getD state.albertChallengeMap }
  | .humanPush now =>
      if pushRaises state then
        some state
      else
        (nodeHumanPush
          { researchState := state, config := { now := now } }).map
          Update.researchState
  | .routeCitations =>
      (DecisionMemo.routeCitations state).map Prod.snd
  | .mintBlockedCellTasks => some (mintBlockedCellTasks state)
  | .elsewhere revision => some (revision.apply state)

omit [PythonText] in
/-- How a call may change an issue that is there. -/
def MapCall.changesIssue (call : MapCall) (old new : IssueNode) : Prop :=
  match call with
  | .humanPush _ =>
      ∃ status lastUpdated humanBlockers,
        new =
          { old with
            status := status
            lastUpdated := lastUpdated
            humanBlockers := humanBlockers }
  | .elsewhere revision => new = revision.reviseIssue old
  | _ => new = old

omit [PythonText] in
/-- How a call may change a challenge that is there. -/
def MapCall.changesChallenge
    (call : MapCall)
    (old new : AlbertChallenge) : Prop :=
  match call with
  | .upsertChallenge raised =>
      new = old ∨ new = ChallengeMap.merge old raised
  | .elsewhere revision => new = revision.reviseChallenge old
  | _ => new = old

omit [PythonText] in
/-- How a call may change a task that is there. -/
def MapCall.changesTask (call : MapCall) (old new : HumanTask) : Prop :=
  match call with
  | .elsewhere revision => new = revision.reviseTask old
  | _ => old = new

omit [PythonText] in
/-- No entry is replaced or taken away, and no identifier moves. -/
structure NothingLost
    (call : MapCall)
    (before after : ResearchState) : Prop where
  issues :
    OrderedMap.Keeps call.changesIssue before.issueMap after.issueMap
  challenges :
    OrderedMap.Keeps call.changesChallenge before.albertChallengeMap
      after.albertChallengeMap
  tasks :
    OrderedMap.Keeps call.changesTask before.humanTasks after.humanTasks

/-- What a call mints is in its map afterwards. -/
def StoresMinted
    (call : MapCall)
    (before after : ResearchState) : Prop :=
  match call with
  | .addIssue title _ _ _ _ impact confidence =>
      InRange impact → InRange confidence →
        ∃ node,
          after.issueMap.get? (IssueMap.nextId before) = some node ∧
            node.title = title
  | .addChallenge challenge _ _ _ confidence =>
      InRange confidence →
        ∃ minted,
          after.albertChallengeMap.get?
              (ChallengeMap.nextId before.albertChallengeMap) =
            some minted ∧
            minted.challenge = challenge
  | .upsertChallenge raised =>
      ChallengeMap.findLiveMatch before.albertChallengeMap raised = none →
      InRange (raised.confidence.getD 0) →
        after.albertChallengeMap.get?
            (ChallengeMap.nextId before.albertChallengeMap) =
          some (ChallengeMap.mint before.albertChallengeMap raised)
  | .humanPush _ =>
      ∀ key target,
        pushTarget before = some (key, target) →
        InRange target.impact →
        after.humanTasks.get? (HumanTasks.nextId before.humanTasks) =
          some (internalDataTask before.humanTasks target)
  | .routeCitations =>
      ∀ result routed,
        DecisionMemo.routeCitations before = some (result, routed) →
        ∀ task ∈ result.needsSupplement,
          after.humanTasks.get? task.id = some task
  | .mintBlockedCellTasks =>
      ∀ grid,
        before.taskGrid = some grid →
        ∀ cell ∈ grid.cells.values,
          cell.status = .blocked →
          after.humanTasks.contains (blockedCellTask cell).id = true
  | .elsewhere _ => True

omit [PythonText] in
/-- The identifiers that would be minted next are not in use. -/
structure NextAbsent (state : ResearchState) : Prop where
  issue : state.issueMap.get? (IssueMap.nextId state) = none
  challenge :
    state.albertChallengeMap.get?
        (ChallengeMap.nextId state.albertChallengeMap) =
      none
  task :
    state.humanTasks.get? (HumanTasks.nextId state.humanTasks) = none

omit [PythonText] in
/-- Entries are stored under their identifiers, and later numbers are unused. -/
structure WellNumbered (state : ResearchState) : Prop where
  issues : OrderedMap.FreshKeys IssueMap.issueId state.issueMap
  issueKeys : OrderedMap.KeyedBy IssueNode.id state.issueMap
  challenges :
    OrderedMap.FreshKeys ChallengeMap.challengeId state.albertChallengeMap
  tasks : HumanTasks.FreshIds state.humanTasks
  taskKeys : OrderedMap.KeyedBy HumanTask.id state.humanTasks

omit [PythonText] in
theorem WellNumbered.nextAbsent
    {state : ResearchState}
    (numbered : WellNumbered state) :
    NextAbsent state where
  issue := numbered.issues.next_absent
  challenge := numbered.challenges.next_absent
  task := numbered.tasks.nextId_absent

omit [PythonText] in
/-- Whether entries are revised between the calls. -/
def MapCall.revises : MapCall → Bool
  | .elsewhere _ => true
  | _ => false

omit [PythonText] in
theorem MapCall.changesIssue_self
    {call : MapCall}
    (plain : call.revises = false)
    (node : IssueNode) :
    call.changesIssue node node := by
  cases call with
  | elsewhere revision =>
      cases plain
  | humanPush now =>
      exact ⟨_, _, _, rfl⟩
  | _ =>
      rfl

omit [PythonText] in
theorem MapCall.changesChallenge_self
    {call : MapCall}
    (plain : call.revises = false)
    (known : AlbertChallenge) :
    call.changesChallenge known known := by
  cases call with
  | elsewhere revision =>
      cases plain
  | upsertChallenge raised =>
      exact Or.inl rfl
  | _ =>
      rfl

omit [PythonText] in
theorem MapCall.changesTask_self
    {call : MapCall}
    (plain : call.revises = false)
    (task : HumanTask) :
    call.changesTask task task := by
  cases call with
  | elsewhere revision =>
      cases plain
  | _ =>
      rfl

omit [PythonText] in
/-- A call about issues only. -/
theorem NothingLost.of_issues
    {call : MapCall}
    {before after : ResearchState}
    (plain : call.revises = false)
    (issues :
      OrderedMap.Keeps call.changesIssue before.issueMap after.issueMap)
    (challenges : after.albertChallengeMap = before.albertChallengeMap)
    (tasks : after.humanTasks = before.humanTasks) :
    NothingLost call before after := by
  refine ⟨issues, ?_, ?_⟩
  · rw [challenges]
    exact .refl (MapCall.changesChallenge_self plain) _
  · rw [tasks]
    exact .refl (MapCall.changesTask_self plain) _

omit [PythonText] in
/-- A call about challenges only. -/
theorem NothingLost.of_challenges
    {call : MapCall}
    {before after : ResearchState}
    (plain : call.revises = false)
    (challenges :
      OrderedMap.Keeps call.changesChallenge before.albertChallengeMap
        after.albertChallengeMap)
    (issues : after.issueMap = before.issueMap)
    (tasks : after.humanTasks = before.humanTasks) :
    NothingLost call before after := by
  refine ⟨?_, challenges, ?_⟩
  · rw [issues]
    exact .refl (MapCall.changesIssue_self plain) _
  · rw [tasks]
    exact .refl (MapCall.changesTask_self plain) _

omit [PythonText] in
/-- A call about issues and tasks. -/
theorem NothingLost.of_tasks
    {call : MapCall}
    {before after : ResearchState}
    (plain : call.revises = false)
    (tasks :
      OrderedMap.Keeps call.changesTask before.humanTasks after.humanTasks)
    (issues :
      OrderedMap.Keeps call.changesIssue before.issueMap after.issueMap)
    (challenges : after.albertChallengeMap = before.albertChallengeMap) :
    NothingLost call before after := by
  refine ⟨issues, ?_, tasks⟩
  rw [challenges]
  exact .refl (MapCall.changesChallenge_self plain) _

/-- A call loses nothing, stores what it mints and numbers on. -/
structure Called
    (call : MapCall)
    (before after : ResearchState) : Prop where
  lost : NothingLost call before after
  stores : StoresMinted call before after
  numbered : WellNumbered after

/-- A call that changes nothing. -/
theorem Called.unchanged
    {call : MapCall}
    {state : ResearchState}
    (plain : call.revises = false)
    (numbered : WellNumbered state)
    (stores : StoresMinted call state state) :
    Called call state state :=
  ⟨.of_issues plain (.refl (MapCall.changesIssue_self plain) _) rfl rfl,
    stores, numbered⟩

theorem addIssue_called
    {state : ResearchState}
    (numbered : WellNumbered state)
    (title description now : String)
    (issueType : IssueType)
    (status : IssueStatus)
    (impact confidence : Int) :
    Called
      (.addIssue title description issueType status now impact confidence)
      state
      ((IssueMap.add state title description issueType status now impact
        confidence).getD state) := by
  by_cases valid : InRange impact ∧ InRange confidence
  · have absent : state.issueMap.get? (IssueMap.nextId state) = none :=
      numbered.issues.next_absent
    simp only [IssueMap.add, IssueNode.Valid, valid, and_self, if_true,
      Option.getD_some]
    refine ⟨.of_issues rfl ?_ rfl rfl, ?_, ?_⟩
    · exact .insert (MapCall.changesIssue_self rfl) absent _
    · intro _ _
      exact ⟨_, OrderedMap.get?_insert_self _ _ _, rfl⟩
    · exact
        { numbered with
          issues := numbered.issues.insert_next IssueMap.issueId_injective _
          issueKeys := numbered.issueKeys.insert rfl }
  · simp only [IssueMap.add, IssueNode.Valid, valid, if_false,
      Option.getD_none]
    refine .unchanged rfl numbered ?_
    intro impactInRange confidenceInRange
    exact absurd ⟨impactInRange, confidenceInRange⟩ valid

theorem addChallenge_called
    {state : ResearchState}
    (numbered : WellNumbered state)
    (challenge whyAlbertWouldAsk : String)
    (status : ChallengeStatus)
    (classification : Option Classification)
    (confidence : Int) :
    Called
      (.addChallenge challenge whyAlbertWouldAsk status classification
        confidence)
      state
      { state with
        albertChallengeMap :=
          (ChallengeMap.add state.albertChallengeMap challenge
            whyAlbertWouldAsk status classification confidence).getD
            state.albertChallengeMap } := by
  by_cases valid : InRange confidence
  · have absent :
        state.albertChallengeMap.get?
            (ChallengeMap.nextId state.albertChallengeMap) =
          none :=
      numbered.challenges.next_absent
    simp only [ChallengeMap.add, valid, if_true, Option.getD_some]
    refine ⟨.of_challenges rfl ?_ rfl rfl, ?_, ?_⟩
    · exact .insert (MapCall.changesChallenge_self rfl) absent _
    · intro _
      exact ⟨_, OrderedMap.get?_insert_self _ _ _, rfl⟩
    · exact
        { numbered with
          challenges :=
            numbered.challenges.insert_next ChallengeMap.challengeId_injective
              _ }
  · simp only [ChallengeMap.add, valid, if_false, Option.getD_none]
    exact .unchanged rfl numbered fun inRange => absurd inRange valid

theorem upsertChallenge_called
    {state : ResearchState}
    (numbered : WellNumbered state)
    (raised : RaisedChallenge) :
    Called (.upsertChallenge raised) state
      { state with
        albertChallengeMap :=
          ((ChallengeMap.upsert state.albertChallengeMap raised).map
            Prod.fst).getD state.albertChallengeMap } := by
  cases found : ChallengeMap.findLiveMatch state.albertChallengeMap raised with
  | some key =>
      simp only [ChallengeMap.upsert, found, Option.map_some,
        Option.getD_some]
      refine ⟨.of_challenges rfl ?_ rfl rfl, ?_, ?_⟩
      · refine .modify (MapCall.changesChallenge_self rfl) ?_ _ key
        intro known
        exact Or.inr rfl
      · intro unmatched
        rw [found] at unmatched
        cases unmatched
      · exact
          { numbered with challenges := numbered.challenges.modify key _ }
  | none =>
      by_cases valid :
        InRange (ChallengeMap.mint state.albertChallengeMap raised).confidence
      · have absent :
            state.albertChallengeMap.get?
                (ChallengeMap.nextId state.albertChallengeMap) =
              none :=
          numbered.challenges.next_absent
        simp only [ChallengeMap.upsert, found, valid, if_true,
          Option.map_some, Option.getD_some]
        refine ⟨.of_challenges rfl ?_ rfl rfl, ?_, ?_⟩
        · exact .insert (MapCall.changesChallenge_self rfl) absent _
        · intro _ _
          exact OrderedMap.get?_insert_self _ _ _
        · exact
            { numbered with
              challenges :=
                numbered.challenges.insert_next
                  ChallengeMap.challengeId_injective _ }
      · simp only [ChallengeMap.upsert, found, valid, if_false,
          Option.map_none, Option.getD_none]
        exact
          .unchanged rfl numbered fun _ inRange => absurd inRange valid

omit [PythonText] in
/-- The issue that is handed over is in the map. -/
theorem pushTarget_stored
    {state : ResearchState}
    {key : String}
    {target : IssueNode}
    (isTarget : pushTarget state = some (key, target)) :
    state.issueMap.get? key = some target := by
  have member := List.mem_of_find?_eq_some isTarget
  rw [List.mem_insertionSort] at member
  exact OrderedMap.get?_of_mem_entries member

omit [PythonText] in
/-- The target is blocked first and marked afterwards, which is one change. -/
theorem keeps_blockedAndMarked
    (issues : OrderedMap String IssueNode)
    (id key now : String) :
    OrderedMap.Keeps (MapCall.humanPush now).changesIssue issues
      ((issues.modify id fun node =>
          node.setStatus .blockedByInternalData now).modify key fun node =>
        if internalDataBlocker ∈ node.humanBlockers then
          node
        else
          { node with
            humanBlockers := node.humanBlockers ++ [internalDataBlocker] }) := by
  have same :
      ∀ node, (MapCall.humanPush now).changesIssue node node :=
    MapCall.changesIssue_self rfl
  have blocks :
      ∀ node,
        (MapCall.humanPush now).changesIssue node
          (node.setStatus .blockedByInternalData now) := by
    intro node
    exact ⟨_, _, _, rfl⟩
  have marks :
      ∀ node,
        (MapCall.humanPush now).changesIssue node
          (if internalDataBlocker ∈ node.humanBlockers then
            node
          else
            { node with
              humanBlockers :=
                node.humanBlockers ++ [internalDataBlocker] }) := by
    intro node
    split
    · exact same node
    · exact ⟨_, _, _, rfl⟩
  refine
    (OrderedMap.Keeps.modify same blocks _ _).trans (.modify same marks _ _) ?_
  rintro old middle new ⟨_, _, _, rfl⟩ ⟨_, _, _, rfl⟩
  exact ⟨_, _, _, rfl⟩

theorem humanPush_called
    {state : ResearchState}
    (numbered : WellNumbered state)
    (now : String) :
    ∃ next,
      callStep state (.humanPush now) = some next ∧
        Called (.humanPush now) state next := by
  cases isTarget : pushTarget state with
  | none =>
      refine ⟨state, ?_, .unchanged rfl numbered ?_⟩
      · simp [callStep, pushRaises, isTarget, nodeHumanPush, Update.ofState]
      · intro key target found
        rw [isTarget] at found
        cases found
  | some entry =>
      obtain ⟨key, target⟩ := entry
      by_cases valid : InRange target.impact
      · have stored := pushTarget_stored isTarget
        have isKey : target.id = key := numbered.issueKeys key target stored
        have present : state.issueMap.contains target.id = true := by
          rw [OrderedMap.contains, isKey, stored]
          rfl
        have absent :
            state.humanTasks.get? (HumanTasks.nextId state.humanTasks) =
              none :=
          numbered.tasks.nextId_absent
        have priority :
            InRange (internalDataTask state.humanTasks target).priority :=
          valid
        simp only [callStep, pushRaises, isTarget, valid, decide_true,
          Bool.not_true, Bool.false_eq_true, if_false, nodeHumanPush,
          priority, if_true, IssueMap.setStatus, present, Option.map_some]
        refine ⟨_, rfl, .of_tasks rfl ?_ ?_ rfl, ?_, ?_⟩
        · exact .insert (MapCall.changesTask_self rfl) absent _
        · exact keeps_blockedAndMarked _ _ _ _
        · intro other found sameTarget _
          rw [isTarget] at sameTarget
          cases sameTarget
          exact OrderedMap.get?_insert_self _ _ _
        · refine
            { numbered with
              issues := (numbered.issues.modify _ _).modify _ _
              issueKeys := (numbered.issueKeys.modify ?_ _).modify ?_ _
              tasks := numbered.tasks.insert_next _
              taskKeys := numbered.taskKeys.insert rfl }
          · intro node
            rfl
          · intro node
            split <;> rfl
      · refine ⟨state, ?_, .unchanged rfl numbered ?_⟩
        · simp [callStep, pushRaises, isTarget, valid]
        · intro other found sameTarget inRange
          rw [isTarget] at sameTarget
          cases sameTarget
          exact absurd inRange valid

omit [PythonText] in
/-- A task among keyed ones is stored under its identifier. -/
theorem get?_id_of_mem_values
    {tasks : OrderedMap String HumanTask}
    (keyed : OrderedMap.KeyedBy HumanTask.id tasks)
    {task : HumanTask}
    (member : task ∈ tasks.values) :
    tasks.get? task.id = some task := by
  obtain ⟨entry, entryMember, rfl⟩ := List.mem_map.mp member
  have underKey := OrderedMap.get?_of_mem_entries entryMember
  rw [keyed _ _ underKey]
  exact underKey

/-- Routing keeps the tasks and stores every supplement under its identifier. -/
theorem routeClaims_stores
    (state : ResearchState)
    (claims : List (Claim × Option String))
    {origin tasks : OrderedMap String HumanTask}
    {existingInputs : List String}
    {result : DecisionMemo.RouteResult}
    (fresh : HumanTasks.FreshIds tasks)
    (keyed : OrderedMap.KeyedBy HumanTask.id tasks)
    (kept : OrderedMap.Keeps Eq origin tasks)
    (known :
      ∀ text ∈ existingInputs, DecisionMemo.IsRequested tasks text)
    (stored :
      ∀ task ∈ result.needsSupplement, tasks.get? task.id = some task) :
    ∃ finalResult finalTasks,
      DecisionMemo.routeClaims state claims tasks existingInputs result =
          some (finalResult, finalTasks) ∧
        HumanTasks.FreshIds finalTasks ∧
        OrderedMap.KeyedBy HumanTask.id finalTasks ∧
        OrderedMap.Keeps Eq origin finalTasks ∧
        ∀ task ∈ finalResult.needsSupplement,
          finalTasks.get? task.id = some task := by
  induction claims generalizing tasks existingInputs result with
  | nil =>
      exact ⟨result, tasks, rfl, fresh, keyed, kept, stored⟩
  | cons head rest inductionHypothesis =>
      obtain ⟨claim, issueId⟩ := head
      unfold DecisionMemo.routeClaims
      split
      · exact inductionHypothesis fresh keyed kept known stored
      · exact inductionHypothesis fresh keyed kept known stored
      · split
        · rename_i alreadyAsked
          obtain ⟨asked, inTasks, asks⟩ := known _ alreadyAsked
          cases found :
              tasks.values.find? fun task =>
                task.requestedInput = claim.claim with
          | none =>
              have noTask := List.find?_eq_none.mp found asked inTasks
              simp [asks] at noTask
          | some task =>
              apply inductionHypothesis fresh keyed kept known
              intro supplement member
              rcases List.mem_append.mp member with earlier | isTask
              · exact stored supplement earlier
              · rw [List.mem_singleton.mp isTask]
                exact
                  get?_id_of_mem_values keyed (List.mem_of_find?_eq_some found)
        · have absent :
              tasks.get? (DecisionMemo.supplementTask tasks claim.claim).id =
                none :=
            fresh.nextId_absent
          have inserted :
              OrderedMap.Keeps Eq tasks
                (tasks.insert
                  (DecisionMemo.supplementTask tasks claim.claim).id
                  (DecisionMemo.supplementTask tasks claim.claim)) :=
            .insert (fun _ => rfl) absent _
          obtain ⟨minted, requested⟩ :=
            DecisionMemo.isRequested_insert fresh claim.claim
          apply
            inductionHypothesis (fresh.insert_next _) (keyed.insert rfl)
              (kept.trans inserted Eq.trans)
          · intro text member
            rcases List.mem_cons.mp member with isClaim | earlier
            · exact isClaim ▸ minted
            · exact requested (known text earlier)
          · intro supplement member
            rcases List.mem_append.mp member with earlier | isTask
            · obtain ⟨same, storedSame, rfl⟩ :=
                inserted _ _ (stored supplement earlier)
              exact storedSame
            · rw [List.mem_singleton] at isTask
              subst supplement
              exact OrderedMap.get?_insert_self _ _ _

theorem routeCitations_called
    {state : ResearchState}
    (numbered : WellNumbered state) :
    ∃ next,
      callStep state .routeCitations = some next ∧
        Called .routeCitations state next := by
  have known :
      ∀ text ∈ state.humanTasks.values.map HumanTask.requestedInput,
        DecisionMemo.IsRequested state.humanTasks text := by
    intro text member
    simpa [DecisionMemo.IsRequested] using member
  have nothingYet :
      ∀ task ∈ ({} : DecisionMemo.RouteResult).needsSupplement,
        state.humanTasks.get? task.id = some task := by
    intro task member
    cases member
  have unchanged : OrderedMap.Keeps Eq state.humanTasks state.humanTasks :=
    .refl (fun _ => rfl) _
  obtain ⟨result, tasks, routed, fresh, keyed, kept, stored⟩ :=
    routeClaims_stores state (DecisionMemo.collectClaims state) numbered.tasks
      numbered.taskKeys unchanged known nothingYet
  have citations :
      DecisionMemo.routeCitations state =
        some (result, { state with humanTasks := tasks }) := by
    simp [DecisionMemo.routeCitations, routed]
  refine ⟨{ state with humanTasks := tasks }, ?_, ?_, ?_, ?_⟩
  · simp [callStep, citations]
  · exact
      .of_tasks rfl kept (.refl (MapCall.changesIssue_self rfl) _) rfl
  · intro found after sameCitations
    rw [citations] at sameCitations
    cases sameCitations
    exact stored
  · exact { numbered with tasks := fresh, taskKeys := keyed }

omit [PythonText] in
/-- What the minting for blocked cells does at one cell. -/
def mintCell
    (tasks : OrderedMap String HumanTask)
    (cell : TaskCell) : OrderedMap String HumanTask :=
  let task := blockedCellTask cell
  if cell.status = .blocked ∧ tasks.contains task.id = false then
    tasks.insert task.id task
  else
    tasks

omit [PythonText] in
/-- A cell keeps the tasks, and a blocked one has its task afterwards. -/
theorem mintCell_stores
    {tasks : OrderedMap String HumanTask}
    (cell : TaskCell)
    (fresh : HumanTasks.FreshIds tasks)
    (keyed : OrderedMap.KeyedBy HumanTask.id tasks) :
    HumanTasks.FreshIds (mintCell tasks cell) ∧
      OrderedMap.KeyedBy HumanTask.id (mintCell tasks cell) ∧
      OrderedMap.Keeps Eq tasks (mintCell tasks cell) ∧
      (cell.status = .blocked →
        (mintCell tasks cell).contains (blockedCellTask cell).id = true) := by
  by_cases mints :
    cell.status = .blocked ∧ tasks.contains (blockedCellTask cell).id = false
  · have absent : tasks.get? (blockedCellTask cell).id = none := by
      simpa [OrderedMap.contains] using mints.2
    simp only [mintCell, mints, and_self, if_true]
    refine
      ⟨fresh.insert absent
          (fun n _ => HumanTasks.cellTaskId_ne_taskId cell.id n) _,
        keyed.insert rfl, .insert (fun _ => rfl) absent _, fun _ => ?_⟩
    simp [OrderedMap.contains]
  · simp only [mintCell, if_neg mints]
    refine ⟨fresh, keyed, .refl (fun _ => rfl) _, fun blocked => ?_⟩
    by_contra missing
    exact mints ⟨blocked, Bool.eq_false_iff.mpr missing⟩

omit [PythonText] in
/-- All cells keep the tasks, and every blocked one has its task afterwards. -/
theorem mintCells_store
    (cells : List TaskCell)
    {tasks : OrderedMap String HumanTask}
    (fresh : HumanTasks.FreshIds tasks)
    (keyed : OrderedMap.KeyedBy HumanTask.id tasks) :
    HumanTasks.FreshIds (cells.foldl mintCell tasks) ∧
      OrderedMap.KeyedBy HumanTask.id (cells.foldl mintCell tasks) ∧
      OrderedMap.Keeps Eq tasks (cells.foldl mintCell tasks) ∧
      ∀ cell ∈ cells,
        cell.status = .blocked →
        (cells.foldl mintCell tasks).contains (blockedCellTask cell).id =
          true := by
  induction cells generalizing tasks with
  | nil =>
      refine ⟨fresh, keyed, .refl (fun _ => rfl) _, ?_⟩
      intro cell member
      cases member
  | cons head rest inductionHypothesis =>
      obtain ⟨freshHead, keyedHead, keptHead, hasHead⟩ :=
        mintCell_stores head fresh keyed
      obtain ⟨freshRest, keyedRest, keptRest, hasRest⟩ :=
        inductionHypothesis freshHead keyedHead
      refine
        ⟨freshRest, keyedRest, keptHead.trans keptRest Eq.trans, ?_⟩
      intro cell member blocked
      rcases List.mem_cons.mp member with rfl | inRest
      · obtain ⟨task, stored⟩ := Option.isSome_iff_exists.mp (hasHead blocked)
        obtain ⟨same, storedSame, rfl⟩ := keptRest _ _ stored
        rw [List.foldl_cons, OrderedMap.contains, storedSame]
        rfl
      · exact hasRest cell inRest blocked

theorem mintBlockedCellTasks_called
    {state : ResearchState}
    (numbered : WellNumbered state) :
    Called .mintBlockedCellTasks state (mintBlockedCellTasks state) := by
  cases isGrid : state.taskGrid with
  | none =>
      rw [mintBlockedCellTasks, isGrid]
      refine .unchanged rfl numbered ?_
      intro grid found
      rw [isGrid] at found
      cases found
  | some grid =>
      obtain ⟨fresh, keyed, kept, stored⟩ :=
        mintCells_store grid.cells.values numbered.tasks numbered.taskKeys
      rw [mintBlockedCellTasks, isGrid]
      refine
        ⟨.of_tasks rfl kept (.refl (MapCall.changesIssue_self rfl) _) rfl, ?_,
          { numbered with tasks := fresh, taskKeys := keyed }⟩
      intro found sameGrid
      rw [isGrid] at sameGrid
      cases sameGrid
      exact stored

omit [PythonText] in
/-- A revision changes entries in place and mints nothing. -/
theorem revision_wellNumbered
    {state : ResearchState}
    (numbered : WellNumbered state)
    (revision : Revision) :
    WellNumbered (revision.apply state) where
  issues := numbered.issues.mapValues _
  issueKeys := numbered.issueKeys.mapValues fun _ => rfl
  challenges := numbered.challenges.mapValues _
  tasks := OrderedMap.FreshKeys.mapValues numbered.tasks _
  taskKeys := numbered.taskKeys.mapValues fun _ => rfl

/-- From a well-numbered state every call succeeds and keeps it well numbered. -/
theorem callStep_called
    {state : ResearchState}
    (numbered : WellNumbered state)
    (call : MapCall) :
    ∃ next, callStep state call = some next ∧ Called call state next := by
  cases call with
  | addIssue title description issueType status now impact confidence =>
      exact
        ⟨_, rfl,
          addIssue_called numbered title description now issueType status
            impact confidence⟩
  | addChallenge challenge whyAlbertWouldAsk status classification
      confidence =>
      exact
        ⟨_, rfl,
          addChallenge_called numbered challenge whyAlbertWouldAsk status
            classification confidence⟩
  | upsertChallenge raised =>
      exact ⟨_, rfl, upsertChallenge_called numbered raised⟩
  | humanPush now =>
      exact humanPush_called numbered now
  | routeCitations =>
      exact routeCitations_called numbered
  | mintBlockedCellTasks =>
      exact ⟨_, rfl, mintBlockedCellTasks_called numbered⟩
  | elsewhere revision =>
      have issues :
          ∀ node,
            (MapCall.elsewhere revision).changesIssue node
              (revision.reviseIssue node) :=
        fun _ => rfl
      have challenges :
          ∀ known,
            (MapCall.elsewhere revision).changesChallenge known
              (revision.reviseChallenge known) :=
        fun _ => rfl
      have tasks :
          ∀ task,
            (MapCall.elsewhere revision).changesTask task
              (revision.reviseTask task) :=
        fun _ => rfl
      exact
        ⟨_, rfl,
          ⟨.mapValues issues _, .mapValues challenges _, .mapValues tasks _⟩,
          trivial, revision_wellNumbered numbered revision⟩

/-- A state before anything was minted. -/
def NothingMinted (state : ResearchState) : Prop :=
  state.issueMap = ∅ ∧ state.albertChallengeMap = ∅ ∧ state.humanTasks = ∅

/-- Wherever a sequence of calls leads, identifiers are well numbered. -/
theorem wellNumbered_of_calls
    {start final : ResearchState}
    {calls : List MapCall}
    (empty : NothingMinted start)
    (ran : exec callStep start calls = some final) :
    WellNumbered final := by
  have atStart : WellNumbered start := by
    obtain ⟨issues, challenges, tasks⟩ := empty
    exact
      { issues := by rw [issues]; exact OrderedMap.freshKeys_empty _
        issueKeys := by rw [issues]; exact OrderedMap.keyedBy_empty _
        challenges := by rw [challenges]; exact OrderedMap.freshKeys_empty _
        tasks := by rw [tasks]; exact HumanTasks.freshIds_empty
        taskKeys := by rw [tasks]; exact OrderedMap.keyedBy_empty _ }
  refine exec_invariant (motive := WellNumbered) ?_ atStart ran
  intro state call next numbered stepped
  obtain ⟨after, isAfter, called⟩ := callStep_called numbered call
  cases stepped.symm.trans isAfter
  exact called.numbered

/-- Entries that are there under their identifiers. -/
structure StillThere (before after : ResearchState) : Prop where
  issues :
    OrderedMap.Keeps (fun old new => new.id = old.id) before.issueMap
      after.issueMap
  challenges :
    OrderedMap.Keeps (fun old new => new.id = old.id)
      before.albertChallengeMap after.albertChallengeMap
  tasks :
    OrderedMap.Keeps (fun old new => new.id = old.id) before.humanTasks
      after.humanTasks

omit [PythonText] in
theorem StillThere.refl
    (state : ResearchState) :
    StillThere state state :=
  ⟨fun _ old stored => ⟨old, stored, rfl⟩,
    fun _ old stored => ⟨old, stored, rfl⟩,
    fun _ old stored => ⟨old, stored, rfl⟩⟩

omit [PythonText] in
theorem StillThere.trans
    {first second third : ResearchState}
    (earlier : StillThere first second)
    (later : StillThere second third) :
    StillThere first third :=
  ⟨earlier.issues.trans later.issues fun old new => new.trans old,
    earlier.challenges.trans later.challenges fun old new => new.trans old,
    earlier.tasks.trans later.tasks fun old new => new.trans old⟩

omit [PythonText] in
/-- What loses nothing leaves every entry under its identifier. -/
theorem NothingLost.stillThere
    {call : MapCall}
    {before after : ResearchState}
    (lost : NothingLost call before after) :
    StillThere before after := by
  refine ⟨?_, ?_, ?_⟩
  · intro key old stored
    obtain ⟨new, storedNew, changed⟩ := lost.issues key old stored
    refine ⟨new, storedNew, ?_⟩
    cases call with
    | humanPush now =>
        obtain ⟨_, _, _, rfl⟩ := changed
        rfl
    | _ =>
        cases changed
        rfl
  · intro key old stored
    obtain ⟨new, storedNew, changed⟩ := lost.challenges key old stored
    refine ⟨new, storedNew, ?_⟩
    cases call with
    | upsertChallenge raised =>
        rcases changed with rfl | rfl <;> rfl
    | _ =>
        cases changed
        rfl
  · intro key old stored
    obtain ⟨new, storedNew, changed⟩ := lost.tasks key old stored
    refine ⟨new, storedNew, ?_⟩
    cases call <;> cases changed <;> rfl

/-- Whatever is in the maps at some point of a sequence stays there. -/
theorem stillThere_of_calls
    {middle final : ResearchState}
    {calls : List MapCall}
    (numbered : WellNumbered middle)
    (ran : exec callStep middle calls = some final) :
    StillThere middle final := by
  have both :
      WellNumbered final ∧ StillThere middle final := by
    refine
      exec_invariant
        (motive := fun state => WellNumbered state ∧ StillThere middle state)
        ?_ ⟨numbered, .refl middle⟩ ran
    rintro state call next ⟨numbered, there⟩ stepped
    obtain ⟨after, isAfter, called⟩ := callStep_called numbered call
    cases stepped.symm.trans isAfter
    exact ⟨called.numbered, there.trans called.lost.stillThere⟩
  exact both.2

/--
In every sequence of calls that begins without entries, the identifiers to be
minted are unused at every point, the next call succeeds, loses no entry and
stores whatever it mints, and everything minted before is still there.
-/
theorem calls_lose_nothing
    {start final : ResearchState}
    {calls : List MapCall}
    (empty : NothingMinted start)
    (ran : exec callStep start calls = some final) :
    NextAbsent final ∧
      (∀ call,
        ∃ next,
          callStep final call = some next ∧
            NothingLost call final next ∧
            StoresMinted call final next) ∧
      ∀ earlier later middle,
        calls = earlier ++ later →
        exec callStep start earlier = some middle →
        StillThere middle final := by
  have numbered := wellNumbered_of_calls empty ran
  refine ⟨numbered.nextAbsent, ?_, ?_⟩
  · intro call
    obtain ⟨next, stepped, called⟩ := callStep_called numbered call
    exact ⟨next, stepped, called.lost, called.stores⟩
  · intro earlier later middle shape reached
    have rest : exec callStep middle later = some final := by
      rw [shape, exec_append, reached, Option.bind_some] at ran
      exact ran
    exact stillThere_of_calls (wellNumbered_of_calls empty reached) rest

end Calls

/-- Two issues, one of them handed over, and a challenge. -/
private def fewCalls : List MapCall :=
  [.addIssue "first" "description" .market .open "t" 3 2,
    .addIssue "second" "description" .risk .open "t" 5 2,
    .humanPush "t",
    .addChallenge "challenge" "" .open none 0,
    .mintBlockedCellTasks,
    .humanPush "t"]

private def unmintedState : ResearchState where
  runId := "run"
  originalQuestion := "question"

/-- A few calls in a row. -/
theorem fewCalls_lose_nothing :
    letI := PythonText.ascii
    ∃ final,
      exec callStep unmintedState fewCalls = some final ∧
        final.humanTasks.keys = ["HT-001", "HT-002"] ∧
        NextAbsent final ∧
        ∀ call,
          ∃ next,
            callStep final call = some next ∧
              NothingLost call final next ∧
              StoresMinted call final next := by
  let _ := PythonText.ascii
  let final :=
    (exec callStep unmintedState fewCalls).get (by decide +kernel)
  have ran : exec callStep unmintedState fewCalls = some final :=
    (Option.some_get _).symm
  have empty : NothingMinted unmintedState :=
    ⟨rfl, rfl, rfl⟩
  obtain ⟨absent, keeps, _⟩ := calls_lose_nothing empty ran
  exact ⟨final, ran, by decide +kernel, absent, keeps⟩

end ResearchCos
