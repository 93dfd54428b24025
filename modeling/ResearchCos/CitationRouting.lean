import ResearchCos.EmissionGates
import ResearchCos.Foundation.FirstOccurrence

namespace ResearchCos.DecisionMemo

open Foundation
open Foundation.FirstOccurrence

/-!
# Citation routing is a partition

Every claim is cited, dropped or sent to a human, and what is sent becomes one
task a text.  The tasks are numbered by their count, so this holds as long as no
number that is about to be taken is in use; then routing again changes nothing.
-/

section Routing

variable [PythonText]

/-! ## The three ways -/

/-- The claim is verified after its digest refs are stripped. -/
def Verifies (state : ResearchState) (entry : Claim × Option String) : Prop :=
  (verifyFlattened state entry.1).verified = true

instance (state : ResearchState) : DecidablePred (Verifies state) := fun _ =>
  inferInstanceAs (Decidable (_ = true))

/--
The claim is unverified, its issue is decisive in a run that must stop for a
human, and its cell does not ask for what is missing already.
-/
structure NeedsSupplement
    (state : ResearchState)
    (entry : Claim × Option String) : Prop where
  unverified : ¬Verifies state entry
  decisive :
    ∃ id node,
      entry.2 = some id ∧ id ≠ "" ∧
        state.issueMap.get? id = some node ∧ 4 ≤ node.impact
  highRisk : PullRisk.classifyPull state = .high
  notOwned :
    ∀ id grid cell,
      entry.2 = some id → state.taskGrid = some grid →
      grid.cells.get? id = some cell →
      cell.status ≠ .na ∧ cell.status ≠ .blocked

omit [PythonText] in
/-- A claim is critical when its issue is decisive and the pull is risky. -/
theorem claimIsCritical_iff
    {state : ResearchState}
    {issueId : Option String} :
    claimIsCritical state issueId = true ↔
      (∃ id node,
        issueId = some id ∧ id ≠ "" ∧
          state.issueMap.get? id = some node ∧ 4 ≤ node.impact) ∧
        PullRisk.classifyPull state = .high := by
  cases issueId with
  | none =>
      simp [claimIsCritical]
  | some id =>
      by_cases blank : id = ""
      · simp [claimIsCritical, blank, Option.filter_some]
      · cases stored : state.issueMap.get? id with
        | none =>
            simp [claimIsCritical, blank, stored, Option.filter_some]
        | some node =>
            have sameBound :
                PullRisk.highImpact ≤ node.impact ↔ 4 ≤ node.impact :=
              Iff.rfl
            simp [claimIsCritical, blank, stored, Option.filter_some,
              sameBound]

omit [PythonText] in
/-- A cell owns a supplement when it is not applicable or blocked. -/
theorem cellOwnsSupplement_eq_false_iff
    {state : ResearchState}
    {issueId : Option String} :
    cellOwnsSupplement state issueId = false ↔
      ∀ id grid cell,
        issueId = some id → state.taskGrid = some grid →
        grid.cells.get? id = some cell →
        cell.status ≠ .na ∧ cell.status ≠ .blocked := by
  cases hasGrid : state.taskGrid with
  | none =>
      simp [cellOwnsSupplement, hasGrid]
  | some grid =>
      cases issueId with
      | none =>
          simp [cellOwnsSupplement, hasGrid]
      | some id =>
          have owned :
              cellOwnsSupplement state (some id) = false ↔
                ∀ cell,
                  grid.cells.get? id = some cell →
                  cell.status ≠ .na ∧ cell.status ≠ .blocked := by
            cases stored : grid.cells.get? id with
            | none =>
                simp [cellOwnsSupplement, hasGrid, stored]
            | some cell =>
                simp [cellOwnsSupplement, hasGrid, stored]
          rw [owned]
          constructor
          · rintro allows _ _ cell ⟨⟩ ⟨⟩ isCell
            exact allows cell isCell
          · intro allows cell isCell
            exact allows id grid cell rfl rfl isCell

/-- A claim is cited exactly when it is verified. -/
theorem disposition_eq_cite_iff
    {state : ResearchState}
    {entry : Claim × Option String} :
    disposition state entry.1 entry.2 = .cite ↔ Verifies state entry := by
  unfold disposition Verifies
  split
  · rename_i verified
    exact iff_of_true rfl verified
  · rename_i unverified
    refine iff_of_false ?_ unverified
    split
    · exact Disposition.noConfusion
    · split <;> exact Disposition.noConfusion

/-- A claim is sent to a human exactly when it needs a supplement. -/
theorem disposition_eq_supplement_iff
    {state : ResearchState}
    {entry : Claim × Option String} :
    disposition state entry.1 entry.2 = .supplement ↔
      NeedsSupplement state entry := by
  unfold disposition
  constructor
  · intro supplements
    split at supplements
    · cases supplements
    · rename_i unverified
      split at supplements
      · cases supplements
      · rename_i critical
        split at supplements
        · cases supplements
        · rename_i notOwned
          rw [Bool.not_eq_true', Bool.not_eq_false, claimIsCritical_iff]
            at critical
          rw [Bool.not_eq_true, cellOwnsSupplement_eq_false_iff] at notOwned
          exact ⟨unverified, critical.1, critical.2, notOwned⟩
  · intro needs
    have critical :=
      claimIsCritical_iff.mpr ⟨needs.decisive, needs.highRisk⟩
    have notOwned := cellOwnsSupplement_eq_false_iff.mpr needs.notOwned
    have unverified : ¬(verifyFlattened state entry.1).verified = true :=
      needs.unverified
    rw [if_neg unverified, critical, notOwned]
    rfl

instance (state : ResearchState) : DecidablePred (NeedsSupplement state) :=
  fun _ => decidable_of_iff _ disposition_eq_supplement_iff

/-! ## The tasks that are minted -/

omit [PythonText] in
@[simp] theorem supplementTask_id
    (tasks : OrderedMap String HumanTask)
    (text : String) :
    (supplementTask tasks text).id = HumanTasks.nextId tasks :=
  rfl

omit [PythonText] in
/-- Add a task for each of the texts. -/
def mintAll
    (tasks : OrderedMap String HumanTask) :
    List String → OrderedMap String HumanTask
  | [] => tasks
  | text :: rest =>
      mintAll
        (tasks.insert (supplementTask tasks text).id
          (supplementTask tasks text)) rest

/-- The texts of some claims that are asked for the first time. -/
def newRequests
    (state : ResearchState)
    (claims : List (Claim × Option String))
    (existingInputs : List String) : List String :=
  keepFirst some
    ((claims.filter fun entry => NeedsSupplement state entry).map fun entry =>
      entry.1.claim)
    existingInputs

omit [PythonText] in
/-- The numbers that minting some tasks takes are not in use. -/
def NextUnused (tasks : OrderedMap String HumanTask) (count : Nat) : Prop :=
  ∀ n, tasks.size < n → n ≤ tasks.size + count →
    tasks.get? (HumanTasks.taskId n) = none

omit [PythonText] in
/-- A task under the next number leaves the ones behind it as they are. -/
theorem get?_insert_nextId
    {tasks : OrderedMap String HumanTask}
    {n : Nat}
    (behind : tasks.size + 1 < n)
    (task : HumanTask) :
    (tasks.insert (HumanTasks.nextId tasks) task).get?
        (HumanTasks.taskId n) =
      tasks.get? (HumanTasks.taskId n) := by
  have apart : HumanTasks.nextId tasks ≠ HumanTasks.taskId n := by
    intro same
    have := HumanTasks.taskId_injective same
    omega
  rw [OrderedMap.get?_insert, if_neg apart]

omit [PythonText] in
/-- When one number is taken, the ones behind it are as before. -/
theorem NextUnused.insert
    {tasks : OrderedMap String HumanTask}
    {count : Nat}
    (unused : NextUnused tasks (count + 1))
    (task : HumanTask) :
    tasks.get? (HumanTasks.nextId tasks) = none ∧
      NextUnused (tasks.insert (HumanTasks.nextId tasks) task) count := by
  have absent : tasks.get? (HumanTasks.nextId tasks) = none :=
    unused _ (Nat.lt_succ_self _) (by omega)
  refine ⟨absent, ?_⟩
  intro n above within
  rw [OrderedMap.size_insert_of_absent absent] at above within
  rw [get?_insert_nextId above]
  exact unused n (by omega) (by omega)

omit [PythonText] in
/-- Minting under unused numbers adds one task a text behind the others. -/
theorem mintAll_of_unused
    {tasks : OrderedMap String HumanTask}
    {texts : List String}
    (unused : NextUnused tasks texts.length) :
    OrderedMap.Keeps Eq tasks (mintAll tasks texts) ∧
      ∃ minted,
        (mintAll tasks texts).values = tasks.values ++ minted ∧
          minted.map HumanTask.requestedInput = texts := by
  induction texts generalizing tasks with
  | nil =>
      exact ⟨.refl (fun _ => rfl) _, [], (List.append_nil _).symm, rfl⟩
  | cons text rest inductionHypothesis =>
      obtain ⟨absent, unusedLater⟩ := unused.insert (supplementTask tasks text)
      obtain ⟨kept, minted, values, inputs⟩ := inductionHypothesis unusedLater
      have inserted :
          OrderedMap.Keeps Eq tasks
            (tasks.insert (HumanTasks.nextId tasks)
              (supplementTask tasks text)) :=
        .insert (fun _ => rfl) absent _
      refine
        ⟨inserted.trans kept Eq.trans, supplementTask tasks text :: minted,
          ?_, ?_⟩
      · change (mintAll (tasks.insert (HumanTasks.nextId tasks) _) rest).values =
          _
        rw [values, OrderedMap.values_insert_of_absent absent,
          List.append_assoc]
        rfl
      · rw [List.map_cons, inputs]
        rfl

omit [PythonText] in
/-- Minting leaves a task under a key or puts one for a new text there. -/
theorem get?_mintAll
    (tasks : OrderedMap String HumanTask)
    (texts : List String)
    (key : String) :
    (mintAll tasks texts).get? key = tasks.get? key ∨
      ∃ task,
        (mintAll tasks texts).get? key = some task ∧
          task.requestedInput ∈ texts := by
  induction texts generalizing tasks with
  | nil =>
      exact Or.inl rfl
  | cons text rest inductionHypothesis =>
      rw [mintAll]
      rcases inductionHypothesis
          (tasks.insert (supplementTask tasks text).id
            (supplementTask tasks text)) with same | ⟨task, stored, asks⟩
      · rw [same, OrderedMap.get?_insert]
        split
        · exact Or.inr ⟨_, rfl, List.mem_cons_self⟩
        · exact Or.inl rfl
      · exact Or.inr ⟨task, stored, List.mem_cons_of_mem _ asks⟩

omit [PythonText] in
/-- After minting some texts a task for one of them has the next number. -/
theorem get?_mintAll_cons
    (tasks : OrderedMap String HumanTask)
    (text : String)
    (rest : List String) :
    ∃ task,
      (mintAll tasks (text :: rest)).get? (HumanTasks.nextId tasks) =
          some task ∧
        task.requestedInput ∈ text :: rest := by
  rw [mintAll]
  rcases get?_mintAll
      (tasks.insert (supplementTask tasks text).id
        (supplementTask tasks text)) rest
      (HumanTasks.nextId tasks) with same | ⟨later, found, asks⟩
  · refine ⟨supplementTask tasks text, ?_, List.mem_cons_self⟩
    rw [same]
    exact OrderedMap.get?_insert_self _ _ _
  · exact ⟨later, found, List.mem_cons_of_mem _ asks⟩

omit [PythonText] in
/-- Minting that touches no known task has taken unused numbers only. -/
theorem nextUnused_of_keeps
    {origin tasks : OrderedMap String HumanTask}
    {texts : List String}
    (sameNumbers :
      ∀ n, tasks.size < n →
        tasks.get? (HumanTasks.taskId n) = origin.get? (HumanTasks.taskId n))
    (new : ∀ text ∈ texts, ¬IsRequested origin text)
    (kept : OrderedMap.Keeps Eq origin (mintAll tasks texts)) :
    NextUnused tasks texts.length := by
  induction texts generalizing tasks with
  | nil =>
      intro n above within
      simp only [List.length_nil] at within
      omega
  | cons text rest inductionHypothesis =>
      have absent : tasks.get? (HumanTasks.nextId tasks) = none := by
        cases stored : tasks.get? (HumanTasks.nextId tasks) with
        | none =>
            rfl
        | some task =>
            have inOrigin :
                origin.get? (HumanTasks.nextId tasks) = some task := by
              rw [← stored]
              exact (sameNumbers _ (Nat.lt_succ_self _)).symm
            obtain ⟨_, stays, rfl⟩ := kept _ _ inOrigin
            have requested : IsRequested origin task.requestedInput :=
              ⟨task,
                List.mem_map_of_mem
                  (OrderedMap.mem_entries_of_get? inOrigin), rfl⟩
            -- the task that is minted here takes its place
            obtain ⟨_, found, asks⟩ := get?_mintAll_cons tasks text rest
            rw [stays, Option.some.injEq] at found
            subst found
            exact absurd requested (new _ asks)
      have sameBehind :
          ∀ n,
            (tasks.insert (HumanTasks.nextId tasks)
                (supplementTask tasks text)).size < n →
            (tasks.insert (HumanTasks.nextId tasks)
                  (supplementTask tasks text)).get? (HumanTasks.taskId n) =
              origin.get? (HumanTasks.taskId n) := by
        intro n above
        rw [OrderedMap.size_insert_of_absent absent] at above
        rw [get?_insert_nextId above]
        exact sameNumbers n (by omega)
      have unusedBehind :=
        inductionHypothesis sameBehind
          (fun other member => new other (List.mem_cons_of_mem _ member)) kept
      intro n above within
      rcases Nat.lt_or_eq_of_le (Nat.succ_le_of_lt above) with later | next
      · rw [← get?_insert_nextId later (supplementTask tasks text)]
        have oneMore :=
          OrderedMap.size_insert_of_absent absent (supplementTask tasks text)
        rw [List.length_cons] at within
        exact unusedBehind n (by omega) (by omega)
      · rw [← next]
        exact absent

/-! ## What routing does -/

/-- The claims that are cited, dropped and sent to a human. -/
structure Routed
    (state : ResearchState)
    (result : RouteResult)
    (after : ResearchState) : Prop where
  cited :
    result.cited =
      ((collectClaims state).filter fun entry => Verifies state entry).map
        Prod.fst
  dropped :
    result.dropped =
      ((collectClaims state).filter fun entry =>
        ¬Verifies state entry ∧ ¬NeedsSupplement state entry).map Prod.fst
  supplements :
    List.Forall₂
      (fun entry task =>
        task.requestedInput = entry.1.claim ∧ task ∈ after.humanTasks.values)
      ((collectClaims state).filter fun entry => NeedsSupplement state entry)
      result.needsSupplement
  onlyTasks : after = { state with humanTasks := after.humanTasks }
  untouched : OrderedMap.Keeps Eq state.humanTasks after.humanTasks
  newTasks :
    ∃ minted,
      after.humanTasks.values = state.humanTasks.values ++ minted ∧
        (minted.map HumanTask.requestedInput).Nodup ∧
        ∀ text,
          text ∈ minted.map HumanTask.requestedInput ↔
            (∃ entry ∈ collectClaims state,
              NeedsSupplement state entry ∧ entry.1.claim = text) ∧
              ¬IsRequested state.humanTasks text
  again : routeCitations after = some (result, after)

omit [PythonText] in
/-- The first task that asks for a text. -/
def askedTask
    (tasks : OrderedMap String HumanTask)
    (text : String) : Option HumanTask :=
  tasks.values.find? fun task => task.requestedInput = text

omit [PythonText] in
/-- An asked task is one of the tasks and asks for the text. -/
theorem askedTask_spec
    {tasks : OrderedMap String HumanTask}
    {text : String}
    {task : HumanTask}
    (asked : askedTask tasks text = some task) :
    task.requestedInput = text ∧ task ∈ tasks.values := by
  unfold askedTask at asked
  have asks := List.find?_some asked
  exact ⟨of_decide_eq_true asks, List.mem_of_find?_eq_some asked⟩

omit [PythonText] in
/-- A text without a task is one that nobody asked for. -/
theorem askedTask_eq_none_iff
    {tasks : OrderedMap String HumanTask}
    {text : String} :
    askedTask tasks text = none ↔ ¬IsRequested tasks text := by
  simp [askedTask, IsRequested]

omit [PythonText] in
/-- With a new task its text is asked for too. -/
theorem isRequested_insert_iff
    {tasks : OrderedMap String HumanTask}
    (absent : tasks.get? (HumanTasks.nextId tasks) = none)
    (asked text : String) :
    IsRequested
        (tasks.insert (HumanTasks.nextId tasks) (supplementTask tasks asked))
        text ↔
      text = asked ∨ IsRequested tasks text := by
  simp only [IsRequested, OrderedMap.values_insert_of_absent absent,
    List.mem_append, List.mem_singleton, or_and_right, exists_or,
    exists_eq_left]
  rw [or_comm]
  exact or_congr_left eq_comm

omit [PythonText] in
/-- A new task is the one that asks for its text when no other did. -/
theorem askedTask_insert
    {tasks : OrderedMap String HumanTask}
    {text : String}
    (absent : tasks.get? (HumanTasks.nextId tasks) = none)
    (isNew : ¬IsRequested tasks text) :
    askedTask
        (tasks.insert (HumanTasks.nextId tasks) (supplementTask tasks text))
        text =
      some (supplementTask tasks text) := by
  have notBefore := askedTask_eq_none_iff.mpr isNew
  unfold askedTask at notBefore
  rw [askedTask, OrderedMap.values_insert_of_absent absent,
    List.find?_append, notBefore]
  simp [supplementTask]

omit [PythonText] in
/-- Later tasks do not come in front of the one that asks for a text. -/
theorem askedTask_mintAll
    {tasks : OrderedMap String HumanTask}
    {texts : List String}
    {text : String}
    {task : HumanTask}
    (unused : NextUnused tasks texts.length)
    (asked : askedTask tasks text = some task) :
    askedTask (mintAll tasks texts) text = some task := by
  obtain ⟨_, minted, values, _⟩ := mintAll_of_unused unused
  unfold askedTask at asked ⊢
  rw [values, List.find?_append, asked]
  rfl

/-- A claim that needs no supplement asks for nothing. -/
theorem newRequests_cons_of_not
    {state : ResearchState}
    {entry : Claim × Option String}
    (needsNot : ¬NeedsSupplement state entry)
    (rest : List (Claim × Option String))
    (existingInputs : List String) :
    newRequests state (entry :: rest) existingInputs =
      newRequests state rest existingInputs := by
  rw [newRequests, List.filter_cons_of_neg (by simpa using needsNot)]
  rfl

/-- A claim that needs a supplement asks for its text unless it is known. -/
theorem newRequests_cons
    {state : ResearchState}
    {entry : Claim × Option String}
    (needs : NeedsSupplement state entry)
    (rest : List (Claim × Option String))
    (existingInputs : List String) :
    newRequests state (entry :: rest) existingInputs =
      if entry.1.claim ∈ existingInputs then
        newRequests state rest existingInputs
      else
        entry.1.claim ::
          newRequests state rest (entry.1.claim :: existingInputs) := by
  rw [newRequests, List.filter_cons_of_pos (by simpa using needs),
    List.map_cons, keepFirst]
  rfl

/-- A claim on another way needs no supplement. -/
theorem not_needsSupplement
    {state : ResearchState}
    {claim : Claim}
    {issueId : Option String}
    {way : Disposition}
    (isWay : disposition state claim issueId = way)
    (another : way ≠ .supplement) :
    ¬NeedsSupplement state (claim, issueId) := by
  intro needs
  rw [← isWay] at another
  exact another (disposition_eq_supplement_iff.mpr needs)

/-- Whatever numbers are in use, routing mints a task for every new request. -/
theorem routeClaims_tasks
    {state : ResearchState}
    {claims : List (Claim × Option String)}
    {tasks finalTasks : OrderedMap String HumanTask}
    {existingInputs : List String}
    {result finalResult : RouteResult}
    (routed :
      routeClaims state claims tasks existingInputs result =
        some (finalResult, finalTasks)) :
    finalTasks =
      mintAll tasks (newRequests state claims existingInputs) := by
  induction claims generalizing tasks existingInputs result with
  | nil =>
      cases routed
      rfl
  | cons entry rest inductionHypothesis =>
      obtain ⟨claim, issueId⟩ := entry
      unfold routeClaims at routed
      split at routed
      · rename_i isCite
        rw [newRequests_cons_of_not (not_needsSupplement isCite (by decide))]
        exact inductionHypothesis routed
      · rename_i isDrop
        rw [newRequests_cons_of_not (not_needsSupplement isDrop (by decide))]
        exact inductionHypothesis routed
      · rename_i isSupplement
        have needs : NeedsSupplement state (claim, issueId) :=
          disposition_eq_supplement_iff.mp isSupplement
        rw [newRequests_cons needs]
        split at routed
        · rename_i known
          rw [if_pos known]
          split at routed
          · cases routed
          · exact inductionHypothesis routed
        · rename_i new
          rw [if_neg new]
          exact inductionHypothesis routed

/--
From here routing sorts the claims by their ways, mints the new requests, and
reports for every supplement the task that asks for it.
-/
def Routes
    (state : ResearchState)
    (claims : List (Claim × Option String))
    (tasks : OrderedMap String HumanTask)
    (existingInputs : List String)
    (result : RouteResult) : Prop :=
  ∃ supplements,
    routeClaims state claims tasks existingInputs result =
        some
          ({ cited :=
               result.cited ++
                 (claims.filter fun entry => Verifies state entry).map
                   Prod.fst
             dropped :=
               result.dropped ++
                 (claims.filter fun entry =>
                   ¬Verifies state entry ∧
                     ¬NeedsSupplement state entry).map Prod.fst
             needsSupplement := result.needsSupplement ++ supplements },
            mintAll tasks (newRequests state claims existingInputs)) ∧
      supplements.map some =
        (claims.filter fun entry => NeedsSupplement state entry).map
          fun entry =>
            askedTask
              (mintAll tasks (newRequests state claims existingInputs))
              entry.1.claim

section Ways

variable
  {state : ResearchState}
  {claim : Claim}
  {issueId : Option String}
  {rest : List (Claim × Option String)}
  {tasks : OrderedMap String HumanTask}
  {existingInputs : List String}
  {result : RouteResult}

/-- A claim that is cited. -/
theorem Routes.cite
    (isCite : disposition state claim issueId = .cite)
    (later :
      Routes state rest tasks existingInputs
        { result with cited := result.cited ++ [claim] }) :
    Routes state ((claim, issueId) :: rest) tasks existingInputs result := by
  obtain ⟨supplements, routed, asked⟩ := later
  have verifies : Verifies state (claim, issueId) :=
    disposition_eq_cite_iff.mp isCite
  have needsNot := not_needsSupplement isCite (by decide)
  refine ⟨supplements, ?_, ?_⟩
  · rw [routeClaims, isCite, newRequests_cons_of_not needsNot]
    dsimp only
    rw [routed]
    simp [verifies]
  · rw [newRequests_cons_of_not needsNot, asked]
    simp [needsNot]

/-- A claim that is dropped. -/
theorem Routes.drop
    (isDrop : disposition state claim issueId = .drop)
    (later :
      Routes state rest tasks existingInputs
        { result with dropped := result.dropped ++ [claim] }) :
    Routes state ((claim, issueId) :: rest) tasks existingInputs result := by
  obtain ⟨supplements, routed, asked⟩ := later
  have needsNot := not_needsSupplement isDrop (by decide)
  have verifiesNot : ¬Verifies state (claim, issueId) := by
    intro verifies
    rw [← disposition_eq_cite_iff, isDrop] at verifies
    cases verifies
  refine ⟨supplements, ?_, ?_⟩
  · rw [routeClaims, isDrop, newRequests_cons_of_not needsNot]
    dsimp only
    rw [routed]
    simp [verifiesNot, needsNot]
  · rw [newRequests_cons_of_not needsNot, asked]
    simp [needsNot]

/-- A claim whose text is asked for already. -/
theorem Routes.known
    {task : HumanTask}
    (isSupplement : disposition state claim issueId = .supplement)
    (isKnown : claim.claim ∈ existingInputs)
    (found : askedTask tasks claim.claim = some task)
    (unused :
      NextUnused tasks (newRequests state rest existingInputs).length)
    (later :
      Routes state rest tasks existingInputs
        { result with
          needsSupplement := result.needsSupplement ++ [task] }) :
    Routes state ((claim, issueId) :: rest) tasks existingInputs result := by
  obtain ⟨supplements, routed, asked⟩ := later
  have needs : NeedsSupplement state (claim, issueId) :=
    disposition_eq_supplement_iff.mp isSupplement
  have sameRequests :
      newRequests state ((claim, issueId) :: rest) existingInputs =
        newRequests state rest existingInputs := by
    rw [newRequests_cons needs, if_pos isKnown]
  rw [Routes, sameRequests]
  refine ⟨task :: supplements, ?_, ?_⟩
  · unfold askedTask at found
    rw [routeClaims, isSupplement]
    dsimp only
    rw [if_pos isKnown, found]
    dsimp only
    rw [routed]
    simp [needs, needs.unverified]
  · rw [List.map_cons, asked, ← askedTask_mintAll unused found]
    simp [needs]

/-- A claim whose text nobody has asked for gets the next task. -/
theorem Routes.mint
    (isSupplement : disposition state claim issueId = .supplement)
    (isNew : claim.claim ∉ existingInputs)
    (found :
      askedTask
          (tasks.insert (HumanTasks.nextId tasks)
            (supplementTask tasks claim.claim))
          claim.claim =
        some (supplementTask tasks claim.claim))
    (unused :
      NextUnused
        (tasks.insert (HumanTasks.nextId tasks)
          (supplementTask tasks claim.claim))
        (newRequests state rest (claim.claim :: existingInputs)).length)
    (later :
      Routes state rest
        (tasks.insert (HumanTasks.nextId tasks)
          (supplementTask tasks claim.claim))
        (claim.claim :: existingInputs)
        { result with
          needsSupplement :=
            result.needsSupplement ++ [supplementTask tasks claim.claim] }) :
    Routes state ((claim, issueId) :: rest) tasks existingInputs result := by
  obtain ⟨supplements, routed, asked⟩ := later
  have needs : NeedsSupplement state (claim, issueId) :=
    disposition_eq_supplement_iff.mp isSupplement
  have oneMore :
      newRequests state ((claim, issueId) :: rest) existingInputs =
        claim.claim ::
          newRequests state rest (claim.claim :: existingInputs) := by
    rw [newRequests_cons needs, if_neg isNew]
  rw [Routes, oneMore]
  refine ⟨supplementTask tasks claim.claim :: supplements, ?_, ?_⟩
  · rw [routeClaims, isSupplement]
    dsimp only
    rw [if_neg isNew]
    change
      routeClaims state rest
          (tasks.insert (HumanTasks.nextId tasks) _) _ _ = _
    rw [routed]
    simp [needs, needs.unverified, mintAll]
  · rw [List.map_cons, asked, ← askedTask_mintAll unused found]
    simp [needs, mintAll]

end Ways

/-- Under unused numbers every claim goes its way. -/
theorem routeClaims_of_unused
    {state : ResearchState}
    {claims : List (Claim × Option String)}
    {tasks : OrderedMap String HumanTask}
    {existingInputs : List String}
    (result : RouteResult)
    (known : ∀ text, text ∈ existingInputs ↔ IsRequested tasks text)
    (unused :
      NextUnused tasks (newRequests state claims existingInputs).length) :
    Routes state claims tasks existingInputs result := by
  induction claims generalizing tasks existingInputs result with
  | nil =>
      refine ⟨[], ?_, rfl⟩
      simp [routeClaims, newRequests, keepFirst, mintAll]
  | cons entry rest inductionHypothesis =>
      obtain ⟨claim, issueId⟩ := entry
      cases way : disposition state claim issueId with
      | cite =>
          rw [newRequests_cons_of_not (not_needsSupplement way (by decide))]
            at unused
          exact .cite way (inductionHypothesis _ known unused)
      | drop =>
          rw [newRequests_cons_of_not (not_needsSupplement way (by decide))]
            at unused
          exact .drop way (inductionHypothesis _ known unused)
      | supplement =>
          rw [newRequests_cons (disposition_eq_supplement_iff.mp way)] at unused
          by_cases isKnown : claim.claim ∈ existingInputs
          · rw [if_pos isKnown] at unused
            cases found : askedTask tasks claim.claim with
            | none =>
                exact
                  absurd ((known _).mp isKnown)
                    (askedTask_eq_none_iff.mp found)
            | some task =>
                exact
                  .known way isKnown found unused
                    (inductionHypothesis _ known unused)
          · rw [if_neg isKnown, List.length_cons] at unused
            obtain ⟨absent, unusedLater⟩ :=
              unused.insert (supplementTask tasks claim.claim)
            have knownLater :
                ∀ text,
                  text ∈ claim.claim :: existingInputs ↔
                    IsRequested
                      (tasks.insert (HumanTasks.nextId tasks)
                        (supplementTask tasks claim.claim))
                      text := by
              intro text
              rw [List.mem_cons, known text, isRequested_insert_iff absent]
            exact
              .mint way isKnown
                (askedTask_insert absent (mt (known _).mpr isKnown))
                unusedLater (inductionHypothesis _ knownLater unusedLater)

/-! ## Routing a state -/

omit [PythonText] in
/-- The known inputs are the texts that are asked for. -/
theorem requested_iff
    {tasks : OrderedMap String HumanTask}
    (text : String) :
    text ∈ tasks.values.map HumanTask.requestedInput ↔
      IsRequested tasks text := by
  simp [IsRequested]

/-- A text is new when a claim needs it and it is not known. -/
theorem mem_newRequests_iff
    {state : ResearchState}
    {claims : List (Claim × Option String)}
    {existingInputs : List String}
    {text : String} :
    text ∈ newRequests state claims existingInputs ↔
      (∃ entry ∈ claims,
        NeedsSupplement state entry ∧ entry.1.claim = text) ∧
        text ∉ existingInputs := by
  have kept :
      text ∈ (newRequests state claims existingInputs).filterMap some ↔
        text ∈
            ((claims.filter fun entry => NeedsSupplement state entry).map
              fun entry => entry.1.claim).filterMap some ∧
          text ∉ existingInputs :=
    mem_keys_keepFirst_iff
  rw [List.filterMap_some, List.filterMap_some, List.mem_map] at kept
  rw [kept]
  simp only [List.mem_filter, decide_eq_true_eq, and_assoc]

/-- No text is asked for twice. -/
theorem nodup_newRequests
    (state : ResearchState)
    (claims : List (Claim × Option String))
    (existingInputs : List String) :
    (newRequests state claims existingInputs).Nodup := by
  have distinct :
      ((newRequests state claims existingInputs).filterMap some).Nodup :=
    (nodup_keys_keepFirst _ _).1
  rw [List.filterMap_some] at distinct
  exact distinct

/-- The ways of the claims do not depend on the tasks. -/
theorem routeClaims_withTasks
    (state : ResearchState)
    (otherTasks : OrderedMap String HumanTask)
    (claims : List (Claim × Option String))
    (tasks : OrderedMap String HumanTask)
    (existingInputs : List String)
    (result : RouteResult) :
    routeClaims { state with humanTasks := otherTasks } claims tasks
        existingInputs result =
      routeClaims state claims tasks existingInputs result := by
  induction claims generalizing tasks existingInputs result with
  | nil =>
      rfl
  | cons entry rest inductionHypothesis =>
      have sameWay :
          disposition { state with humanTasks := otherTasks } entry.1 entry.2 =
            disposition state entry.1 entry.2 :=
        rfl
      simp only [routeClaims, sameWay, inductionHypothesis]

/-- The texts of a state that are asked for the first time. -/
def stateRequests (state : ResearchState) : List String :=
  newRequests state (collectClaims state)
    (state.humanTasks.values.map HumanTask.requestedInput)

/-- After routing every text that is needed is known. -/
theorem newRequests_after
    {state : ResearchState}
    {minted : List HumanTask}
    (inputs : minted.map HumanTask.requestedInput = stateRequests state) :
    newRequests state (collectClaims state)
        ((state.humanTasks.values ++ minted).map HumanTask.requestedInput) =
      [] := by
  rw [List.eq_nil_iff_forall_not_mem]
  intro text new
  obtain ⟨needed, unknown⟩ := mem_newRequests_iff.mp new
  rw [List.map_append, List.mem_append, not_or, inputs] at unknown
  exact unknown.2 (mem_newRequests_iff.mpr ⟨needed, unknown.1⟩)

/-- Under unused numbers routing is the partition and changes nothing again. -/
theorem routeCitations_of_unused
    {state : ResearchState}
    (unused : NextUnused state.humanTasks (stateRequests state).length) :
    ∃ result after,
      routeCitations state = some (result, after) ∧
        Routed state result after := by
  obtain ⟨supplements, routed, asked⟩ :=
    routeClaims_of_unused {} requested_iff unused
  obtain ⟨kept, minted, values, inputs⟩ := mintAll_of_unused unused
  have nothingNew := newRequests_after inputs
  rw [← values] at nothingNew
  have unusedAgain :
      NextUnused (mintAll state.humanTasks (stateRequests state))
        (newRequests state (collectClaims state)
          ((mintAll state.humanTasks (stateRequests state)).values.map
            HumanTask.requestedInput)).length := by
    rw [nothingNew]
    intro n above within
    simp only [List.length_nil] at within
    omega
  obtain ⟨supplementsAgain, routedAgain, askedAgain⟩ :=
    routeClaims_of_unused {} requested_iff unusedAgain
  rw [nothingNew, mintAll] at routedAgain askedAgain
  have sameSupplements : supplementsAgain = supplements := by
    have same := askedAgain.trans asked.symm
    exact List.map_injective_iff.mpr (Option.some_injective _) same
  refine ⟨_, _, by rw [routeCitations, routed]; rfl, ?_⟩
  refine ⟨rfl, rfl, ?_, rfl, kept, ⟨minted, values, ?_, ?_⟩, ?_⟩
  · have pairs := asked.symm
    rw [← List.forall₂_eq_eq_eq, List.forall₂_map_left_iff,
      List.forall₂_map_right_iff] at pairs
    exact pairs.imp fun _ _ found => askedTask_spec found
  · rw [inputs]
    exact nodup_newRequests _ _ _
  · intro text
    rw [inputs, stateRequests, mem_newRequests_iff, requested_iff]
  · rw [routeCitations]
    change
      Option.map _
          (routeClaims { state with humanTasks := _ } (collectClaims state) _ _
            {}) =
        _
    rw [routeClaims_withTasks]
    refine congrArg (Option.map _) routedAgain |>.trans ?_
    rw [sameSupplements]
    rfl

/--
Routing is the partition, touches no task and changes nothing the second time,
exactly when the numbers of the new tasks are not in use.
-/
theorem routeCitations_routed_iff
    (state : ResearchState) :
    (∃ result after,
        routeCitations state = some (result, after) ∧
          Routed state result after) ↔
      NextUnused state.humanTasks (stateRequests state).length := by
  constructor
  · rintro ⟨result, after, routing, routed⟩
    rw [routeCitations, Option.map_eq_some_iff] at routing
    obtain ⟨⟨_, tasks⟩, routing, same⟩ := routing
    cases same
    have kept := routed.untouched
    rw [routeClaims_tasks routing] at kept
    refine nextUnused_of_keeps (fun _ _ => rfl) ?_ kept
    intro text new
    rw [← requested_iff]
    exact (mem_newRequests_iff.mp new).2
  · exact routeCitations_of_unused

end Routing

/-! ## A number that is taken -/

/-- A critical claim that is not verified, and the tasks recorded so far. -/
private def oneCriticalClaim
    (tasks : OrderedMap String HumanTask) : ResearchState where
  runId := "run"
  originalQuestion := "question"
  issueMap :=
    (∅ : OrderedMap String IssueNode).insert "I-001"
      { id := "I-001", title := "title", description := ""
        issueType := .technical, status := .open, impact := 4
        confidence := 2 }
  evidence :=
    [{ query := "title", issueId := some "I-001"
       claims := [{ claim := "foo" }] }]
  humanTasks := tasks
  lastAudit := some { verdict := .continue_, prematureEndRisk := .high }

/-- The only task has the identifier that is minted for the second one. -/
private def secondNumberTaken : OrderedMap String HumanTask :=
  (∅ : OrderedMap String HumanTask).insert "HT-002"
    { id := "HT-002", taskTitle := "task", requestedInput := "bar" }

/-- The task of the taken number is replaced by the new one. -/
theorem secondNumberTaken_is_overwritten :
    letI := PythonText.ascii
    (∃ result after,
        routeCitations (oneCriticalClaim secondNumberTaken) =
            some (result, after) ∧
          after.humanTasks.values.map HumanTask.requestedInput = ["foo"]) ∧
      ¬∃ result after,
        routeCitations (oneCriticalClaim secondNumberTaken) =
            some (result, after) ∧
          Routed (oneCriticalClaim secondNumberTaken) result after := by
  let _ := PythonText.ascii
  have replaced :
      (routeCitations (oneCriticalClaim secondNumberTaken)).map
          (fun routed =>
            routed.2.humanTasks.values.map HumanTask.requestedInput) =
        some ["foo"] := by
    decide +kernel
  rw [Option.map_eq_some_iff] at replaced
  obtain ⟨⟨result, after⟩, routing, inputs⟩ := replaced
  refine ⟨⟨result, after, routing, inputs⟩, ?_⟩
  rintro ⟨otherResult, otherAfter, again, routed⟩
  rw [routing, Option.some.injEq, Prod.mk.injEq] at again
  obtain ⟨rfl, rfl⟩ := again
  obtain ⟨minted, values, _, _⟩ := routed.newTasks
  have asksBar :
      "bar" ∈ after.humanTasks.values.map HumanTask.requestedInput := by
    rw [values, List.map_append]
    exact List.mem_append_left _ (by decide)
  rw [inputs] at asksBar
  revert asksBar
  decide

end ResearchCos.DecisionMemo
