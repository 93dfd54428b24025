import ResearchCos.Foundation.SequenceMatcher
import ResearchCos.Text
import ResearchCos.Models

namespace ResearchCos

open Foundation

/-!
# Artifact operations

The mutations of the issue map and of the challenge map.  Both mint identifiers
from the current size of their map.
-/

/-! ## Issue map -/

/-- Set the status of an issue and the time of its last update. -/
def IssueNode.setStatus
    (node : IssueNode)
    (status : IssueStatus)
    (now : String) : IssueNode :=
  { node with status := status, lastUpdated := some now }

namespace IssueMap

/-- The identifier minted for the next issue. -/
def nextId (state : ResearchState) : String :=
  "I-" ++ pad3 (state.issueMap.size + 1)

/-- Add an issue; `none` when a rating is out of range. -/
def add
    (state : ResearchState)
    (title description : String)
    (issueType : IssueType)
    (status : IssueStatus)
    (now : String)
    (impact : Int := 3)
    (confidence : Int := 2) : Option ResearchState :=
  let node : IssueNode :=
    { id := nextId state
      title := title
      description := description
      issueType := issueType
      status := status
      impact := impact
      confidence := confidence
      lastUpdated := some now }
  if node.Valid then
    some { state with issueMap := state.issueMap.insert node.id node }
  else
    none

/-- Set the status of the issue under a key; `none` when there is none. -/
def setStatus
    (state : ResearchState)
    (issueId : String)
    (status : IssueStatus)
    (now : String) : Option ResearchState :=
  if state.issueMap.contains issueId then
    some
      { state with
        issueMap :=
          state.issueMap.modify issueId fun node =>
            node.setStatus status now }
  else
    none

/-- An added issue is within its bounds and stored under the next identifier. -/
theorem add_eq_some
    {state after : ResearchState}
    {title description now : String}
    {issueType : IssueType}
    {status : IssueStatus}
    {impact confidence : Int}
    (added :
      add state title description issueType status now impact confidence =
        some after) :
    ∃ node : IssueNode,
      node.Valid ∧ node.status = status ∧
        after =
          { state with
            issueMap := state.issueMap.insert (nextId state) node } := by
  simp only [add] at added
  split at added
  · rename_i valid
    exact ⟨_, valid, rfl, (Option.some.inj added).symm⟩
  · cases added

/-- Setting a status changes one issue. -/
theorem setStatus_eq_some
    {state after : ResearchState}
    {issueId now : String}
    {status : IssueStatus}
    (set : setStatus state issueId status now = some after) :
    after =
      { state with
        issueMap :=
          state.issueMap.modify issueId fun node =>
            node.setStatus status now } := by
  simp only [setStatus] at set
  split at set
  · exact (Option.some.inj set).symm
  · cases set

/-- Whether some issue has the given type. -/
def hasType (state : ResearchState) (issueType : IssueType) : Bool :=
  state.issueMap.values.any fun node => node.issueType = issueType

end IssueMap

/-! ## Challenge map -/

/-- The fields of a raised challenge; an absent field keeps the old value. -/
structure RaisedChallenge where
  challenge : String
  whyAlbertWouldAsk : Option String := none
  currentAnswer : Option String := none
  status : Option ChallengeStatus := none
  classification : Option Classification := none
  confidence : Option Int := none
  evidenceRefs : Option (List String) := none
  issueId : Option String := none
  priorChallengeId : Option String := none
  override : Bool := false
  deriving Repr, DecidableEq

namespace ChallengeMap

/-- Similarity from which on a raised challenge is taken for a known one. -/
def mergeThreshold : ℚ :=
  17 / 20

/-- Whether a challenge may still be merged onto. -/
def isLive : ChallengeStatus → Bool
  | .open
  | .answered
  | .needsInternalData
  | .needsAlbertDecision
  | .needsBuJudgment => true
  | .resolved
  | .escalatedToHuman => false

/-- The identifier minted for the next challenge. -/
def nextId (challenges : OrderedMap String AlbertChallenge) : String :=
  "C-" ++ pad3 (challenges.size + 1)

/-- Append the refs that are not there yet. -/
def appendNewRefs (known new : List String) : List String :=
  new.foldl
    (fun refs ref => if ref ∈ refs then refs else refs ++ [ref]) known

/-- The known challenge updated by a raised one. -/
def merge
    (known : AlbertChallenge)
    (raised : RaisedChallenge) : AlbertChallenge :=
  { known with
    roundsSeen := known.roundsSeen + 1
    issueId := raised.issueId.or known.issueId
    whyAlbertWouldAsk :=
      raised.whyAlbertWouldAsk.getD known.whyAlbertWouldAsk
    currentAnswer := raised.currentAnswer.getD known.currentAnswer
    status := raised.status.getD known.status
    classification := raised.classification.or known.classification
    confidence := raised.confidence.getD known.confidence
    evidenceRefs :=
      match raised.evidenceRefs with
      | none => known.evidenceRefs
      | some refs =>
          if raised.override then
            refs
          else
            appendNewRefs known.evidenceRefs refs }

/-- The challenge minted for a raised one. -/
def mint
    (challenges : OrderedMap String AlbertChallenge)
    (raised : RaisedChallenge) : AlbertChallenge where
  id := nextId challenges
  challenge := raised.challenge
  issueId := raised.issueId
  whyAlbertWouldAsk := raised.whyAlbertWouldAsk.getD ""
  currentAnswer := raised.currentAnswer.getD ""
  status := raised.status.getD .open
  confidence := raised.confidence.getD 0
  evidenceRefs := raised.evidenceRefs.getD []
  classification := raised.classification
  roundsSeen := 1

/-- Add a challenge without a look at the known ones. -/
def add
    (challenges : OrderedMap String AlbertChallenge)
    (challenge : String)
    (whyAlbertWouldAsk : String := "")
    (status : ChallengeStatus := .open)
    (classification : Option Classification := none)
    (confidence : Int := 0) : Option (OrderedMap String AlbertChallenge) :=
  let minted : AlbertChallenge :=
    { id := nextId challenges
      challenge := challenge
      whyAlbertWouldAsk := whyAlbertWouldAsk
      status := status
      classification := classification
      confidence := confidence }
  if InRange minted.confidence then
    some (challenges.insert minted.id minted)
  else
    none

section Matching

variable [PythonText]

/-- Lower-cased text with single spaces. -/
def normalize (text : String) : List Char :=
  squeeze (lowerChars text)

/-- The last live challenge among the best matches of a text, by its key. -/
def bestLiveMatch
    (text : List Char) :
    List (String × AlbertChallenge) → Option String → ℚ → Option String
  | [], best, _ => best
  | (key, known) :: rest, best, bestRatio =>
      let ratio :=
        SequenceMatcher.ratio true text (normalize known.challenge)
      if isLive known.status ∧ bestRatio ≤ ratio then
        bestLiveMatch text rest (some key) ratio
      else
        bestLiveMatch text rest best bestRatio

/-- The key of the challenge that a raised one is merged onto. -/
def findLiveMatch
    (challenges : OrderedMap String AlbertChallenge)
    (raised : RaisedChallenge) : Option String :=
  let referenced :=
    raised.priorChallengeId.filter fun prior =>
      prior ≠ "" ∧ challenges.contains prior
  referenced.or
    (bestLiveMatch (normalize raised.challenge) challenges.entries
      none mergeThreshold)

/--
Merge a raised challenge onto a known one or add it, with the key of the result;
`none` when the confidence of an added challenge is out of range.
-/
def upsert
    (challenges : OrderedMap String AlbertChallenge)
    (raised : RaisedChallenge) :
    Option (OrderedMap String AlbertChallenge × String) :=
  match findLiveMatch challenges raised with
  | some key =>
      some (challenges.modify key fun known => merge known raised, key)
  | none =>
      let minted := mint challenges raised
      if InRange minted.confidence then
        some (challenges.insert minted.id minted, minted.id)
      else
        none

end Matching

end ChallengeMap

/-! ## Human tasks -/

namespace HumanTasks

/-- The identifier minted for the `n`-th task. -/
def taskId (n : Nat) : String :=
  "HT-" ++ pad3 n

/-- The identifier minted for the next task. -/
def nextId (tasks : OrderedMap String HumanTask) : String :=
  taskId (tasks.size + 1)

/-- No task has a minted identifier that is still to come. -/
def FreshIds (tasks : OrderedMap String HumanTask) : Prop :=
  ∀ n, tasks.size < n → tasks.get? (taskId n) = none

/-- Different numbers mint different identifiers. -/
theorem taskId_injective : Function.Injective taskId := by
  intro first second same
  have sameCharacters := congrArg String.toList same
  simp only [taskId, String.toList_append, List.append_cancel_left_eq,
    String.toList_inj] at sameCharacters
  exact pad3_injective sameCharacters

/-- The identifier of the task of a cell is never minted from a number. -/
theorem cellTaskId_ne_taskId
    (cellId : String)
    (n : Nat) :
    "HT-CELL-" ++ cellId ≠ taskId n := by
  intro same
  have sameCharacters := congrArg String.toList same
  simp only [taskId, String.toList_append] at sameCharacters
  have cell :
      "HT-CELL-".toList = "HT-".toList ++ ['C', 'E', 'L', 'L', '-'] := by
    decide
  rw [cell, List.append_assoc, List.append_cancel_left_eq]
    at sameCharacters
  have letter : 'C' ∈ (pad3 n).toList := by
    rw [← sameCharacters]
    exact List.mem_cons_self
  exact absurd (isDigit_of_mem_pad3 letter) (by decide)

/-- Without tasks every identifier is still to come. -/
theorem freshIds_empty :
    FreshIds (∅ : OrderedMap String HumanTask) :=
  OrderedMap.freshKeys_empty taskId

/-- The next identifier is not in use. -/
theorem FreshIds.nextId_absent
    {tasks : OrderedMap String HumanTask}
    (fresh : FreshIds tasks) :
    tasks.get? (nextId tasks) = none :=
  OrderedMap.FreshKeys.next_absent fresh

/-- Adding a task under an unused identifier that is not to come later. -/
theorem FreshIds.insert
    {tasks : OrderedMap String HumanTask}
    {id : String}
    (fresh : FreshIds tasks)
    (absent : tasks.get? id = none)
    (notLater : ∀ n, tasks.size + 1 < n → id ≠ taskId n)
    (task : HumanTask) :
    FreshIds (tasks.insert id task) :=
  OrderedMap.FreshKeys.insert fresh absent notLater task

/-- Adding the next task keeps the later identifiers unused. -/
theorem FreshIds.insert_next
    {tasks : OrderedMap String HumanTask}
    (fresh : FreshIds tasks)
    (task : HumanTask) :
    FreshIds (tasks.insert (nextId tasks) task) :=
  OrderedMap.FreshKeys.insert_next fresh taskId_injective task

end HumanTasks

end ResearchCos
