import ResearchCos.Foundation.LabelledRun
import ResearchCos.GraphNodes

namespace ResearchCos

open Foundation

/-!
# The challenge map over repeated audits

An audit records its challenges one by one: each is merged onto the most similar
live challenge or added under the next identifier, and an answered challenge
with evidence is resolved at once.  Nothing here depends on how similarity is
measured, so the audit is restated with the measure as a parameter.
-/

/-- How alike two texts are: between zero and one, and one for equal texts. -/
structure Similarity where
  ratio : List Char → List Char → ℚ
  nonneg : ∀ first second, 0 ≤ ratio first second
  le_one : ∀ first second, ratio first second ≤ 1
  self : ∀ text, ratio text text = 1

namespace ChallengeMap

/-- The identifier minted for the `n`-th challenge. -/
def challengeId (n : Nat) : String :=
  "C-" ++ pad3 n

/-- Different numbers mint different identifiers. -/
theorem challengeId_injective : Function.Injective challengeId := by
  intro first second same
  have sameCharacters := congrArg String.toList same
  simp only [challengeId, String.toList_append, List.append_cancel_left_eq,
    String.toList_inj] at sameCharacters
  exact pad3_injective sameCharacters

/-- The fields of an audited challenge that are passed on to the map. -/
def raise (challenge : AlbertChallenge) : RaisedChallenge where
  challenge := challenge.challenge
  whyAlbertWouldAsk :=
    if challenge.whyAlbertWouldAsk = "" then
      none
    else
      some challenge.whyAlbertWouldAsk
  currentAnswer :=
    if challenge.currentAnswer = "" then none else some challenge.currentAnswer
  status := some challenge.status
  classification := challenge.classification
  confidence :=
    if challenge.confidence = 0 then none else some challenge.confidence
  evidenceRefs :=
    if challenge.evidenceRefs = [] then none else some challenge.evidenceRefs
  issueId := challenge.issueId

/-- An answered challenge with evidence is resolved. -/
def promote (challenge : AlbertChallenge) : AlbertChallenge :=
  if challenge.status = .answered ∧ challenge.evidenceRefs ≠ [] then
    { challenge with status := .resolved }
  else
    challenge

section Matching

variable [PythonText] (ratio : List Char → List Char → ℚ)

/-- The last live challenge among the best matches of a text, by its key. -/
def bestLiveMatchBy
    (text : List Char) :
    List (String × AlbertChallenge) → Option String → ℚ → Option String
  | [], best, _ => best
  | (key, known) :: rest, best, bestRatio =>
      let similarity := ratio text (normalize known.challenge)
      if isLive known.status ∧ bestRatio ≤ similarity then
        bestLiveMatchBy text rest (some key) similarity
      else
        bestLiveMatchBy text rest best bestRatio

/-- The key of the challenge that a raised one is merged onto. -/
def findLiveMatchBy
    (challenges : OrderedMap String AlbertChallenge)
    (raised : RaisedChallenge) : Option String :=
  let referenced :=
    raised.priorChallengeId.filter fun prior =>
      prior ≠ "" ∧ challenges.contains prior
  referenced.or
    (bestLiveMatchBy ratio (normalize raised.challenge) challenges.entries
      none mergeThreshold)

/-- Merge a raised challenge onto a known one or add it, with its key. -/
def upsertBy
    (challenges : OrderedMap String AlbertChallenge)
    (raised : RaisedChallenge) :
    Option (OrderedMap String AlbertChallenge × String) :=
  match findLiveMatchBy ratio challenges raised with
  | some key =>
      some (challenges.modify key fun known => merge known raised, key)
  | none =>
      let minted := mint challenges raised
      if InRange minted.confidence then
        some (challenges.insert minted.id minted, minted.id)
      else
        none

/-- Record one challenge; an answered one with evidence is resolved. -/
def recordChallengeBy
    (challenges : OrderedMap String AlbertChallenge)
    (challenge : AlbertChallenge) :
    Option (OrderedMap String AlbertChallenge) :=
  (upsertBy ratio challenges (raise challenge)).map fun (recorded, key) =>
    recorded.modify key promote

/-- Record the challenges of an audit one by one. -/
def recordChallengesBy :
    List AlbertChallenge → OrderedMap String AlbertChallenge →
      Option (OrderedMap String AlbertChallenge)
  | [], challenges => some challenges
  | challenge :: rest, challenges =>
      (recordChallengeBy ratio challenges challenge).bind
        (recordChallengesBy rest)

/-- The audit node with a given measure of similarity. -/
def nodeAlbertAuditBy (env : StepEnv) (state : GraphState) : Option Update :=
  let rs := state.researchState
  (env.brains.auditor rs).bind fun audit =>
    (recordChallengesBy ratio audit.challenges rs.albertChallengeMap).map
      fun challenges =>
        let recorded :=
          Convergence.recordSignal
            { rs with
              lastAudit := some audit
              albertChallengeMap := challenges }
        { researchState :=
            { recorded with
              issueMap :=
                recorded.issueMap.mapValues fun node =>
                  { node with lastAudited := some state.config.now } }
          prereqs :=
            some
              { state.flags with
                albertAuditRan := true
                pendingQuestionsExtracted := true } }

/-! ## The measure of the running program -/

/-- The match with the measure that the program uses. -/
theorem bestLiveMatchBy_sequenceMatcher
    (text : List Char)
    (entries : List (String × AlbertChallenge))
    (best : Option String)
    (bestRatio : ℚ) :
    bestLiveMatchBy (SequenceMatcher.ratio true) text entries best bestRatio =
      bestLiveMatch text entries best bestRatio := by
  induction entries generalizing best bestRatio with
  | nil =>
      rfl
  | cons entry rest inductionHypothesis =>
      rcases entry with ⟨key, known⟩
      simp only [bestLiveMatchBy, bestLiveMatch, inductionHypothesis]

/-- Recording with the measure that the program uses. -/
theorem recordChallengesBy_sequenceMatcher
    (raised : List AlbertChallenge)
    (challenges : OrderedMap String AlbertChallenge) :
    recordChallengesBy (SequenceMatcher.ratio true) raised challenges =
      recordChallenges raised challenges := by
  induction raised generalizing challenges with
  | nil =>
      rfl
  | cons challenge rest inductionHypothesis =>
      have sameMatch :
          recordChallengeBy (SequenceMatcher.ratio true) challenges challenge =
            recordChallenge challenges challenge := by
        simp only [recordChallengeBy, recordChallenge, upsertBy, upsert,
          findLiveMatchBy, findLiveMatch, bestLiveMatchBy_sequenceMatcher]
        rfl
      simp only [recordChallengesBy, recordChallenges, sameMatch]
      congr 1
      funext recorded
      exact inductionHypothesis recorded

/-- The audit node is the one with the measure that the program uses. -/
theorem nodeAlbertAuditBy_sequenceMatcher
    (env : StepEnv)
    (state : GraphState) :
    nodeAlbertAuditBy (SequenceMatcher.ratio true) env state =
      nodeAlbertAudit env state := by
  simp only [nodeAlbertAuditBy, nodeAlbertAudit,
    recordChallengesBy_sequenceMatcher]

/-! ## What a match is -/

variable {ratio}

/-- A found match is the best one so far or a live challenge of the list. -/
theorem bestLiveMatchBy_live
    {text : List Char}
    {entries : List (String × AlbertChallenge)}
    {best : Option String}
    {bestRatio : ℚ}
    {key : String}
    (found : bestLiveMatchBy ratio text entries best bestRatio = some key) :
    best = some key ∨
      ∃ known, (key, known) ∈ entries ∧ isLive known.status = true := by
  induction entries generalizing best bestRatio with
  | nil =>
      exact Or.inl found
  | cons entry rest inductionHypothesis =>
      rcases entry with ⟨head, known⟩
      simp only [bestLiveMatchBy] at found
      split at found
      · rename_i better
        rcases inductionHypothesis found with isHead | ⟨later, member, live⟩
        · cases isHead
          exact Or.inr ⟨known, List.mem_cons_self, better.1⟩
        · exact Or.inr ⟨later, List.mem_cons_of_mem _ member, live⟩
      · rcases inductionHypothesis found with isBest | ⟨later, member, live⟩
        · exact Or.inl isBest
        · exact Or.inr ⟨later, List.mem_cons_of_mem _ member, live⟩

/-- Once there is a match, the search ends with one. -/
theorem bestLiveMatchBy_of_best
    (text : List Char)
    (entries : List (String × AlbertChallenge))
    (best : String)
    (bestRatio : ℚ) :
    bestLiveMatchBy ratio text entries (some best) bestRatio ≠ none := by
  induction entries generalizing best bestRatio with
  | nil =>
      exact Option.some_ne_none best
  | cons entry rest inductionHypothesis =>
      rcases entry with ⟨head, known⟩
      simp only [bestLiveMatchBy]
      split
      · exact inductionHypothesis head _
      · exact inductionHypothesis best bestRatio

/-- A live challenge that is similar enough makes the search succeed. -/
theorem bestLiveMatchBy_of_similar
    {text : List Char}
    {entries : List (String × AlbertChallenge)}
    {best : Option String}
    {bestRatio : ℚ}
    {key : String}
    {known : AlbertChallenge}
    (member : (key, known) ∈ entries)
    (live : isLive known.status = true)
    (similar : bestRatio ≤ ratio text (normalize known.challenge)) :
    bestLiveMatchBy ratio text entries best bestRatio ≠ none := by
  induction entries generalizing best with
  | nil =>
      cases member
  | cons entry rest inductionHypothesis =>
      rcases entry with ⟨head, stored⟩
      simp only [bestLiveMatchBy]
      split
      · exact bestLiveMatchBy_of_best text rest head _
      · rename_i notBetter
        rcases List.mem_cons.mp member with atHead | inRest
        · cases atHead
          exact absurd ⟨live, similar⟩ notBetter
        · exact inductionHypothesis inRest

/-! ## What recording does -/

/-- The live challenges with the text of a raised one. -/
def LiveTwin
    (challenges : OrderedMap String AlbertChallenge)
    (text : String)
    (key : String)
    (known : AlbertChallenge) : Prop :=
  challenges.get? key = some known ∧
    isLive known.status = true ∧
    normalize known.challenge = normalize text

/-- A challenge after an audited one is merged onto it. -/
def mergedWith
    (challenge known : AlbertChallenge) : AlbertChallenge :=
  promote (merge known (raise challenge))

/-- The challenge that is added for an audited one. -/
def mintedFor
    (challenges : OrderedMap String AlbertChallenge)
    (challenge : AlbertChallenge) : AlbertChallenge :=
  promote (mint challenges (raise challenge))

/-- An audited challenge names no prior one, so its text is looked for. -/
theorem findLiveMatchBy_raise
    (challenges : OrderedMap String AlbertChallenge)
    (challenge : AlbertChallenge) :
    findLiveMatchBy ratio challenges (raise challenge) =
      bestLiveMatchBy ratio (normalize challenge.challenge)
        challenges.entries none mergeThreshold := by
  have noReference : (raise challenge).priorChallengeId = none := rfl
  simp only [findLiveMatchBy, noReference, Option.filter_none,
    Option.none_or]
  rfl

/-- A challenge with a match is merged onto it. -/
theorem recordChallengeBy_of_match
    {challenges : OrderedMap String AlbertChallenge}
    {challenge : AlbertChallenge}
    {key : String}
    (found : findLiveMatchBy ratio challenges (raise challenge) = some key) :
    recordChallengeBy ratio challenges challenge =
      some (challenges.modify key (mergedWith challenge)) := by
  simp only [recordChallengeBy, upsertBy, found, Option.map_some,
    OrderedMap.modify_modify]
  rfl

/--
Recording merges onto a live challenge, or adds one whose text no live
challenge has.
-/
theorem recordChallengeBy_cases
    (self : ∀ text, ratio text text = 1)
    {challenges next : OrderedMap String AlbertChallenge}
    {challenge : AlbertChallenge}
    (recorded : recordChallengeBy ratio challenges challenge = some next) :
    (∃ key known,
        challenges.get? key = some known ∧
          isLive known.status = true ∧
          next = challenges.modify key (mergedWith challenge)) ∨
      (∀ key known, ¬LiveTwin challenges challenge.challenge key known) ∧
        next =
          challenges.insert (challengeId (challenges.size + 1))
            (mintedFor challenges challenge) := by
  cases found :
      bestLiveMatchBy ratio (normalize challenge.challenge)
        challenges.entries none mergeThreshold with
  | some key =>
      left
      rcases bestLiveMatchBy_live found with impossible |
        ⟨known, member, live⟩
      · cases impossible
      · refine ⟨key, known, OrderedMap.get?_of_mem_entries member, live, ?_⟩
        rw [recordChallengeBy_of_match
            ((findLiveMatchBy_raise challenges challenge).trans found),
          Option.some.injEq] at recorded
        exact recorded.symm
  | none =>
      right
      constructor
      · rintro key known ⟨stored, live, sameText⟩
        refine bestLiveMatchBy_of_similar
          (OrderedMap.mem_entries_of_get? stored) live ?_ found
        rw [sameText, self]
        norm_num [mergeThreshold]
      · simp only [recordChallengeBy, upsertBy, findLiveMatchBy_raise,
          found, Option.map_eq_some_iff] at recorded
        obtain ⟨minted, accepted, promoted⟩ := recorded
        split at accepted
        · cases accepted
          rw [← promoted, OrderedMap.modify_insert_self]
          rfl
        · cases accepted

end Matching

/-! ## How a challenge continues -/

/-- Refs are only added, and a closed challenge stays as it is. -/
def Continues (known later : AlbertChallenge) : Prop :=
  known.evidenceRefs <+: later.evidenceRefs ∧
    (isLive known.status = false → later = known)

/-- Every challenge is still there and only continues. -/
def Extends (before after : OrderedMap String AlbertChallenge) : Prop :=
  ∀ key known, before.get? key = some known →
    ∃ later, after.get? key = some later ∧ Continues known later

theorem Continues.refl
    (known : AlbertChallenge) :
    Continues known known :=
  ⟨List.prefix_rfl, fun _ => rfl⟩

theorem Continues.trans
    {first second third : AlbertChallenge}
    (earlier : Continues first second)
    (later : Continues second third) :
    Continues first third := by
  refine ⟨earlier.1.trans later.1, ?_⟩
  intro closed
  have unchanged := earlier.2 closed
  rw [later.2 (unchanged ▸ closed), unchanged]

theorem Extends.refl
    (challenges : OrderedMap String AlbertChallenge) :
    Extends challenges challenges :=
  fun _ known stored => ⟨known, stored, .refl known⟩

theorem Extends.trans
    {first second third : OrderedMap String AlbertChallenge}
    (earlier : Extends first second)
    (later : Extends second third) :
    Extends first third := by
  intro key known stored
  obtain ⟨middle, storedMiddle, toMiddle⟩ := earlier key known stored
  obtain ⟨final, storedFinal, toFinal⟩ := later key middle storedMiddle
  exact ⟨final, storedFinal, toMiddle.trans toFinal⟩

/-- Appending unknown refs keeps the known ones in front. -/
theorem prefix_appendNewRefs
    (known new : List String) :
    known <+: appendNewRefs known new := by
  induction new generalizing known with
  | nil =>
      exact List.prefix_rfl
  | cons ref rest inductionHypothesis =>
      simp only [appendNewRefs, List.foldl_cons]
      split
      · exact inductionHypothesis known
      · exact (List.prefix_append known [ref]).trans
          (inductionHypothesis (known ++ [ref]))

@[simp] theorem promote_id
    (challenge : AlbertChallenge) :
    (promote challenge).id = challenge.id := by
  simp only [promote]
  split <;> rfl

@[simp] theorem promote_challenge
    (challenge : AlbertChallenge) :
    (promote challenge).challenge = challenge.challenge := by
  simp only [promote]
  split <;> rfl

@[simp] theorem promote_evidenceRefs
    (challenge : AlbertChallenge) :
    (promote challenge).evidenceRefs = challenge.evidenceRefs := by
  simp only [promote]
  split <;> rfl

/-- After promotion no challenge is answered with evidence. -/
theorem promote_settled
    (challenge : AlbertChallenge) :
    ¬((promote challenge).status = .answered ∧
      (promote challenge).evidenceRefs ≠ []) := by
  simp only [promote]
  split
  · simp
  · assumption

/-- A merge adds refs behind the known ones. -/
theorem mergedWith_evidenceRefs
    (challenge known : AlbertChallenge) :
    known.evidenceRefs <+: (mergedWith challenge known).evidenceRefs := by
  simp only [mergedWith, promote_evidenceRefs, merge, raise]
  split
  · exact List.prefix_rfl
  · exact prefix_appendNewRefs known.evidenceRefs _

/-! ## The invariant -/

section Invariant

variable [PythonText]

/-- What every audit keeps of the challenge map. -/
structure WellKept (challenges : OrderedMap String AlbertChallenge) :
    Prop where
  fresh : OrderedMap.FreshKeys challengeId challenges
  idIsKey :
    ∀ {key known}, challenges.get? key = some known → known.id = key
  liveUnique :
    ∀ {first second firstKnown secondKnown},
      challenges.get? first = some firstKnown →
      challenges.get? second = some secondKnown →
      isLive firstKnown.status = true →
      isLive secondKnown.status = true →
      normalize firstKnown.challenge = normalize secondKnown.challenge →
      first = second
  settled :
    ∀ {key known}, challenges.get? key = some known →
      ¬(known.status = .answered ∧ known.evidenceRefs ≠ [])

/-- The map without challenges is well kept. -/
theorem wellKept_empty :
    WellKept (∅ : OrderedMap String AlbertChallenge) where
  fresh := OrderedMap.freshKeys_empty challengeId
  idIsKey := by
    intro key known stored
    cases stored
  liveUnique := by
    intro first second firstKnown secondKnown stored
    cases stored
  settled := by
    intro key known stored
    cases stored

/-- Merging onto a live challenge keeps the map. -/
theorem WellKept.merge
    {challenges : OrderedMap String AlbertChallenge}
    {key : String}
    {known : AlbertChallenge}
    (kept : WellKept challenges)
    (stored : challenges.get? key = some known)
    (live : isLive known.status = true)
    (challenge : AlbertChallenge) :
    WellKept (challenges.modify key (mergedWith challenge)) ∧
      Extends challenges
        (challenges.modify key (mergedWith challenge)) := by
  -- a stored challenge of the new map comes from one with the same text
  have origin :
      ∀ {query later},
        (challenges.modify key (mergedWith challenge)).get? query =
            some later →
        ∃ earlier,
          challenges.get? query = some earlier ∧
            (later = earlier ∨
              key = query ∧ later = mergedWith challenge earlier) := by
    intro query later found
    rw [OrderedMap.get?_modify] at found
    split at found
    · rename_i same
      obtain ⟨earlier, storedEarlier, merged⟩ :=
        Option.map_eq_some_iff.mp found
      exact ⟨earlier, storedEarlier, Or.inr ⟨same, merged.symm⟩⟩
    · exact ⟨later, found, Or.inl rfl⟩
  have liveBefore :
      ∀ {query later},
        (challenges.modify key (mergedWith challenge)).get? query =
            some later →
        isLive later.status = true →
        ∃ earlier,
          challenges.get? query = some earlier ∧
            isLive earlier.status = true ∧
            earlier.challenge = later.challenge := by
    intro query later found laterLive
    obtain ⟨earlier, storedEarlier, unchanged | ⟨same, merged⟩⟩ :=
      origin found
    · exact ⟨earlier, storedEarlier, unchanged ▸ laterLive,
        congrArg AlbertChallenge.challenge unchanged.symm⟩
    · subst same
      rw [stored] at storedEarlier
      cases storedEarlier
      refine ⟨known, stored, live, ?_⟩
      rw [merged, mergedWith, promote_challenge]
      rfl
  refine ⟨⟨kept.fresh.modify key _, ?_, ?_, ?_⟩, ?_⟩
  · intro query later found
    obtain ⟨earlier, storedEarlier, unchanged | ⟨_, merged⟩⟩ := origin found
    · exact unchanged ▸ kept.idIsKey storedEarlier
    · have sameId : earlier.id = query := kept.idIsKey storedEarlier
      rw [merged, mergedWith, promote_id]
      exact sameId
  · intro first second firstKnown secondKnown foundFirst foundSecond
      firstLive secondLive sameText
    obtain ⟨firstBefore, storedFirst, firstWasLive, firstText⟩ :=
      liveBefore foundFirst firstLive
    obtain ⟨secondBefore, storedSecond, secondWasLive, secondText⟩ :=
      liveBefore foundSecond secondLive
    exact kept.liveUnique storedFirst storedSecond firstWasLive
      secondWasLive (by rw [firstText, secondText, sameText])
  · intro query later found
    obtain ⟨earlier, storedEarlier, unchanged | ⟨_, merged⟩⟩ := origin found
    · exact unchanged ▸ kept.settled storedEarlier
    · rw [merged]
      exact promote_settled _
  · intro query earlier storedEarlier
    by_cases same : key = query
    · subst same
      rw [stored] at storedEarlier
      cases storedEarlier
      refine ⟨mergedWith challenge known, ?_, ?_, ?_⟩
      · simp [OrderedMap.get?_modify, stored]
      · exact mergedWith_evidenceRefs challenge known
      · intro closed
        rw [live] at closed
        cases closed
    · refine ⟨earlier, ?_, .refl earlier⟩
      rw [OrderedMap.get?_modify, if_neg same]
      exact storedEarlier

/-- Adding a challenge whose text no live challenge has keeps the map. -/
theorem WellKept.mint
    {challenges : OrderedMap String AlbertChallenge}
    {challenge : AlbertChallenge}
    (kept : WellKept challenges)
    (noTwin :
      ∀ key known, ¬LiveTwin challenges challenge.challenge key known) :
    WellKept
        (challenges.insert (challengeId (challenges.size + 1))
          (mintedFor challenges challenge)) ∧
      Extends challenges
        (challenges.insert (challengeId (challenges.size + 1))
          (mintedFor challenges challenge)) := by
  have absent := kept.fresh.next_absent
  have mintedText :
      (mintedFor challenges challenge).challenge = challenge.challenge :=
    promote_challenge _
  have origin :
      ∀ {query later},
        (challenges.insert (challengeId (challenges.size + 1))
            (mintedFor challenges challenge)).get? query = some later →
        challengeId (challenges.size + 1) = query ∧
            later = mintedFor challenges challenge ∨
          challenges.get? query = some later := by
    intro query later found
    rw [OrderedMap.get?_insert] at found
    split at found
    · rename_i same
      exact Or.inl ⟨same, (Option.some.inj found).symm⟩
    · exact Or.inr found
  refine ⟨⟨kept.fresh.insert_next challengeId_injective _, ?_, ?_, ?_⟩, ?_⟩
  · intro query later found
    rcases origin found with ⟨same, minted⟩ | before
    · rw [minted, mintedFor, promote_id, ← same]
      rfl
    · exact kept.idIsKey before
  · intro first second firstKnown secondKnown foundFirst foundSecond
      firstLive secondLive sameText
    rcases origin foundFirst with ⟨firstNew, firstMinted⟩ | firstBefore
    · rcases origin foundSecond with ⟨secondNew, _⟩ | secondBefore
      · rw [← firstNew, ← secondNew]
      · refine absurd ⟨secondBefore, secondLive, ?_⟩ (noTwin second _)
        rw [← sameText, firstMinted, mintedText]
    · rcases origin foundSecond with ⟨_, secondMinted⟩ | secondBefore
      · refine absurd ⟨firstBefore, firstLive, ?_⟩ (noTwin first _)
        rw [sameText, secondMinted, mintedText]
      · exact kept.liveUnique firstBefore secondBefore firstLive
          secondLive sameText
  · intro query later found
    rcases origin found with ⟨_, minted⟩ | before
    · rw [minted]
      exact promote_settled _
    · exact kept.settled before
  · intro query earlier storedEarlier
    refine ⟨earlier, ?_, .refl earlier⟩
    have notNext : challengeId (challenges.size + 1) ≠ query := by
      intro same
      rw [same, storedEarlier] at absent
      cases absent
    rw [OrderedMap.get?_insert, if_neg notNext]
    exact storedEarlier

/-- Recording the challenges of one audit keeps the map and extends it. -/
theorem WellKept.record
    {ratio : List Char → List Char → ℚ}
    (self : ∀ text, ratio text text = 1)
    {raised : List AlbertChallenge}
    {challenges next : OrderedMap String AlbertChallenge}
    (kept : WellKept challenges)
    (recorded : recordChallengesBy ratio raised challenges = some next) :
    WellKept next ∧ Extends challenges next := by
  induction raised generalizing challenges with
  | nil =>
      cases recorded
      exact ⟨kept, .refl _⟩
  | cons challenge rest inductionHypothesis =>
      obtain ⟨middle, first, later⟩ := Option.bind_eq_some_iff.mp recorded
      have firstKept : WellKept middle ∧ Extends challenges middle := by
        rcases recordChallengeBy_cases self first with
          ⟨key, known, stored, live, merged⟩ | ⟨noTwin, minted⟩
        · exact merged ▸ kept.merge stored live challenge
        · exact minted ▸ kept.mint noTwin
      obtain ⟨finalKept, extended⟩ :=
        inductionHypothesis firstKept.1 later
      exact ⟨finalKept, firstKept.2.trans extended⟩

/-! ## Runs of audits -/

/-- Execute the audit node and write its update into the channels. -/
def auditStep
    (similarity : Similarity)
    (state : GraphState)
    (env : StepEnv) : Option GraphState :=
  (nodeAlbertAuditBy similarity.ratio env state).map state.apply

/-- One audit keeps the map and extends it. -/
theorem auditStep_wellKept
    {similarity : Similarity}
    {state next : GraphState}
    {env : StepEnv}
    (kept : WellKept state.researchState.albertChallengeMap)
    (audited : auditStep similarity state env = some next) :
    WellKept next.researchState.albertChallengeMap ∧
      Extends state.researchState.albertChallengeMap
        next.researchState.albertChallengeMap := by
  obtain ⟨update, updated, applied⟩ := Option.map_eq_some_iff.mp audited
  obtain ⟨audit, _, recording⟩ := Option.bind_eq_some_iff.mp updated
  obtain ⟨challenges, recorded, written⟩ :=
    Option.map_eq_some_iff.mp recording
  subst written
  subst applied
  exact kept.record similarity.self recorded

/-- Any number of audits keep the map and extend it. -/
theorem audits_wellKept
    {similarity : Similarity}
    {initial final : GraphState}
    {envs : List StepEnv}
    (kept : WellKept initial.researchState.albertChallengeMap)
    (audited : exec (auditStep similarity) initial envs = some final) :
    WellKept final.researchState.albertChallengeMap ∧
      Extends initial.researchState.albertChallengeMap
        final.researchState.albertChallengeMap := by
  refine exec_induction
    (motive := fun _ state =>
      WellKept state.researchState.albertChallengeMap ∧
        Extends initial.researchState.albertChallengeMap
          state.researchState.albertChallengeMap)
    ⟨kept, .refl _⟩ ?_ audited
  intro labels state env next _ before stepped
  obtain ⟨nextKept, extended⟩ := auditStep_wellKept before.1 stepped
  exact ⟨nextKept, before.2.trans extended⟩

/-- Identifiers of a well-kept map are duplicate-free. -/
theorem WellKept.nodup_ids
    {challenges : OrderedMap String AlbertChallenge}
    (kept : WellKept challenges) :
    (challenges.values.map AlbertChallenge.id).Nodup := by
  have idsAreKeys :
      challenges.values.map AlbertChallenge.id =
        challenges.entries.map Prod.fst := by
    rw [OrderedMap.values, List.map_map]
    refine List.map_congr_left ?_
    rintro ⟨key, known⟩ member
    exact kept.idIsKey (OrderedMap.get?_of_mem_entries member)
  rw [idsAreKeys]
  exact challenges.nodupKeys

/--
However audits follow each other from an empty map: challenges are never
removed and have different identifiers, a resolved or escalated one never
changes, refs are only added, live challenges have different texts, and no
answered challenge with evidence is left.
-/
theorem audits_keep_dialogue
    {similarity : Similarity}
    {initial middle final : GraphState}
    {earlier later : List StepEnv}
    (noChallenges : initial.researchState.albertChallengeMap = ∅)
    (before : exec (auditStep similarity) initial earlier = some middle)
    (after : exec (auditStep similarity) middle later = some final) :
    (∀ key known,
        middle.researchState.albertChallengeMap.get? key = some known →
        ∃ kept,
          final.researchState.albertChallengeMap.get? key = some kept ∧
            known.evidenceRefs <+: kept.evidenceRefs ∧
            (known.status = .resolved ∨ known.status = .escalatedToHuman →
              kept = known)) ∧
      (final.researchState.albertChallengeMap.values.map
        AlbertChallenge.id).Nodup ∧
      (∀ first second firstKnown secondKnown,
        final.researchState.albertChallengeMap.get? first =
            some firstKnown →
        final.researchState.albertChallengeMap.get? second =
            some secondKnown →
        isLive firstKnown.status = true →
        isLive secondKnown.status = true →
        normalize firstKnown.challenge = normalize secondKnown.challenge →
        first = second) ∧
      ∀ key known,
        final.researchState.albertChallengeMap.get? key = some known →
        ¬(known.status = .answered ∧ known.evidenceRefs ≠ []) := by
  have initialKept : WellKept initial.researchState.albertChallengeMap := by
    rw [noChallenges]
    exact wellKept_empty
  have middleKept := (audits_wellKept initialKept before).1
  obtain ⟨finalKept, extended⟩ := audits_wellKept middleKept after
  refine ⟨?_, finalKept.nodup_ids, ?_, ?_⟩
  · intro key known stored
    obtain ⟨kept, storedKept, grown, closedKept⟩ :=
      extended key known stored
    refine ⟨kept, storedKept, grown, ?_⟩
    rintro (resolved | escalated)
    · exact closedKept (by rw [resolved]; rfl)
    · exact closedKept (by rw [escalated]; rfl)
  · intro first second firstKnown secondKnown
    exact finalKept.liveUnique
  · intro key known
    exact finalKept.settled

end Invariant

/-- Texts are alike when they are equal. -/
private def sameText : Similarity where
  ratio := fun first second => if first = second then 1 else 0
  nonneg := by
    intro first second
    split <;> norm_num
  le_one := by
    intro first second
    split <;> norm_num
  self := by
    intro text
    simp

/-- An audit that raises the given challenges. -/
private def auditRaising (challenges : List AlbertChallenge) : StepEnv :=
  .calm
    { Brains.silent with
      auditor := fun _ =>
        some { verdict := .continue_, challenges := challenges } }

/-- A run before its first audit. -/
private def unauditedRun : GraphState where
  researchState := { runId := "run", originalQuestion := "question" }

/-- A challenge that is raised, answered with evidence and raised again. -/
theorem reraisedChallenge_keeps_dialogue :
    letI := PythonText.ascii
    ∃ middle final known,
      exec (auditStep sameText) unauditedRun
          [auditRaising [{ id := "a", challenge := "A" }],
            auditRaising
              [{ id := "b", challenge := "a", status := .answered
                 evidenceRefs := ["S-1"] }]] = some middle ∧
        exec (auditStep sameText) middle
          [auditRaising [{ id := "c", challenge := "a" }]] = some final ∧
        middle.researchState.albertChallengeMap.get? "C-001" = some known ∧
        known.status = .resolved ∧
        final.researchState.albertChallengeMap.get? "C-001" = some known ∧
        final.researchState.albertChallengeMap.size = 2 := by
  let _ := PythonText.ascii
  have raised :
      (exec (auditStep sameText) unauditedRun
        [auditRaising [{ id := "a", challenge := "A" }],
          auditRaising
            [{ id := "b", challenge := "a", status := .answered
               evidenceRefs := ["S-1"] }]]).any (fun middle =>
          (middle.researchState.albertChallengeMap.get? "C-001").any
              (fun known => decide (known.status = .resolved)) &&
            (exec (auditStep sameText) middle
              [auditRaising [{ id := "c", challenge := "a" }]]).any
              fun final =>
                decide
                  (final.researchState.albertChallengeMap.size = 2)) =
        true := by
    decide +kernel
  simp only [Option.any_eq_true_iff_get, Bool.and_eq_true,
    decide_eq_true_eq] at raised
  obtain ⟨ranFirst, ⟨found, resolved⟩, ranSecond, twoChallenges⟩ := raised
  have before := (Option.some_get ranFirst).symm
  have after := (Option.some_get ranSecond).symm
  have stored := (Option.some_get found).symm
  obtain ⟨kept, storedKept, _, unchanged⟩ :=
    (audits_keep_dialogue rfl before after).1 "C-001" _ stored
  have same := unchanged (Or.inl resolved)
  exact ⟨_, _, _, before, after, stored, resolved, same ▸ storedKept,
    twoChallenges⟩

end ChallengeMap

end ResearchCos
