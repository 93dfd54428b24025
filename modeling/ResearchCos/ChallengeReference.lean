import ResearchCos.AlbertContract
import ResearchCos.ChallengeDialogue
import ResearchCos.FieldBounds

namespace ResearchCos

open Foundation

/-!
# Challenges that refer to an earlier one

An audited challenge carries an identifier, and merging accepts the identifier
of the challenge that is meant.  The audit node passes the text only, so a
referenced challenge is updated when it is the closest live one by its text.
-/

namespace ChallengeMap

section Closest

variable [PythonText] (ratio : List Char → List Char → ℚ)

/-- How similar a text is to a stored challenge. -/
def similarity (text : List Char) (entry : String × AlbertChallenge) : ℚ :=
  ratio text (normalize entry.2.challenge)

omit [PythonText] in
/-- A stored challenge that may be merged onto. -/
def LiveEntry (entry : String × AlbertChallenge) : Prop :=
  isLive entry.2.status = true

/--
The entry under a key is live and at least as similar to a text as a bound and
every live entry before it, and more similar than every live entry behind it.
-/
def IsLastClosest
    (text : List Char)
    (entries : List (String × AlbertChallenge))
    (bound : ℚ)
    (key : String) : Prop :=
  ∃ before known after,
    entries = before ++ (key, known) :: after ∧
      LiveEntry (key, known) ∧
      bound ≤ similarity ratio text (key, known) ∧
      (∀ entry ∈ before,
        LiveEntry entry →
        similarity ratio text entry ≤ similarity ratio text (key, known)) ∧
      ∀ entry ∈ after,
        LiveEntry entry →
        similarity ratio text entry < similarity ratio text (key, known)

variable {ratio}

/-- In front of closest entries there may be any entry that is no closer. -/
theorem IsLastClosest.cons
    {text : List Char}
    {entries : List (String × AlbertChallenge)}
    {bound lower : ℚ}
    {key : String}
    {first : String × AlbertChallenge}
    (closest : IsLastClosest ratio text entries bound key)
    (lowers : lower ≤ bound)
    (noCloser : LiveEntry first → similarity ratio text first ≤ bound) :
    IsLastClosest ratio text (first :: entries) lower key := by
  obtain ⟨before, known, after, rfl, live, reaches, upTo, behind⟩ := closest
  refine
    ⟨first :: before, known, after, rfl, live, lowers.trans reaches, ?_, behind⟩
  intro entry member entryLive
  rcases List.mem_cons.mp member with rfl | inBefore
  · exact (noCloser entryLive).trans reaches
  · exact upTo entry inBefore entryLive

/-- A live entry that is more similar than all behind it is the last closest. -/
theorem IsLastClosest.head
    {text : List Char}
    {entries : List (String × AlbertChallenge)}
    {bound : ℚ}
    {first : String × AlbertChallenge}
    (live : LiveEntry first)
    (reaches : bound ≤ similarity ratio text first)
    (behind :
      ∀ entry ∈ entries,
        LiveEntry entry →
        similarity ratio text entry < similarity ratio text first) :
    IsLastClosest ratio text (first :: entries) bound first.1 :=
  ⟨[], first.2, entries, rfl, live, reaches,
    fun _ member => (List.not_mem_nil member).elim, behind⟩

/--
The last closest entry is the first one, or it is behind that and reaches the
bound and the similarity of the first one.
-/
theorem IsLastClosest.of_cons
    {text : List Char}
    {entries : List (String × AlbertChallenge)}
    {bound : ℚ}
    {key : String}
    {first : String × AlbertChallenge}
    (closest : IsLastClosest ratio text (first :: entries) bound key) :
    (first.1 = key ∧ LiveEntry first ∧ bound ≤ similarity ratio text first ∧
        ∀ entry ∈ entries,
          LiveEntry entry →
          similarity ratio text entry < similarity ratio text first) ∨
      IsLastClosest ratio text entries bound key ∧
        (LiveEntry first →
          IsLastClosest ratio text entries (similarity ratio text first)
            key) := by
  obtain ⟨before, known, after, same, live, reaches, upTo, behind⟩ := closest
  cases before with
  | nil =>
      cases same
      exact Or.inl ⟨rfl, live, reaches, behind⟩
  | cons head before =>
      cases same
      have upToBefore :
          ∀ entry ∈ before,
            LiveEntry entry →
            similarity ratio text entry ≤
              similarity ratio text (key, known) :=
        fun entry member => upTo entry (List.mem_cons_of_mem first member)
      have upToFirst := upTo first List.mem_cons_self
      exact
        Or.inr
          ⟨⟨before, known, after, rfl, live, reaches, upToBefore, behind⟩,
            fun firstLive =>
              ⟨before, known, after, rfl, live, upToFirst firstLive,
                upToBefore, behind⟩⟩

/-- The search ends with its best so far or with the last closest entry. -/
theorem bestLiveMatchBy_eq_some_iff
    {text : List Char}
    {entries : List (String × AlbertChallenge)}
    {best : Option String}
    {bestRatio : ℚ}
    {key : String} :
    bestLiveMatchBy ratio text entries best bestRatio = some key ↔
      (best = some key ∧
          ∀ entry ∈ entries,
            LiveEntry entry → similarity ratio text entry < bestRatio) ∨
        IsLastClosest ratio text entries bestRatio key := by
  induction entries generalizing best bestRatio with
  | nil =>
      simp [bestLiveMatchBy, IsLastClosest]
  | cons first rest inductionHypothesis =>
      rw [bestLiveMatchBy.eq_2]
      by_cases better :
        isLive first.2.status = true ∧
          bestRatio ≤ ratio text (normalize first.2.challenge)
      · obtain ⟨live, reaches⟩ := better
        rw [if_pos ⟨live, reaches⟩, inductionHypothesis]
        constructor
        · rintro (⟨isFirst, behind⟩ | closest)
          · cases isFirst
            exact Or.inr (.head live reaches behind)
          · exact Or.inr (closest.cons reaches fun _ => le_refl _)
        · rintro (⟨_, noneReaches⟩ | closest)
          · exact
              absurd (noneReaches first List.mem_cons_self live)
                (not_lt.mpr reaches)
          · rcases closest.of_cons with ⟨isKey, _, _, behind⟩ | ⟨_, inRest⟩
            · exact Or.inl ⟨congrArg some isKey, behind⟩
            · exact Or.inr (inRest live)
      · have below :
            LiveEntry first → similarity ratio text first < bestRatio := by
          intro live
          exact not_le.mp fun reaches => better ⟨live, reaches⟩
        rw [if_neg better, inductionHypothesis, List.forall_mem_cons]
        constructor
        · rintro (⟨isBest, noneReaches⟩ | closest)
          · exact Or.inl ⟨isBest, below, noneReaches⟩
          · exact
              Or.inr (closest.cons (le_refl _) fun live => (below live).le)
        · rintro (⟨isBest, _, noneReaches⟩ | closest)
          · exact Or.inl ⟨isBest, noneReaches⟩
          · rcases closest.of_cons with ⟨_, live, reaches, _⟩ | ⟨inRest, _⟩
            · exact absurd ⟨live, reaches⟩ better
            · exact Or.inr inRest

/-! ## Recording a challenge -/

variable (ratio)

/-- Recording adds a challenge: nothing that is known matches it. -/
def Mints
    (challenges : OrderedMap String AlbertChallenge)
    (challenge : AlbertChallenge) : Prop :=
  findLiveMatchBy ratio challenges (raise challenge) = none

/--
A challenge that carries the identifier of a live entry has updated that entry
and added none.
-/
def HonoursReference
    (challenges : OrderedMap String AlbertChallenge)
    (challenge : AlbertChallenge)
    (next : OrderedMap String AlbertChallenge) : Prop :=
  ∀ known,
    challenges.get? challenge.id = some known →
    isLive known.status = true →
    ¬Mints ratio challenges challenge ∧
      next = challenges.modify challenge.id (mergedWith challenge)

/-- The live entry that a challenge refers to is the closest one by its text. -/
def ReferenceIsClosest
    (challenges : OrderedMap String AlbertChallenge)
    (challenge : AlbertChallenge) : Prop :=
  ∀ known,
    challenges.get? challenge.id = some known →
    isLive known.status = true →
    IsLastClosest ratio (normalize challenge.challenge) challenges.entries
      mergeThreshold challenge.id

/-- The challenges are recorded one by one, each honouring its reference. -/
def ReferencesHonoured :
    List AlbertChallenge →
      OrderedMap String AlbertChallenge →
      OrderedMap String AlbertChallenge → Prop
  | [], challenges, final => final = challenges
  | challenge :: rest, challenges, final =>
      ∃ next,
        recordChallengeBy ratio challenges challenge = some next ∧
          HonoursReference ratio challenges challenge next ∧
          ReferencesHonoured rest next final

/-- Before every challenge is recorded, the entry it refers to is the closest. -/
def ReferencesClosest :
    List AlbertChallenge → OrderedMap String AlbertChallenge → Prop
  | [], _ => True
  | challenge :: rest, challenges =>
      ReferenceIsClosest ratio challenges challenge ∧
        ∀ next,
          recordChallengeBy ratio challenges challenge = some next →
          ReferencesClosest rest next

variable {ratio}

/-- The match of an audited challenge is the closest live entry. -/
theorem findLiveMatchBy_raise_iff
    {challenges : OrderedMap String AlbertChallenge}
    {challenge : AlbertChallenge}
    {key : String} :
    findLiveMatchBy ratio challenges (raise challenge) = some key ↔
      IsLastClosest ratio (normalize challenge.challenge) challenges.entries
        mergeThreshold key := by
  rw [findLiveMatchBy_raise, bestLiveMatchBy_eq_some_iff]
  simp

/-- A challenge within its bounds is recorded. -/
theorem recordChallengeBy_isSome
    {challenge : AlbertChallenge}
    (valid : challenge.Valid)
    (challenges : OrderedMap String AlbertChallenge) :
    ∃ next, recordChallengeBy ratio challenges challenge = some next := by
  cases found : findLiveMatchBy ratio challenges (raise challenge) with
  | some key =>
      exact ⟨_, recordChallengeBy_of_match found⟩
  | none =>
      have inRange :
          InRange (mint challenges (raise challenge)).confidence := by
        simp only [mint, raise]
        split
        · decide
        · exact valid
      simp only [recordChallengeBy, upsertBy, found, if_pos inRange,
        Option.map_some]
      exact ⟨_, rfl⟩

omit [PythonText] in
/-- Merging counts another round, so it changes the entry it is merged onto. -/
theorem mergedWith_ne
    (challenge known : AlbertChallenge) :
    mergedWith challenge known ≠ known := by
  intro same
  have rounds := congrArg AlbertChallenge.roundsSeen same
  have counted :
      (mergedWith challenge known).roundsSeen = known.roundsSeen + 1 := by
    simp only [mergedWith, promote]
    split <;> rfl
  rw [counted] at rounds
  omega

/-- One challenge honours its reference when that is the closest entry. -/
theorem honoursReference_iff
    {challenges next : OrderedMap String AlbertChallenge}
    {challenge : AlbertChallenge}
    (recorded : recordChallengeBy ratio challenges challenge = some next) :
    HonoursReference ratio challenges challenge next ↔
      ReferenceIsClosest ratio challenges challenge := by
  refine forall₃_congr fun known stored live => ?_
  rw [← findLiveMatchBy_raise_iff]
  constructor
  · rintro ⟨hasMatch, merged⟩
    cases found : findLiveMatchBy ratio challenges (raise challenge) with
    | none =>
        exact absurd found hasMatch
    | some key =>
        by_cases same : key = challenge.id
        · rw [same]
        · have elsewhere : next.get? challenge.id = some known := by
            rw [recordChallengeBy_of_match found, Option.some.injEq] at recorded
            rw [← recorded, OrderedMap.get?_modify, if_neg same, stored]
          rw [merged, OrderedMap.get?_modify, if_pos rfl, stored,
            Option.map_some, Option.some.injEq] at elsewhere
          exact absurd elsewhere (mergedWith_ne challenge known)
  · intro found
    refine ⟨?_, ?_⟩
    · intro mints
      rw [Mints, found] at mints
      cases mints
    · rw [recordChallengeBy_of_match found, Option.some.injEq] at recorded
      exact recorded.symm

/-! ## A whole audit -/

/-- Recording ends with the map that its steps lead to. -/
theorem recordChallengesBy_of_honoured
    {raised : List AlbertChallenge}
    {challenges final : OrderedMap String AlbertChallenge}
    (honoured : ReferencesHonoured ratio raised challenges final) :
    recordChallengesBy ratio raised challenges = some final := by
  induction raised generalizing challenges with
  | nil =>
      rw [recordChallengesBy, honoured]
  | cons challenge rest inductionHypothesis =>
      obtain ⟨next, recorded, _, later⟩ := honoured
      rw [recordChallengesBy, recorded]
      exact inductionHypothesis later

/-- All references are honoured when each is the closest entry in its turn. -/
theorem referencesHonoured_iff
    {raised : List AlbertChallenge}
    {challenges : OrderedMap String AlbertChallenge}
    (valid : ∀ challenge ∈ raised, challenge.Valid) :
    (∃ final, ReferencesHonoured ratio raised challenges final) ↔
      ReferencesClosest ratio raised challenges := by
  induction raised generalizing challenges with
  | nil =>
      simp [ReferencesHonoured, ReferencesClosest]
  | cons challenge rest inductionHypothesis =>
      obtain ⟨next, recorded⟩ :
          ∃ next, recordChallengeBy ratio challenges challenge = some next :=
        recordChallengeBy_isSome (valid challenge List.mem_cons_self) challenges
      have later :
          (∃ final, ReferencesHonoured ratio rest next final) ↔
            ReferencesClosest ratio rest next :=
        inductionHypothesis fun other member =>
          valid other (List.mem_cons_of_mem _ member)
      have here := honoursReference_iff recorded
      constructor
      · rintro ⟨final, following, isNext, honoured, restHonoured⟩
        rw [recorded, Option.some.injEq] at isNext
        subst isNext
        refine ⟨here.mp honoured, ?_⟩
        intro other isOther
        rw [recorded, Option.some.injEq] at isOther
        subst isOther
        exact later.mp ⟨final, restHonoured⟩
      · rintro ⟨closest, restClosest⟩
        obtain ⟨final, restHonoured⟩ := later.mpr (restClosest next recorded)
        exact ⟨final, next, recorded, here.mpr closest, restHonoured⟩

/-- The audit node leaves the map that recording ends with. -/
theorem nodeAlbertAuditBy_map
    {env : StepEnv}
    {state : GraphState}
    {audit : AuditResult}
    (audited : env.brains.auditor state.researchState = some audit) :
    (nodeAlbertAuditBy ratio env state).map
        (fun update => update.researchState.albertChallengeMap) =
      recordChallengesBy ratio audit.challenges
        state.researchState.albertChallengeMap := by
  simp only [nodeAlbertAuditBy, audited, Option.bind_some, Option.map_map]
  cases recordChallengesBy ratio audit.challenges
      state.researchState.albertChallengeMap with
  | none =>
      rfl
  | some challenges =>
      rfl

/--
The audit node updates every live challenge that is referred to, and adds none
for it, exactly when that challenge is the closest live one by its text.
-/
theorem nodeAlbertAudit_honours_iff
    {env : StepEnv}
    {state : GraphState}
    {audit : AuditResult}
    (audited : env.brains.auditor state.researchState = some audit)
    (valid : audit.Valid) :
    (∃ update,
        nodeAlbertAudit env state = some update ∧
          ReferencesHonoured (SequenceMatcher.ratio true) audit.challenges
            state.researchState.albertChallengeMap
            update.researchState.albertChallengeMap) ↔
      ReferencesClosest (SequenceMatcher.ratio true) audit.challenges
        state.researchState.albertChallengeMap := by
  rw [← referencesHonoured_iff valid, ← nodeAlbertAuditBy_sequenceMatcher]
  constructor
  · rintro ⟨update, _, honoured⟩
    exact ⟨_, honoured⟩
  · rintro ⟨final, honoured⟩
    have written :=
      (nodeAlbertAuditBy_map audited).trans
        (recordChallengesBy_of_honoured honoured)
    rw [Option.map_eq_some_iff] at written
    obtain ⟨update, updated, rfl⟩ := written
    exact ⟨update, updated, honoured⟩

end Closest

/-! ## A challenge that is rephrased -/

/-- A live challenge under its identifier. -/
private def openChallenges : OrderedMap String AlbertChallenge :=
  (∅ : OrderedMap String AlbertChallenge).insert "C-001"
    { id := "C-001", challenge := "cost?", roundsSeen := 1 }

/-- The document of an auditor that answers the challenge by its identifier. -/
private def answerById (text : String) : Json :=
  .dict
    [("albert_challenges",
      .list
        [.dict
          [("id", .text "C-001"), ("challenge", .text text),
            ("status", .text "answered"), ("evidence_refs",
              .list [.text "S-1"])]])]

/-- The audit node with such a document. -/
private def auditingBy (text : String) : StepEnv :=
  .calm
    { Brains.silent with
      auditor := fun _ =>
        AlbertContract.toAudit (fun _ => none) (answerById text) }

/-- A run with the open challenge. -/
private def challengedRun : GraphState where
  researchState :=
    { runId := "run"
      originalQuestion := "question"
      albertChallengeMap := openChallenges }

/-- The audit that the document is mapped to. -/
private def answeringAudit (text : String) : AuditResult where
  verdict := .rework
  challenges :=
    [{ id := "C-001", challenge := text, status := .answered
       evidenceRefs := ["S-1"] }]

/-- The identifier survives the mapping. -/
private theorem auditingBy_auditor
    (text : String) :
    letI := PythonText.ascii
    (auditingBy text).brains.auditor challengedRun.researchState =
      some (answeringAudit text) := by
  rfl

/-- The audits of the examples are within their bounds. -/
private theorem answeringAudit_valid
    (text : String) :
    (answeringAudit text).Valid := by
  intro challenge member
  have zeroInRange : InRange 0 := by
    decide
  rw [List.mem_singleton.mp member]
  exact zeroInRange

/-- A rephrased answer leaves the challenge open beside a second one. -/
theorem rephrasedAnswer_mints_duplicate :
    letI := PythonText.ascii
    (auditingBy "why so?").brains.auditor challengedRun.researchState =
        some (answeringAudit "why so?") ∧
      ((nodeAlbertAudit (auditingBy "why so?") challengedRun).map fun update =>
          update.researchState.albertChallengeMap.entries.map fun entry =>
            (entry.1, entry.2.status)) =
        some [("C-001", .open), ("C-002", .resolved)] ∧
      ¬∃ update,
        nodeAlbertAudit (auditingBy "why so?") challengedRun = some update ∧
          ReferencesHonoured (SequenceMatcher.ratio true)
            (answeringAudit "why so?").challenges
            challengedRun.researchState.albertChallengeMap
            update.researchState.albertChallengeMap := by
  let _ := PythonText.ascii
  have audited := auditingBy_auditor "why so?"
  have added :
      ((nodeAlbertAudit (auditingBy "why so?") challengedRun).map fun update =>
          update.researchState.albertChallengeMap.entries.map fun entry =>
            (entry.1, entry.2.status)) =
        some [("C-001", .open), ("C-002", .resolved)] := by
    decide +kernel
  refine ⟨audited, added, ?_⟩
  rintro ⟨update, updated, next, recorded, honoured, isFinal⟩
  obtain ⟨_, merged⟩ := honoured _ rfl rfl
  rw [updated, Option.map_some, Option.some.injEq, isFinal, merged] at added
  revert added
  decide +kernel

/-- An answer that repeats the challenge is merged onto it. -/
theorem repeatedAnswer_honours :
    letI := PythonText.ascii
    ∃ update,
      nodeAlbertAudit (auditingBy "cost?") challengedRun = some update ∧
        ReferencesHonoured (SequenceMatcher.ratio true)
          (answeringAudit "cost?").challenges
          challengedRun.researchState.albertChallengeMap
          update.researchState.albertChallengeMap := by
  let _ := PythonText.ascii
  have reaches :
      mergeThreshold ≤
        similarity (SequenceMatcher.ratio true) (normalize "cost?")
          ("C-001", { id := "C-001", challenge := "cost?", roundsSeen := 1 }) := by
    decide +kernel
  refine
    (nodeAlbertAudit_honours_iff (auditingBy_auditor "cost?")
      (answeringAudit_valid "cost?")).mpr ⟨?_, fun _ _ => trivial⟩
  intro known stored live
  refine ⟨[], _, [], rfl, rfl, reaches, ?_, ?_⟩
  · intro entry member
    cases member
  · intro entry member
    cases member

end ChallengeMap

end ResearchCos
