import ResearchCos.GateSignals
import ResearchCos.RealBrains

namespace ResearchCos

open Foundation
open CellGates

/-!
# The rounds over the documents

The first round goes through every document of the bundle and counts each one
as fetched when its call begins, also when the call returns nothing.  There is
never a second round, and after the first one the public sources count as used
up.
-/

section Rounds

variable [PythonText]

/-- The researcher that `RealResearcher.escalate` takes its bundle from. -/
def RealResearcher.escalated :
    List (String × Option RawExtraction) → Escalation → Option Escalation
  | [], escalation =>
      if escalation.status = .returned then some escalation else none
  | (text, extraction) :: later, escalation =>
      match escalation.status, escalation.todo with
      | .returned, _ => some escalation
      | .running, (position, source) :: rest =>
          RealResearcher.escalated later
            ((FetchFanOut.begin escalation source).conclude position source
              rest text extraction)
      | _, _ => none

theorem RealResearcher.escalate_eq
    (documents : List (String × Option RawExtraction))
    (escalation : Escalation) :
    RealResearcher.escalate documents escalation =
      (RealResearcher.escalated documents escalation).map
        Escalation.bundle := by
  induction documents generalizing escalation with
  | nil =>
      rw [RealResearcher.escalate, RealResearcher.escalated]
      split <;> rfl
  | cons document later inductionHypothesis =>
      obtain ⟨text, extraction⟩ := document
      cases status : escalation.status with
      | raised =>
          simp [RealResearcher.escalate, RealResearcher.escalated, status]
      | returned =>
          simp [RealResearcher.escalate, RealResearcher.escalated, status]
      | running =>
          cases todo : escalation.todo with
          | nil =>
              simp [RealResearcher.escalate, RealResearcher.escalated, status,
                todo]
          | cons entry rest =>
              simp only [RealResearcher.escalate, RealResearcher.escalated,
                status, todo]
              exact inductionHypothesis _

/-- A document of the bundle with its position, and what its call brings. -/
abbrev Reading :=
  (Nat × Source) × (String × Option RawExtraction)

/-- The documents that are fetched, each with what its call brings. -/
def readings
    (env : RetrievalEnv)
    (searched : EvidenceBundle)
    (documents : List (String × Option RawExtraction)) : List Reading :=
  (if env.maxRounds = 0 then [] else Escalation.docsToFetch searched []).zip
    documents

omit [PythonText] in
/-- The record of a call. -/
def callOf (criteria : List String) (reading : Reading) : FetchCall :=
  let ((_, source), text, extraction) := reading
  let extracted :=
    if text = "" then
      none
    else
      Escalation.extractFromText source.id criteria extraction
  { source := source
    text := text
    claims := (extracted.map Prod.fst).getD []
    observations := (extracted.map Prod.snd).getD [] }

omit [PythonText] in
/-- A bundle after one of its documents was read. -/
def takeOver
    (criteria : List String)
    (bundle : EvidenceBundle)
    (reading : Reading) : EvidenceBundle :=
  if reading.2.1 = "" then
    bundle
  else
    { bundle with
      sources :=
        bundle.sources.modify reading.1.1 fun cited =>
          { cited with
            excerpt := String.ofList (reading.2.1.toList.take 2000) }
      claims := bundle.claims ++ (callOf criteria reading).claims
      observations :=
        bundle.observations ++ (callOf criteria reading).observations }

omit [PythonText] in
/-- A bundle after its documents were read. -/
def gathered
    (criteria : List String)
    (bundle : EvidenceBundle)
    (read : List Reading) : EvidenceBundle :=
  read.foldl (takeOver criteria) bundle

omit [PythonText] in
/-- The excerpt of a source once its document was read, if it was. -/
def keptExcerpt
    (read : List Reading)
    (position : Nat)
    (source : Source) : String :=
  ((read.find? fun reading =>
      decide (reading.1.1 = position ∧ reading.2.1 ≠ "")).map
    fun reading => String.ofList (reading.2.1.toList.take 2000)).getD
      source.excerpt

omit [PythonText] in
/-- The sources of a bundle with the excerpts that are kept. -/
def keptSources (bundle : EvidenceBundle) (read : List Reading) : List Source :=
  bundle.sources.mapIdx fun position source =>
    { source with excerpt := keptExcerpt read position source }

/-! ## One round -/

/-- Every document of a bundle is one to fetch at first. -/
theorem exists_mem_docsToFetch
    {bundle : EvidenceBundle}
    {source : Source}
    (member : source ∈ bundle.sources)
    (isDoc : Retrieval.isDocUrl source.url = true) :
    ∃ position, (position, source) ∈ Escalation.docsToFetch bundle [] := by
  obtain ⟨position, inside, rfl⟩ := List.getElem_of_mem member
  refine
    ⟨position,
      List.mem_filterMap.mpr ⟨(bundle.sources[position], position), ?_, ?_⟩⟩
  · exact
      List.mk_mem_zipIdx_iff_getElem?.mpr (List.getElem?_eq_getElem inside)
  · simp [isDoc]

/-- Nothing is left to fetch when every document was fetched. -/
theorem docsToFetch_eq_nil_iff
    {bundle : EvidenceBundle}
    {fetched : List String} :
    Escalation.docsToFetch bundle fetched = [] ↔
      ∀ name ∈ bundle.sourceNames,
        Retrieval.isDocUrl name.2 = true → name.1 ∈ fetched := by
  simp only [Escalation.docsToFetch, List.filterMap_eq_nil_iff,
    EvidenceBundle.sourceNames, List.mem_map, Source.name]
  constructor
  · rintro nothing _ ⟨source, member, rfl⟩ isDoc
    obtain ⟨position, inside, rfl⟩ := List.getElem_of_mem member
    have here :=
      nothing (bundle.sources[position], position)
        (List.mk_mem_zipIdx_iff_getElem?.mpr
          (List.getElem?_eq_getElem inside))
    by_contra missing
    simp [isDoc, missing] at here
  · rintro known ⟨source, position⟩ member
    have inBundle := List.fst_mem_of_mem_zipIdx member
    have isKnown :
        Retrieval.isDocUrl source.url = true → source.id ∈ fetched :=
      known source.name ⟨source, inBundle, rfl⟩
    by_cases isDoc : Retrieval.isDocUrl source.url = true
    · simp [isDoc, isKnown isDoc]
    · simp [isDoc]

/-- Once the documents of a bundle were fetched nothing is left to fetch. -/
theorem docsToFetch_fetched
    (bundle : EvidenceBundle) :
    Escalation.docsToFetch bundle
        ([] ++
          (Escalation.docsToFetch bundle []).map fun entry => entry.2.id) =
      [] := by
  rw [docsToFetch_eq_nil_iff]
  intro name member isDoc
  obtain ⟨source, inBundle, rfl⟩ := List.mem_map.mp member
  obtain ⟨position, toFetch⟩ := exists_mem_docsToFetch inBundle isDoc
  rw [List.nil_append, List.mem_map]
  exact ⟨(position, source), toFetch, rfl⟩

/-- With nothing left to fetch the public sources count as used up. -/
theorem exhausted_of_drained
    {escalation : Escalation}
    (drained :
      Escalation.docsToFetch escalation.bundle escalation.fetched = []) :
    escalation.exhausted = true := by
  unfold Escalation.exhausted
  rw [drained]
  cases escalation.cell? with
  | none => rfl
  | some cell => simp

/-- With nothing left to fetch the last call of a round ends the loop. -/
theorem afterCall_of_drained
    {escalation : Escalation}
    (drained :
      Escalation.docsToFetch escalation.bundle escalation.fetched = []) :
    ∃ noNew,
      escalation.afterCall [] =
        { escalation with roundsNoNew := noNew }.stampExhausted := by
  by_cases anyNew : escalation.anyNew = true
  · refine ⟨0, ?_⟩
    simp only [Escalation.afterCall, anyNew, if_true, Escalation.nextRound]
    cases roundsLeft : escalation.roundsLeft with
    | zero => rfl
    | succ later =>
        simp only [drained]
  · refine ⟨escalation.roundsNoNew + 1, ?_⟩
    simp only [Escalation.afterCall, anyNew]
    rfl

omit [PythonText] in
/-- What a call leaves that has returned and did not raise. -/
structure Returned
    (before after : Escalation)
    (reading : Reading) : Prop where
  status : after.status = before.status
  proxy : after.proxy = before.proxy
  fetched : after.fetched = before.fetched
  bundle : after.bundle = takeOver before.criteria before.bundle reading
  calls : after.calls = before.calls ++ [callOf before.criteria reading]

omit [PythonText] in
/-- A call that brings no text, or a text with an extraction that returns. -/
def Reading.Readable (criteria : List String) (reading : Reading) : Prop :=
  reading.2.1 = "" ∨
    (Escalation.extractFromText reading.1.2.id criteria
      reading.2.2).isSome = true

/-- A call that does not raise is recorded, and its text is taken over. -/
theorem conclude_eq
    {escalation : Escalation}
    {position : Nat}
    {source : Source}
    {text : String}
    {extraction : Option RawExtraction}
    (readable :
      Reading.Readable escalation.criteria
        ((position, source), text, extraction))
    (rest : List (Nat × Source)) :
    ∃ after,
      Returned escalation after ((position, source), text, extraction) ∧
        escalation.conclude position source rest text extraction =
          after.afterCall rest := by
  unfold Escalation.conclude
  by_cases nothing : text = ""
  · rw [if_pos nothing]
    refine ⟨_, ?_, rfl⟩
    exact
      ⟨rfl, rfl, rfl, by simp [takeOver, nothing], by simp [callOf, nothing]⟩
  · rw [if_neg nothing]
    obtain ⟨⟨claims, observations⟩, extracted⟩ :=
      Option.isSome_iff_exists.mp (readable.resolve_left nothing)
    simp only [extracted]
    refine ⟨_, ?_, rfl⟩
    exact
      ⟨rfl, rfl, rfl, by simp [takeOver, callOf, nothing, extracted],
        by simp [callOf, nothing, extracted]⟩

/-- A researcher whose extraction raises returns nothing. -/
theorem escalated_of_unreadable
    {documents : List (String × Option RawExtraction)}
    {escalation : Escalation}
    {position : Nat}
    {source : Source}
    {rest : List (Nat × Source)}
    {text : String}
    {extraction : Option RawExtraction}
    (unreadable :
      ¬Reading.Readable escalation.criteria
        ((position, source), text, extraction)) :
    RealResearcher.escalated documents
        (escalation.conclude position source rest text extraction) =
      none := by
  obtain ⟨something, raises⟩ := not_or.mp unreadable
  have raised :
      (escalation.conclude position source rest text extraction).status =
        .raised := by
    unfold Escalation.conclude
    rw [if_neg something]
    rw [Bool.not_eq_true, Option.isSome_eq_false_iff, Option.isNone_iff_eq_none]
      at raises
    simp only [raises]
  cases documents with
  | nil =>
      simp [RealResearcher.escalated, raised]
  | cons document later =>
      simp [RealResearcher.escalated, raised]

/-- A researcher that has returned fetches nothing more. -/
theorem escalated_of_returned
    {documents : List (String × Option RawExtraction)}
    {escalation : Escalation}
    (returned : escalation.status = .returned) :
    RealResearcher.escalated documents escalation = some escalation := by
  cases documents with
  | nil =>
      simp [RealResearcher.escalated, returned]
  | cons document later =>
      simp [RealResearcher.escalated, returned]

omit [PythonText] in
/-- The criteria depend on the plan and on the issue of the bundle only. -/
theorem criteria_eq
    {before after : Escalation}
    (sameProxy : after.proxy = before.proxy)
    (sameIssue : after.bundle.issueId = before.bundle.issueId) :
    after.criteria = before.criteria := by
  rw [Escalation.criteria, Escalation.cell?, sameProxy, sameIssue]
  rfl

omit [PythonText] in
theorem issueId_takeOver
    (criteria : List String)
    (bundle : EvidenceBundle)
    (reading : Reading) :
    (takeOver criteria bundle reading).issueId = bundle.issueId := by
  unfold takeOver
  split <;> rfl

omit [PythonText] in
theorem sourceNames_takeOver
    (criteria : List String)
    (bundle : EvidenceBundle)
    (reading : Reading) :
    (takeOver criteria bundle reading).sourceNames = bundle.sourceNames := by
  unfold takeOver
  split
  · rfl
  · exact Escalation.map_name_modify _ _ _

/-- What a researcher returns after a round over some documents. -/
structure RoundDone
    (before done : Escalation)
    (round : List Reading) : Prop where
  bundle :
    done.bundle =
      { gathered before.criteria before.bundle round with
        publicExhausted := true }
  calls : done.calls = before.calls ++ round.map (callOf before.criteria)

/-- Nothing is left to fetch once the round is done. -/
def Drains (escalation : Escalation) (rest : List (Nat × Source)) : Prop :=
  Escalation.docsToFetch escalation.bundle
      (escalation.fetched ++ rest.map fun entry => entry.2.id) = []

/-- One call of a round. -/
theorem escalated_call
    {escalation : Escalation}
    {position : Nat}
    {source : Source}
    {rest : List (Nat × Source)}
    {document : String × Option RawExtraction}
    (running : escalation.status = .running)
    (todo : escalation.todo = (position, source) :: rest)
    (drains : Drains escalation escalation.todo)
    (readable :
      Reading.Readable escalation.criteria ((position, source), document))
    (later : List (String × Option RawExtraction)) :
    ∃ after,
      Returned (FetchFanOut.begin escalation source) after
          ((position, source), document) ∧
        after.criteria = escalation.criteria ∧
        Drains after rest ∧
        RealResearcher.escalated (document :: later) escalation =
          RealResearcher.escalated later (after.afterCall rest) := by
  obtain ⟨text, extraction⟩ := document
  have begun :
      Reading.Readable (FetchFanOut.begin escalation source).criteria
        ((position, source), text, extraction) :=
    readable
  obtain ⟨after, called, concluded⟩ := conclude_eq begun rest
  refine ⟨after, called, ?_, ?_, ?_⟩
  · refine criteria_eq called.proxy ?_
    rw [called.bundle, issueId_takeOver]
    rfl
  · rw [Drains, docsToFetch_eq_nil_iff, called.bundle, sourceNames_takeOver,
      called.fetched]
    rw [Drains, docsToFetch_eq_nil_iff, todo] at drains
    simpa [FetchFanOut.begin] using drains
  · simp only [RealResearcher.escalated, running, todo, concluded]

/-- The last call of a round ends the loop. -/
theorem escalated_last
    {after : Escalation}
    (drained : Drains after [])
    (later : List (String × Option RawExtraction)) :
    ∃ done,
      RealResearcher.escalated later (after.afterCall []) = some done ∧
        done.bundle = { after.bundle with publicExhausted := true } ∧
        done.calls = after.calls := by
  rw [Drains, List.map_nil, List.append_nil] at drained
  obtain ⟨noNew, ended⟩ := afterCall_of_drained drained
  have isExhausted : { after with roundsNoNew := noNew }.exhausted = true :=
    exhausted_of_drained drained
  refine
    ⟨{ after with roundsNoNew := noNew }.stampExhausted, ?_, ?_, rfl⟩
  · rw [ended, escalated_of_returned rfl]
  · change
      { after.bundle with
        publicExhausted := { after with roundsNoNew := noNew }.exhausted } = _
    rw [isExhausted]

/--
A round with enough documents returns when every call is readable.  The
induction is on the documents; what is still to do is part of the state.
-/
theorem escalated_returns
    {documents : List (String × Option RawExtraction)}
    {escalation : Escalation}
    (running : escalation.status = .running)
    (something : escalation.todo ≠ [])
    (drains : Drains escalation escalation.todo)
    (enough : escalation.todo.length ≤ documents.length)
    (readable :
      ∀ reading ∈ escalation.todo.zip documents,
        Reading.Readable escalation.criteria reading) :
    ∃ done, RealResearcher.escalated documents escalation = some done := by
  induction documents generalizing escalation with
  | nil =>
      exact absurd (List.length_eq_zero_iff.mp (Nat.le_zero.mp enough)) something
  | cons document later inductionHypothesis =>
      cases todo : escalation.todo with
      | nil =>
          exact absurd todo something
      | cons entry rest =>
          obtain ⟨position, source⟩ := entry
          rw [todo] at readable enough
          obtain ⟨after, called, sameCriteria, drained, stepped⟩ :=
            escalated_call running todo drains
              (readable _ List.mem_cons_self) later
          rw [stepped]
          cases rest with
          | nil =>
              obtain ⟨done, returns, _⟩ := escalated_last drained later
              exact ⟨done, returns⟩
          | cons next more =>
              refine
                @inductionHypothesis { after with todo := next :: more }
                  (called.status.trans running)
                  (List.cons_ne_nil next more) drained
                  (Nat.le_of_succ_le_succ enough) ?_
              intro reading member
              change Reading.Readable after.criteria reading
              rw [sameCriteria]
              exact readable reading (List.mem_cons_of_mem _ member)

/--
A round that leaves nothing to fetch ends the loop.  The induction is on the
documents; what is still to do is part of the state.
-/
theorem escalated_round
    {documents : List (String × Option RawExtraction)}
    {escalation done : Escalation}
    (running : escalation.status = .running)
    (something : escalation.todo ≠ [])
    (drains : Drains escalation escalation.todo)
    (returns : RealResearcher.escalated documents escalation = some done) :
    escalation.todo.length ≤ documents.length ∧
      RoundDone escalation done (escalation.todo.zip documents) := by
  induction documents generalizing escalation with
  | nil =>
      simp [RealResearcher.escalated, running] at returns
  | cons document later inductionHypothesis =>
      cases todo : escalation.todo with
      | nil =>
          exact absurd todo something
      | cons entry rest =>
          obtain ⟨position, source⟩ := entry
          have readable :
              Reading.Readable escalation.criteria
                ((position, source), document) := by
            by_contra unreadable
            have begun :
                ¬Reading.Readable (FetchFanOut.begin escalation source).criteria
                  ((position, source), document) :=
              unreadable
            simp only [RealResearcher.escalated, running, todo] at returns
            rw [escalated_of_unreadable begun] at returns
            cases returns
          obtain ⟨after, called, sameCriteria, drained, stepped⟩ :=
            escalated_call running todo drains readable later
          rw [stepped] at returns
          cases rest with
          | nil =>
              obtain ⟨last, isLast, bundle, calls⟩ :=
                escalated_last drained later
              cases isLast.symm.trans returns
              refine ⟨by simp, ?_, calls.trans called.calls⟩
              rw [bundle, called.bundle]
              rfl
          | cons next more =>
              obtain ⟨enough, bundle, calls⟩ :=
                @inductionHypothesis { after with todo := next :: more }
                  (called.status.trans running)
                  (List.cons_ne_nil next more) drained returns
              refine ⟨Nat.succ_le_succ enough, ?_, ?_⟩
              · rw [bundle]
                change
                  { gathered after.criteria after.bundle
                      ((next :: more).zip later) with
                    publicExhausted := true } = _
                rw [sameCriteria, called.bundle]
                rfl
              · rw [calls]
                change
                  after.calls ++
                      ((next :: more).zip later).map
                        (callOf after.criteria) = _
                rw [sameCriteria, called.calls, List.append_assoc]
                rfl

/-- The researcher between its search and its first round. -/
def Escalation.found
    (env : RetrievalEnv)
    (proxy : ResearchState)
    (searched : EvidenceBundle) : Escalation where
  proxy := proxy
  searched := searched
  bundle := searched
  roundsLeft := env.maxRounds

/-- Without rounds the researcher returns what its search has found. -/
theorem start_of_noRounds
    {env : RetrievalEnv}
    {proxy : ResearchState}
    {searched : EvidenceBundle}
    (noRounds : env.maxRounds = 0) :
    Escalation.start env proxy searched =
      (Escalation.found env proxy searched).stampExhausted := by
  change (Escalation.found env proxy searched).nextRound = _
  unfold Escalation.nextRound
  simp only [Escalation.found, noRounds]

theorem escalated_start_of_noRounds
    {env : RetrievalEnv}
    {proxy : ResearchState}
    {searched : EvidenceBundle}
    {documents : List (String × Option RawExtraction)}
    {done : Escalation}
    (noRounds : env.maxRounds = 0)
    (returns :
      RealResearcher.escalated documents
          (Escalation.start env proxy searched) =
        some done) :
    done = (Escalation.found env proxy searched).stampExhausted := by
  rw [start_of_noRounds noRounds, escalated_of_returned rfl] at returns
  exact (Option.some.inj returns).symm

/-- With rounds and without documents the researcher returns at once. -/
theorem start_of_noDocuments
    {env : RetrievalEnv}
    {searched : EvidenceBundle}
    (rounds : env.maxRounds ≠ 0)
    (noDocuments : Escalation.docsToFetch searched [] = [])
    (proxy : ResearchState) :
    Escalation.start env proxy searched =
      (Escalation.found env proxy searched).stampExhausted := by
  obtain ⟨later, isRounds⟩ := Nat.exists_eq_succ_of_ne_zero rounds
  change (Escalation.found env proxy searched).nextRound = _
  unfold Escalation.nextRound
  simp only [Escalation.found, isRounds, noDocuments]

/-- With rounds and documents the first round goes through all of them. -/
theorem start_of_documents
    {env : RetrievalEnv}
    {searched : EvidenceBundle}
    (rounds : env.maxRounds ≠ 0)
    (documents : Escalation.docsToFetch searched [] ≠ [])
    (proxy : ResearchState) :
    Escalation.start env proxy searched =
        { Escalation.found env proxy searched with
          roundsLeft := env.maxRounds - 1
          todo := Escalation.docsToFetch searched [] } ∧
      Drains (Escalation.start env proxy searched)
        (Escalation.docsToFetch searched []) := by
  obtain ⟨later, isRounds⟩ := Nat.exists_eq_succ_of_ne_zero rounds
  have started :
      Escalation.start env proxy searched =
        { Escalation.found env proxy searched with
          roundsLeft := env.maxRounds - 1
          todo := Escalation.docsToFetch searched [] } := by
    change (Escalation.found env proxy searched).nextRound = _
    unfold Escalation.nextRound
    cases todo : Escalation.docsToFetch searched [] with
    | nil =>
        exact absurd todo documents
    | cons entry rest =>
        simp only [Escalation.found, isRounds, todo]
        rfl
  refine ⟨started, ?_⟩
  rw [started]
  exact docsToFetch_fetched searched

/-- With enough documents and readable calls the researcher returns. -/
theorem escalated_start_returns
    {env : RetrievalEnv}
    {proxy : ResearchState}
    {searched : EvidenceBundle}
    {documents : List (String × Option RawExtraction)}
    (enough :
      (Escalation.docsToFetch searched []).length ≤ documents.length)
    (readable :
      ∀ reading ∈ readings env searched documents,
        Reading.Readable (Escalation.found env proxy searched).criteria
          reading) :
    ∃ done,
      RealResearcher.escalated documents
          (Escalation.start env proxy searched) =
        some done := by
  by_cases rounds : env.maxRounds = 0
  · rw [start_of_noRounds rounds, escalated_of_returned rfl]
    exact ⟨_, rfl⟩
  · by_cases noDocuments : Escalation.docsToFetch searched [] = []
    · rw [start_of_noDocuments rounds noDocuments, escalated_of_returned rfl]
      exact ⟨_, rfl⟩
    · obtain ⟨started, drains⟩ := start_of_documents rounds noDocuments proxy
      rw [readings, if_neg rounds] at readable
      rw [started] at drains ⊢
      exact escalated_returns rfl noDocuments drains enough readable

/-- With rounds the researcher reads every document once and is exhausted. -/
theorem escalated_start
    {env : RetrievalEnv}
    {proxy : ResearchState}
    {searched : EvidenceBundle}
    {documents : List (String × Option RawExtraction)}
    {done : Escalation}
    (rounds : env.maxRounds ≠ 0)
    (returns :
      RealResearcher.escalated documents
          (Escalation.start env proxy searched) =
        some done) :
    (Escalation.docsToFetch searched []).length ≤ documents.length ∧
      RoundDone (Escalation.found env proxy searched) done
        (readings env searched documents) := by
  rw [readings, if_neg rounds]
  by_cases noDocuments : Escalation.docsToFetch searched [] = []
  · rw [start_of_noDocuments rounds noDocuments, escalated_of_returned rfl]
      at returns
    cases returns
    rw [noDocuments]
    refine ⟨Nat.zero_le _, ?_, rfl⟩
    have isExhausted : (Escalation.found env proxy searched).exhausted = true :=
      exhausted_of_drained noDocuments
    change
      { searched with
        publicExhausted := (Escalation.found env proxy searched).exhausted } = _
    rw [isExhausted]
    rfl
  · obtain ⟨started, drains⟩ := start_of_documents rounds noDocuments proxy
    rw [started] at drains returns
    obtain ⟨enough, bundle, calls⟩ :=
      escalated_round rfl noDocuments drains returns
    exact ⟨enough, bundle, calls⟩

/-! ## What the documents make of a bundle -/

/-- Every document is fetched at a position of its own. -/
theorem docsToFetch_nodup
    (bundle : EvidenceBundle)
    (fetched : List String) :
    ((Escalation.docsToFetch bundle fetched).map Prod.fst).Nodup := by
  have within (entries : List (Source × Nat)) :
      List.Sublist
        ((entries.filterMap fun entry =>
          if Retrieval.isDocUrl entry.1.url && entry.1.id ∉ fetched then
            some (entry.2, entry.1)
          else
            none).map Prod.fst)
        (entries.map Prod.snd) := by
    induction entries with
    | nil =>
        exact List.Sublist.slnil
    | cons entry rest inductionHypothesis =>
        rw [List.filterMap_cons, List.map_cons]
        split
        · exact inductionHypothesis.cons _
        · rename_i document isDocument
          rw [Option.ite_none_right_eq_some] at isDocument
          cases isDocument.2
          exact inductionHypothesis.cons_cons _
  refine (within bundle.sources.zipIdx).nodup ?_
  rw [List.zipIdx_map_snd]
  exact List.nodup_range' _

omit [PythonText] in
theorem keptExcerpt_cons
    (reading : Reading)
    (later : List Reading)
    (position : Nat)
    (source : Source) :
    keptExcerpt (reading :: later) position source =
      if reading.1.1 = position ∧ reading.2.1 ≠ "" then
        String.ofList (reading.2.1.toList.take 2000)
      else
        keptExcerpt later position source := by
  unfold keptExcerpt
  rw [List.find?_cons]
  by_cases here : reading.1.1 = position ∧ reading.2.1 ≠ ""
  · rw [decide_eq_true here, if_pos here]
    rfl
  · rw [decide_eq_false here, if_neg here]

omit [PythonText] in
/-- Where no document is read the excerpt of the search is kept. -/
theorem keptExcerpt_of_absent
    {read : List Reading}
    {position : Nat}
    (absent : ∀ reading ∈ read, reading.1.1 ≠ position)
    (source : Source) :
    keptExcerpt read position source = source.excerpt := by
  have notFound :
      read.find? (fun reading =>
        decide (reading.1.1 = position ∧ reading.2.1 ≠ "")) = none := by
    rw [List.find?_eq_none]
    intro reading member here
    exact absent reading member (of_decide_eq_true here).1
  rw [keptExcerpt, notFound]
  rfl

omit [PythonText] in
/-- The excerpts after a round are the ones that are kept. -/
theorem sources_gathered
    {criteria : List String}
    {bundle : EvidenceBundle}
    {read : List Reading}
    (distinct : (read.map fun reading => reading.1.1).Nodup) :
    (gathered criteria bundle read).sources = keptSources bundle read := by
  induction read generalizing bundle with
  | nil =>
      refine List.ext_getElem? fun position => ?_
      simp [gathered, keptSources, keptExcerpt]
  | cons reading later inductionHypothesis =>
      rw [List.map_cons, List.nodup_cons] at distinct
      have rest :
          (gathered criteria bundle (reading :: later)).sources =
            keptSources (takeOver criteria bundle reading) later :=
        inductionHypothesis distinct.2
      rw [rest]
      refine List.ext_getElem? fun position => ?_
      simp only [keptSources, List.getElem?_mapIdx, keptExcerpt_cons]
      by_cases noText : reading.2.1 = ""
      · simp [takeOver, noText]
      · by_cases here : reading.1.1 = position
        · have absent : ∀ other ∈ later, other.1.1 ≠ position := by
            intro other member same
            exact
              distinct.1
                (List.mem_map.mpr ⟨other, member, same.trans here.symm⟩)
          simp only [takeOver, noText, here, keptExcerpt_of_absent absent,
            List.getElem?_modify_eq, Option.map_map, if_false, ne_eq,
            not_false_eq_true, and_self, if_true, Option.map_eq_map]
          rfl
        · simp [takeOver, noText, here]

omit [PythonText] in
theorem observations_gathered
    (criteria : List String)
    (bundle : EvidenceBundle)
    (read : List Reading) :
    (gathered criteria bundle read).observations =
      bundle.observations ++
        read.flatMap fun reading => (callOf criteria reading).observations := by
  induction read generalizing bundle with
  | nil =>
      simp [gathered]
  | cons reading later inductionHypothesis =>
      have rest :
          (gathered criteria bundle (reading :: later)).observations = _ :=
        inductionHypothesis (takeOver criteria bundle reading)
      rw [rest, List.flatMap_cons]
      by_cases noText : reading.2.1 = ""
      · simp [takeOver, noText, callOf]
      · simp [takeOver, noText]

/-- Every reading is of a position of its own. -/
theorem readings_nodup
    (env : RetrievalEnv)
    (searched : EvidenceBundle)
    (documents : List (String × Option RawExtraction)) :
    ((readings env searched documents).map fun reading =>
      reading.1.1).Nodup := by
  have within
      (entries : List (Nat × Source))
      (brought : List (String × Option RawExtraction)) :
      List.Sublist
        ((entries.zip brought).map fun reading => reading.1.1)
        (entries.map Prod.fst) := by
    induction entries generalizing brought with
    | nil =>
        exact List.nil_sublist _
    | cons entry rest inductionHypothesis =>
        cases brought with
        | nil =>
            exact List.nil_sublist _
        | cons document later =>
            exact (inductionHypothesis later).cons_cons _
  unfold readings
  split
  · simp
  · exact (within _ _).nodup (docsToFetch_nodup searched [])

omit [PythonText] in
/-- Other excerpts change nothing that does not depend on the excerpts. -/
theorem find?_keptSources
    {β : Type}
    {key : Source → β}
    (blind :
      ∀ source text, key { source with excerpt := text } = key source)
    (bundle : EvidenceBundle)
    (read : List Reading)
    (ref : String) :
    ((keptSources bundle read).reverse.find? fun source =>
        source.id = ref).map key =
      (bundle.sources.reverse.find? fun source => source.id = ref).map key := by
  have byKey (sources : List Source) :
      (sources.reverse.find? fun source => source.id = ref).map key =
        ((sources.map fun source => (source.id, key source)).reverse.find?
          fun keyed => keyed.1 = ref).map Prod.snd := by
    rw [← List.map_reverse, List.find?_map, Option.map_map]
    rfl
  have sameKeys :
      ((keptSources bundle read).map fun source => (source.id, key source)) =
        bundle.sources.map fun source => (source.id, key source) := by
    refine List.ext_getElem? fun position => ?_
    rw [List.getElem?_map, keptSources, List.getElem?_mapIdx,
      List.getElem?_map, Option.map_map]
    simp only [Function.comp_def, blind]
  rw [byKey, byKey, sameKeys]

omit [PythonText] in
/-- Whether an observation counts depends on the grade of its source only. -/
theorem accepted_congr
    {cell : TaskCell}
    {first second : List EvidenceBundle}
    {observation : FieldObservation}
    (sameGrade :
      (lastSource first observation.sourceRef).map gradeSource =
        (lastSource second observation.sourceRef).map gradeSource) :
    Accepted cell first observation ↔ Accepted cell second observation := by
  have byGrade (bundles : List EvidenceBundle) :
      (∃ source,
          lastSource bundles observation.sourceRef = some source ∧
            gradeSource source ≠ .incorrect) ↔
        ∃ grade,
          (lastSource bundles observation.sourceRef).map gradeSource =
              some grade ∧
            grade ≠ .incorrect := by
    simp only [Option.map_eq_some_iff]
    constructor
    · rintro ⟨source, isLast, counts⟩
      exact ⟨_, ⟨source, isLast, rfl⟩, counts⟩
    · rintro ⟨_, ⟨source, isLast, rfl⟩, counts⟩
      exact ⟨source, isLast, counts⟩
  rw [Accepted, Accepted, byGrade, byGrade, sameGrade]

/-! ## Cells without an answer -/

/-- Every document was read, and no observation counts for the cell. -/
structure ProvenEmpty (cell : TaskCell) (done : Escalation) : Prop where
  fetched :
    ∀ source ∈ done.bundle.sources,
      Retrieval.isDocUrl source.url = true →
      ∃ call ∈ done.calls, call.source.name = source.name
  read : ∀ call ∈ done.calls, call.text ≠ ""
  noneCounts :
    ∀ observation ∈ done.bundle.observations,
      ¬Accepted cell [done.bundle] observation

omit [PythonText] in
/-- A cell is not available when nothing is filled, gated or left to try. -/
theorem classifyCell_eq_na_iff
    {cell : TaskCell}
    {filled : List String}
    {gatedDetected publicExhausted : Bool} :
    classifyCell cell filled gatedDetected publicExhausted = .na ↔
      filled = [] ∧
        (gatedDetected = true → cell.successCriteria = []) ∧
        publicExhausted = true := by
  have complete :
      criteriaSubset cell [] = true ↔ cell.successCriteria = [] := by
    cases criteria : cell.successCriteria with
    | nil => simp [criteriaSubset, criteria]
    | cons head rest => simp [criteriaSubset, criteria]
  unfold classifyCell
  by_cases nothing : filled = []
  · subst nothing
    by_cases criteria : cell.successCriteria = []
    · cases publicExhausted <;> simp [criteria, complete.mpr criteria]
    · cases publicExhausted <;> cases gatedDetected <;>
        simp [criteria, mt complete.mp criteria]
  · by_cases criteria : cell.successCriteria = [] <;>
      cases criteriaSubset cell filled <;> cases gatedDetected <;>
      simp [nothing, criteria]

/-- Nothing is filled exactly when no observation counts. -/
theorem filledFields_eq_nil_iff
    {cell : TaskCell}
    {bundle : EvidenceBundle} :
    filledFields cell [bundle] = [] ↔
      ∀ observation ∈ bundle.observations,
        ¬Accepted cell [bundle] observation := by
  rw [List.eq_nil_iff_forall_not_mem]
  simp only [mem_filledFields_iff, List.flatMap_cons, List.flatMap_nil,
    List.append_nil]
  constructor
  · intro nothing observation member counts
    exact nothing observation.field ⟨observation, member, rfl, counts⟩
  · rintro noneCounts field ⟨observation, member, _, counts⟩
    exact noneCounts observation member counts

/--
No document stays unread, unless an observation counts for the cell, or the
cell has criteria and a source of it looks gated.
-/
def UnreadOnlyBesideAnswer
    (env : RetrievalEnv)
    (proxy : ResearchState)
    (searched : EvidenceBundle)
    (documents : List (String × Option RawExtraction))
    (cell : TaskCell) : Prop :=
  let read := readings env searched documents
  let criteria := (Escalation.found env proxy searched).criteria
  (∀ reading ∈ read, reading.2.1 ≠ "") ∨
    (∃ observation ∈
        searched.observations ++
          read.flatMap fun reading => (callOf criteria reading).observations,
      Accepted cell [searched] observation) ∨
    cell.successCriteria ≠ [] ∧
      (keptSources searched read).any gatedSignal = true

omit [PythonText] in
theorem sourceNames_gathered
    (criteria : List String)
    (bundle : EvidenceBundle)
    (read : List Reading) :
    (gathered criteria bundle read).sourceNames = bundle.sourceNames := by
  induction read generalizing bundle with
  | nil =>
      rfl
  | cons reading later inductionHypothesis =>
      exact
        (inductionHypothesis _).trans
          (sourceNames_takeOver criteria bundle reading)

/-- After the round every document of the bundle has had its call. -/
theorem RoundDone.fetched
    {env : RetrievalEnv}
    {proxy : ResearchState}
    {searched : EvidenceBundle}
    {documents : List (String × Option RawExtraction)}
    {done : Escalation}
    (rounds : env.maxRounds ≠ 0)
    (enough :
      (Escalation.docsToFetch searched []).length ≤ documents.length)
    (roundDone :
      RoundDone (Escalation.found env proxy searched) done
        (readings env searched documents))
    {source : Source}
    (member : source ∈ done.bundle.sources)
    (isDoc : Retrieval.isDocUrl source.url = true) :
    ∃ call ∈ done.calls, call.source.name = source.name := by
  have sameNames : done.bundle.sourceNames = searched.sourceNames := by
    rw [roundDone.bundle]
    exact sourceNames_gathered _ _ _
  have named : source.name ∈ searched.sourceNames := by
    rw [← sameNames]
    exact List.mem_map_of_mem member
  obtain ⟨original, inSearched, sameName⟩ := List.mem_map.mp named
  have sameUrl : original.url = source.url := congrArg Prod.snd sameName
  obtain ⟨position, toFetch⟩ :=
    exists_mem_docsToFetch inSearched (sameUrl ▸ isDoc)
  have asReadings :
      (readings env searched documents).map Prod.fst =
        Escalation.docsToFetch searched [] := by
    rw [readings, if_neg rounds]
    exact List.map_fst_zip enough
  rw [← asReadings, List.mem_map] at toFetch
  obtain ⟨reading, isReading, sameDocument⟩ := toFetch
  have sameSource : reading.1.2 = original :=
    congrArg Prod.snd sameDocument
  refine
    ⟨callOf (Escalation.found env proxy searched).criteria reading, ?_, ?_⟩
  · rw [roundDone.calls]
    exact List.mem_append_right _ (List.mem_map_of_mem isReading)
  · rw [← sameName, ← sameSource]
    rfl

/-- After the round a cell is not available when nothing counts for it. -/
theorem RoundDone.status_eq_na_iff
    {env : RetrievalEnv}
    {proxy : ResearchState}
    {searched : EvidenceBundle}
    {documents : List (String × Option RawExtraction)}
    {done : Escalation}
    (roundDone :
      RoundDone (Escalation.found env proxy searched) done
        (readings env searched documents))
    (cell : TaskCell) :
    cellStatus cell [done.bundle] = .na ↔
      (∀ observation ∈
          searched.observations ++
            (readings env searched documents).flatMap fun reading =>
              (callOf (Escalation.found env proxy searched).criteria
                reading).observations,
          ¬Accepted cell [searched] observation) ∧
        ((keptSources searched (readings env searched documents)).any
            gatedSignal = true →
          cell.successCriteria = []) := by
  have sources :
      done.bundle.sources =
        keptSources searched (readings env searched documents) := by
    rw [roundDone.bundle]
    exact sources_gathered (readings_nodup env searched documents)
  have observations :
      done.bundle.observations =
        searched.observations ++
          (readings env searched documents).flatMap fun reading =>
            (callOf (Escalation.found env proxy searched).criteria
              reading).observations := by
    rw [roundDone.bundle]
    exact observations_gathered _ _ _
  have exhausted : done.bundle.publicExhausted = true := by
    rw [roundDone.bundle]
  have counts (observation : FieldObservation) :
      Accepted cell [done.bundle] observation ↔
        Accepted cell [searched] observation := by
    have sameGrade :
        (lastSource [done.bundle] observation.sourceRef).map gradeSource =
          (lastSource [searched] observation.sourceRef).map gradeSource := by
      simp only [lastSource, List.flatMap_cons, List.flatMap_nil,
        List.append_nil, sources]
      exact find?_keptSources (fun _ _ => rfl) _ _ _
    exact accepted_congr sameGrade
  rw [cellStatus, classifyCell_eq_na_iff, filledFields_eq_nil_iff,
    observations, List.any_cons, List.any_nil, Bool.or_false, sources,
    List.any_cons, List.any_nil, Bool.or_false, exhausted]
  simp only [counts, and_true]

/-- Without rounds a cell without an answer has no documents. -/
theorem drained_of_exhausted
    {escalation : Escalation}
    {cell : TaskCell}
    (sameCell : ∀ known ∈ escalation.cell?, known = cell)
    (untried : escalation.fetchTried = false)
    (firstRound : escalation.roundsNoNew = 0)
    (nothing : filledFields cell [escalation.bundle] = [])
    (isExhausted : escalation.exhausted = true) :
    Escalation.docsToFetch escalation.bundle escalation.fetched = [] := by
  unfold Escalation.exhausted at isExhausted
  cases isCell : escalation.cell? with
  | none =>
      simpa [isCell] using isExhausted
  | some known =>
      cases sameCell known isCell
      rw [isCell] at isExhausted
      simp only [nothing, untried, firstRound] at isExhausted
      cases criteria : cell.successCriteria with
      | nil =>
          exact (by simpa [criteria] using isExhausted : _ ∧ _).1
      | cons head rest =>
          exact
            (by simpa [criteria, criteriaSubset] using isExhausted : _ ∧ _).1

/--
A cell is not available for the proven reason that its documents were read and
answer nothing, exactly when no document stays unread beside an answer.
-/
theorem na_proven_iff
    {env : RetrievalEnv}
    {proxy : ResearchState}
    {searched : EvidenceBundle}
    {documents : List (String × Option RawExtraction)}
    {done : Escalation}
    {cell : TaskCell}
    (sameCell :
      ∀ known ∈ (Escalation.found env proxy searched).cell?, known = cell)
    (returns :
      RealResearcher.escalated documents
          (Escalation.start env proxy searched) =
        some done) :
    (cellStatus cell [done.bundle] = .na → ProvenEmpty cell done) ↔
      UnreadOnlyBesideAnswer env proxy searched documents cell := by
  by_cases rounds : env.maxRounds = 0
  · have isDone := escalated_start_of_noRounds rounds returns
    subst isDone
    refine iff_of_true ?_ (Or.inl ?_)
    · intro isNa
      obtain ⟨nothing, _, isExhausted⟩ := classifyCell_eq_na_iff.mp isNa
      rw [List.any_cons, List.any_nil, Bool.or_false] at isExhausted
      have drained :=
        drained_of_exhausted sameCell rfl rfl nothing isExhausted
      refine ⟨?_, ?_, filledFields_eq_nil_iff.mp nothing⟩
      · intro source member isDoc
        have fetched :=
          docsToFetch_eq_nil_iff.mp drained source.name
            (List.mem_map_of_mem member) isDoc
        cases fetched
      · intro call member
        cases member
    · intro reading member
      rw [readings, if_pos rounds, List.zip_nil_left] at member
      cases member
  · obtain ⟨enough, roundDone⟩ := escalated_start rounds returns
    have isNa := roundDone.status_eq_na_iff cell
    constructor
    · intro proven
      by_contra unread
      simp only [UnreadOnlyBesideAnswer, not_or, not_forall, not_not,
        not_and_or, Bool.not_eq_true, not_exists] at unread
      obtain ⟨⟨reading, isReading, noText⟩, nothing, notGated⟩ := unread
      have noneCounts :
          ∀ observation ∈
            searched.observations ++
              (readings env searched documents).flatMap fun reading =>
                (callOf (Escalation.found env proxy searched).criteria
                  reading).observations,
            ¬Accepted cell [searched] observation :=
        fun observation member counts =>
          (nothing observation).elim (· member) (· counts)
      have provenEmpty := proven (isNa.mpr ⟨noneCounts, fun gated => ?_⟩)
      · refine
          provenEmpty.read
            (callOf (Escalation.found env proxy searched).criteria reading)
            ?_ noText
        rw [roundDone.calls]
        exact List.mem_append_right _ (List.mem_map_of_mem isReading)
      · rcases notGated with noCriteria | notGated
        · exact noCriteria
        · rw [gated] at notGated
          cases notGated
    · intro unreadOnly isNaStatus
      obtain ⟨noneCounts, notGated⟩ := isNa.mp isNaStatus
      rcases unreadOnly with
        allRead | ⟨observation, member, counts⟩ | ⟨criteria, gated⟩
      · obtain ⟨nothing, _⟩ := classifyCell_eq_na_iff.mp isNaStatus
        refine
          ⟨fun source member isDoc =>
              roundDone.fetched rounds enough member isDoc, ?_,
            filledFields_eq_nil_iff.mp nothing⟩
        intro call member
        rw [roundDone.calls] at member
        obtain ⟨reading, isReading, rfl⟩ := List.mem_map.mp member
        exact allRead reading isReading
      · exact absurd counts (noneCounts observation member)
      · exact absurd (notGated gated) criteria

end Rounds

/-- A cell about the size of a buffer. -/
private def sizeCell : TaskCell where
  id := "vendor|core"
  vendor := "vendor"
  specGroup := "core"
  objective := "size of the buffer"
  successCriteria := ["buffer"]

/-- A researcher that knows the cell. -/
private def sizeProxy : ResearchState where
  runId := "run"
  originalQuestion := "question"
  taskGrid :=
    some { cells := (∅ : OrderedMap String TaskCell).insert sizeCell.id sizeCell }

/-- A search that found the datasheet and nothing in it. -/
private def datasheetFound : EvidenceBundle where
  query := "buffer"
  issueId := some "vendor|core"
  sources :=
    [{ id := "S-1"
       title := "Datasheet"
       url := some "https://vendor.example/datasheet.pdf" }]

/-- Four rounds and no backend of its own. -/
private def fourRounds : RetrievalEnv where
  download := fun _ => .unreachable
  useDocling := false
  docling := fun _ => none
  pymupdf4llm := fun _ => none
  pypdf := fun _ => none
  maxRounds := 4

private theorem sizeCell_known :
    ∀ known ∈ (Escalation.found fourRounds sizeProxy datasheetFound).cell?,
      known = sizeCell := by
  intro known isKnown
  have isCell :
      (Escalation.found fourRounds sizeProxy datasheetFound).cell? =
        some sizeCell := by
    decide +kernel
  rw [isCell] at isKnown
  exact (Option.some.inj isKnown).symm

/-- A datasheet that could not be fetched makes its cell not available. -/
theorem unreachable_datasheet_na :
    letI := PythonText.ascii
    ∃ done,
      RealResearcher.escalated [("", none)]
          (Escalation.start fourRounds sizeProxy datasheetFound) =
        some done ∧
      done.calls.map FetchCall.text = [""] ∧
      cellStatus sizeCell [done.bundle] = .na ∧
      ¬(cellStatus sizeCell [done.bundle] = .na →
          ProvenEmpty sizeCell done) := by
  let _ := PythonText.ascii
  let done :=
    (RealResearcher.escalated [("", none)]
      (Escalation.start fourRounds sizeProxy datasheetFound)).get
        (by decide +kernel)
  have texts : done.calls.map FetchCall.text = [""] := by
    decide +kernel
  have isNa : cellStatus sizeCell [done.bundle] = .na := by
    decide +kernel
  refine ⟨done, (Option.some_get _).symm, texts, isNa, ?_⟩
  intro proven
  have read := (proven isNa).read
  cases calls : done.calls with
  | nil =>
      rw [calls] at texts
      cases texts
  | cons call rest =>
      rw [calls, List.map_cons, List.cons.injEq] at texts
      exact read call (calls ▸ List.mem_cons_self) texts.1

/-- A datasheet that was read and says nothing proves its cell empty. -/
theorem readDatasheet_proven :
    letI := PythonText.ascii
    ∃ done,
      RealResearcher.escalated [("a switch", some {})]
          (Escalation.start fourRounds sizeProxy datasheetFound) =
        some done ∧
      cellStatus sizeCell [done.bundle] = .na ∧
      ProvenEmpty sizeCell done := by
  let _ := PythonText.ascii
  let done :=
    (RealResearcher.escalated [("a switch", some {})]
      (Escalation.start fourRounds sizeProxy datasheetFound)).get
        (by decide +kernel)
  have returns :
      RealResearcher.escalated [("a switch", some {})]
          (Escalation.start fourRounds sizeProxy datasheetFound) =
        some done :=
    (Option.some_get _).symm
  have isNa : cellStatus sizeCell [done.bundle] = .na := by
    decide +kernel
  have allRead :
      ∀ reading ∈
        readings fourRounds datasheetFound [("a switch", some {})],
        reading.2.1 ≠ "" := by
    decide +kernel
  have proven :=
    (na_proven_iff sizeCell_known returns).mpr (Or.inl allRead)
  exact ⟨done, returns, isNa, proven isNa⟩

end ResearchCos
