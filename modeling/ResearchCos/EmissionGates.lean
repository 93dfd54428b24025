import ResearchCos.DecisionMemo

namespace ResearchCos.DecisionMemo

open Foundation

/-!
# When a memo is emitted

The four gates together admit a memo exactly when the audit is clean, every
decisive claim is verified or flagged, and the research is complete or the
emission was asked for.  Flagging goes with a recorded task as long as the
minted task identifiers are not in use already.
-/

/-- The last audit exists and did not run degraded. -/
def CleanAudit (state : ResearchState) : Prop :=
  ∃ audit, state.lastAudit = some audit ∧ audit.degraded = false

/-- No decisive challenge is open and every readiness axis reaches the target. -/
def ResearchComplete (state : ResearchState) : Prop :=
  (∀ challenge ∈ state.albertChallengeMap.values,
      Convergence.highImpactConf ≤ challenge.confidence →
      Convergence.isResolved challenge.status = true ∨
        Convergence.isHumanBlocked challenge.status = true) ∧
    ∃ score, state.readinessScore = some score ∧
      ∀ axis ∈ score.axes, Exhaustion.target ≤ axis

/-- The memo shows the text under the supplement flag in a section. -/
def FlaggedIn (memo : Memo) (key : SectionKey) (text : String) : Prop :=
  ∃ part ∈ memo.sections,
    part.key = key ∧ (supplementLine text).toList <:+: part.body.toList

/-- Gating changes the verdict of a memo only. -/
theorem checkEmission_keeps
    (state : ResearchState)
    (memo : Memo)
    (explicit : Bool) :
    (checkEmission state memo explicit).sections = memo.sections ∧
      (checkEmission state memo explicit).needsSupplement =
        memo.needsSupplement := by
  unfold checkEmission
  split
  · exact ⟨rfl, rfl⟩
  · repeat' split
    all_goals exact ⟨rfl, rfl⟩

/-- A memo is emitted exactly when each applicable gate passes. -/
theorem checkEmission_emitted_iff
    {state : ResearchState}
    {memo : Memo}
    {explicit : Bool} :
    (checkEmission state memo explicit).emitted = true ↔
      CleanAudit state ∧
        memo.unverifiedKeyClaims = [] ∧
        (explicit = true ∨ ResearchComplete state) := by
  unfold checkEmission CleanAudit ResearchComplete
  rw [← hasUnresolvedHighImpact_eq_false_iff, ← targetsMet_iff]
  cases audited : state.lastAudit with
  | none =>
      simp
  | some audit =>
      cases degraded : audit.degraded <;>
        cases explicit <;>
        cases Convergence.hasUnresolvedHighImpact state <;>
        cases Exhaustion.targetsMet state <;>
        by_cases unverified : memo.unverifiedKeyClaims = [] <;>
        simp [degraded, unverified]

section Assembly

variable [PythonText]

/-- Every decisive claim is verified or flagged as needing a supplement. -/
def KeyClaimsSettled (state : ResearchState) (memo : Memo) : Prop :=
  ∀ bundle ∈ state.evidence, ∀ claim ∈ bundle.claims,
    keyClaimConf ≤ claim.confidence →
    (verifyFlattened state claim).verified = true ∨
      claim.claim ∈ memo.needsSupplement

/-- The citation pass collects the unverified decisive claims. -/
theorem mem_citationPass_iff
    {state : ResearchState}
    {text : String} :
    text ∈ citationPass state ↔
      ∃ bundle ∈ state.evidence, ∃ claim ∈ bundle.claims,
        keyClaimConf ≤ claim.confidence ∧
          (verifyFlattened state claim).verified = false ∧
          claim.claim = text := by
  simp only [citationPass, List.mem_filterMap, List.mem_flatMap]
  constructor
  · rintro ⟨claim, ⟨bundle, inEvidence, inBundle⟩, collected⟩
    split at collected
    · rename_i condition
      obtain ⟨unverified, decisive, _⟩ := condition
      refine ⟨bundle, inEvidence, claim, inBundle, ?_, unverified, ?_⟩
      · simpa using decisive
      · simpa using collected
    · cases collected
  · rintro ⟨bundle, inEvidence, claim, inBundle, decisive, unverified, rfl⟩
    refine ⟨claim, ⟨bundle, inEvidence, inBundle⟩, ?_⟩
    simp [unverified, decisive, CitationPolicy.classify]

/-- Assembly changes the tasks only, and reports what routing found. -/
theorem assembleMemo_eq_some
    {state assembled : ResearchState}
    {prose : Prose}
    {memo : Memo}
    (assembly : assembleMemo state prose = some (memo, assembled)) :
    (∃ tasks, assembled = { state with humanTasks := tasks }) ∧
      memo.unverifiedKeyClaims =
        (citationPass state).filter
          (fun text => text ∉ memo.needsSupplement) ∧
      memo.sections =
        memoOrder.map (memoSection assembled prose memo.needsSupplement) := by
  simp only [assembleMemo, routeCitations, Option.map_map,
    Option.map_eq_some_iff, Function.comp_apply, Prod.exists,
    Prod.mk.injEq] at assembly
  obtain ⟨result, tasks, _, rfl, rfl⟩ := assembly
  exact ⟨⟨tasks, rfl⟩, rfl, rfl⟩

/-- The citation gate passes exactly when the decisive claims are settled. -/
theorem unverifiedKeyClaims_eq_nil_iff
    {state assembled : ResearchState}
    {prose : Prose}
    {memo : Memo}
    (assembly : assembleMemo state prose = some (memo, assembled)) :
    memo.unverifiedKeyClaims = [] ↔ KeyClaimsSettled state memo := by
  rw [(assembleMemo_eq_some assembly).2.1, List.filter_eq_nil_iff]
  constructor
  · intro allFlagged bundle inEvidence claim inBundle decisive
    cases verified : (verifyFlattened state claim).verified with
    | true =>
        exact Or.inl rfl
    | false =>
        have collected : claim.claim ∈ citationPass state :=
          mem_citationPass_iff.mpr
            ⟨bundle, inEvidence, claim, inBundle, decisive, verified, rfl⟩
        simpa using allFlagged _ collected
  · intro settled text collected
    obtain ⟨bundle, inEvidence, claim, inBundle, decisive, unverified,
        rfl⟩ := mem_citationPass_iff.mp collected
    rcases settled bundle inEvidence claim inBundle decisive with
        verified | flagged
    · simp [unverified] at verified
    · simpa using flagged

omit [PythonText] in
/-- A rendered supplement list shows every item under the flag. -/
theorem supplementLine_infix
    {text : String}
    {items : List String}
    (member : text ∈ items)
    (body : String) :
    (supplementLine text).toList <:+:
      (withAddition body (renderNeedsSupplement items)).toList := by
  have rendered :
      (supplementLine text).toList <:+:
        (renderNeedsSupplement items).toList := by
    unfold renderNeedsSupplement
    rw [if_neg (List.ne_nil_of_mem member)]
    exact infix_intercalate "\n"
      (List.mem_cons_of_mem _ (List.mem_map_of_mem member))
  unfold withAddition
  split
  · exact rendered
  · rw [String.toList_append]
    exact rendered.trans (List.suffix_append _ _).isInfix

/-- Every text that needs a supplement is flagged in both sections. -/
theorem flagged_of_needsSupplement
    {state assembled : ResearchState}
    {prose : Prose}
    {memo : Memo}
    {text : String}
    (assembly : assembleMemo state prose = some (memo, assembled))
    (member : text ∈ memo.needsSupplement) :
    FlaggedIn memo .canCannotSay text ∧
      FlaggedIn memo .requiredHumanDecisions text := by
  have sections := (assembleMemo_eq_some assembly).2.2
  have flagged :
      ∀ key, key = .canCannotSay ∨ key = .requiredHumanDecisions →
        key ∈ memoOrder →
        FlaggedIn memo key text := by
    intro key supplemented ordered
    refine
      ⟨memoSection assembled prose memo.needsSupplement key, ?_, rfl, ?_⟩
    · rw [sections]
      exact List.mem_map_of_mem ordered
    · rcases supplemented with rfl | rfl
      all_goals
        simp only [memoSection, sectionBody,
          if_neg (List.ne_nil_of_mem member)]
        exact supplementLine_infix member _
  exact
    ⟨flagged _ (Or.inl rfl) (by decide), flagged _ (Or.inr rfl) (by decide)⟩

/-! ## Routing records a task for every flagged claim -/

omit [PythonText] in
/-- Some recorded task asks for the text. -/
def IsRequested (tasks : OrderedMap String HumanTask) (text : String) : Prop :=
  ∃ task ∈ tasks.values, task.requestedInput = text

omit [PythonText] in
/-- A minted supplement task is recorded beside the earlier ones. -/
theorem isRequested_insert
    {tasks : OrderedMap String HumanTask}
    (fresh : HumanTasks.FreshIds tasks)
    (claimText : String) :
    IsRequested
        (tasks.insert (supplementTask tasks claimText).id
          (supplementTask tasks claimText))
        claimText ∧
      ∀ {text}, IsRequested tasks text →
        IsRequested
          (tasks.insert (supplementTask tasks claimText).id
            (supplementTask tasks claimText))
          text := by
  have values :=
    OrderedMap.values_insert_of_absent fresh.nextId_absent
      (supplementTask tasks claimText)
  refine ⟨⟨supplementTask tasks claimText, ?_, rfl⟩, ?_⟩
  · change _ ∈ (tasks.insert (HumanTasks.nextId tasks) _).values
    rw [values]
    simp
  · rintro text ⟨task, recorded, asks⟩
    refine ⟨task, ?_, asks⟩
    change _ ∈ (tasks.insert (HumanTasks.nextId tasks) _).values
    rw [values]
    exact List.mem_append_left _ recorded

/--
Routing returns, keeps the minted identifiers fresh, and leaves a task for
every supplement, given that every known text is still asked for.
-/
theorem routeClaims_recorded
    (state : ResearchState)
    (claims : List (Claim × Option String))
    {tasks : OrderedMap String HumanTask}
    {existingInputs : List String}
    {result : RouteResult}
    (fresh : HumanTasks.FreshIds tasks)
    (known : ∀ text ∈ existingInputs, IsRequested tasks text)
    (recorded :
      ∀ task ∈ result.needsSupplement, IsRequested tasks task.requestedInput) :
    ∃ finalResult finalTasks,
      routeClaims state claims tasks existingInputs result =
          some (finalResult, finalTasks) ∧
        HumanTasks.FreshIds finalTasks ∧
        ∀ task ∈ finalResult.needsSupplement,
          IsRequested finalTasks task.requestedInput := by
  induction claims generalizing tasks existingInputs result with
  | nil =>
      exact ⟨result, tasks, rfl, fresh, recorded⟩
  | cons head rest inductionHypothesis =>
      obtain ⟨claim, issueId⟩ := head
      unfold routeClaims
      split
      · exact inductionHypothesis fresh known recorded
      · exact inductionHypothesis fresh known recorded
      · split
        · rename_i alreadyAsked
          obtain ⟨stored, inTasks, asks⟩ := known _ alreadyAsked
          cases found :
              tasks.values.find? fun task =>
                task.requestedInput = claim.claim with
          | none =>
              have noTask := List.find?_eq_none.mp found stored inTasks
              simp [asks] at noTask
          | some task =>
              apply inductionHypothesis fresh known
              intro supplement member
              rcases List.mem_append.mp member with earlier | isTask
              · exact recorded supplement earlier
              · rw [List.mem_singleton] at isTask
                subst supplement
                exact ⟨task, List.mem_of_find?_eq_some found, rfl⟩
        · obtain ⟨minted, kept⟩ := isRequested_insert fresh claim.claim
          apply inductionHypothesis (fresh.insert_next _)
          · intro text member
            rcases List.mem_cons.mp member with isClaim | earlier
            · exact isClaim ▸ minted
            · exact kept (known text earlier)
          · intro supplement member
            rcases List.mem_append.mp member with earlier | isTask
            · exact kept (recorded supplement earlier)
            · rw [List.mem_singleton] at isTask
              subst supplement
              exact minted

/-- With fresh identifiers assembly returns and every flagged text is asked for. -/
theorem assembleMemo_recorded
    {state : ResearchState}
    (prose : Prose)
    (fresh : HumanTasks.FreshIds state.humanTasks) :
    ∃ memo assembled,
      assembleMemo state prose = some (memo, assembled) ∧
        HumanTasks.FreshIds assembled.humanTasks ∧
        ∀ text ∈ memo.needsSupplement,
          IsRequested assembled.humanTasks text := by
  have known :
      ∀ text ∈ state.humanTasks.values.map HumanTask.requestedInput,
        IsRequested state.humanTasks text := by
    intro text member
    simpa [IsRequested] using member
  have nothingYet :
      ∀ task ∈ ({} : RouteResult).needsSupplement,
        IsRequested state.humanTasks task.requestedInput := by
    simp
  obtain ⟨result, tasks, routed, freshAfter, recorded⟩ :=
    routeClaims_recorded state (collectClaims state) fresh known nothingYet
  have citations :
      routeCitations state =
        some (result, { state with humanTasks := tasks }) := by
    simp [routeCitations, routed]
  refine ⟨_, _, by simp only [assembleMemo, citations]; rfl, freshAfter, ?_⟩
  intro text member
  obtain ⟨task, supplement, rfl⟩ := List.mem_map.mp member
  exact recorded task supplement

/--
A gated memo is emitted exactly when the audit is clean, the decisive claims
are settled and the research is complete or emission explicit; flagged texts
show in both sections, and each is asked for while task identifiers are fresh.
-/
theorem gatedMemo_correct
    (state : ResearchState)
    (prose : Prose)
    (explicit : Bool) :
    (∀ memo assembled,
        assembleMemo state prose = some (memo, assembled) →
        let gated := checkEmission assembled memo explicit
        (gated.emitted = true ↔
            CleanAudit assembled ∧
              KeyClaimsSettled assembled gated ∧
              (explicit = true ∨ ResearchComplete assembled)) ∧
          ∀ text ∈ gated.needsSupplement,
            FlaggedIn gated .canCannotSay text ∧
              FlaggedIn gated .requiredHumanDecisions text) ∧
      (HumanTasks.FreshIds state.humanTasks →
        ∃ memo assembled,
          assembleMemo state prose = some (memo, assembled) ∧
            ∀ text ∈ (checkEmission assembled memo explicit).needsSupplement,
              IsRequested assembled.humanTasks text) := by
  constructor
  · intro memo assembled assembly
    obtain ⟨⟨tasks, rfl⟩, _, _⟩ := assembleMemo_eq_some assembly
    obtain ⟨sections, needs⟩ :=
      checkEmission_keeps { state with humanTasks := tasks } memo explicit
    constructor
    · rw [checkEmission_emitted_iff,
        unverifiedKeyClaims_eq_nil_iff assembly]
      simp only [KeyClaimsSettled, needs]
      rfl
    · intro text member
      rw [needs] at member
      simpa only [FlaggedIn, sections] using
        flagged_of_needsSupplement assembly member
  · intro fresh
    obtain ⟨memo, assembled, assembly, _, recorded⟩ :=
      assembleMemo_recorded prose fresh
    refine ⟨memo, assembled, assembly, ?_⟩
    rw [(checkEmission_keeps assembled memo explicit).2]
    exact recorded

end Assembly

/-- Two unverified critical claims, and the tasks recorded so far. -/
private def twoCriticalClaims
    (tasks : OrderedMap String HumanTask) : ResearchState where
  runId := "run"
  originalQuestion := "question"
  issueMap :=
    (∅ : OrderedMap String IssueNode).insert "I-001"
      { id := "I-001", title := "title", description := ""
        issueType := .technical, status := .open, impact := 4
        confidence := 2 }
  evidence :=
    [{ query := "title", issueId := some "I-001"
       claims := [{ claim := "foo" }, { claim := "bar" }] }]
  humanTasks := tasks
  lastAudit := some { verdict := .continue_, prematureEndRisk := .high }

/-- Both claims are flagged, shown and asked for when no task is recorded yet. -/
theorem gatedMemo_correct_twoCriticalClaims :
    letI := PythonText.ascii
    ∃ memo assembled,
      assembleMemo (twoCriticalClaims ∅) (fun _ => none) =
          some (memo, assembled) ∧
        (∀ text ∈ (checkEmission assembled memo true).needsSupplement,
          FlaggedIn (checkEmission assembled memo true) .canCannotSay text) ∧
        ∀ text ∈ (checkEmission assembled memo true).needsSupplement,
          IsRequested assembled.humanTasks text := by
  let _ := PythonText.ascii
  obtain ⟨whenAssembled, whenFresh⟩ :=
    gatedMemo_correct (twoCriticalClaims ∅) (fun _ => none) true
  obtain ⟨memo, assembled, assembly, requested⟩ :=
    whenFresh HumanTasks.freshIds_empty
  obtain ⟨_, flagged⟩ := whenAssembled memo assembled assembly
  exact ⟨memo, assembled, assembly,
    fun text member => (flagged text member).1, requested⟩

/-- A single task under the identifier that is minted next. -/
private def takenTaskId : OrderedMap String HumanTask :=
  (∅ : OrderedMap String HumanTask).insert "HT-002"
    { id := "HT-002", taskTitle := "task", requestedInput := "foo" }

/-- The task of a flagged text is overwritten when its identifier is minted. -/
theorem takenTaskId_loses_request :
    letI := PythonText.ascii
    ∃ memo assembled,
      assembleMemo (twoCriticalClaims takenTaskId) (fun _ => none) =
          some (memo, assembled) ∧
        "foo" ∈ (checkEmission assembled memo true).needsSupplement ∧
        ¬∃ task ∈ assembled.humanTasks.values,
          task.requestedInput = "foo" := by
  let _ := PythonText.ascii
  let result :=
    (assembleMemo (twoCriticalClaims takenTaskId) fun _ => none).get
      (by decide +kernel)
  exact ⟨result.1, result.2, (Option.some_get _).symm,
    by decide +kernel, by decide +kernel⟩

end ResearchCos.DecisionMemo
