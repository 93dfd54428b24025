import ResearchCos.BriefShelf

namespace ResearchCos

open Foundation

/-!
# Superseding and revising a brief

Superseding retires versions one by one, and every crash leaves the others as
they are.  A revision saves the next version and retires the ones before it; it
never fails to construct a brief.
-/

namespace BriefFiles

section Files

variable {env : BriefEnv}

/-! ## Superseding -/

/-- What a crash while superseding leaves: some versions are retired. -/
structure Superseding
    (env : BriefEnv)
    (upToVersion : Nat)
    (before after : RunDirectory) : Prop where
  complete : Complete env after
  retires : (shelfOf env before).Retires upToVersion (shelfOf env after)

/-- Rewriting one version retires it and nothing else. -/
theorem put_retired
    {shelf : Shelf}
    {brief : SOTBrief}
    (stored : shelf brief.version = some brief)
    (version : Nat) :
    shelf.put brief.retired version =
      if brief.version = version then
        (shelf version).map SOTBrief.retired
      else
        shelf version := by
  unfold Shelf.put
  by_cases same : brief.version = version
  · subst version
    rw [stored]
    rfl
  · exact (if_neg same).trans (if_neg same).symm

theorem retired_of_superseded
    {brief : SOTBrief}
    (isSuperseded : brief.status = .superseded) :
    brief.retired = brief := by
  cases brief
  cases isSuperseded
  rfl

/-- At every crash of the rewriting of one version it is retired or not. -/
theorem save_retired_meets
    {directory : RunDirectory}
    (complete : Complete env directory)
    {upToVersion : Nat}
    {brief : SOTBrief}
    (stored : shelfOf env directory brief.version = some brief)
    (within : brief.version ≤ upToVersion) :
    (save brief.retired).Meets directory
      (Superseding env upToVersion directory)
      fun _ reached => reached = (save brief.retired).after directory := by
  have listed : brief.version ∈ versions directory :=
    (complete.listed _).mpr (Option.isSome_iff_exists.mpr ⟨_, stored⟩)
  have unchanged : Superseding env upToVersion directory directory :=
    ⟨complete, Shelf.Retires.refl _ _⟩
  have half :
      Superseding env upToVersion directory
        (directory.insert (mdName brief.version)
          (.text brief.retired.toMarkdown)) := by
    refine ⟨complete.insert_mdName listed _, ?_⟩
    rw [shelfOf_insert_of_ne env fun other =>
      (mdName_ne_jsonName brief.version other).symm]
    exact Shelf.Retires.refl _ _
  have whole :
      Superseding env upToVersion directory
        ((save brief.retired).after directory) := by
    refine ⟨complete.save _, fun version => ?_⟩
    rw [shelfOf_save, put_retired stored]
    split
    · rename_i same
      exact Or.inr ⟨same ▸ within, rfl⟩
    · exact Or.inl rfl
  have first :
      Action.Meets
        (Action.write (mdName brief.version)
          (FileContent.text brief.retired.toMarkdown))
        directory (Superseding env upToVersion directory)
        fun _ reached =>
          reached =
            directory.insert (mdName brief.version)
              (.text brief.retired.toMarkdown) :=
    Action.Meets.write unchanged half rfl
  refine first.bind ?_
  rintro _ reached rfl
  exact Action.Meets.write half whole rfl

/-- What superseding leaves in the end: every listed version is retired. -/
structure Superseded
    (env : BriefEnv)
    (upToVersion : Nat)
    (listed : List Nat)
    (before after : RunDirectory) : Prop
    extends Superseding env upToVersion before after where
  retired :
    ∀ version ∈ listed, version ≤ upToVersion →
      shelfOf env after version =
        (shelfOf env before version).map SOTBrief.retired
  rendered : Rendered env before → Rendered env after

theorem Superseding.trans
    {upToVersion : Nat}
    {first second third : RunDirectory}
    (earlier : Superseding env upToVersion first second)
    (later : Superseding env upToVersion second third) :
    Superseding env upToVersion first third :=
  ⟨later.complete, earlier.retires.trans later.retires⟩

/-- A version that is retired once stays retired. -/
theorem Superseding.retired_of_retired
    {upToVersion version : Nat}
    {first second third : RunDirectory}
    (later : Superseding env upToVersion second third)
    (retired :
      shelfOf env second version =
        (shelfOf env first version).map SOTBrief.retired) :
    shelfOf env third version =
      (shelfOf env first version).map SOTBrief.retired := by
  rcases later.retires version with same | ⟨_, again⟩
  · rw [same, retired]
  · rw [again, retired, Shelf.map_retired_map_retired]

/--
Rewriting listed versions retires them one by one; every crash leaves all
versions loadable.
-/
theorem supersedeFrom_meets
    (upToVersion : Nat)
    {listed : List Nat}
    {directory : RunDirectory}
    (complete : Complete env directory)
    (present :
      ∀ version ∈ listed, (shelfOf env directory version).isSome) :
    (supersedeFrom env upToVersion listed).Meets directory
      (Superseding env upToVersion directory)
      fun _ reached =>
        Superseded env upToVersion listed directory reached := by
  have unchanged : Superseding env upToVersion directory directory :=
    ⟨complete, Shelf.Retires.refl _ _⟩
  induction listed generalizing directory with
  | nil =>
      exact Action.Meets.pure unchanged
        { unchanged with
          retired := fun _ member => absurd member List.not_mem_nil
          rendered := id }
  | cons version rest inductionHypothesis =>
      have presentRest :
          ∀ other ∈ rest, (shelfOf env directory other).isSome :=
        fun other member => present other (List.mem_cons_of_mem version member)
      rw [supersedeFrom]
      by_cases beyond : upToVersion < version
      · rw [if_pos beyond]
        refine (inductionHypothesis complete presentRest unchanged).mono
          (fun _ crashed => crashed) ?_
        intro _ reached ended
        refine { ended with retired := fun other member within => ?_ }
        rcases List.mem_cons.mp member with rfl | inRest
        · omega
        · exact ended.retired other inRest within
      · rw [if_neg beyond]
        obtain ⟨brief, stored⟩ := Option.isSome_iff_exists.mp
          (present version List.mem_cons_self)
        have isVersion := complete.numbered version brief stored
        subst version
        refine Action.Meets.observe stored ?_
        by_cases isSuperseded : brief.status = .superseded
        · rw [if_pos isSuperseded]
          refine (inductionHypothesis complete presentRest unchanged).mono
            (fun _ crashed => crashed) ?_
          intro _ reached ended
          refine { ended with retired := fun other member within => ?_ }
          rcases List.mem_cons.mp member with rfl | inRest
          · refine ended.toSuperseding.retired_of_retired ?_
            rw [stored, Option.map_some, retired_of_superseded isSuperseded]
          · exact ended.retired other inRest within
        · rw [if_neg isSuperseded]
          have rewrites :=
            save_retired_meets complete stored (Nat.not_lt.mp beyond)
          have rewritten := rewrites.1.after
          refine rewrites.bind ?_
          rintro _ _ rfl
          refine (((inductionHypothesis rewritten.complete (fun other member =>
            (rewritten.retires.isSome_iff other).mpr
              (presentRest other member))
            ⟨rewritten.complete, Shelf.Retires.refl _ _⟩).mono
              (fun _ crashed => rewritten.trans crashed)
              fun _ _ ended => ended).bind ?_)
          intro touched reached ended
          have whole := rewritten.trans ended.toSuperseding
          refine Action.Meets.pure whole
            { whole with
              retired := fun other member within => ?_
              rendered := fun rendered =>
                ended.rendered (rendered.save brief.retired) }
          rcases List.mem_cons.mp member with rfl | inRest
          · refine ended.toSuperseding.retired_of_retired ?_
            rw [shelfOf_save, put_retired stored, if_pos rfl]
          · rw [ended.retired other inRest within, shelfOf_save,
              put_retired stored]
            split
            · exact Shelf.map_retired_map_retired _
            · rfl

theorem supersede_meets
    (upToVersion : Nat)
    {directory : RunDirectory}
    (complete : Complete env directory) :
    (supersede env upToVersion).Meets directory
      (Superseding env upToVersion directory)
      fun _ reached =>
        Superseded env upToVersion (versions directory) directory reached :=
  Action.Meets.observe rfl
    (supersedeFrom_meets upToVersion complete fun version =>
      (complete.listed version).mp)

/-! ## The next version -/

/-- A new value has the type of its field. -/
theorem typedEntries_revision
    (current : SOTBrief)
    (revision : Revision) :
    SOTBrief.TypedEntries (revisionEntries current revision) := by
  have lookedUp :
      ∀ {field value},
        field ∉ ["created_at", "status", "version"] →
          (revisionEntries current revision).lookup field = some value →
            value = newValue field revision.value := by
    intro field value other isEntry
    simp only [List.mem_cons, List.not_mem_nil, or_false, not_or] at other
    rw [revisionEntries, SOTBrief.lookup_cons_of_ne other.1,
      SOTBrief.lookup_cons_of_ne other.2.1,
      SOTBrief.lookup_cons_of_ne other.2.2] at isEntry
    by_cases same : field = revision.field
    · subst field
      rw [List.lookup_cons_self] at isEntry
      exact (Option.some.inj isEntry).symm
    · rw [SOTBrief.lookup_cons_of_ne same] at isEntry
      cases isEntry
  refine ⟨fun field isList value isEntry => ?_,
    fun field isText value isEntry => ?_,
    fun field isOptional value isEntry => ?_⟩
  · have other : field ∉ ["created_at", "status", "version"] := by
      simp only [SOTBrief.listFields, List.mem_cons, List.not_mem_nil,
        or_false] at isList
      rcases isList with rfl | rfl | rfl | rfl | rfl | rfl | rfl | rfl <;>
        decide
    rw [lookedUp other isEntry, newValue, if_pos isList]
    exact ⟨_, rfl⟩
  · simp only [List.mem_cons, List.not_mem_nil, or_false] at isText
    rcases isText with rfl | rfl | rfl <;>
      exact ⟨_, (lookedUp (by decide) isEntry).trans (if_neg (by decide))⟩
  · simp only [List.mem_cons, List.not_mem_nil, or_false] at isOptional
    rcases isOptional with rfl | rfl | rfl | rfl
    · exact ⟨some _, (lookedUp (by decide) isEntry).trans (if_neg (by decide))⟩
    · exact ⟨some _, (lookedUp (by decide) isEntry).trans (if_neg (by decide))⟩
    · exact ⟨some _, (lookedUp (by decide) isEntry).trans (if_neg (by decide))⟩
    · cases isEntry
      exact ⟨some revision.now, rfl⟩

/-- Every revision is a brief: a draft with the next version. -/
theorem exists_revised
    (env : BriefEnv)
    (current : SOTBrief)
    (revision : Revision) :
    ∃ brief,
      revised env current revision = some brief ∧
        brief.version = current.version + 1 ∧ brief.status = .draft := by
  have isStatus :
      ((((revisionEntries current revision ++ current.modelDump).lookup
          "status").getD (.text "draft")).asText >>= briefStatusOf) =
        some .draft :=
    rfl
  obtain ⟨brief, validates, isNext, isDraft⟩ :=
    (typedEntries_revision current revision).exists_validates current
      (Nat.succ_pos current.version) rfl isStatus
  exact ⟨brief, SOTBrief.modelValidate_eq_some_iff.mpr validates, isNext,
    isDraft⟩

/-! ## Revising -/

theorem Complete.insert_other
    {directory : RunDirectory}
    (complete : Complete env directory)
    {name : String}
    (other : ¬ "brief.v".toList <+: name.toList)
    (content : FileContent) :
    Complete env (directory.insert name content) := by
  have sameShelf :=
    shelfOf_insert_of_ne env (jsonName_ne_other other) directory content
  refine ⟨fun version => ?_, fun version brief stored => ?_,
    canonical_insert complete.canonical ?_ content⟩
  · rw [mem_versions_insert, versionOf_other other, sameShelf,
      ← complete.listed version]
    simp
  · rw [sameShelf] at stored
    exact complete.numbered version brief stored
  · intro version isVersion
    rw [versionOf_other other] at isVersion
    cases isVersion

theorem snapshot_other :
    ¬ "brief.v".toList <+: "state.json".toList := by
  decide

theorem Superseding.insert_snapshot
    {upToVersion : Nat}
    {before after : RunDirectory}
    (superseding : Superseding env upToVersion before after)
    (content : FileContent) :
    Superseding env upToVersion before (after.insert "state.json" content) := by
  refine ⟨superseding.complete.insert_other snapshot_other content, ?_⟩
  rw [shelfOf_insert_of_ne env (jsonName_ne_other snapshot_other)]
  exact superseding.retires

theorem Superseded.insert_snapshot
    {upToVersion : Nat}
    {listed : List Nat}
    {before after : RunDirectory}
    (superseded : Superseded env upToVersion listed before after)
    (content : FileContent) :
    Superseded env upToVersion listed before
      (after.insert "state.json" content) := by
  have sameShelf :=
    shelfOf_insert_of_ne env (jsonName_ne_other snapshot_other)
      after content
  refine
    { superseded.toSuperseding.insert_snapshot content with
      retired := ?_
      rendered := fun rendered version brief stored => ?_ }
  · rw [sameShelf]
    exact superseded.retired
  · rw [sameShelf] at stored
    rw [OrderedMap.get?_insert, if_neg fun same => ?_]
    · exact superseded.rendered rendered version brief stored
    · have isVersion := versionOf_mdName version
      rw [← same, versionOf_other snapshot_other] at isVersion
      cases isVersion

/-- Mirroring writes the snapshot or nothing. -/
theorem mirrorBriefIntoState_safe
    (brief : SOTBrief)
    (now : String)
    {directory : RunDirectory}
    {crash : RunDirectory → Prop}
    (safe : crash directory)
    (safeSnapshot : ∀ content, crash (directory.insert "state.json" content)) :
    (mirrorBriefIntoState env brief now).Safe directory crash := by
  refine (Action.Safe.observe safe _).bind ?_
  intro snapshot _
  cases snapshot with
  | none =>
      exact Action.Safe.pure safe ()
  | some content =>
      refine (Action.Safe.observe safe _).bind ?_
      intro changed _
      exact Action.Safe.write safe (safeSnapshot changed)

/-- What follows the save of a revision. -/
def afterSave
    (env : BriefEnv)
    (current brief : SOTBrief)
    (now : String) : FileAction Unit := do
  let _ ← supersede env current.version
  mirrorBriefIntoState env brief now

/-- A revision of the latest brief saves it and goes on. -/
theorem reviseBrief_eq
    {directory : RunDirectory}
    {current brief : SOTBrief}
    {revision : Revision}
    (isLatest : loadLatest env directory = some current)
    (isField : revision.field ∈ SOTBrief.modelFields)
    (isRevised : revised env current revision = some brief) :
    reviseBrief env revision directory =
      (save brief >>= fun _ => afterSave env current brief revision.now)
        directory := by
  unfold reviseBrief
  rw [Action.observe_bind isLatest, if_pos isField,
    Action.observe_bind isRevised]
  rfl

/-- Without a brief, or for an unknown field, nothing is written. -/
theorem reviseBrief_writes_eq_nil
    {directory : RunDirectory}
    {revision : Revision}
    (refused :
      loadLatest env directory = none ∨ revision.field ∉ SOTBrief.modelFields) :
    (reviseBrief env revision directory).writes = [] := by
  unfold reviseBrief
  cases isLatest : loadLatest env directory with
  | none =>
      rw [Action.observe_bind_none isLatest]
  | some current =>
      rw [Action.observe_bind isLatest]
      rcases refused with isNone | unknown
      · rw [isLatest] at isNone
        cases isNone
      · rw [if_neg unknown]
        rfl

/-- From the save of a revision on the new brief is the latest one. -/
structure Revising
    (env : BriefEnv)
    (current brief : SOTBrief)
    (before after : RunDirectory) : Prop
    extends Superseding env current.version
      ((save brief).after before) after where
  isLatest : loadLatest env after = some brief

theorem afterSave_safe
    {directory : RunDirectory}
    (complete : Complete env directory)
    {current brief : SOTBrief}
    (latest : loadLatest env directory = some current)
    (isNext : brief.version = current.version + 1)
    (now : String) :
    (afterSave env current brief now).Safe ((save brief).after directory)
      (Revising env current brief directory) := by
  have isLatest :
      (shelfOf env ((save brief).after directory)).IsLatest brief := by
    rw [shelfOf_save]
    refine Shelf.isLatest_put fun version present => ?_
    have within :=
      ((loadLatest_eq_some_iff complete).mp latest).2 version present
    omega
  have isRevising :
      ∀ reached,
        Superseding env current.version ((save brief).after directory)
          reached →
        Revising env current brief directory reached := by
    intro reached crashed
    refine ⟨crashed, (loadLatest_eq_some_iff crashed.complete).mpr ?_⟩
    rcases crashed.retires.isLatest isLatest with same | ⟨within, _⟩
    · exact same
    · omega
  have supersedes := supersede_meets current.version (complete.save brief)
  refine Action.Safe.bind (fun count => isRevising _ (supersedes.1 count)) ?_
  intro touched _
  exact mirrorBriefIntoState_safe brief now (isRevising _ supersedes.1.after)
    fun content => isRevising _ (supersedes.1.after.insert_snapshot content)

/-- Without a crash a revision retires all versions before the new one. -/
theorem afterSave_after
    {directory : RunDirectory}
    (complete : Complete env directory)
    (current brief : SOTBrief)
    (now : String) :
    Superseded env current.version (versions directory) directory
      ((afterSave env current brief now).after directory) := by
  have supersedes := supersede_meets current.version complete
  obtain ⟨touched, returned, ended⟩ := supersedes.2
  unfold afterSave
  rw [Action.after_bind returned]
  exact (mirrorBriefIntoState_safe brief now ended
    ended.insert_snapshot).after

end Files

end BriefFiles

end ResearchCos
