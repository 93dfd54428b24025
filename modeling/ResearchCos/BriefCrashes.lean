import ResearchCos.BriefRevisions

namespace ResearchCos

open Foundation

/-!
# Crashes in the history of a brief

After every history of complete operations the next one may be interrupted
after any number of its writes.  The one crash that loses the latest brief lies
between the two writes of a version above all others: its rendering is
discovered, and its document is missing.
-/

namespace BriefFiles

section Files

variable {env : BriefEnv}

/-! ## Histories -/

/-- What the front-end does with the files of a brief. -/
inductive Operation where
  | save (brief : SOTBrief)
  | supersede (upToVersion : Nat)
  | revise (revision : Revision)
  deriving Repr, DecidableEq

namespace Operation

def action (env : BriefEnv) : Operation → FileAction Unit
  | .save brief => BriefFiles.save brief
  | .supersede upToVersion => do
      let _ ← BriefFiles.supersede env upToVersion
      pure ()
  | .revise revision => reviseBrief env revision

/-- The brief that the complete operation leaves as the latest one. -/
def newBrief
    (env : BriefEnv)
    (directory : RunDirectory) : Operation → Option SOTBrief
  | .save brief => some brief
  | .supersede upToVersion =>
      (loadLatest env directory).map fun brief =>
        if brief.version ≤ upToVersion then brief.retired else brief
  | .revise revision =>
      if revision.field ∈ SOTBrief.modelFields then
        (loadLatest env directory).bind fun current =>
          revised env current revision
      else
        none

/-- The operation writes a version above all versions of the directory. -/
def AddsVersion (directory : RunDirectory) : Operation → Prop
  | .save brief => ∀ version ∈ versions directory, version < brief.version
  | .supersede _ => False
  | .revise revision =>
      versions directory ≠ [] ∧ revision.field ∈ SOTBrief.modelFields

end Operation

/-- After a crash the latest brief is the one from before or the new one. -/
def Recovers
    (env : BriefEnv)
    (directory : RunDirectory)
    (operation : Operation)
    (count : Nat) : Prop :=
  ∃ brief,
    loadLatest env ((operation.action env).interrupted directory count) =
        some brief ∧
      (loadLatest env directory = some brief ∨
        operation.newBrief env directory = some brief)

/--
The crash does not fall between the two writes of a new highest version, and
there is a brief to return: one from before, or a first one that is complete.
-/
def SafePoint
    (directory : RunDirectory)
    (operation : Operation)
    (count : Nat) : Prop :=
  ¬ (operation.AddsVersion directory ∧ count = 1) ∧
    (versions directory = [] →
      operation.AddsVersion directory ∧ 2 ≤ count)

theorem loadLatest_of_empty
    {directory : RunDirectory}
    (empty : versions directory = []) :
    loadLatest env directory = none := by
  unfold loadLatest
  rw [empty]
  rfl

/-- What is retired by a crash leaves the latest brief, retired or not. -/
theorem Superseding.recovers
    {upToVersion : Nat}
    {directory reached : RunDirectory}
    (complete : Complete env directory)
    (crashed : Superseding env upToVersion directory reached) :
    (∃ brief,
        loadLatest env reached = some brief ∧
          (loadLatest env directory = some brief ∨
            (Operation.supersede upToVersion).newBrief env directory =
              some brief)) ↔
      versions directory ≠ [] := by
  constructor
  · rintro ⟨brief, loaded, _⟩ empty
    have stored := ((loadLatest_eq_some_iff crashed.complete).mp loaded).1
    have present := (crashed.retires.isSome_iff brief.version).mp
      (Option.isSome_iff_exists.mpr ⟨_, stored⟩)
    have listed := (complete.listed _).mpr present
    rw [empty] at listed
    cases listed
  · intro someListed
    obtain ⟨latest, isLatest⟩ := exists_loadLatest complete someListed
    have onShelf := (loadLatest_eq_some_iff complete).mp isLatest
    rcases crashed.retires.isLatest onShelf with same | ⟨within, retired⟩
    · exact ⟨latest, (loadLatest_eq_some_iff crashed.complete).mpr same,
        Or.inl isLatest⟩
    · refine ⟨latest.retired,
        (loadLatest_eq_some_iff crashed.complete).mpr retired, Or.inr ?_⟩
      simp only [Operation.newBrief, isLatest, Option.map_some, if_pos within]

theorem recovers_supersede_iff
    {directory : RunDirectory}
    (complete : Complete env directory)
    (upToVersion count : Nat) :
    Recovers env directory (.supersede upToVersion) count ↔
      SafePoint directory (.supersede upToVersion) count := by
  have supersedes := supersede_meets upToVersion complete
  have safe :
      ((Operation.supersede upToVersion).action env).Safe directory
        (Superseding env upToVersion directory) :=
    supersedes.1.bind fun touched _ => Action.Safe.pure supersedes.1.after ()
  refine Iff.trans ((safe count).recovers complete) ?_
  simp [SafePoint, Operation.AddsVersion]

/-- A brief above all versions is the latest one once it is saved. -/
theorem loadLatest_save_above
    {directory : RunDirectory}
    (complete : Complete env directory)
    {brief : SOTBrief}
    (above : ∀ version ∈ versions directory, version < brief.version) :
    loadLatest env ((save brief).after directory) = some brief := by
  refine (loadLatest_eq_some_iff (complete.save brief)).mpr ?_
  rw [shelfOf_save]
  exact Shelf.isLatest_put fun version present =>
    (above version ((complete.listed version).mpr present)).le

/-- A brief that is not above all versions is the latest one or changes none. -/
theorem loadLatest_save_below
    {directory : RunDirectory}
    (complete : Complete env directory)
    {brief latest : SOTBrief}
    (isLatest : loadLatest env directory = some latest)
    (below : brief.version ≤ latest.version) :
    loadLatest env ((save brief).after directory) = some latest ∨
      loadLatest env ((save brief).after directory) = some brief := by
  obtain ⟨stored, highest⟩ := (loadLatest_eq_some_iff complete).mp isLatest
  rw [loadLatest_eq_some_iff (complete.save brief),
    loadLatest_eq_some_iff (complete.save brief), shelfOf_save]
  by_cases same : brief.version = latest.version
  · exact Or.inr (Shelf.isLatest_put fun version present =>
      same ▸ highest version present)
  · refine Or.inl ⟨?_, fun version present => ?_⟩
    · exact (if_neg same).trans stored
    · unfold Shelf.put at present
      split at present
      · omega
      · exact highest version present

theorem recovers_save_iff
    {directory : RunDirectory}
    (complete : Complete env directory)
    (brief : SOTBrief)
    (count : Nat) :
    Recovers env directory (.save brief) count ↔
      SafePoint directory (.save brief) count := by
  unfold Recovers SafePoint
  simp only [Operation.action, Operation.newBrief, Operation.AddsVersion]
  by_cases above : ∀ version ∈ versions directory, version < brief.version
  · rcases count with _ | _ | count
    · constructor
      · rintro ⟨latest, isLatest, _⟩
        refine ⟨fun between => absurd between.2 (by decide), fun empty => ?_⟩
        rw [Action.interrupted_zero, loadLatest_of_empty empty] at isLatest
        cases isLatest
      · rintro ⟨_, someListed⟩
        obtain ⟨latest, isLatest⟩ := exists_loadLatest complete fun empty =>
          absurd (someListed empty).2 (by decide)
        exact ⟨latest, isLatest, Or.inl isLatest⟩
    · constructor
      · rintro ⟨latest, isLatest, _⟩
        have hidden := loadLatest_of_rendering_alone complete above
          (.text brief.toMarkdown)
        rw [save_interrupted_one, hidden] at isLatest
        cases isLatest
      · rintro ⟨notBetween, _⟩
        exact absurd ⟨above, rfl⟩ notBetween
    · refine iff_of_true ⟨brief, ?_, Or.inr rfl⟩
        ⟨fun between => by omega, fun _ => ⟨above, by omega⟩⟩
      rw [save_interrupted_of_two_le directory brief (by omega)]
      exact loadLatest_save_above complete above
  · obtain ⟨higher, listed, below⟩ : ∃ higher ∈ versions directory,
        brief.version ≤ higher := by
      simpa using above
    obtain ⟨latest, isLatest⟩ :=
      exists_loadLatest complete (List.ne_nil_of_mem listed)
    refine iff_of_true ?_
      ⟨fun between => above between.1, fun empty =>
        absurd empty (List.ne_nil_of_mem listed)⟩
    rcases count with _ | _ | count
    · exact ⟨latest, isLatest, Or.inl isLatest⟩
    · refine ⟨latest, ?_, Or.inl isLatest⟩
      rw [← isLatest]
      exact loadLatest_of_rendering_below listed below _
    · rw [save_interrupted_of_two_le directory brief (by omega)]
      have highest := ((loadLatest_eq_some_iff complete).mp isLatest).2 higher
        ((complete.listed higher).mp listed)
      rcases loadLatest_save_below complete isLatest (below.trans highest) with
        same | isNew
      · exact ⟨latest, same, Or.inl isLatest⟩
      · exact ⟨brief, isNew, Or.inr rfl⟩

/-- What a complete revision leaves: its brief, and the older ones retired. -/
theorem reviseBrief_after
    {directory : RunDirectory}
    (complete : Complete env directory)
    {current brief : SOTBrief}
    {revision : Revision}
    (isLatest : loadLatest env directory = some current)
    (isField : revision.field ∈ SOTBrief.modelFields)
    (isRevised : revised env current revision = some brief) :
    Superseded env current.version (versions ((save brief).after directory))
      ((save brief).after directory)
      ((reviseBrief env revision).after directory) := by
  have shape :
      (reviseBrief env revision).after directory =
        (afterSave env current brief revision.now).after
          ((save brief).after directory) := by
    have returned : (save brief directory).result = some () := rfl
    rw [← Action.after_bind returned fun _ =>
      afterSave env current brief revision.now]
    unfold Action.after
    rw [reviseBrief_eq isLatest isField isRevised]
  rw [shape]
  exact afterSave_after (complete.save brief) current brief revision.now

/-- A revision that is refused leaves the directory as it is. -/
theorem reviseBrief_after_of_refused
    {directory : RunDirectory}
    {revision : Revision}
    (refused :
      loadLatest env directory = none ∨ revision.field ∉ SOTBrief.modelFields) :
    (reviseBrief env revision).after directory = directory := by
  unfold Action.after
  rw [reviseBrief_writes_eq_nil refused]
  rfl

/-- A crash of a revision is one of its save, or the new brief is there. -/
theorem reviseBrief_interrupted
    {directory : RunDirectory}
    (complete : Complete env directory)
    {current brief : SOTBrief}
    {revision : Revision}
    (isLatest : loadLatest env directory = some current)
    (isField : revision.field ∈ SOTBrief.modelFields)
    (isRevised : revised env current revision = some brief)
    (isNext : brief.version = current.version + 1)
    (count : Nat) :
    (count ≤ 1 ∧
        (reviseBrief env revision).interrupted directory count =
          (save brief).interrupted directory count) ∨
      2 ≤ count ∧
        loadLatest env ((reviseBrief env revision).interrupted directory count) =
          some brief := by
  have shape :
      (reviseBrief env revision).interrupted directory count =
        (save brief >>= fun _ =>
          afterSave env current brief revision.now).interrupted
          directory count := by
    unfold Action.interrupted
    rw [reviseBrief_eq isLatest isField isRevised]
  rw [shape]
  rcases Nat.lt_or_ge count 2 with early | late
  · refine Or.inl ⟨by omega, Action.interrupted_bind_of_le _ _ _ ?_⟩
    exact early.le
  · obtain ⟨rest, rfl⟩ := Nat.exists_eq_add_of_le late
    refine Or.inr ⟨late, ?_⟩
    have returned : (save brief directory).result = some () := rfl
    have split := Action.interrupted_bind_add returned
      (fun _ => afterSave env current brief revision.now) rest
    rw [show 2 + rest = (save brief directory).writes.length + rest from rfl,
      split]
    exact (afterSave_safe complete isLatest isNext revision.now rest).isLatest

theorem recovers_revise_iff
    {directory : RunDirectory}
    (complete : Complete env directory)
    (revision : Revision)
    (count : Nat) :
    Recovers env directory (.revise revision) count ↔
      SafePoint directory (.revise revision) count := by
  unfold Recovers SafePoint
  simp only [Operation.action, Operation.newBrief, Operation.AddsVersion]
  by_cases accepted :
      versions directory ≠ [] ∧ revision.field ∈ SOTBrief.modelFields
  · obtain ⟨someListed, isField⟩ := accepted
    obtain ⟨current, isLatest⟩ := exists_loadLatest complete someListed
    obtain ⟨brief, isRevised, isNext, _⟩ :=
      exists_revised env current revision
    have above : ∀ version ∈ versions directory, version < brief.version := by
      intro version listed
      have within := ((loadLatest_eq_some_iff complete).mp isLatest).2 version
        ((complete.listed version).mp listed)
      omega
    rcases reviseBrief_interrupted complete isLatest isField isRevised isNext
      count with ⟨early, isSave⟩ | ⟨late, isNew⟩
    · rw [isSave]
      rcases count with _ | count
      · refine iff_of_true ⟨current, isLatest, Or.inl isLatest⟩
          ⟨fun between => absurd between.2 (by decide), fun empty =>
            absurd empty someListed⟩
      · obtain rfl : count = 0 := by
          omega
        refine iff_of_false ?_ fun safe => safe.1 ⟨⟨someListed, isField⟩, rfl⟩
        rintro ⟨latest, stillLatest, _⟩
        rw [save_interrupted_one,
          loadLatest_of_rendering_alone complete above] at stillLatest
        cases stillLatest
    · refine iff_of_true ⟨brief, isNew, Or.inr ?_⟩
        ⟨fun between => by omega, fun empty => absurd empty someListed⟩
      rw [if_pos isField, isLatest]
      exact isRevised
  · have writesNothing : (reviseBrief env revision directory).writes = [] := by
      refine reviseBrief_writes_eq_nil ?_
      by_cases empty : versions directory = []
      · exact Or.inl (loadLatest_of_empty empty)
      · exact Or.inr fun isField => accepted ⟨empty, isField⟩
    have unchanged :
        (reviseBrief env revision).interrupted directory count =
          directory := by
      unfold Action.interrupted
      rw [writesNothing]
      cases count <;> rfl
    rw [unchanged]
    constructor
    · rintro ⟨latest, isLatest, _⟩
      refine ⟨fun between => accepted between.1, fun empty => ?_⟩
      rw [loadLatest_of_empty empty] at isLatest
      cases isLatest
    · rintro ⟨_, someListed⟩
      obtain ⟨latest, isLatest⟩ := exists_loadLatest complete fun empty =>
        accepted (someListed empty).1
      exact ⟨latest, isLatest, Or.inl isLatest⟩

/-- Every operation leaves all listed versions loadable. -/
theorem Complete.after
    {directory : RunDirectory}
    (complete : Complete env directory)
    (operation : Operation) :
    Complete env ((operation.action env).after directory) := by
  cases operation with
  | save brief =>
      exact complete.save brief
  | supersede upToVersion =>
      have supersedes := supersede_meets upToVersion complete
      have safe :
          ((Operation.supersede upToVersion).action env).Safe directory
            (Superseding env upToVersion directory) :=
        supersedes.1.bind fun touched _ =>
          Action.Safe.pure supersedes.1.after ()
      exact safe.after.complete
  | revise revision =>
      show Complete env ((reviseBrief env revision).after directory)
      cases isLatest : loadLatest env directory with
      | none =>
          rw [reviseBrief_after_of_refused (Or.inl isLatest)]
          exact complete
      | some current =>
          by_cases isField : revision.field ∈ SOTBrief.modelFields
          · obtain ⟨brief, isRevised, _⟩ := exists_revised env current revision
            exact (reviseBrief_after complete isLatest isField
              isRevised).complete
          · rw [reviseBrief_after_of_refused (Or.inr isField)]
            exact complete

variable (env)

/-- A run directory in which no name begins like a file of a brief. -/
structure FreshDirectory where
  files : RunDirectory
  noBriefs : ∀ name ∈ files.keys, ¬ "brief.v".toList <+: name.toList

/-- The directory after a history of complete operations. -/
def directoryAfter
    (start : FreshDirectory)
    (history : List Operation) : RunDirectory :=
  history.foldl
    (fun directory operation => (operation.action env).after directory)
    start.files

theorem not_mem_versions_fresh
    (start : FreshDirectory)
    (version : Nat) :
    version ∉ versions start.files := by
  intro listed
  obtain ⟨name, present, isVersion⟩ := mem_versions_iff.mp listed
  rw [versionOf_other (start.noBriefs name present)] at isVersion
  cases isVersion

theorem shelfOf_fresh
    (start : FreshDirectory)
    (version : Nat) :
    shelfOf env start.files version = none := by
  unfold shelfOf loadVersion
  cases stored : start.files.get? (jsonName version) with
  | none =>
      rfl
  | some content =>
      exact absurd rfl (jsonName_ne_other
        (start.noBriefs _ (OrderedMap.mem_keys_of_get? stored)) version)

theorem complete_fresh
    (start : FreshDirectory) :
    Complete env start.files := by
  refine ⟨fun version => ?_, fun version brief stored => ?_,
    fun name present version isVersion => ?_⟩
  · rw [shelfOf_fresh]
    exact iff_of_false (not_mem_versions_fresh start version) (by simp)
  · rw [shelfOf_fresh] at stored
    cases stored
  · exact absurd (mem_versions_iff.mpr ⟨name, present, isVersion⟩)
      (not_mem_versions_fresh start version)

/-- After every history all listed versions can be loaded. -/
theorem complete_directoryAfter
    (start : FreshDirectory)
    (history : List Operation) :
    Complete env (directoryAfter env start history) := by
  have preserved :
      ∀ directory, Complete env directory →
        Complete env
          (history.foldl
            (fun directory operation =>
              (operation.action env).after directory) directory) := by
    induction history with
    | nil =>
        exact fun _ complete => complete
    | cons operation rest inductionHypothesis =>
        exact fun directory complete =>
          inductionHypothesis _ (complete.after operation)
  exact preserved start.files (complete_fresh env start)

/-- Recovery fails exactly between the two writes of a new highest version. -/
theorem recovers_iff_safePoint
    {directory : RunDirectory}
    (complete : Complete env directory)
    (operation : Operation)
    (count : Nat) :
    Recovers env directory operation count ↔
      SafePoint directory operation count := by
  cases operation with
  | save brief =>
      exact recovers_save_iff complete brief count
  | supersede upToVersion =>
      exact recovers_supersede_iff complete upToVersion count
  | revise revision =>
      exact recovers_revise_iff complete revision count

/-! ## Revisions without a crash -/

/-- The briefs that revisions write, from a first one on. -/
inductive Written : SOTBrief → List Revision → List SOTBrief → Prop
  | last (brief : SOTBrief) : Written brief [] [brief]
  | next
      {current next : SOTBrief}
      {revision : Revision}
      {rest : List Revision}
      {later : List SOTBrief}
      (isRevised : revised env current revision = some next)
      (written : Written next rest later) :
      Written current (revision :: rest) (current :: later)

/--
A directory holds the written briefs as versions one, two and so on; each one
but the last is superseded and otherwise unchanged, in both of its files.
-/
structure HoldsWritten
    (written : List SOTBrief)
    (directory : RunDirectory) : Prop where
  listed : versions directory = List.range' 1 written.length
  loaded :
    ∀ version,
      loadVersion env version directory = Shelf.ofWritten written version
  rendered :
    ∀ version brief,
      loadVersion env version directory = some brief →
        directory.get? (mdName version) = some (.text brief.toMarkdown)
  live :
    ∀ version brief,
      loadVersion env version directory = some brief →
        (brief.status ≠ .superseded ↔ version = written.length)

variable {env}

/-- A directory that stands for the written briefs holds them. -/
theorem HoldsWritten.of_shelfOf
    {earlier : List SOTBrief}
    {current : SOTBrief}
    {directory : RunDirectory}
    (complete : Complete env directory)
    (rendered : Rendered env directory)
    (onShelf :
      shelfOf env directory = Shelf.ofWritten (earlier ++ [current]))
    (isLive : current.status ≠ .superseded) :
    HoldsWritten env (earlier ++ [current]) directory := by
  refine
    { listed := versions_eq_range' complete fun version => ?_
      loaded := congrFun onShelf
      rendered := rendered
      live := fun version brief loaded => ?_ }
  · rw [onShelf, Shelf.isSome_ofWritten_iff]
  · have stored :
        Shelf.ofWritten (earlier ++ [current]) version = some brief :=
      (congrFun onShelf version).symm.trans loaded
    have within := (Shelf.isSome_ofWritten_iff _ _).mp
      (Option.isSome_iff_exists.mpr ⟨_, stored⟩)
    by_cases isLast : version = (earlier ++ [current]).length
    · rw [isLast, List.length_append, List.length_singleton,
        Shelf.ofWritten_last] at stored
      cases stored
      exact iff_of_true isLive isLast
    · refine iff_of_false (fun live => live ?_) isLast
      simp only [Shelf.ofWritten, if_neg (show ¬ version = 0 by omega),
        if_pos (show version < (earlier ++ [current]).length by omega)] at stored
      obtain ⟨original, _, rfl⟩ := Option.map_eq_some_iff.mp stored
      rfl

/-- What a directory stands for after superseding. -/
theorem Superseded.shelfOf_eq
    {upToVersion : Nat}
    {before after : RunDirectory}
    (complete : Complete env before)
    (superseded :
      Superseded env upToVersion (versions before) before after)
    (version : Nat) :
    shelfOf env after version =
      if version ≤ upToVersion then
        (shelfOf env before version).map SOTBrief.retired
      else
        shelfOf env before version := by
  split
  · rename_i within
    cases stored : shelfOf env before version with
    | some brief =>
        rw [← stored]
        exact superseded.retired version
          ((complete.listed version).mpr (by rw [stored]; rfl)) within
    | none =>
        rcases superseded.retires version with same | ⟨_, retired⟩
        · rw [same, stored]
          rfl
        · rw [retired, stored]
  · rename_i beyond
    rcases superseded.retires version with same | ⟨within, _⟩
    · exact same
    · exact absurd within beyond

/-- One revision adds its brief to the written ones. -/
theorem reviseBrief_written
    {earlier : List SOTBrief}
    {current : SOTBrief}
    {directory : RunDirectory}
    (complete : Complete env directory)
    (rendered : Rendered env directory)
    (onShelf :
      shelfOf env directory = Shelf.ofWritten (earlier ++ [current]))
    {revision : Revision}
    (isField : revision.field ∈ SOTBrief.modelFields) :
    ∃ next,
      revised env current revision = some next ∧
        next.status ≠ .superseded ∧
        Complete env ((reviseBrief env revision).after directory) ∧
        Rendered env ((reviseBrief env revision).after directory) ∧
        shelfOf env ((reviseBrief env revision).after directory) =
          Shelf.ofWritten (earlier ++ [current] ++ [next]) := by
  have stored :
      shelfOf env directory (earlier.length + 1) = some current := by
    rw [onShelf, Shelf.ofWritten_last]
  have isVersion := complete.numbered _ _ stored
  have isLatest : loadLatest env directory = some current := by
    refine (loadLatest_eq_some_iff complete).mpr ⟨isVersion ▸ stored, ?_⟩
    intro version present
    rw [onShelf, Shelf.isSome_ofWritten_iff, List.length_append,
      List.length_singleton] at present
    omega
  obtain ⟨next, isRevised, isNext, isDraft⟩ :=
    exists_revised env current revision
  have superseded := reviseBrief_after complete isLatest isField isRevised
  refine ⟨next, isRevised, by rw [isDraft]; decide, superseded.complete,
    superseded.rendered (rendered.save next), ?_⟩
  funext version
  have written : (earlier ++ [current]).length = current.version := by
    rw [List.length_append, List.length_singleton, isVersion]
  rw [superseded.shelfOf_eq (complete.save next), shelfOf_save, onShelf,
    Shelf.ofWritten_append _ (written.symm ▸ isNext), written]

/-- Revisions add their briefs one after another. -/
theorem exists_holdsWritten
    {revisions : List Revision}
    (areFields : ∀ revision ∈ revisions, revision.field ∈ SOTBrief.modelFields)
    {earlier : List SOTBrief}
    {current : SOTBrief}
    {directory : RunDirectory}
    (complete : Complete env directory)
    (rendered : Rendered env directory)
    (onShelf :
      shelfOf env directory = Shelf.ofWritten (earlier ++ [current]))
    (isLive : current.status ≠ .superseded) :
    ∃ later,
      later.length = revisions.length + 1 ∧
        Written env current revisions later ∧
        HoldsWritten env (earlier ++ later)
          ((revisions.map Operation.revise).foldl
            (fun reached operation => (operation.action env).after reached)
            directory) := by
  induction revisions generalizing earlier current directory with
  | nil =>
      exact ⟨[current], rfl, Written.last current,
        HoldsWritten.of_shelfOf complete rendered onShelf isLive⟩
  | cons revision rest inductionHypothesis =>
      obtain ⟨next, isRevised, nextIsLive, completeAfter, renderedAfter,
        onShelfAfter⟩ :=
        reviseBrief_written complete rendered onShelf
          (areFields revision List.mem_cons_self)
      obtain ⟨later, length, written, holds⟩ :=
        inductionHypothesis
          (fun other member =>
            areFields other (List.mem_cons_of_mem revision member))
          completeAfter renderedAfter onShelfAfter nextIsLive
      refine ⟨current :: later, by simp [length],
        Written.next isRevised written, ?_⟩
      rw [List.append_assoc, List.singleton_append] at holds
      exact holds

/-- The first save in a fresh directory is version one. -/
theorem shelfOf_first
    (start : FreshDirectory)
    {first : SOTBrief}
    (isFirst : first.version = 1) :
    shelfOf env ((save first).after start.files) =
      Shelf.ofWritten ([] ++ [first]) := by
  funext version
  rw [shelfOf_save, Shelf.put, isFirst]
  by_cases isOne : 1 = version
  · subst version
    rfl
  · rw [if_neg isOne, shelfOf_fresh]
    symm
    rw [← Option.not_isSome_iff_eq_none, Shelf.isSome_ofWritten_iff]
    simp
    omega

variable (env)

/--
After every history a crash within the next operation is recovered from exactly
at the safe points; and without a crash revisions leave versions one, two and so
on, of which exactly the last one is not superseded.
-/
theorem recovers_iff_and_holdsWritten
    (start : FreshDirectory) :
    (∀ history operation count,
        Recovers env (directoryAfter env start history) operation count ↔
          SafePoint (directoryAfter env start history) operation count) ∧
      ∀ (first : SOTBrief) (revisions : List Revision),
        first.version = 1 → first.status ≠ .superseded →
          (∀ revision ∈ revisions, revision.field ∈ SOTBrief.modelFields) →
            ∃ written,
              written.length = revisions.length + 1 ∧
                Written env first revisions written ∧
                HoldsWritten env written
                  (directoryAfter env start
                    (.save first :: revisions.map .revise)) := by
  constructor
  · exact fun history =>
      recovers_iff_safePoint env (complete_directoryAfter env start history)
  · intro first revisions isFirst isLive areFields
    have complete := complete_fresh env start
    have rendered : Rendered env start.files := by
      intro version brief stored
      rw [shelfOf_fresh] at stored
      cases stored
    exact exists_holdsWritten areFields (complete.save first)
      (rendered.save first) (shelfOf_first start isFirst) isLive

end Files

/-! ## A crash that hides every brief -/

def plainEnv : BriefEnv where
  intOfText := fun _ => none
  mirrored := fun _ _ snapshot => some snapshot

def emptyDirectory : FreshDirectory where
  files := ∅
  noBriefs := fun _ member => absurd member List.not_mem_nil

def firstBrief : SOTBrief where
  objective := "Pick a switch"
  deliverable := "A comparison"
  isPositive := one_isPositive

def narrowed : Revision where
  field := "in_scope"
  value := "TSN, cost"
  now := "2026-06-02T00:00:00"

/-- One revision leaves two versions, the second one live. -/
theorem holdsWritten_narrowed :
    ∃ written,
      written.length = 2 ∧
        Written plainEnv firstBrief [narrowed] written ∧
        HoldsWritten plainEnv written
          (directoryAfter plainEnv emptyDirectory
            [.save firstBrief, .revise narrowed]) :=
  (recovers_iff_and_holdsWritten plainEnv emptyDirectory).2 firstBrief
    [narrowed] rfl (by decide) (by decide)

/-- After the first write of a revision no brief is loaded at all. -/
theorem not_recovers :
    ¬ ∀ env start history operation count,
      Recovers env (directoryAfter env start history) operation count := by
  intro recovers
  obtain ⟨brief, loaded, _⟩ :=
    recovers plainEnv emptyDirectory [.save firstBrief] (.revise narrowed) 1
  have hidden :
      (loadLatest plainEnv
        ((Operation.action plainEnv (.revise narrowed)).interrupted
          (directoryAfter plainEnv emptyDirectory [.save firstBrief])
          1)).isNone = true := by
    decide +kernel
  rw [loaded] at hidden
  cases hidden

end BriefFiles

end ResearchCos
