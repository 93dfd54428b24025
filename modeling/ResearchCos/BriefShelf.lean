import ResearchCos.SotBrief

namespace ResearchCos

open Foundation

/-!
# The briefs that a run directory stands for

A directory stands for the briefs that can be loaded from it by version.  While
every listed version can be loaded, saving puts a brief on that shelf.  A
rendering above all versions that is alone hides every brief.
-/

/-- The briefs by version. -/
abbrev Shelf :=
  Nat → Option SOTBrief

def SOTBrief.retired (brief : SOTBrief) : SOTBrief :=
  { brief with status := .superseded }

namespace Shelf

def put (shelf : Shelf) (brief : SOTBrief) : Shelf :=
  fun version => if brief.version = version then some brief else shelf version

/-- The brief of the highest version. -/
def IsLatest (shelf : Shelf) (brief : SOTBrief) : Prop :=
  shelf brief.version = some brief ∧
    ∀ version, (shelf version).isSome → version ≤ brief.version

/-- A brief above all others is the latest one once it is there. -/
theorem isLatest_put
    {shelf : Shelf}
    {brief : SOTBrief}
    (above : ∀ version, (shelf version).isSome → version ≤ brief.version) :
    IsLatest (shelf.put brief) brief := by
  refine ⟨if_pos rfl, fun version present => ?_⟩
  unfold put at present
  split at present
  · rename_i same
    exact same.ge
  · exact above version present

/-- Nothing changed but that some versions up to a bound are retired. -/
def Retires (upToVersion : Nat) (before after : Shelf) : Prop :=
  ∀ version,
    after version = before version ∨
      version ≤ upToVersion ∧
        after version = (before version).map SOTBrief.retired

theorem Retires.refl
    (upToVersion : Nat)
    (shelf : Shelf) :
    Retires upToVersion shelf shelf :=
  fun _ => Or.inl rfl

theorem map_retired_map_retired
    (stored : Option SOTBrief) :
    (stored.map SOTBrief.retired).map SOTBrief.retired =
      stored.map SOTBrief.retired := by
  cases stored <;> rfl

theorem Retires.trans
    {upToVersion : Nat}
    {first second third : Shelf}
    (earlier : Retires upToVersion first second)
    (later : Retires upToVersion second third) :
    Retires upToVersion first third := by
  intro version
  rcases later version with same | ⟨within, retires⟩
  · rw [same]
    exact earlier version
  · refine Or.inr ⟨within, ?_⟩
    rcases earlier version with same | ⟨_, retired⟩
    · rw [retires, same]
    · rw [retires, retired, map_retired_map_retired]

/-- Retired versions are still there. -/
theorem Retires.isSome_iff
    {upToVersion : Nat}
    {before after : Shelf}
    (retires : Retires upToVersion before after)
    (version : Nat) :
    (after version).isSome ↔ (before version).isSome := by
  rcases retires version with same | ⟨_, retired⟩
  · rw [same]
  · rw [retired, Option.isSome_map]

/-- The latest brief stays the latest one, retired or not. -/
theorem Retires.isLatest
    {upToVersion : Nat}
    {before after : Shelf}
    {brief : SOTBrief}
    (retires : Retires upToVersion before after)
    (latest : IsLatest before brief) :
    IsLatest after brief ∨
      brief.version ≤ upToVersion ∧ IsLatest after brief.retired := by
  have highest :
      ∀ version, (after version).isSome → version ≤ brief.version :=
    fun version present =>
      latest.2 version ((retires.isSome_iff version).mp present)
  rcases retires brief.version with same | ⟨within, retired⟩
  · exact Or.inl ⟨same.trans latest.1, highest⟩
  · refine Or.inr ⟨within, ?_, highest⟩
    have isRetired := retired
    rw [latest.1] at isRetired
    exact isRetired

/-- Versions one to the number of the briefs; all but the last are retired. -/
def ofWritten (written : List SOTBrief) : Shelf :=
  fun version =>
    if version = 0 then
      none
    else
      written[version - 1]?.map fun brief =>
        if version < written.length then brief.retired else brief

theorem isSome_ofWritten_iff
    (written : List SOTBrief)
    (version : Nat) :
    (ofWritten written version).isSome ↔
      1 ≤ version ∧ version ≤ written.length := by
  unfold ofWritten
  split
  · rename_i isZero
    simp [isZero]
  · rename_i isPositive
    simp only [Option.isSome_map, isSome_getElem?]
    omega

/-- The last of the briefs is not retired. -/
theorem ofWritten_last
    (earlier : List SOTBrief)
    (current : SOTBrief) :
    ofWritten (earlier ++ [current]) (earlier.length + 1) = some current := by
  simp [ofWritten]

/-- Putting the next brief and retiring the older ones adds it to the briefs. -/
theorem ofWritten_append
    (written : List SOTBrief)
    {next : SOTBrief}
    (isNext : next.version = written.length + 1)
    (version : Nat) :
    ofWritten (written ++ [next]) version =
      if version ≤ written.length then
        ((ofWritten written).put next version).map SOTBrief.retired
      else
        (ofWritten written).put next version := by
  simp only [ofWritten, put, isNext, List.length_append,
    List.length_singleton]
  by_cases within : version ≤ written.length
  · rw [if_pos within, if_neg (show ¬ written.length + 1 = version by omega)]
    by_cases isZero : version = 0
    · rw [if_pos isZero, if_pos isZero]
      rfl
    · rw [if_neg isZero, if_neg isZero,
        List.getElem?_append_left (by omega), Option.map_map]
      refine Option.map_congr fun brief _ => ?_
      rw [if_pos (by omega), Function.comp_apply]
      split <;> rfl
  · rw [if_neg within, if_neg (show ¬ version = 0 by omega)]
    by_cases isLast : written.length + 1 = version
    · subst version
      simp
    · rw [if_neg isLast, if_neg (show ¬ version = 0 by omega),
        List.getElem?_eq_none (by simp; omega),
        List.getElem?_eq_none (by omega)]
      rfl

end Shelf

namespace BriefFiles

/-! ## What a directory stands for -/

theorem mem_versions_iff
    {directory : RunDirectory}
    {version : Nat} :
    version ∈ versions directory ↔
      ∃ name ∈ directory.keys, versionOf name = some version := by
  simp only [versions, listVersions, List.mem_insertionSort, List.mem_filterMap,
    List.mem_map, Prod.exists, Option.map_eq_some_iff, Prod.mk.injEq]
  constructor
  · rintro ⟨name, ⟨_, _, ⟨found, inKeys, _, _, rfl, rfl⟩, rfl⟩, isVersion⟩
    exact ⟨found, inKeys, isVersion⟩
  · rintro ⟨name, inKeys, isVersion⟩
    exact ⟨name, ⟨version, name, ⟨name, inKeys, version, isVersion, rfl, rfl⟩,
      rfl⟩, isVersion⟩

theorem pairwise_versions
    (directory : RunDirectory) :
    (versions directory).Pairwise (· ≤ ·) :=
  List.pairwise_insertionSort _ _

theorem mem_keys_insert
    (directory : RunDirectory)
    (name other : String)
    (content : FileContent) :
    other ∈ (directory.insert name content).keys ↔
      other ∈ directory.keys ∨ other = name := by
  rw [OrderedMap.keys_insert]
  split
  · rename_i present
    exact ⟨Or.inl, fun either => either.elim id fun same => same ▸ present⟩
  · simp

/-- A write lists at most the version in the name of its file. -/
theorem mem_versions_insert
    (directory : RunDirectory)
    (name : String)
    (content : FileContent)
    (version : Nat) :
    version ∈ versions (directory.insert name content) ↔
      version ∈ versions directory ∨ versionOf name = some version := by
  simp only [mem_versions_iff, mem_keys_insert]
  constructor
  · rintro ⟨other, listed | rfl, isVersion⟩
    · exact Or.inl ⟨other, listed, isVersion⟩
    · exact Or.inr isVersion
  · rintro (⟨other, listed, isVersion⟩ | isVersion)
    · exact ⟨other, Or.inl listed, isVersion⟩
    · exact ⟨name, Or.inr rfl, isVersion⟩

section Files

variable (env : BriefEnv)

/-- The shelf that a directory stands for. -/
def shelfOf (directory : RunDirectory) : Shelf :=
  fun version => loadVersion env version directory

/-- A write to a file that is no document of a brief changes no brief. -/
theorem shelfOf_insert_of_ne
    {name : String}
    (other : ∀ version, jsonName version ≠ name)
    (directory : RunDirectory)
    (content : FileContent) :
    shelfOf env (directory.insert name content) = shelfOf env directory := by
  funext version
  simp only [shelfOf, loadVersion, OrderedMap.get?_insert,
    if_neg (other version).symm]

/-- Writing the document of a brief puts it on the shelf. -/
theorem shelfOf_insert_jsonName
    (directory : RunDirectory)
    (brief : SOTBrief) :
    shelfOf env
        (directory.insert (jsonName brief.version)
          (.json (.dict brief.modelDump))) =
      (shelfOf env directory).put brief := by
  funext version
  simp only [shelfOf, loadVersion, OrderedMap.get?_insert, Shelf.put,
    jsonName_injective.eq_iff]
  by_cases same : brief.version = version
  · rw [if_pos same, if_pos same]
    exact SOTBrief.modelValidate_modelDump env.intOfText brief
  · rw [if_neg same, if_neg same]

/-- Every listed version can be loaded, and the brief knows its version. -/
structure Complete (directory : RunDirectory) : Prop where
  listed :
    ∀ version,
      version ∈ versions directory ↔ (shelfOf env directory version).isSome
  numbered :
    ∀ version brief,
      shelfOf env directory version = some brief → brief.version = version
  canonical :
    ∀ name ∈ directory.keys, ∀ version,
      versionOf name = some version → name = mdName version

/-- Every brief has the rendering that goes with it. -/
def Rendered (directory : RunDirectory) : Prop :=
  ∀ version brief,
    shelfOf env directory version = some brief →
      directory.get? (mdName version) = some (.text brief.toMarkdown)

variable {env}

/-- The last of the listed versions is the highest. -/
theorem getLast?_versions_eq_some_iff
    {directory : RunDirectory}
    {version : Nat} :
    (versions directory).getLast? = some version ↔
      version ∈ versions directory ∧
        ∀ other ∈ versions directory, other ≤ version := by
  have isHighest :
      ∀ {last}, (versions directory).getLast? = some last →
        ∀ other ∈ versions directory, other ≤ last := by
    intro last isLast other listed
    have ordered := pairwise_versions directory
    obtain ⟨earlier, shape⟩ := List.getLast?_eq_some_iff.mp isLast
    rw [shape] at ordered listed
    rcases List.mem_append.mp listed with inEarlier | atEnd
    · exact (List.pairwise_append.mp ordered).2.2 other inEarlier last
        List.mem_cons_self
    · exact (List.mem_singleton.mp atEnd).le
  constructor
  · intro isLast
    exact ⟨List.mem_of_getLast? isLast, isHighest isLast⟩
  · rintro ⟨listed, highest⟩
    cases isLast : (versions directory).getLast? with
    | none =>
        rw [List.getLast?_eq_none_iff.mp isLast] at listed
        cases listed
    | some last =>
        have same : last = version :=
          le_antisymm (highest last (List.mem_of_getLast? isLast))
            (isHighest isLast version listed)
        rw [same]

/-- No version is listed twice. -/
theorem nodup_versions
    {directory : RunDirectory}
    (complete : Complete env directory) :
    (versions directory).Nodup := by
  have isPerm :
      (listVersions directory).Perm
        (directory.keys.filter fun name => (versionOf name).isSome) := by
    refine ((List.perm_insertionSort _ _).map _).trans ?_
    rw [List.map_filterMap, ← List.filterMap_eq_filter]
    refine List.Perm.of_eq (List.filterMap_congr fun name _ => ?_)
    cases isVersion : versionOf name <;> simp [Option.guard, isVersion]
  have nodupNames : (listVersions directory).Nodup :=
    isPerm.nodup_iff.mpr (directory.nodupKeys.filter _)
  have inKeys : ∀ name ∈ listVersions directory, name ∈ directory.keys :=
    fun name listed => (List.mem_filter.mp (isPerm.mem_iff.mp listed)).1
  refine (List.perm_insertionSort _ _).nodup_iff.mpr
    (List.pairwise_filterMap.mpr (nodupNames.imp_of_mem ?_))
  rintro first second firstListed secondListed differs version isFirst _
    isSecond rfl
  exact differs
    ((complete.canonical first (inKeys first firstListed) version isFirst).trans
      (complete.canonical second (inKeys second secondListed) version
        isSecond).symm)

/-- Where the shelf holds the first versions, exactly these are listed. -/
theorem versions_eq_range'
    {directory : RunDirectory}
    (complete : Complete env directory)
    {count : Nat}
    (onShelf :
      ∀ version,
        (shelfOf env directory version).isSome ↔
          1 ≤ version ∧ version ≤ count) :
    versions directory = List.range' 1 count := by
  refine List.Perm.eq_of_pairwise (fun _ _ _ _ => Nat.le_antisymm)
    (pairwise_versions directory)
    ((List.pairwise_lt_range' 1).imp Nat.le_of_lt) ?_
  refine (List.perm_ext_iff_of_nodup (nodup_versions complete)
    (List.nodup_range' 1)).mpr fun version => ?_
  rw [complete.listed, onShelf, List.mem_range'_1]
  omega

/-- The latest brief that is loaded is the one of the shelf. -/
theorem loadLatest_eq_some_iff
    {directory : RunDirectory}
    (complete : Complete env directory)
    {brief : SOTBrief} :
    loadLatest env directory = some brief ↔
      (shelfOf env directory).IsLatest brief := by
  unfold loadLatest
  rw [Option.bind_eq_some_iff]
  constructor
  · rintro ⟨version, isLast, loaded⟩
    obtain ⟨_, highest⟩ := getLast?_versions_eq_some_iff.mp isLast
    have isVersion := complete.numbered version brief loaded
    subst version
    exact ⟨loaded, fun other present =>
      highest other ((complete.listed other).mpr present)⟩
  · rintro ⟨stored, highest⟩
    refine ⟨brief.version, getLast?_versions_eq_some_iff.mpr ⟨?_, ?_⟩, stored⟩
    · exact (complete.listed _).mpr (Option.isSome_iff_exists.mpr ⟨_, stored⟩)
    · exact fun other listed =>
        highest other ((complete.listed other).mp listed)

/-- Where a version is listed, one brief is the latest. -/
theorem exists_loadLatest
    {directory : RunDirectory}
    (complete : Complete env directory)
    (some_listed : versions directory ≠ []) :
    ∃ brief, loadLatest env directory = some brief := by
  obtain ⟨last, isLast⟩ : ∃ last, (versions directory).getLast? = some last :=
    Option.isSome_iff_exists.mp (by simpa using some_listed)
  obtain ⟨brief, loaded⟩ := Option.isSome_iff_exists.mp
    ((complete.listed last).mp (List.mem_of_getLast? isLast))
  exact ⟨brief, Option.bind_eq_some_iff.mpr ⟨last, isLast, loaded⟩⟩

/-! ## One save -/

/-- A name that lists a version is its canonical one. -/
theorem canonical_insert
    {directory : RunDirectory}
    (canonical :
      ∀ name ∈ directory.keys, ∀ version,
        versionOf name = some version → name = mdName version)
    {name : String}
    (isCanonical :
      ∀ version, versionOf name = some version → name = mdName version)
    (content : FileContent) :
    ∀ other ∈ (directory.insert name content).keys, ∀ version,
      versionOf other = some version → other = mdName version := by
  intro other present
  rcases (mem_keys_insert _ _ _ _).mp present with before | rfl
  · exact canonical other before
  · exact isCanonical

/-- After the rendering of a listed version nothing else is to be done. -/
theorem Complete.insert_mdName
    {directory : RunDirectory}
    (complete : Complete env directory)
    {version : Nat}
    (listed : version ∈ versions directory)
    (content : FileContent) :
    Complete env (directory.insert (mdName version) content) := by
  have sameShelf :=
    shelfOf_insert_of_ne env (fun other => (mdName_ne_jsonName version other).symm)
      directory content
  refine ⟨fun other => ?_, fun other brief stored => ?_,
    canonical_insert complete.canonical ?_ content⟩
  · rw [mem_versions_insert, versionOf_mdName, sameShelf,
      ← complete.listed other]
    refine ⟨fun either => either.elim id ?_, Or.inl⟩
    intro same
    cases same
    exact listed
  · rw [sameShelf] at stored
    exact complete.numbered other brief stored
  · intro other isVersion
    rw [versionOf_mdName] at isVersion
    cases isVersion
    rfl

/-- Both writes of a brief put it on the shelf. -/
theorem save_after
    (directory : RunDirectory)
    (brief : SOTBrief) :
    (save brief).after directory =
      (directory.insert (mdName brief.version) (.text brief.toMarkdown)).insert
        (jsonName brief.version) (.json (.dict brief.modelDump)) :=
  rfl

/-- A crash after the first write leaves the rendering alone. -/
theorem save_interrupted_one
    (directory : RunDirectory)
    (brief : SOTBrief) :
    (save brief).interrupted directory 1 =
      directory.insert (mdName brief.version) (.text brief.toMarkdown) :=
  rfl

theorem save_interrupted_of_two_le
    (directory : RunDirectory)
    (brief : SOTBrief)
    {count : Nat}
    (late : 2 ≤ count) :
    (save brief).interrupted directory count = (save brief).after directory :=
  Action.interrupted_of_length_le _ _ late

theorem shelfOf_save
    (directory : RunDirectory)
    (brief : SOTBrief) :
    shelfOf env ((save brief).after directory) =
      (shelfOf env directory).put brief := by
  rw [save_after, shelfOf_insert_jsonName,
    shelfOf_insert_of_ne env fun other =>
      (mdName_ne_jsonName brief.version other).symm]

theorem mem_versions_save
    (directory : RunDirectory)
    (brief : SOTBrief)
    (version : Nat) :
    version ∈ versions ((save brief).after directory) ↔
      version ∈ versions directory ∨ brief.version = version := by
  rw [save_after, mem_versions_insert, mem_versions_insert, versionOf_mdName,
    versionOf_jsonName]
  simp

theorem Complete.save
    {directory : RunDirectory}
    (complete : Complete env directory)
    (brief : SOTBrief) :
    Complete env ((BriefFiles.save brief).after directory) := by
  refine ⟨fun version => ?_, fun version stored => ?_, ?_⟩
  · rw [mem_versions_save, shelfOf_save, complete.listed, Shelf.put]
    split
    · rename_i same
      simp [same]
    · rename_i differs
      simp [differs]
  · rw [shelfOf_save, Shelf.put]
    split
    · rename_i same
      rintro isStored
      cases isStored
      exact same
    · exact complete.numbered version stored
  · refine canonical_insert (canonical_insert complete.canonical ?_ _) ?_ _
    · intro version isVersion
      rw [versionOf_mdName] at isVersion
      cases isVersion
      rfl
    · intro version isVersion
      rw [versionOf_jsonName] at isVersion
      cases isVersion

theorem Rendered.save
    {directory : RunDirectory}
    (rendered : Rendered env directory)
    (brief : SOTBrief) :
    Rendered env ((BriefFiles.save brief).after directory) := by
  intro version stored isStored
  rw [shelfOf_save, Shelf.put] at isStored
  rw [save_after, OrderedMap.get?_insert,
    if_neg (mdName_ne_jsonName version brief.version).symm,
    OrderedMap.get?_insert]
  split at isStored
  · rename_i same
    cases isStored
    exact if_pos (congrArg mdName same)
  · rename_i differs
    rw [if_neg fun same => differs (mdName_injective same)]
    exact rendered version stored isStored

/-- A rendering above all versions hides every brief while it is alone. -/
theorem loadLatest_of_rendering_alone
    {directory : RunDirectory}
    (complete : Complete env directory)
    {version : Nat}
    (above : ∀ other ∈ versions directory, other < version)
    (content : FileContent) :
    loadLatest env (directory.insert (mdName version) content) = none := by
  have isLast :
      (versions (directory.insert (mdName version) content)).getLast? =
        some version := by
    refine getLast?_versions_eq_some_iff.mpr ⟨?_, fun other listed => ?_⟩
    · exact (mem_versions_insert _ _ _ _).mpr (Or.inr (versionOf_mdName _))
    · rcases (mem_versions_insert _ _ _ _).mp listed with before | isNew
      · exact (above other before).le
      · rw [versionOf_mdName] at isNew
        exact (Option.some.inj isNew).ge
  have sameShelf :=
    shelfOf_insert_of_ne env (fun other => (mdName_ne_jsonName version other).symm)
      directory content
  have absent : shelfOf env directory version = none := by
    cases stored : shelfOf env directory version with
    | none =>
        rfl
    | some brief =>
        have listed := (complete.listed version).mpr (by rw [stored]; rfl)
        exact absurd (above version listed) (Nat.lt_irrefl version)
  unfold loadLatest
  rw [isLast]
  exact (congrFun sameShelf version).trans absent

/-- A rendering that is not above all versions hides nothing. -/
theorem loadLatest_of_rendering_below
    {directory : RunDirectory}
    {version higher : Nat}
    (listed : higher ∈ versions directory)
    (below : version ≤ higher)
    (content : FileContent) :
    loadLatest env (directory.insert (mdName version) content) =
      loadLatest env directory := by
  obtain ⟨last, isLast⟩ : ∃ last, (versions directory).getLast? = some last :=
    Option.isSome_iff_exists.mp
      (by simpa using List.ne_nil_of_mem listed)
  obtain ⟨lastListed, highest⟩ := getLast?_versions_eq_some_iff.mp isLast
  have isStillLast :
      (versions (directory.insert (mdName version) content)).getLast? =
        some last := by
    refine getLast?_versions_eq_some_iff.mpr ⟨?_, fun other present => ?_⟩
    · exact (mem_versions_insert _ _ _ _).mpr (Or.inl lastListed)
    · rcases (mem_versions_insert _ _ _ _).mp present with before | isNew
      · exact highest other before
      · rw [versionOf_mdName] at isNew
        cases isNew
        exact below.trans (highest higher listed)
  have sameShelf :=
    shelfOf_insert_of_ne env (fun other => (mdName_ne_jsonName version other).symm)
      directory content
  unfold loadLatest
  rw [isStillLast, isLast]
  exact congrFun sameShelf last

end Files

end BriefFiles

end ResearchCos
