import ResearchCos.RankedSources

namespace ResearchCos

open Foundation
open Foundation.StableSort

/-!
# References to duplicates

The ranking drops a source whose address an earlier source has.  The refs of the
claims are pruned to the sources that are left, and the refs of the observations
stay as they are, so support that names a duplicate is lost unless the survivor
is named too.
-/

namespace Ranking

section Pipeline

variable [PythonText]

/-- A source has the address of an earlier one, and neither is junk. -/
def IsDuplicateOf
    (bundle : EvidenceBundle)
    (dropped survivor : Source) : Prop :=
  ∃ earlier later : Nat,
    earlier < later ∧
      bundle.sources[earlier]? = some survivor ∧
      bundle.sources[later]? = some dropped ∧
      isJunk survivor = false ∧
      isJunk dropped = false ∧
      ∃ address,
        normalizeUrl survivor.url = some address ∧
          normalizeUrl dropped.url = some address

/--
A source is one of the best five: among the first sources of every address,
fewer than five are ahead of it.
-/
def Survives (bundle : EvidenceBundle) (source : Source) : Prop :=
  let contenders := firstOfAddress normalizeUrl (withoutJunk bundle.sources)
  ∃ position,
    contenders[position]? = some source ∧
      StableSort.rank (ranksBefore (keywordSet (tokenize bundle.query)))
          contenders (source, position) <
        5

omit [PythonText] in
/-- A text names one of the sources. -/
def Names (sources : List Source) (ref : String) : Prop :=
  ∃ source ∈ sources, source.id = ref

/--
All references lead to sources that are left, and a reference to a dropped
duplicate leads to the source that was kept in its place.
-/
structure KeepsSupport (bundle after : EvidenceBundle) : Prop where
  claimsResolve :
    ∀ claim ∈ after.claims, ∀ ref ∈ claim.sourceRefs, Names after.sources ref
  observationsResolve :
    ∀ observation ∈ after.observations,
      observation.sourceRef ≠ "" → Names after.sources observation.sourceRef
  claimsFollow :
    ∀ dropped survivor,
      IsDuplicateOf bundle dropped survivor → survivor ∈ after.sources →
      ∀ (position : Nat) (claim later : Claim),
        bundle.claims[position]? = some claim →
        after.claims[position]? = some later →
        dropped.id ∈ claim.sourceRefs → survivor.id ∈ later.sourceRefs
  observationsFollow :
    ∀ dropped survivor,
      IsDuplicateOf bundle dropped survivor → survivor ∈ after.sources →
      ∀ (position : Nat) (observation later : FieldObservation),
        bundle.observations[position]? = some observation →
        after.observations[position]? = some later →
        observation.sourceRef ≠ "" → observation.sourceRef = dropped.id →
        later.sourceRef = survivor.id

/--
Every observation names a source that survives, and whatever names a duplicate
of a source that survives names that source itself.
-/
structure NamesSurvivors (bundle : EvidenceBundle) : Prop where
  observations :
    ∀ observation ∈ bundle.observations,
      observation.sourceRef ≠ "" →
      ∃ source, Survives bundle source ∧ source.id = observation.sourceRef
  duplicatesInClaims :
    ∀ dropped survivor,
      IsDuplicateOf bundle dropped survivor → Survives bundle survivor →
      ∀ claim ∈ bundle.claims,
        dropped.id ∈ claim.sourceRefs → survivor.id ∈ claim.sourceRefs
  duplicatesInObservations :
    ∀ dropped survivor,
      IsDuplicateOf bundle dropped survivor → Survives bundle survivor →
      ∀ observation ∈ bundle.observations,
        observation.sourceRef ≠ "" → observation.sourceRef = dropped.id →
        observation.sourceRef = survivor.id

/-! ## What the pipeline leaves -/

/-- No keyword of a query is empty. -/
theorem ne_nil_of_mem_tokenize
    {text : String}
    {word : List Char}
    (member : word ∈ tokenize text) :
    word ≠ [] := by
  have longEnough := List.of_mem_filter member
  rintro rfl
  simp at longEnough

/-- The sources that are left are the ones that survive. -/
theorem mem_apply_sources_iff
    {bundle : EvidenceBundle}
    {source : Source} :
    source ∈ (apply none bundle).sources ↔ Survives bundle source := by
  have ranked :
      (apply none bundle).sources =
        rankBy normalizeUrl bundle.sources (tokenize bundle.query)
          ((5 : Nat) : Int) :=
    (rankBy_normalizeUrl (fun _ => ne_nil_of_mem_tokenize) _ _).symm
  rw [ranked, rankBy_eq_take, Int.toNat_natCast, mem_take_items_iff]
  rfl

/-- A ref stays in a claim when it names a source that is left. -/
theorem mem_apply_refs_iff
    {bundle : EvidenceBundle}
    {position : Nat}
    {claim later : Claim}
    {ref : String}
    (isClaim : bundle.claims[position]? = some claim)
    (isLater : (apply none bundle).claims[position]? = some later) :
    ref ∈ later.sourceRefs ↔
      ref ∈ claim.sourceRefs ∧ Names (apply none bundle).sources ref := by
  have pruned :
      later.sourceRefs =
        claim.sourceRefs.filter fun ref =>
          ref ∈ (apply none bundle).sources.map Source.id := by
    rw [apply, List.getElem?_map, isClaim, Option.map_some,
      Option.some.injEq] at isLater
    rw [← isLater]
    rfl
  rw [pruned, List.mem_filter, decide_eq_true_eq, List.mem_map]
  rfl

/--
The ranking keeps all support exactly when the observations, and whatever names
a duplicate, name sources that survive.
-/
theorem apply_keepsSupport_iff
    (bundle : EvidenceBundle) :
    KeepsSupport bundle (apply none bundle) ↔ NamesSurvivors bundle := by
  have sameObservations :
      (apply none bundle).observations = bundle.observations := rfl
  have named {ref : String} :
      Names (apply none bundle).sources ref ↔
        ∃ source, Survives bundle source ∧ source.id = ref := by
    simp only [Names, mem_apply_sources_iff]
  have prunedAt {position : Nat} {claim : Claim}
      (isClaim : bundle.claims[position]? = some claim) :
      ∃ later, (apply none bundle).claims[position]? = some later := by
    rw [apply, List.getElem?_map, isClaim]
    exact ⟨_, rfl⟩
  constructor
  · intro keeps
    refine ⟨?_, ?_, ?_⟩
    · intro observation member proper
      exact named.mp (keeps.observationsResolve observation member proper)
    · intro dropped survivor duplicate survives claim member cited
      obtain ⟨position, isClaim⟩ := List.mem_iff_getElem?.mp member
      obtain ⟨later, isLater⟩ := prunedAt isClaim
      have follows :=
        keeps.claimsFollow dropped survivor duplicate
          (mem_apply_sources_iff.mpr survives) position claim later isClaim
          isLater cited
      exact ((mem_apply_refs_iff isClaim isLater).mp follows).1
    · intro dropped survivor duplicate survives observation member proper cited
      obtain ⟨position, isObservation⟩ := List.mem_iff_getElem?.mp member
      exact
        keeps.observationsFollow dropped survivor duplicate
          (mem_apply_sources_iff.mpr survives) position observation observation
          isObservation isObservation proper cited
  · intro names
    refine ⟨?_, ?_, ?_, ?_⟩
    · intro later member ref cited
      obtain ⟨position, isLater⟩ := List.mem_iff_getElem?.mp member
      have within := isLater
      rw [apply, List.getElem?_map, Option.map_eq_some_iff] at within
      obtain ⟨claim, isClaim, _⟩ := within
      exact ((mem_apply_refs_iff isClaim isLater).mp cited).2
    · intro observation member proper
      exact named.mpr (names.observations observation member proper)
    · intro dropped survivor duplicate kept position claim later isClaim
        isLater cited
      have survives := mem_apply_sources_iff.mp kept
      have citesSurvivor :=
        names.duplicatesInClaims dropped survivor duplicate survives claim
          (List.mem_of_getElem? isClaim) cited
      exact
        (mem_apply_refs_iff isClaim isLater).mpr
          ⟨citesSurvivor, survivor, kept, rfl⟩
    · intro dropped survivor duplicate kept position observation later
        isObservation isLater proper cited
      rw [sameObservations, isObservation, Option.some.injEq] at isLater
      subst isLater
      exact
        names.duplicatesInObservations dropped survivor duplicate
          (mem_apply_sources_iff.mp kept) observation
          (List.mem_of_getElem? isObservation) proper cited

end Pipeline

/-! ## The second copy of a page -/

/-- A page that was found twice; claim and observation name the second copy. -/
def twiceFound : EvidenceBundle where
  query := "fox"
  sources :=
    [{ id := "S-1", title := "Tale", url := some "https://a.example/fox" },
      { id := "S-2", title := "Tale", url := some "https://a.example/fox" }]
  claims := [{ claim := "it is fast", sourceRefs := ["S-2"] }]
  observations := [{ field := "speed", value := "fast", sourceRef := "S-2" }]

/-- The claim is left without a source, and the observation with a dead ref. -/
theorem twiceFound_loses_support :
    letI := PythonText.ascii
    (apply none twiceFound).sources.map Source.id = ["S-1"] ∧
      (apply none twiceFound).claims.map Claim.sourceRefs = [[]] ∧
      (apply none twiceFound).observations.map FieldObservation.sourceRef =
        ["S-2"] ∧
      ¬KeepsSupport twiceFound (apply none twiceFound) := by
  let _ := PythonText.ascii
  have sources :
      (apply none twiceFound).sources.map Source.id = ["S-1"] := by
    decide +kernel
  have claims :
      (apply none twiceFound).claims.map Claim.sourceRefs = [[]] := by
    decide +kernel
  refine ⟨sources, claims, rfl, ?_⟩
  intro keeps
  obtain ⟨source, member, isNamed⟩ :=
    keeps.observationsResolve
      { field := "speed", value := "fast", sourceRef := "S-2" }
      List.mem_cons_self (by decide)
  have among := List.mem_map_of_mem (f := Source.id) member
  rw [sources, isNamed] at among
  revert among
  decide

end Ranking

end ResearchCos
