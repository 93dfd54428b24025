import ResearchCos.CellGates
import ResearchCos.EvidenceProducers
import ResearchCos.Foundation.LabelledRun
import ResearchCos.WorkerProxy

namespace ResearchCos

open Foundation

/-!
# Fetching the documents that were found

A researcher on the web downloads the documents among its sources into a folder
and extracts each one there.  The researchers of one fan-out take turns in any
order, between the download of a document and its extraction too.
-/

abbrev Bytes :=
  List UInt8

/-- How a download ends. -/
inductive Download where
  | document (bytes : Bytes)
  /-- The destination was not opened. -/
  | unreachable
  /-- The connection broke after the destination was opened. -/
  | broken
  deriving Repr, DecidableEq

/-- The files that were downloaded. -/
abbrev FetchedFiles :=
  OrderedMap ReferencePath Bytes

/-- What a researcher needs besides the model; a backend may raise. -/
structure RetrievalEnv where
  download : String → Download
  useDocling : Bool
  docling : Bytes → Option String
  pymupdf4llm : Bytes → Option String
  pypdf : Bytes → Option String
  /-- The rounds that the documents of a bundle are gone through at most. -/
  maxRounds : Nat

namespace DocExtract

variable (env : RetrievalEnv)

/-- The backends in the order in which they are tried. -/
def chain : List (String × (Bytes → Option String)) :=
  let base := [("pymupdf4llm", env.pymupdf4llm), ("pypdf", env.pypdf)]
  if env.useDocling then ("docling", env.docling) :: base else base

/-- The text of the first backend that finds one, with its name. -/
def extractDoc (file : Option Bytes) : String × String :=
  let tried :=
    (chain env).findSome? fun (name, extract) =>
      match file.bind extract with
      | none => none
      | some text => if strip text = "" then none else some (text, name)
  tried.getD ("", "none")

end DocExtract

namespace Retrieval

/-- A URL without its query. -/
def beforeQuery (url : String) : List Char :=
  url.toList.takeWhile (· ≠ '?')

/-- The part of a path after its last separator. -/
def basename (path : List Char) : String :=
  String.ofList (path.reverse.takeWhile (· ≠ '/')).reverse

/-- Where the document of a URL is stored. -/
def destination (runId url : String) : ReferencePath :=
  ["runs", runId, "reference", "fetched",
    orDefault (some (basename (beforeQuery url))) "doc.pdf"]

/-- What a download leaves at its destination, unless it leaves it alone. -/
def written : Download → Option Bytes
  | .document bytes => some bytes
  | .unreachable => none
  | .broken => some []

/-- The files after a download. -/
def store
    (files : FetchedFiles)
    (path : ReferencePath)
    (download : Download) : FetchedFiles :=
  match written download with
  | none => files
  | some bytes => files.insert path bytes

/-- The text of the document at a URL. -/
def documentText (env : RetrievalEnv) (url : String) : String :=
  match env.download url with
  | .document bytes => (DocExtract.extractDoc env (some bytes)).1
  | .unreachable
  | .broken => ""

section Documents

variable [PythonText]

def isDocUrl (url : Option String) : Bool :=
  match url with
  | none => false
  | some url =>
      ".pdf".toList.isSuffixOf (PythonText.lower (beforeQuery url))

end Documents

end Retrieval

/-! ## One researcher -/

/-- What one extraction call returns. -/
structure RawExtraction where
  claims : List RawClaim := []
  observations : List RawObservation := []
  deriving Repr, DecidableEq

/-- A call that has returned a text, with what was extracted from it. -/
structure FetchCall where
  source : Source
  text : String
  claims : List Claim := []
  observations : List FieldObservation := []
  deriving Repr, DecidableEq

inductive EscalationStatus where
  | running
  | returned
  | raised
  deriving Repr, DecidableEq

/--
A researcher that fetches the documents of its bundle.  What the search found
and what the calls have returned is kept for statements about both.
-/
structure Escalation where
  proxy : ResearchState
  searched : EvidenceBundle
  bundle : EvidenceBundle
  roundsLeft : Nat
  fetched : List String := []
  todo : List (Nat × Source) := []
  inFlight : Bool := false
  anyNew : Bool := false
  fetchTried : Bool := false
  extractTried : Bool := false
  roundsNoNew : Nat := 0
  status : EscalationStatus := .running
  calls : List FetchCall := []

namespace Escalation

/-- The cell of the bundle, as far as the researcher knows the plan. -/
def cell? (escalation : Escalation) : Option TaskCell :=
  escalation.proxy.taskGrid.bind fun grid =>
    escalation.bundle.issueId.bind grid.cells.get?

def criteria (escalation : Escalation) : List String :=
  match escalation.cell? with
  | none => []
  | some cell => cell.successCriteria

/-- The source whose document is to be fetched next, or is being fetched. -/
def current? (escalation : Escalation) : Option Source :=
  match escalation.status, escalation.todo with
  | .running, (_, source) :: _ => some source
  | _, _ => none

/-- The URL of a source. -/
def urlOf (source : Source) : String :=
  source.url.getD ""

/-- Where the researcher stores the document of a source. -/
def destinationOf (escalation : Escalation) (source : Source) :
    ReferencePath :=
  Retrieval.destination escalation.proxy.runId (urlOf source)

/-- The source whose document was stored and not read yet. -/
def waiting? (escalation : Escalation) : Option Source :=
  if escalation.inFlight then escalation.current? else none

section Rounds

variable [PythonText]

/-- The documents of a bundle that were not fetched yet, by position. -/
def docsToFetch
    (bundle : EvidenceBundle)
    (fetched : List String) : List (Nat × Source) :=
  bundle.sources.zipIdx.filterMap fun (source, position) =>
    if Retrieval.isDocUrl source.url && source.id ∉ fetched then
      some (position, source)
    else
      none

/-- Whether the public sources of the bundle are used up. -/
def exhausted (escalation : Escalation) : Bool :=
  let drained :=
    (docsToFetch escalation.bundle escalation.fetched).isEmpty
  match escalation.cell? with
  | none => drained
  | some cell =>
      let filled := CellGates.filledFields cell [escalation.bundle]
      (cell.successCriteria ≠ [] && CellGates.criteriaSubset cell filled) ||
        ((escalation.fetchTried || drained) &&
          (escalation.extractTried || drained)) ||
        decide (2 ≤ escalation.roundsNoNew)

def stampExhausted (escalation : Escalation) : Escalation :=
  { escalation with
    bundle :=
      { escalation.bundle with publicExhausted := escalation.exhausted }
    todo := []
    status := .returned }

/-- Begin another round, if there is one and it has something to fetch. -/
def nextRound (escalation : Escalation) : Escalation :=
  match escalation.roundsLeft with
  | 0 => escalation.stampExhausted
  | later + 1 =>
      match docsToFetch escalation.bundle escalation.fetched with
      | [] => escalation.stampExhausted
      | todo =>
          { escalation with
            roundsLeft := later
            todo := todo
            anyNew := false }

/-- Go on with the rest of the round. -/
def afterCall
    (escalation : Escalation)
    (rest : List (Nat × Source)) : Escalation :=
  match rest with
  | _ :: _ => { escalation with todo := rest }
  | [] =>
      if escalation.anyNew then
        { escalation with roundsNoNew := 0 }.nextRound
      else
        { escalation with
          roundsNoNew := escalation.roundsNoNew + 1 }.stampExhausted

/-- The researcher after its search. -/
def start
    (env : RetrievalEnv)
    (proxy : ResearchState)
    (searched : EvidenceBundle) : Escalation :=
  { proxy := proxy
    searched := searched
    bundle := searched
    roundsLeft := env.maxRounds : Escalation }.nextRound

omit [PythonText] in
/-- The claims of an extraction, under the source of the document. -/
def extractedClaims (sourceId : String) (raw : RawExtraction) : List Claim :=
  raw.claims.map fun found =>
    { claim := found.claim
      sourceRefs := [sourceId]
      confidence := found.confidence
      notes := strip (found.quote.getD "") }

omit [PythonText] in
/-- The observations of the target fields, under the source of the document. -/
def extractedObservations
    (sourceId : String)
    (criteria : List String)
    (raw : RawExtraction) : List FieldObservation :=
  (raw.observations.filter fun found =>
    criteria = [] || found.field ∈ criteria).map fun found =>
      { field := found.field
        value := found.value
        sourceRef := sourceId
        quote := found.quote
        confidence := found.confidence }

omit [PythonText] in
/-- One extraction over a document; `none` when it raises. -/
def extractFromText
    (sourceId : String)
    (criteria : List String)
    (extraction : Option RawExtraction) :
    Option (List Claim × List FieldObservation) :=
  extraction.bind fun raw =>
    let claims := extractedClaims sourceId raw
    let observations := extractedObservations sourceId criteria raw
    if (∀ claim ∈ claims, InRange claim.confidence) ∧
        ∀ observation ∈ observations, InRange observation.confidence then
      some (claims, observations)
    else
      none

/-- Take a returned text over, with what the model extracts from it. -/
def conclude
    (escalation : Escalation)
    (position : Nat)
    (source : Source)
    (rest : List (Nat × Source))
    (text : String)
    (extraction : Option RawExtraction) : Escalation :=
  let call : FetchCall := { source := source, text := text }
  if text = "" then
    { escalation with
      inFlight := false
      calls := escalation.calls ++ [call] }.afterCall rest
  else
    match extractFromText source.id escalation.criteria extraction with
    | none =>
        { escalation with
          inFlight := false
          status := .raised
          calls := escalation.calls ++ [call] }
    | some (claims, observations) =>
        { escalation with
          inFlight := false
          extractTried := true
          anyNew :=
            escalation.anyNew || !claims.isEmpty || !observations.isEmpty
          bundle :=
            { escalation.bundle with
              sources :=
                escalation.bundle.sources.modify position fun cited =>
                  { cited with
                    excerpt := String.ofList (text.toList.take 2000) }
              claims := escalation.bundle.claims ++ claims
              observations := escalation.bundle.observations ++ observations }
          calls :=
            escalation.calls ++
              [{ call with
                  claims := claims
                  observations := observations }] }.afterCall rest

end Rounds

end Escalation

/-! ## The fan-out -/

/-- The researchers of one fan-out, with the files they share. -/
structure FetchFanOut where
  files : FetchedFiles
  researchers : List Escalation

/-- One of the two steps of a call; the second ends with an extraction. -/
inductive FetchMove where
  | write (researcher : Nat)
  | extract (researcher : Nat) (extraction : Option RawExtraction)
  deriving Repr, DecidableEq

namespace FetchFanOut

variable [PythonText]

omit [PythonText] in
/-- A source counts as fetched from the moment its call begins. -/
def begin (escalation : Escalation) (source : Source) : Escalation :=
  { escalation with
    fetched := escalation.fetched ++ [source.id]
    fetchTried := true }

/-- The researchers after their searches, each on a proxy of its own. -/
def start
    (env : RetrievalEnv)
    (state : ResearchState)
    (files : FetchedFiles)
    (found : List (String × EvidenceBundle)) : FetchFanOut where
  files := files
  researchers :=
    found.map fun (issueId, searched) =>
      Escalation.start env (buildWorkerProxy state issueId) searched

/-- Download a document; a call that fails there has returned. -/
def write
    (env : RetrievalEnv)
    (escalation : Escalation)
    (files : FetchedFiles) : Option (Escalation × FetchedFiles) :=
  match escalation.status, escalation.inFlight, escalation.todo with
  | .running, false, (position, source) :: rest =>
      let download := env.download (Escalation.urlOf source)
      let begun := begin escalation source
      let stored :=
        Retrieval.store files (escalation.destinationOf source) download
      match download with
      | .document _ => some ({ begun with inFlight := true }, stored)
      | .unreachable
      | .broken => some (begun.conclude position source rest "" none, stored)
  | _, _, _ => none

/-- Extract what the destination of a call holds. -/
def extract
    (env : RetrievalEnv)
    (escalation : Escalation)
    (files : FetchedFiles)
    (extraction : Option RawExtraction) : Option Escalation :=
  match escalation.status, escalation.inFlight, escalation.todo with
  | .running, true, (position, source) :: rest =>
      let text :=
        (DocExtract.extractDoc env
          (files.get? (escalation.destinationOf source))).1
      some (escalation.conclude position source rest text extraction)
  | _, _, _ => none

/-- One step of one call. -/
def step
    (env : RetrievalEnv)
    (fanOut : FetchFanOut)
    (move : FetchMove) : Option FetchFanOut :=
  match move with
  | .write researcher => do
      let escalation ← fanOut.researchers[researcher]?
      let (begun, files) ← write env escalation fanOut.files
      some
        { files := files
          researchers := fanOut.researchers.set researcher begun }
  | .extract researcher extraction => do
      let escalation ← fanOut.researchers[researcher]?
      let concluded ← extract env escalation fanOut.files extraction
      some
        { fanOut with
          researchers := fanOut.researchers.set researcher concluded }

end FetchFanOut

/-! ## What a researcher records -/

/-- What a source is known by. -/
def Source.name (source : Source) : String × Option String :=
  (source.id, source.url)

def EvidenceBundle.sourceNames (bundle : EvidenceBundle) :
    List (String × Option String) :=
  bundle.sources.map Source.name

namespace Escalation

/--
Every call belongs to a source of the bundle, and what was added to the bundle
was extracted in a call of the source that it names.
-/
structure Recorded (escalation : Escalation) : Prop where
  names :
    escalation.bundle.sourceNames = escalation.searched.sourceNames
  todo :
    ∀ entry ∈ escalation.todo,
      entry.2.name ∈ escalation.searched.sourceNames
  sources :
    ∀ call ∈ escalation.calls,
      call.source.name ∈ escalation.searched.sourceNames
  claims :
    ∀ claim ∈ escalation.bundle.claims,
      claim ∈ escalation.searched.claims ∨
        ∃ call ∈ escalation.calls,
          claim ∈ call.claims ∧ claim.sourceRefs = [call.source.id]
  observations :
    ∀ observation ∈ escalation.bundle.observations,
      observation ∈ escalation.searched.observations ∨
        ∃ call ∈ escalation.calls,
          observation ∈ call.observations ∧
            observation.sourceRef = call.source.id

/-- The texts that were returned are those of the documents. -/
def TextsMatch (env : RetrievalEnv) (escalation : Escalation) : Prop :=
  ∀ call ∈ escalation.calls,
    call.text = Retrieval.documentText env (urlOf call.source)

variable [PythonText]

/-- Between two calls a researcher keeps what it has recorded. -/
structure KeepsRecord (before after : Escalation) : Prop where
  proxy : after.proxy = before.proxy
  searched : after.searched = before.searched
  calls : after.calls = before.calls
  inFlight : after.inFlight = before.inFlight
  claims : after.bundle.claims = before.bundle.claims
  observations : after.bundle.observations = before.bundle.observations
  names : after.bundle.sourceNames = before.bundle.sourceNames

theorem stampExhausted_keeps
    (escalation : Escalation) :
    KeepsRecord escalation escalation.stampExhausted :=
  ⟨rfl, rfl, rfl, rfl, rfl, rfl, rfl⟩

theorem nextRound_keeps
    (escalation : Escalation) :
    KeepsRecord escalation escalation.nextRound := by
  simp only [nextRound]
  split
  · exact stampExhausted_keeps escalation
  · split
    · exact stampExhausted_keeps escalation
    · exact ⟨rfl, rfl, rfl, rfl, rfl, rfl, rfl⟩

theorem afterCall_keeps
    (escalation : Escalation)
    (rest : List (Nat × Source)) :
    KeepsRecord escalation (escalation.afterCall rest) := by
  simp only [afterCall]
  split
  · exact ⟨rfl, rfl, rfl, rfl, rfl, rfl, rfl⟩
  · split
    · obtain ⟨proxy, searched, calls, inFlight, claims, observations,
        names⟩ := nextRound_keeps { escalation with roundsNoNew := 0 }
      exact
        ⟨proxy, searched, calls, inFlight, claims, observations, names⟩
    · exact ⟨rfl, rfl, rfl, rfl, rfl, rfl, rfl⟩

/-- A document that is to be fetched is one of the bundle. -/
theorem docsToFetch_named
    {bundle : EvidenceBundle}
    {fetched : List String}
    {entry : Nat × Source}
    (member : entry ∈ docsToFetch bundle fetched) :
    entry.2.name ∈ bundle.sourceNames := by
  simp only [docsToFetch, List.mem_filterMap, Prod.exists,
    Option.ite_none_right_eq_some, Option.some.injEq] at member
  obtain ⟨source, position, inBundle, _, rfl⟩ := member
  exact List.mem_map_of_mem (List.fst_mem_of_mem_zipIdx inBundle)

theorem nextRound_todo
    (escalation : Escalation) :
    ∀ entry ∈ escalation.nextRound.todo,
      entry.2.name ∈ escalation.bundle.sourceNames := by
  intro entry member
  simp only [nextRound] at member
  split at member
  · cases member
  · split at member
    · cases member
    · exact docsToFetch_named member

theorem afterCall_todo
    (escalation : Escalation)
    (rest : List (Nat × Source)) :
    ∀ entry ∈ (escalation.afterCall rest).todo,
      entry ∈ rest ∨ entry.2.name ∈ escalation.bundle.sourceNames := by
  intro entry member
  simp only [afterCall] at member
  split at member
  · exact Or.inl member
  · split at member
    · exact
        Or.inr
          (nextRound_todo { escalation with roundsNoNew := 0 } entry member)
    · cases member

omit [PythonText] in
/-- Records carry over to a later point between two calls. -/
theorem Recorded.of_keeps
    {before after : Escalation}
    (recorded : Recorded before)
    (keeps : KeepsRecord before after)
    (todo :
      ∀ entry ∈ after.todo,
        entry.2.name ∈ before.searched.sourceNames) :
    Recorded after where
  names := by
    rw [keeps.names, keeps.searched]
    exact recorded.names
  todo := by
    rw [keeps.searched]
    exact todo
  sources := by
    rw [keeps.calls, keeps.searched]
    exact recorded.sources
  claims := by
    rw [keeps.claims, keeps.calls, keeps.searched]
    exact recorded.claims
  observations := by
    rw [keeps.observations, keeps.calls, keeps.searched]
    exact recorded.observations

/-- A researcher starts with the records of its search. -/
theorem start_recorded
    (env : RetrievalEnv)
    (proxy : ResearchState)
    (searched : EvidenceBundle) :
    Recorded (start env proxy searched) := by
  let before : Escalation :=
    { proxy := proxy
      searched := searched
      bundle := searched
      roundsLeft := env.maxRounds }
  have recorded : Recorded before :=
    { names := rfl
      todo := fun _ member => nomatch member
      sources := fun _ member => nomatch member
      claims := fun _ member => Or.inl member
      observations := fun _ member => Or.inl member }
  exact
    recorded.of_keeps (nextRound_keeps before) (nextRound_todo before)

/-- The rest of a round goes on with the records of the call before it. -/
theorem Recorded.afterCall
    {escalation : Escalation}
    (recorded : Recorded escalation)
    {rest : List (Nat × Source)}
    (todo :
      ∀ entry ∈ rest,
        entry.2.name ∈ escalation.searched.sourceNames) :
    Recorded (escalation.afterCall rest) := by
  refine recorded.of_keeps (afterCall_keeps escalation rest) ?_
  intro entry member
  rcases afterCall_todo escalation rest entry member with inRest | named
  · exact todo entry inRest
  · rw [← recorded.names]
    exact named

omit [PythonText] in
/-- A call that adds nothing to the bundle is recorded. -/
theorem Recorded.addCall
    {escalation : Escalation}
    (recorded : Recorded escalation)
    {call : FetchCall}
    (named : call.source.name ∈ escalation.searched.sourceNames) :
    Recorded { escalation with calls := escalation.calls ++ [call] } where
  names := recorded.names
  todo := recorded.todo
  sources := by
    intro earlier member
    rcases List.mem_append.mp member with before | new
    · exact recorded.sources earlier before
    · cases List.mem_singleton.mp new
      exact named
  claims := by
    intro claim member
    rcases recorded.claims claim member with searched | ⟨earlier, inCalls, own⟩
    · exact Or.inl searched
    · exact Or.inr ⟨earlier, List.mem_append_left _ inCalls, own⟩
  observations := by
    intro observation member
    rcases recorded.observations observation member with
      searched | ⟨earlier, inCalls, own⟩
    · exact Or.inl searched
    · exact Or.inr ⟨earlier, List.mem_append_left _ inCalls, own⟩

omit [PythonText] in
/-- Another excerpt leaves a source its name. -/
theorem map_name_modify
    (sources : List Source)
    (position : Nat)
    (text : String) :
    (sources.modify position fun cited =>
        { cited with excerpt := text }).map Source.name =
      sources.map Source.name := by
  induction sources generalizing position with
  | nil =>
      simp
  | cons head rest inductionHypothesis =>
      cases position with
      | zero =>
          rfl
      | succ position =>
          simp only [List.modify_succ_cons, List.map_cons,
            inductionHypothesis]

omit [PythonText] in
/-- What is extracted in a call names the source of the call. -/
theorem extractFromText_named
    {sourceId : String}
    {criteria : List String}
    {extraction : Option RawExtraction}
    {claims : List Claim}
    {observations : List FieldObservation}
    (extracted :
      extractFromText sourceId criteria extraction =
        some (claims, observations)) :
    (∀ claim ∈ claims, claim.sourceRefs = [sourceId]) ∧
      ∀ observation ∈ observations, observation.sourceRef = sourceId := by
  obtain ⟨raw, _, validated⟩ := Option.bind_eq_some_iff.mp extracted
  simp only [Option.ite_none_right_eq_some, Option.some.injEq,
    Prod.mk.injEq] at validated
  obtain ⟨_, rfl, rfl⟩ := validated
  constructor
  · intro claim member
    obtain ⟨_, _, rfl⟩ := List.mem_map.mp member
    rfl
  · intro observation member
    obtain ⟨_, _, rfl⟩ := List.mem_map.mp member
    rfl

omit [PythonText] in
/-- A call that adds what was extracted in it is recorded. -/
theorem Recorded.addExtraction
    {escalation : Escalation}
    (recorded : Recorded escalation)
    (call : FetchCall)
    (named : call.source.name ∈ escalation.searched.sourceNames)
    (claimsNamed :
      ∀ claim ∈ call.claims, claim.sourceRefs = [call.source.id])
    (observationsNamed :
      ∀ observation ∈ call.observations,
        observation.sourceRef = call.source.id)
    (position : Nat)
    (excerpt : String) :
    Recorded
      { escalation with
        bundle :=
          { escalation.bundle with
            sources :=
              escalation.bundle.sources.modify position fun cited =>
                { cited with excerpt := excerpt }
            claims := escalation.bundle.claims ++ call.claims
            observations :=
              escalation.bundle.observations ++ call.observations }
        calls := escalation.calls ++ [call] } where
  names :=
    (map_name_modify escalation.bundle.sources position excerpt).trans
      recorded.names
  todo := recorded.todo
  sources := (recorded.addCall named).sources
  claims := by
    intro claim member
    rcases List.mem_append.mp member with before | new
    · exact (recorded.addCall named).claims claim before
    · exact
        Or.inr
          ⟨call, List.mem_append_right _ (List.mem_singleton_self call), new,
            claimsNamed claim new⟩
  observations := by
    intro observation member
    rcases List.mem_append.mp member with before | new
    · exact (recorded.addCall named).observations observation before
    · exact
        Or.inr
          ⟨call, List.mem_append_right _ (List.mem_singleton_self call), new,
            observationsNamed observation new⟩

omit [PythonText] in
/-- Records do not depend on where the researcher stands. -/
theorem Recorded.elsewhere
    {before after : Escalation}
    (recorded : Recorded before)
    (searched : after.searched = before.searched)
    (bundle : after.bundle = before.bundle)
    (calls : after.calls = before.calls)
    (todo : after.todo = before.todo) :
    Recorded after := by
  obtain ⟨names, named, sources, claims, observations⟩ := recorded
  rw [← searched, ← bundle] at names
  rw [← searched, ← todo] at named
  rw [← searched, ← calls] at sources
  rw [← searched, ← bundle, ← calls] at claims observations
  exact ⟨names, named, sources, claims, observations⟩

/-- The end of a call is recorded, and the call has returned. -/
theorem Recorded.conclude
    {escalation : Escalation}
    (recorded : Recorded escalation)
    {position : Nat}
    {source : Source}
    {rest : List (Nat × Source)}
    (text : String)
    (extraction : Option RawExtraction)
    (shape : escalation.todo = (position, source) :: rest) :
    Recorded
      (escalation.conclude position source rest text extraction) := by
  have named : source.name ∈ escalation.searched.sourceNames :=
    recorded.todo (position, source) (shape ▸ List.mem_cons_self)
  have restNamed :
      ∀ entry ∈ rest, entry.2.name ∈ escalation.searched.sourceNames := by
    intro entry inRest
    exact recorded.todo entry (shape ▸ List.mem_cons_of_mem _ inRest)
  have added :
      Recorded
        { escalation with
          calls := escalation.calls ++ [{ source := source, text := text }] } :=
    recorded.addCall named
  simp only [Escalation.conclude]
  split
  · refine Recorded.afterCall ?_ restNamed
    exact added.elsewhere rfl rfl rfl rfl
  · split
    · exact added.elsewhere rfl rfl rfl rfl
    · rename_i claims observations extracted
      obtain ⟨claimsNamed, observationsNamed⟩ :=
        extractFromText_named extracted
      let call : FetchCall :=
        { source := source
          text := text
          claims := claims
          observations := observations }
      have extended :=
        recorded.addExtraction call named claimsNamed observationsNamed
          position (String.ofList (text.toList.take 2000))
      refine Recorded.afterCall ?_ restNamed
      exact extended.elsewhere rfl rfl rfl rfl

/-- The end of a call adds that call and no other one. -/
theorem conclude_calls
    (escalation : Escalation)
    (position : Nat)
    (source : Source)
    (rest : List (Nat × Source))
    (text : String)
    (extraction : Option RawExtraction) :
    let concluded :=
      escalation.conclude position source rest text extraction
    concluded.proxy = escalation.proxy ∧
      concluded.inFlight = false ∧
      ∃ call,
        call.source = source ∧
          call.text = text ∧
          concluded.calls = escalation.calls ++ [call] := by
  intro concluded
  simp only [concluded, Escalation.conclude]
  split
  · rename_i empty
    obtain ⟨proxy, _, calls, inFlight, _, _, _⟩ := afterCall_keeps _ rest
    exact ⟨proxy, inFlight, _, rfl, rfl, calls⟩
  · split
    · exact ⟨rfl, rfl, _, rfl, rfl, rfl⟩
    · obtain ⟨proxy, _, calls, inFlight, _, _, _⟩ := afterCall_keeps _ rest
      exact ⟨proxy, inFlight, _, rfl, rfl, calls⟩

end Escalation

/-! ## No document is taken for another one -/

namespace FetchFanOut

/-- One researcher was replaced, the others are where they were. -/
theorem of_getElem?_set
    {researchers : List Escalation}
    {index other : Nat}
    {replaced escalation : Escalation}
    (found : (researchers.set index replaced)[other]? = some escalation) :
    other = index ∧ escalation = replaced ∨
      other ≠ index ∧ researchers[other]? = some escalation := by
  rw [List.getElem?_set] at found
  split at found
  · rename_i same
    split at found
    · exact Or.inl ⟨same.symm, (Option.some.inj found).symm⟩
    · cases found
  · rename_i different
    exact Or.inr ⟨Ne.symm different, found⟩

variable [PythonText]

/-- A call that has begun waits for its second step, or it has failed. -/
theorem write_cases
    {env : RetrievalEnv}
    {escalation begun : Escalation}
    {files stored : FetchedFiles}
    (began : write env escalation files = some (begun, stored)) :
    ∃ position source rest,
      escalation.todo = (position, source) :: rest ∧
        escalation.current? = some source ∧
        stored =
          Retrieval.store files (escalation.destinationOf source)
            (env.download (Escalation.urlOf source)) ∧
        ((∃ bytes,
            env.download (Escalation.urlOf source) = .document bytes ∧
              begun = { begin escalation source with inFlight := true }) ∨
          Retrieval.documentText env (Escalation.urlOf source) = "" ∧
            begun =
              (begin escalation source).conclude position source rest ""
                none) := by
  simp only [write] at began
  split at began
  · rename_i position source rest running idle shape
    have current : escalation.current? = some source := by
      simp only [Escalation.current?, running, shape]
    refine ⟨position, source, rest, shape, current, ?_⟩
    split at began
    · rename_i bytes downloaded
      cases began
      exact ⟨by rw [downloaded], Or.inl ⟨bytes, downloaded, rfl⟩⟩
    · rename_i failed
      cases began
      refine ⟨by rw [failed], Or.inr ⟨?_, rfl⟩⟩
      rw [Retrieval.documentText, failed]
    · rename_i failed
      cases began
      refine ⟨by rw [failed], Or.inr ⟨?_, rfl⟩⟩
      rw [Retrieval.documentText, failed]
  · cases began

/-- The second step of a call reads the destination of its source. -/
theorem extract_cases
    {env : RetrievalEnv}
    {escalation concluded : Escalation}
    {files : FetchedFiles}
    {extraction : Option RawExtraction}
    (ended : extract env escalation files extraction = some concluded) :
    ∃ position source rest,
      escalation.todo = (position, source) :: rest ∧
        escalation.waiting? = some source ∧
        concluded =
          escalation.conclude position source rest
            (DocExtract.extractDoc env
              (files.get? (escalation.destinationOf source))).1
            extraction := by
  simp only [extract] at ended
  split at ended
  · rename_i position source rest running waits shape
    refine ⟨position, source, rest, shape, ?_, (Option.some.inj ended).symm⟩
    simp [Escalation.waiting?, Escalation.current?, running, waits, shape]
  · cases ended

omit [PythonText] in
/--
A download does not overwrite what another call has stored and not read yet,
unless that call reads the same text from it.
-/
def Undisturbing
    (env : RetrievalEnv)
    (fanOut : FetchFanOut) : FetchMove → Prop
  | .extract _ _ => True
  | .write researcher =>
      ∀ own ∈ fanOut.researchers[researcher]?,
      ∀ source ∈ own.current?,
      ∀ bytes ∈
        Retrieval.written (env.download (Escalation.urlOf source)),
      ∀ entry ∈ fanOut.researchers.zipIdx,
        entry.2 ≠ researcher →
        ∀ waitsFor ∈ entry.1.waiting?,
          entry.1.destinationOf waitsFor = own.destinationOf source →
          (DocExtract.extractDoc env (some bytes)).1 =
            Retrieval.documentText env (Escalation.urlOf waitsFor)

instance
    (env : RetrievalEnv)
    (fanOut : FetchFanOut) :
    ∀ move, Decidable (Undisturbing env fanOut move)
  | .extract _ _ => inferInstanceAs (Decidable True)
  | .write researcher =>
      inferInstanceAs
        (Decidable (∀ own ∈ fanOut.researchers[researcher]?, _))

omit [PythonText] in
/--
Every researcher has recorded the texts of its own documents, and a call that
waits finds the text of its own document where it looks for it.
-/
structure Unmixed (env : RetrievalEnv) (fanOut : FetchFanOut) : Prop where
  recorded :
    ∀ {researcher : Nat} {escalation : Escalation},
      fanOut.researchers[researcher]? = some escalation →
      escalation.Recorded ∧ escalation.TextsMatch env
  waiting :
    ∀ {researcher : Nat} {escalation : Escalation} {source : Source},
      fanOut.researchers[researcher]? = some escalation →
      escalation.waiting? = some source →
      (DocExtract.extractDoc env
          (fanOut.files.get? (escalation.destinationOf source))).1 =
        Retrieval.documentText env (Escalation.urlOf source)

/-- The end of a call with the text of its own document keeps the records. -/
theorem conclude_matches
    {env : RetrievalEnv}
    {escalation : Escalation}
    (recorded : escalation.Recorded)
    (textsMatch : escalation.TextsMatch env)
    {position : Nat}
    {source : Source}
    {rest : List (Nat × Source)}
    {text : String}
    (extraction : Option RawExtraction)
    (shape : escalation.todo = (position, source) :: rest)
    (own : text = Retrieval.documentText env (Escalation.urlOf source)) :
    let concluded :=
      escalation.conclude position source rest text extraction
    (concluded.Recorded ∧ concluded.TextsMatch env) ∧
      concluded.waiting? = none := by
  intro concluded
  obtain ⟨_, inFlight, call, rfl, rfl, calls⟩ :=
    Escalation.conclude_calls escalation position source rest text extraction
  refine ⟨⟨recorded.conclude _ extraction shape, ?_⟩, ?_⟩
  · intro earlier member
    rw [calls] at member
    rcases List.mem_append.mp member with before | new
    · exact textsMatch earlier before
    · cases List.mem_singleton.mp new
      exact own
  · simp only [Escalation.waiting?]
    rw [inFlight]
    rfl

omit [PythonText] in
/-- What a download leaves at a path. -/
theorem get?_store
    (files : FetchedFiles)
    (path other : ReferencePath)
    (download : Download) :
    (Retrieval.store files path download).get? other = files.get? other ∨
      path = other ∧
        ∃ bytes,
          Retrieval.written download = some bytes ∧
            (Retrieval.store files path download).get? other =
              some bytes := by
  simp only [Retrieval.store]
  cases stored : Retrieval.written download with
  | none =>
      exact Or.inl rfl
  | some bytes =>
      by_cases same : path = other
      · subst same
        exact Or.inr ⟨rfl, bytes, rfl, OrderedMap.get?_insert_self _ _ _⟩
      · refine Or.inl ?_
        simp [OrderedMap.get?_insert, same]

omit [PythonText] in
/-- A call that waits is not disturbed by the download of another one. -/
theorem Unmixed.waits_on
    {env : RetrievalEnv}
    {fanOut : FetchFanOut}
    (unmixed : Unmixed env fanOut)
    {researcher other : Nat}
    {own escalation : Escalation}
    {source waitsFor : Source}
    (undisturbing : Undisturbing env fanOut (.write researcher))
    (isOwn : fanOut.researchers[researcher]? = some own)
    (current : own.current? = some source)
    (different : other ≠ researcher)
    (isOther : fanOut.researchers[other]? = some escalation)
    (waits : escalation.waiting? = some waitsFor) :
    (DocExtract.extractDoc env
        ((Retrieval.store fanOut.files (own.destinationOf source)
            (env.download (Escalation.urlOf source))).get?
          (escalation.destinationOf waitsFor))).1 =
      Retrieval.documentText env (Escalation.urlOf waitsFor) := by
  rcases get?_store fanOut.files (own.destinationOf source)
      (escalation.destinationOf waitsFor)
      (env.download (Escalation.urlOf source)) with
    untouched | ⟨samePath, bytes, isWritten, overwritten⟩
  · rw [untouched]
    exact unmixed.waiting isOther waits
  · rw [overwritten]
    exact
      undisturbing own isOwn source current bytes isWritten
        (escalation, other) (List.mk_mem_zipIdx_iff_getElem?.mpr isOther)
        different waitsFor waits samePath.symm

/-- A download that disturbs nobody keeps the documents apart. -/
theorem Unmixed.write
    {env : RetrievalEnv}
    {fanOut : FetchFanOut}
    (unmixed : Unmixed env fanOut)
    {researcher : Nat}
    {own begun : Escalation}
    {stored : FetchedFiles}
    (undisturbing : Undisturbing env fanOut (.write researcher))
    (isOwn : fanOut.researchers[researcher]? = some own)
    (began : FetchFanOut.write env own fanOut.files = some (begun, stored)) :
    Unmixed env
      { files := stored
        researchers := fanOut.researchers.set researcher begun } := by
  obtain ⟨recorded, textsMatch⟩ := unmixed.recorded isOwn
  obtain ⟨position, source, rest, shape, current, rfl, outcome⟩ :=
    write_cases began
  -- The researcher that moves: its call waits for its own document, or is over.
  have moved :
      (begun.Recorded ∧ begun.TextsMatch env) ∧
        ∀ waitsFor,
          begun.waiting? = some waitsFor →
          (DocExtract.extractDoc env
              ((Retrieval.store fanOut.files (own.destinationOf source)
                  (env.download (Escalation.urlOf source))).get?
                (begun.destinationOf waitsFor))).1 =
            Retrieval.documentText env (Escalation.urlOf waitsFor) := by
    rcases outcome with ⟨bytes, downloaded, rfl⟩ | ⟨noText, rfl⟩
    · refine ⟨⟨recorded.elsewhere rfl rfl rfl rfl, textsMatch⟩, ?_⟩
      intro waitsFor waits
      cases current.symm.trans waits
      simp [Retrieval.store, Retrieval.written, Retrieval.documentText,
        Escalation.destinationOf, begin, downloaded]
    · have begunRecorded : (begin own source).Recorded :=
        recorded.elsewhere rfl rfl rfl rfl
      obtain ⟨ended, idle⟩ :=
        conclude_matches begunRecorded textsMatch none shape noText.symm
      refine ⟨ended, ?_⟩
      intro waitsFor waits
      rw [idle] at waits
      cases waits
  constructor
  · intro other escalation found
    rcases of_getElem?_set found with ⟨_, rfl⟩ | ⟨_, isOther⟩
    · exact moved.1
    · exact unmixed.recorded isOther
  · intro other escalation waitsFor found waits
    rcases of_getElem?_set found with ⟨_, rfl⟩ | ⟨different, isOther⟩
    · exact moved.2 waitsFor waits
    · exact
        unmixed.waits_on undisturbing isOwn current different isOther waits

/-- An extraction changes no file, and its text is of the own document. -/
theorem Unmixed.extract
    {env : RetrievalEnv}
    {fanOut : FetchFanOut}
    (unmixed : Unmixed env fanOut)
    {researcher : Nat}
    {own concluded : Escalation}
    {extraction : Option RawExtraction}
    (isOwn : fanOut.researchers[researcher]? = some own)
    (ended :
      FetchFanOut.extract env own fanOut.files extraction =
        some concluded) :
    Unmixed env
      { fanOut with
        researchers := fanOut.researchers.set researcher concluded } := by
  obtain ⟨recorded, textsMatch⟩ := unmixed.recorded isOwn
  obtain ⟨position, source, rest, shape, waits, rfl⟩ := extract_cases ended
  obtain ⟨matching, idle⟩ :=
    conclude_matches recorded textsMatch extraction shape
      (unmixed.waiting isOwn waits)
  constructor
  · intro other escalation found
    rcases of_getElem?_set found with ⟨_, rfl⟩ | ⟨_, isOther⟩
    · exact matching
    · exact unmixed.recorded isOther
  · intro other escalation waitsFor found waiting
    rcases of_getElem?_set found with ⟨_, rfl⟩ | ⟨_, isOther⟩
    · rw [idle] at waiting
      cases waiting
    · exact unmixed.waiting isOther waiting

/-- Every step that disturbs nobody keeps the documents apart. -/
theorem Unmixed.step
    {env : RetrievalEnv}
    {fanOut next : FetchFanOut}
    {move : FetchMove}
    (unmixed : Unmixed env fanOut)
    (undisturbing : Undisturbing env fanOut move)
    (stepped : FetchFanOut.step env fanOut move = some next) :
    Unmixed env next := by
  cases move with
  | write researcher =>
      obtain ⟨own, isOwn, stepped⟩ := Option.bind_eq_some_iff.mp stepped
      obtain ⟨⟨begun, stored⟩, began, isNext⟩ :=
        Option.bind_eq_some_iff.mp stepped
      cases isNext
      exact unmixed.write undisturbing isOwn began
  | extract researcher extraction =>
      obtain ⟨own, isOwn, stepped⟩ := Option.bind_eq_some_iff.mp stepped
      obtain ⟨concluded, ended, isNext⟩ :=
        Option.bind_eq_some_iff.mp stepped
      cases isNext
      exact unmixed.extract isOwn ended

/-- After the searches no call has begun. -/
theorem start_unmixed
    (env : RetrievalEnv)
    (state : ResearchState)
    (files : FetchedFiles)
    (found : List (String × EvidenceBundle)) :
    Unmixed env (start env state files found) := by
  have started
      {researcher : Nat}
      {escalation : Escalation}
      (isStarted :
        (start env state files found).researchers[researcher]? =
          some escalation) :
      ∃ issueId searched,
        escalation =
          Escalation.start env (buildWorkerProxy state issueId) searched := by
    obtain ⟨⟨issueId, searched⟩, _, rfl⟩ :=
      List.mem_map.mp (List.mem_of_getElem? isStarted)
    exact ⟨issueId, searched, rfl⟩
  constructor
  · intro researcher escalation isStarted
    obtain ⟨issueId, searched, rfl⟩ := started isStarted
    refine ⟨Escalation.start_recorded env _ searched, ?_⟩
    have keeps :=
      Escalation.nextRound_keeps
        { proxy := buildWorkerProxy state issueId
          searched := searched
          bundle := searched
          roundsLeft := env.maxRounds }
    intro call member
    rw [Escalation.start, keeps.calls] at member
    cases member
  · intro researcher escalation source isStarted waits
    obtain ⟨issueId, searched, rfl⟩ := started isStarted
    have keeps :=
      Escalation.nextRound_keeps
        { proxy := buildWorkerProxy state issueId
          searched := searched
          bundle := searched
          roundsLeft := env.maxRounds }
    rw [Escalation.waiting?, Escalation.start, keeps.inFlight] at waits
    cases waits

/--
While no download overwrites what another call has stored and not read yet,
every call returns the text of its own document, and whatever a bundle gains
was extracted in a call of the source that it names.
-/
theorem documents_never_mix
    {env : RetrievalEnv}
    {state : ResearchState}
    {files : FetchedFiles}
    {found : List (String × EvidenceBundle)}
    {moves : List FetchMove}
    {fanOut : FetchFanOut}
    (undisturbed :
      AllSteps (step env) (Undisturbing env) (start env state files found)
        moves)
    (ran :
      exec (step env) (start env state files found) moves = some fanOut) :
    ∀ escalation ∈ fanOut.researchers,
      escalation.TextsMatch env ∧ escalation.Recorded := by
  have unmixed : Unmixed env fanOut :=
    AllSteps.invariant
      (motive := Unmixed env)
      (fun before allowed stepped => before.step allowed stepped)
      (start_unmixed env state files found) undisturbed ran
  intro escalation member
  obtain ⟨researcher, isResearcher⟩ := List.getElem?_of_mem member
  obtain ⟨recorded, textsMatch⟩ := unmixed.recorded isResearcher
  exact ⟨textsMatch, recorded⟩

end FetchFanOut

namespace FetchFanOut

/-- Two documents on the web, and the backend that reads them. -/
private def twoDatasheets : RetrievalEnv where
  download := fun url =>
    .document (if url = "https://a.example/datasheet.pdf" then [1] else [2])
  useDocling := false
  docling := fun _ => none
  pymupdf4llm := fun bytes =>
    some (if bytes = [1] then "Text of A" else "Text of B")
  pypdf := fun _ => none
  maxRounds := 4

/-- The bundle of a search that has found one document. -/
private def foundDatasheet (url : String) : EvidenceBundle where
  query := "datasheet"
  sources := [{ id := "S-1", title := "Datasheet", url := some url }]

/-- Two researchers found documents whose URLs end alike. -/
private def alikeNames : List (String × EvidenceBundle) :=
  [("a", foundDatasheet "https://a.example/datasheet.pdf"),
    ("b", foundDatasheet "https://b.example/datasheet.pdf")]

/-- The second document is stored before the first one is read. -/
private def overlappingCalls : List FetchMove :=
  [.write 0, .write 1,
    .extract 0
      (some { claims := [{ claim := "B draws 5 W", quote := some "5 W" }] })]

/-- Documents whose URLs end alike do mix. -/
theorem documents_mix :
    letI := PythonText.ascii
    ¬ ∀ (env : RetrievalEnv)
        (state : ResearchState)
        (files : FetchedFiles)
        (found : List (String × EvidenceBundle))
        (moves : List FetchMove)
        (fanOut : FetchFanOut),
        exec (step env) (start env state files found) moves = some fanOut →
        ∀ escalation ∈ fanOut.researchers, escalation.TextsMatch env := by
  let _ := PythonText.ascii
  intro neverMix
  let state : ResearchState :=
    { runId := "run", originalQuestion := "question" }
  let fanOut :=
    (exec (step twoDatasheets) (start twoDatasheets state ∅ alikeNames)
      overlappingCalls).get (by decide +kernel)
  have ran :
      exec (step twoDatasheets) (start twoDatasheets state ∅ alikeNames)
          overlappingCalls =
        some fanOut :=
    (Option.some_get _).symm
  have allMatch := neverMix twoDatasheets state ∅ alikeNames _ fanOut ran
  have mixed :
      ∃ escalation ∈ fanOut.researchers,
        ∃ call ∈ escalation.calls,
          call.text = "Text of B" ∧
            Escalation.urlOf call.source =
              "https://a.example/datasheet.pdf" := by
    decide +kernel
  obtain ⟨escalation, member, call, isCall, textOfB, urlOfA⟩ := mixed
  have textOfA := allMatch escalation member call isCall
  rw [textOfB, urlOfA] at textOfA
  exact absurd textOfA (by decide +kernel)

/-- Documents whose URLs end differently. -/
private def differentNames : List (String × EvidenceBundle) :=
  [("a", foundDatasheet "https://a.example/datasheet.pdf"),
    ("b", foundDatasheet "https://b.example/manual.pdf")]

/-- The same steps, with an extraction of each document. -/
private def bothExtractions : List FetchMove :=
  [.write 0, .write 1, .extract 0 (some {}), .extract 1 (some {})]

private theorem differentNames_undisturbed :
    letI := PythonText.ascii
    AllSteps (step twoDatasheets) (Undisturbing twoDatasheets)
      (start twoDatasheets { runId := "run", originalQuestion := "question" }
        ∅ differentNames)
      bothExtractions := by
  let _ := PythonText.ascii
  decide +kernel

/-- Documents whose URLs end differently do not mix. -/
theorem differentNames_never_mix :
    letI := PythonText.ascii
    ∃ fanOut,
      exec (step twoDatasheets)
          (start twoDatasheets
            { runId := "run", originalQuestion := "question" } ∅
            differentNames)
          bothExtractions =
        some fanOut ∧
      (fanOut.researchers.map fun escalation =>
          escalation.calls.map FetchCall.text) =
        [["Text of A"], ["Text of B"]] ∧
      ∀ escalation ∈ fanOut.researchers,
        escalation.TextsMatch twoDatasheets ∧ escalation.Recorded := by
  let _ := PythonText.ascii
  let fanOut :=
    (exec (step twoDatasheets)
      (start twoDatasheets { runId := "run", originalQuestion := "question" }
        ∅ differentNames)
      bothExtractions).get (by decide +kernel)
  have ran :
      exec (step twoDatasheets)
          (start twoDatasheets
            { runId := "run", originalQuestion := "question" } ∅
            differentNames)
          bothExtractions =
        some fanOut :=
    (Option.some_get _).symm
  exact
    ⟨fanOut, ran, by decide +kernel,
      documents_never_mix differentNames_undisturbed ran⟩

end FetchFanOut

end ResearchCos
