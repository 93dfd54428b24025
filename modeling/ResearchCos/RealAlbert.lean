import ResearchCos.AlbertContract
import ResearchCos.EmissionGates
import ResearchCos.Foundation.ExceptionFilter
import ResearchCos.ReferenceStore
import ResearchCos.StopGates

namespace ResearchCos

open Foundation

/-!
# The external auditor

The adapter looks the auditor up, writes its input, runs it as a process and
maps the file it leaves.  Each step has an exception filter of its own, and a
filtered exception becomes a degraded audit with a warning.
-/

/-- The classes of exceptions that the filters tell apart. -/
inductive ExceptionClass where
  | osError
  | valueError
  | timeoutExpired
  | otherException
  deriving Repr, DecidableEq

structure Raised where
  kind : ExceptionClass
  text : String
  deriving Repr, DecidableEq

def Raised.isOsError (raised : Raised) : Bool :=
  raised.kind = .osError

structure CompletedProcess where
  returncode : Int
  stdout : String
  stderr : String
  deriving Repr, DecidableEq

/-- What surrounds the adapter: every step ends with a value or raises. -/
structure AlbertEnv where
  /-- The override of the home, when it is set. -/
  albertHome : Option String
  /-- The resolved working directory. -/
  cwd : Except Raised ReferencePath
  parsePath : String → ReferencePath
  showPath : ReferencePath → String
  isDir : ReferencePath → Except Raised Bool
  isFile : ReferencePath → Except Raised Bool
  mkdir : ReferencePath → Except Raised Unit
  /-- Eight random digits. -/
  hex : String
  /-- Encoding the input of the auditor and writing it. -/
  writeInput : ReferencePath → ResearchState → Except Raised Unit
  /-- Running a command within a number of seconds. -/
  run : List String → Nat → Except Raised CompletedProcess
  /-- Reading a file and parsing it. -/
  readJson : ReferencePath → Except Raised Json
  /-- The integer that a text is read as. -/
  intOfText : String → Option Int
  /-- The name and the text of what the mapping of a value raises. -/
  mappingError : Json → String

/-! ## The home of the auditor -/

namespace Locate

def siblingName : String :=
  "skill-cn5-i-am-albert"

/-- A directory with the entry point of the auditor. -/
def isValidHome
    (env : AlbertEnv)
    (path : ReferencePath) : Except Raised Bool :=
  let check :=
    (env.isDir path).bind fun isDir =>
      if isDir then env.isFile (path ++ ["run_albert.py"]) else .ok false
  guarded Raised.isOsError (fun _ => false) check .ok

def fromEnv (env : AlbertEnv) : Except Raised (Option ReferencePath) :=
  match env.albertHome with
  | none => .ok none
  | some raw =>
      if raw = "" then
        .ok none
      else
        (isValidHome env (env.parsePath raw)).bind fun valid =>
          .ok (if valid then some (env.parsePath raw) else none)

def firstValidHome
    (env : AlbertEnv) :
    List ReferencePath → Except Raised (Option ReferencePath)
  | [] => .ok none
  | candidate :: later =>
      (isValidHome env candidate).bind fun valid =>
        if valid then .ok (some candidate) else firstValidHome env later

/-- Walk up from the working directory. -/
def fromSibling (env : AlbertEnv) : Except Raised (Option ReferencePath) :=
  env.cwd.bind fun here =>
    firstValidHome env
      (here.inits.reverse.map fun ancestor => ancestor ++ [siblingName])

def findAlbertHome (env : AlbertEnv) : Except Raised (Option ReferencePath) :=
  (fromEnv env).bind fun envHome =>
    match envHome with
    | some home => .ok (some home)
    | none => fromSibling env

end Locate

/-! ## How deep the auditor runs -/

namespace AuditTier

inductive Speed where
  | flash
  | quick
  | fast
  | normal
  deriving Repr, DecidableEq

def Speed.value : Speed → String
  | .flash => "flash"
  | .quick => "quick"
  | .fast => "fast"
  | .normal => "normal"

def stageBase (stage : String) : Speed :=
  if stage = "sentinel" ∨ stage = "plan" then
    .flash
  else if stage = "pre_synthesize" then
    .fast
  else if stage = "final" ∨ stage = "h6" ∨ stage = "high_stakes" then
    .normal
  else
    .quick

def approachingReadiness : Int :=
  3

def lastAuditSmellsWrong (state : ResearchState) : Bool :=
  match state.lastAudit with
  | none => false
  | some audit =>
      audit.prematureEndRisk = .high || audit.researchDriftRisk = .high

def readinessApproaching (state : ResearchState) : Bool :=
  match state.readinessScore with
  | none => false
  | some score =>
      score.axes.all fun axis => decide (approachingReadiness ≤ axis)

/-- The cheapest speed gives way to a deeper one where the next gate is near. -/
def auditTierFor (stage : String) (state : ResearchState) : Speed :=
  let base := stageBase stage
  if base = .flash ∧
      (readinessApproaching state ∨ lastAuditSmellsWrong state) then
    .quick
  else
    base

def speedToCliFlag : Speed → Option String
  | .flash => some "--flash"
  | .quick => some "--quick"
  | .fast => some "--fast"
  | .normal => none

/-- How many seconds the auditor may take. -/
def speedTimeout : Speed → Nat
  | .flash => 180
  | .quick => 600
  | .fast => 1200
  | .normal => 1800

end AuditTier

/-! ## The adapter -/

structure RealAlbert where
  workDir : ReferencePath
  stage : String
  python : List String

/-- What an audit returns, with the warnings it has shown. -/
structure Audited where
  result : AuditResult
  warnings : List String := []
  deriving Repr, DecidableEq

namespace RealAlbert

/-- An audit that says nothing but that there was none, with a warning. -/
def degradedAudit (reason : String) : Audited where
  result :=
    { verdict := .rework
      prematureEndRisk := .low
      researchDriftRisk := .low
      recommendedNextAction := some .continueResearch
      rationale :=
        "Albert audit degraded (" ++ reason ++
          "); loop continues but this audit is NOT authoritative and " ++
          "cannot drive a stop."
      degraded := true }
  warnings := ["[real_adapter] DEGRADED Albert audit: " ++ reason]

/-- The first of the lines that names a file of the contract. -/
def firstJsonPath
    (env : AlbertEnv) : List String → Except Raised (Option ReferencePath)
  | [] => .ok none
  | line :: later =>
      let path := env.parsePath line
      let suffix :=
        (ReferenceStore.splitSuffix (ReferenceStore.fileName path)).2
      if suffix = ".json" then
        (env.isFile path).bind fun isFile =>
          if isFile then .ok (some path) else firstJsonPath env later
      else
        firstJsonPath env later

/-- Load the file that the output names last. -/
def parseJsonOut (env : AlbertEnv) (stdout : String) : Except Raised Json :=
  let candidates :=
    ((splitlines stdout.toList).map stripChars).filter fun line =>
      !line.isEmpty
  (firstJsonPath env (candidates.reverse.map String.ofList)).bind fun path =>
    match path with
    | none =>
        .error
          { kind := .valueError
            text := "no albert_challenge.json path on --json-out stdout" }
    | some path => env.readJson path

variable
  (albert : RealAlbert)
  (env : AlbertEnv)
  (state : ResearchState)

def inputPath : ReferencePath :=
  albert.workDir ++ ["albert_input_" ++ env.hex ++ ".json"]

def argv (home : ReferencePath) : List String :=
  albert.python ++
    [env.showPath (home ++ ["run_albert.py"]), "--input",
      env.showPath (albert.inputPath env), "--json-out", "--allow-redirect"] ++
    (AuditTier.speedToCliFlag
      (AuditTier.auditTierFor albert.stage state)).toList

/-- Run the auditor in its home. -/
def launch (home : ReferencePath) : Except Raised CompletedProcess :=
  env.run (albert.argv env state home)
    (AuditTier.speedTimeout (AuditTier.auditTierFor albert.stage state))

/-- The exceptions of a launch that become a degraded audit. -/
def launchFilter (raised : Raised) : Bool :=
  raised.kind = .timeoutExpired || raised.kind = .osError

def launchFailure (raised : Raised) : Audited :=
  let speed := AuditTier.auditTierFor albert.stage state
  if raised.kind = .timeoutExpired then
    degradedAudit
      ("run_albert.py timed out after " ++
        toString (AuditTier.speedTimeout speed) ++ "s (" ++ speed.value ++ ")")
  else
    degradedAudit ("could not launch run_albert.py: " ++ raised.text)

/-- The exceptions of reading the output that become a degraded audit. -/
def outputFilter (raised : Raised) : Bool :=
  raised.kind = .valueError || raised.kind = .osError

/-- The audit of the file that the process leaves. -/
def readAudit (proc : CompletedProcess) : Except Raised Audited :=
  if proc.returncode ≠ 0 then
    let stderr := proc.stderr.toList
    let tail := String.ofList (stderr.drop (stderr.length - 300))
    .ok
      (degradedAudit
        ("run_albert.py exit=" ++ toString proc.returncode ++ ": " ++ tail))
  else
    guarded outputFilter
      (fun raised =>
        degradedAudit ("unparseable --json-out: " ++ raised.text))
      (parseJsonOut env proc.stdout)
      fun raw =>
        match AlbertContract.toAudit env.intOfText raw with
        | some result => .ok { result := result }
        | none =>
            .ok
              (degradedAudit
                ("contract mapping failed: " ++ env.mappingError raw))

def audit : Except Raised Audited :=
  (Locate.findAlbertHome env).bind fun home =>
    match home with
    | none =>
        .ok
          (degradedAudit "ALBERT_HOME not resolvable (absent / no checkout)")
    | some home =>
        -- No filter stands beside the creation of the directory.
        (env.mkdir albert.workDir).bind fun _ =>
          guarded Raised.isOsError
            (fun raised =>
              degradedAudit
                ("could not write albert_input.json: " ++ raised.text))
            (env.writeInput (albert.inputPath env) state)
            fun _ =>
              guarded launchFilter (albert.launchFailure state)
                (albert.launch env state home)
                (readAudit env)

/-! ## Every filtered failure is a degraded audit -/

/-- The file that the process left was read and mapped to this audit. -/
def Mapped (result : AuditResult) : Prop :=
  ∃ home proc raw,
    Locate.findAlbertHome env = .ok (some home) ∧
      albert.launch env state home = .ok proc ∧
      proc.returncode = 0 ∧
      parseJsonOut env proc.stdout = .ok raw ∧
      AlbertContract.toAudit env.intOfText raw = some result

variable {albert env state}

/-- Reading the output ends with a mapped audit or with a degraded one. -/
theorem readAudit_cases
    {proc : CompletedProcess}
    {audited : Audited}
    (returned : readAudit env proc = .ok audited) :
    (∃ raw,
        proc.returncode = 0 ∧
          parseJsonOut env proc.stdout = .ok raw ∧
          AlbertContract.toAudit env.intOfText raw = some audited.result) ∨
      ∃ reason, audited = degradedAudit reason := by
  simp only [readAudit] at returned
  split at returned
  · exact Or.inr ⟨_, (Except.ok.inj returned).symm⟩
  · rename_i exited
    rcases guarded_eq_ok returned with ⟨_, _, rfl⟩ | ⟨raw, read, mapping⟩
    · exact Or.inr ⟨_, rfl⟩
    · split at mapping
      · rename_i result mapped
        cases mapping
        exact Or.inl ⟨raw, not_not.mp exited, read, mapped⟩
      · exact Or.inr ⟨_, (Except.ok.inj mapping).symm⟩

/-- An audit is mapped from the file of the process, or it is degraded. -/
theorem audit_cases
    {audited : Audited}
    (returned : albert.audit env state = .ok audited) :
    Mapped albert env state audited.result ∨
      ∃ reason, audited = degradedAudit reason := by
  obtain ⟨found, isFound, returned⟩ := bind_eq_ok_iff.mp returned
  cases found with
  | none =>
      exact Or.inr ⟨_, (Except.ok.inj returned).symm⟩
  | some home =>
      obtain ⟨_, _, returned⟩ := bind_eq_ok_iff.mp returned
      rcases guarded_eq_ok returned with ⟨_, _, rfl⟩ | ⟨_, _, returned⟩
      · exact Or.inr ⟨_, rfl⟩
      rcases guarded_eq_ok returned with
        ⟨raised, _, rfl⟩ | ⟨proc, launched, returned⟩
      · simp only [launchFailure]
        split
        · exact Or.inr ⟨_, rfl⟩
        · exact Or.inr ⟨_, rfl⟩
      · rcases readAudit_cases returned with ⟨raw, mapped⟩ | degraded
        · exact Or.inl ⟨home, proc, raw, isFound, launched, mapped⟩
        · exact Or.inr degraded

/-- With a degraded audit nothing stops and nothing is emitted. -/
theorem degradedAudit_neverStops
    {rs : ResearchState}
    {reason : String}
    (isLast : rs.lastAudit = some (degradedAudit reason).result) :
    (∀ graph emitDespiteDegradedAudit decision,
        graph.researchState = rs →
        (decideCos emitDespiteDegradedAudit graph).lastDecision =
          some decision →
        decision ≠ .terminalStop ∧ decision ≠ .synthesize) ∧
      ∀ memo explicit,
        (DecisionMemo.checkEmission rs memo explicit).emitted = false := by
  constructor
  · rintro graph emitDespiteDegradedAudit decision rfl decided
    have demandsRework : auditDemandsRework graph.researchState = true := by
      simp [auditDemandsRework, isLast, degradedAudit]
    have notGated : decision.isGated = false := by
      by_contra stops
      obtain ⟨_, demandsNot, _⟩ :=
        decideCos_stop_stages decided (by simpa using stops)
      rw [demandsRework] at demandsNot
      cases demandsNot
    constructor
    · rintro rfl
      cases notGated
    · rintro rfl
      cases notGated
  · intro memo explicit
    simp [DecisionMemo.checkEmission, isLast, degradedAudit]

/-! ## When an audit returns -/

/-- What may be raised while the output is read. -/
theorem returns_readAudit_iff
    {proc : CompletedProcess} :
    Returns (readAudit env proc) ↔
      (proc.returncode = 0 →
        ∀ raised,
          parseJsonOut env proc.stdout = .error raised →
          outputFilter raised = true) := by
  by_cases exited : proc.returncode = 0
  · have mappedOrNot (raw : Json) :
        Returns
          (match AlbertContract.toAudit env.intOfText raw with
            | some result => .ok { result := result }
            | none =>
                .ok
                  (degradedAudit
                    ("contract mapping failed: " ++
                      env.mappingError raw)) : Except Raised Audited) := by
      split
      · exact ⟨_, rfl⟩
      · exact ⟨_, rfl⟩
    simp only [readAudit, exited, ne_eq, not_true_eq_false, if_false,
      returns_guarded_iff, mappedOrNot, implies_true, and_true, true_implies]
  · simp [readAudit, exited, Returns]

/-- What may be raised once the auditor is found. -/
theorem returns_audit_iff_of_found
    {home : ReferencePath}
    (found : Locate.findAlbertHome env = .ok (some home)) :
    Returns (albert.audit env state) ↔
      Returns (env.mkdir albert.workDir) ∧
        (∀ raised,
          env.writeInput (albert.inputPath env) state = .error raised →
          raised.isOsError = true) ∧
        ∀ written,
          env.writeInput (albert.inputPath env) state = .ok written →
          (∀ raised,
            albert.launch env state home = .error raised →
            launchFilter raised = true) ∧
          ∀ proc,
            albert.launch env state home = .ok proc →
            proc.returncode = 0 →
            ∀ raised,
              parseJsonOut env proc.stdout = .error raised →
              outputFilter raised = true := by
  simp only [audit, found]
  change Returns ((env.mkdir albert.workDir).bind _) ↔ _
  simp only [returns_bind_iff, returns_guarded_iff, returns_readAudit_iff,
    exists_and_right]
  rfl

/--
No step raises an exception that its filter lets through; there is no filter
beside the lookup of the auditor and the creation of the directory.
-/
structure OnlyFiltered
    (albert : RealAlbert)
    (env : AlbertEnv)
    (state : ResearchState) : Prop where
  lookUp : Returns (Locate.findAlbertHome env)
  workDir :
    ∀ home,
      Locate.findAlbertHome env = .ok (some home) →
      Returns (env.mkdir albert.workDir)
  input :
    ∀ home,
      Locate.findAlbertHome env = .ok (some home) →
      ∀ raised,
        env.writeInput (albert.inputPath env) state = .error raised →
        raised.isOsError = true
  process :
    ∀ home written,
      Locate.findAlbertHome env = .ok (some home) →
      env.writeInput (albert.inputPath env) state = .ok written →
      ∀ raised,
        albert.launch env state home = .error raised →
        launchFilter raised = true
  output :
    ∀ home written proc,
      Locate.findAlbertHome env = .ok (some home) →
      env.writeInput (albert.inputPath env) state = .ok written →
      albert.launch env state home = .ok proc →
      proc.returncode = 0 →
      ∀ raised,
        parseJsonOut env proc.stdout = .error raised →
        outputFilter raised = true

/-- An audit returns exactly when no exception slips through a filter. -/
theorem returns_audit_iff :
    Returns (albert.audit env state) ↔ OnlyFiltered albert env state := by
  constructor
  · intro returned
    have lookUp : Returns (Locate.findAlbertHome env) := by
      obtain ⟨home, isFound, _⟩ := returns_bind_iff.mp returned
      exact ⟨home, isFound⟩
    refine ⟨lookUp, ?_, ?_, ?_, ?_⟩
    · intro home found
      exact ((returns_audit_iff_of_found found).mp returned).1
    · intro home found
      exact ((returns_audit_iff_of_found found).mp returned).2.1
    · intro home written found isWritten
      obtain ⟨_, _, later⟩ := (returns_audit_iff_of_found found).mp returned
      exact (later written isWritten).1
    · intro home written proc found isWritten
      obtain ⟨_, _, later⟩ := (returns_audit_iff_of_found found).mp returned
      exact (later written isWritten).2 proc
  · intro filtered
    obtain ⟨found, isFound⟩ := filtered.lookUp
    cases found with
    | none =>
        refine returns_bind_iff.mpr ⟨none, isFound, ?_⟩
        exact ⟨_, rfl⟩
    | some home =>
        refine
          (returns_audit_iff_of_found isFound).mpr
            ⟨filtered.workDir home isFound, filtered.input home isFound, ?_⟩
        intro written isWritten
        exact
          ⟨filtered.process home written isFound isWritten,
            fun proc => filtered.output home written proc isFound isWritten⟩

/--
The audit returns, and its result is mapped from the file of the process or a
degraded one that was warned about and that lets nothing stop or be emitted.
-/
def FailsSafe
    (albert : RealAlbert)
    (env : AlbertEnv)
    (state : ResearchState) : Prop :=
  ∃ audited,
    albert.audit env state = .ok audited ∧
      (Mapped albert env state audited.result ∨
        audited.result.degraded = true ∧
          audited.warnings ≠ [] ∧
          ∀ rs : ResearchState,
            rs.lastAudit = some audited.result →
            (∀ graph emitDespiteDegradedAudit decision,
              graph.researchState = rs →
              (decideCos emitDespiteDegradedAudit graph).lastDecision =
                some decision →
              decision ≠ .terminalStop ∧ decision ≠ .synthesize) ∧
            ∀ memo explicit,
              (DecisionMemo.checkEmission rs memo explicit).emitted = false)

/-- A failure of the auditor is safe unless it slips through a filter. -/
theorem failsSafe_iff
    (albert : RealAlbert)
    (env : AlbertEnv)
    (state : ResearchState) :
    FailsSafe albert env state ↔ OnlyFiltered albert env state := by
  rw [← returns_audit_iff]
  constructor
  · rintro ⟨audited, returned, _⟩
    exact ⟨audited, returned⟩
  · rintro ⟨audited, returned⟩
    refine ⟨audited, returned, ?_⟩
    rcases audit_cases returned with mapped | ⟨reason, rfl⟩
    · exact Or.inl mapped
    · exact
        Or.inr
          ⟨rfl, List.cons_ne_nil _ _,
            fun _ isLast => degradedAudit_neverStops isLast⟩

/-- Surroundings with an auditor, but the directory of the input is a file. -/
private def fileInTheWay : AlbertEnv where
  albertHome := some "albert"
  cwd := .ok []
  parsePath := fun text => [text]
  showPath := fun path => "/".intercalate path
  isDir := fun path => .ok (path = ["albert"])
  isFile := fun path => .ok (path = ["albert", "run_albert.py"])
  mkdir := fun _ => .error { kind := .osError, text := "File exists: 'out'" }
  hex := "0f1e2d3c"
  writeInput := fun _ _ => .ok ()
  run := fun _ _ => .ok { returncode := 1, stdout := "", stderr := "" }
  readJson := fun _ => .ok .null
  intOfText := fun _ => none
  mappingError := fun _ => "AttributeError"

/-- A directory that cannot be created makes the audit raise. -/
theorem fileInTheWay_raises :
    ¬ FailsSafe
        { workDir := ["out"], stage := "sentinel", python := ["python"] }
        fileInTheWay
        { runId := "run", originalQuestion := "question" } := by
  rintro ⟨audited, returned, _⟩
  have raises :
      audit { workDir := ["out"], stage := "sentinel", python := ["python"] }
          fileInTheWay { runId := "run", originalQuestion := "question" } =
        .error { kind := .osError, text := "File exists: 'out'" } := by
    rfl
  rw [raises] at returned
  cases returned

end RealAlbert

end ResearchCos
