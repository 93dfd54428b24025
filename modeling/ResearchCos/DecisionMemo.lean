import ResearchCos.Artifacts
import ResearchCos.CitationVerify
import ResearchCos.DecisionGates

namespace ResearchCos

open Foundation

/-!
# The decision memo

Assembly and gating of the final memo.  The synthesizer contributes the prose
of the sections; the blockers, the routing of the claims and the four emission
gates are computed here.  Routing an unverified critical claim records a task
for a human, so assembly returns the changed state beside the memo.
-/

/-! ## Citation policy -/

inductive ActionKind where
  | ok
  | reverify
  | escalateHuman
  | flag
  deriving Repr, DecidableEq

structure PolicyAction where
  kind : ActionKind
  status : CitationStatus
  lowerConfidence : Bool := false
  coverageGap : String := ""
  reason : String := ""
  deriving Repr, DecidableEq

namespace CitationPolicy

/-- What to do with a claim, given its verification and its weight. -/
def classify
    (result : VerifyResult)
    (critical reverifyAttempted : Bool) : PolicyAction :=
  if result.verified then
    { kind := .ok, status := .verified, reason := "claim verified" }
  else if !reverifyAttempted then
    { kind := .reverify
      status := .unverified
      reason :=
        "unverified -> auto re-verify (seek a corroborating primary source)" }
  else if critical then
    { kind := .escalateHuman
      status := .escalated
      reason :=
        "critical claim still unverified -> escalate to human (verify/judge)" }
  else
    { kind := .flag
      status := .flagged
      lowerConfidence := true
      coverageGap := "unverified non-critical claim flagged: " ++ result.claim
      reason :=
        "non-critical claim unverified -> flag + lower confidence + " ++
          "coverage_gap" }

/-- Beginnings of the identifiers of digests. -/
def digestIdPrefixes : List (List Char) :=
  ["DIGEST".toList, "COMPRESS".toList, "SUMMARY".toList]

/-- Words in the titles of digests. -/
def digestTitleTokens : List (List Char) :=
  ["digest".toList, "compressed summary".toList, "worker summary".toList]

section Flattening

variable [PythonText]

/-- A source that is really the digest of other sources. -/
def isDigest (source : Source) : Bool :=
  (digestIdPrefixes.any fun start =>
      start.isPrefixOf (upperChars source.id)) ||
    digestTitleTokens.any fun token => occursIn token (lowerChars source.title)

/-- The refs of a claim without those that resolve to a digest. -/
def flattenToPrimary
    (claim : Claim)
    (sources : OrderedMap String Source) : List String :=
  claim.sourceRefs.filter fun ref =>
    match sources.get? ref with
    | none => true
    | some source => !isDigest source

end Flattening

end CitationPolicy

/-! ## Blockers -/

structure Blocker where
  blockerType : BlockerType
  description : String := ""
  sourceId : String := ""
  owner : Option String := none
  deriving Repr, DecidableEq

namespace Blockers

/-- The impact from which on an open issue blocks the answer. -/
def researchImpactFloor : Int :=
  3

def ofIssueStatus : IssueStatus → Option BlockerType
  | .blockedByInternalData => some .internalData
  | .blockedByPermission => some .permission
  | .blockedByHuman => some .humanJudgment
  | .blockedByDecision => some .albertDecision
  | _ => none

def ofChallengeStatus : ChallengeStatus → Option BlockerType
  | .needsInternalData => some .internalData
  | .needsBuJudgment => some .buPreference
  | .needsAlbertDecision => some .albertDecision
  | _ => none

/-- Everything that blocks the answer: issues, open research, challenges. -/
def labelBlockers (state : ResearchState) : List Blocker :=
  (state.issueMap.entries.filterMap fun (id, node) =>
      (ofIssueStatus node.status).map fun blockerType =>
        { blockerType := blockerType
          description := node.title
          sourceId := id }) ++
    (state.issueMap.entries.filterMap fun (id, node) =>
      if Exhaustion.isAddressable node.status ∧
          researchImpactFloor ≤ node.impact then
        some
          { blockerType := .research
            description := node.title
            sourceId := id }
      else
        none) ++
    state.albertChallengeMap.entries.filterMap fun (id, challenge) =>
      (ofChallengeStatus challenge.status).map fun blockerType =>
        { blockerType := blockerType
          description := challenge.challenge
          sourceId := id
          owner := challenge.blockingOwner }

end Blockers

/-! ## Sections -/

/-- The sections of the memo. -/
inductive SectionKey where
  | findings
  | executiveAnswer
  | albertChallengeMap
  | canCannotSay
  | blocking
  | requiredHumanDecisions
  | evidenceSummary
  | risksAssumptions
  | recommendedNextAction
  | appendix
  deriving Repr, DecidableEq

/-- The prose a synthesizer writes, by section; a section may be left out. -/
abbrev Prose :=
  SectionKey → Option String

structure MemoSection where
  key : SectionKey
  title : String
  body : String := ""
  deriving Repr, DecidableEq

structure Memo where
  sections : List MemoSection := []
  blockers : List Blocker := []
  unverifiedKeyClaims : List String := []
  needsSupplement : List String := []
  emitted : Bool := false
  refusedReason : Option String := none
  deriving Repr, DecidableEq

namespace DecisionMemo

/-- The findings lead, the decision sections follow. -/
def memoOrder : List SectionKey :=
  [.findings, .evidenceSummary, .executiveAnswer, .canCannotSay,
    .risksAssumptions, .albertChallengeMap, .blocking,
    .requiredHumanDecisions, .recommendedNextAction, .appendix]

def sectionTitle : SectionKey → String
  | .findings => "研究發現（Findings — 已引用 [S-…]，答覆原始問題）"
  | .evidenceSummary => "證據摘要（Evidence Summary，已引用）"
  | .executiveAnswer => "Executive Answer（主管級結論）"
  | .albertChallengeMap => "Albert Challenge Map（質疑地圖）"
  | .canCannotSay => "What We Can / Cannot Say（能說 / 不能說）"
  | .blocking => "What Is Blocking Us（阻擋點）"
  | .requiredHumanDecisions =>
      "Required Human Decisions / Inputs（需人類決策 / 輸入）"
  | .risksAssumptions => "Risks & Assumptions（風險與假設）"
  | .recommendedNextAction => "Recommended Next Action（建議下一步）"
  | .appendix => "Appendix（附錄）"

/-- Lines joined into one text. -/
def joinLines (lines : List String) : String :=
  "\n".intercalate lines

def renderBlockers (blockers : List Blocker) : String :=
  if blockers = [] then
    "（目前沒有阻擋點。）"
  else
    joinLines
      (blockers.map fun blocker =>
        let owner :=
          if isSet blocker.owner then
            " owner=" ++ blocker.owner.getD ""
          else
            ""
        "- [" ++ blocker.blockerType.value ++ "] " ++ blocker.description ++
          " (source=" ++ blocker.sourceId ++ owner ++ ")")

def renderChallengeStatuses (state : ResearchState) : String :=
  if state.albertChallengeMap.entries = [] then
    "（目前沒有 Albert 質疑。）"
  else
    joinLines
      (state.albertChallengeMap.values.map fun challenge =>
        "- [" ++ challenge.status.value ++ "] " ++ challenge.challenge)

/-- The line that flags an unverified critical claim. -/
def supplementLine (item : String) : String :=
  "- [needs human supplement] " ++ item

def renderNeedsSupplement (items : List String) : String :=
  if items = [] then
    ""
  else
    joinLines
      (("⚠ 以下為決策關鍵但無法以引用驗證之項目（needs human supplement，" ++
          "非已驗證事實）：") :: items.map supplementLine)

/-- Prose followed by a computed part. -/
def withAddition (body addition : String) : String :=
  if body = "" then addition else body ++ "\n\n" ++ addition

/-- The body of one section. -/
def sectionBody
    (state : ResearchState)
    (prose : Prose)
    (needsSupplement : List String)
    (key : SectionKey) : String :=
  let body := strip ((prose key).getD "")
  match key with
  | .findings =>
      if body ≠ "" then
        body
      else if state.evidence = [] then
        "N/A（無可引用之證據，未臆測）。"
      else
        "（findings 缺失；請參考下方證據摘要。）"
  | .blocking =>
      withAddition body (renderBlockers (Blockers.labelBlockers state))
  | .albertChallengeMap =>
      withAddition body (renderChallengeStatuses state)
  | .canCannotSay
  | .requiredHumanDecisions =>
      if needsSupplement = [] then
        body
      else
        withAddition body (renderNeedsSupplement needsSupplement)
  | _ => body

def memoSection
    (state : ResearchState)
    (prose : Prose)
    (needsSupplement : List String)
    (key : SectionKey) : MemoSection where
  key := key
  title := sectionTitle key
  body := sectionBody state prose needsSupplement key

/-! ## Routing of the claims -/

/-- The confidence from which on a claim is decisive. -/
def keyClaimConf : Int :=
  4

/-- All claims with the issue of the bundle they come from. -/
def collectClaims (state : ResearchState) : List (Claim × Option String) :=
  state.evidence.flatMap fun bundle =>
    bundle.claims.map fun claim => (claim, bundle.issueId)

/-- All sources by identifier; a later one replaces an earlier one. -/
def collectSources (state : ResearchState) : OrderedMap String Source :=
  (state.evidence.flatMap EvidenceBundle.sources).foldl
    (fun known source => known.insert source.id source) ∅

/-- The text of every source that its quotes are checked against. -/
def sourceTexts (sources : OrderedMap String Source) :
    OrderedMap String String :=
  sources.mapValues Source.excerpt

/-- An unverified claim here would gamble the high-impact frontier. -/
def claimIsCritical
    (state : ResearchState)
    (issueId : Option String) : Bool :=
  match (issueId.filter (· ≠ "")).bind state.issueMap.get? with
  | none => false
  | some node =>
      decide (PullRisk.highImpact ≤ node.impact) &&
        decide (PullRisk.classifyPull state = .high)

/-- The cell of the claim already asks for what is missing. -/
def cellOwnsSupplement
    (state : ResearchState)
    (issueId : Option String) : Bool :=
  match state.taskGrid, issueId with
  | some grid, some id =>
      match grid.cells.get? id with
      | none => false
      | some cell => decide (cell.status = .na ∨ cell.status = .blocked)
  | _, _ => false

/-- The task that asks a human about an unverified critical claim. -/
def supplementTask
    (tasks : OrderedMap String HumanTask)
    (claimText : String) : HumanTask where
  id := HumanTasks.nextId tasks
  taskTitle := "補充驗證：" ++ claimText
  requestedInput := claimText
  whyNeeded :=
    "決策關鍵主張無法以引用驗證（coverage < 0.85）；需人類補充" ++
      "可驗證的資料或判斷，才能將其當作事實呈現。"
  blockingQuestion := claimText
  priority := 5
  canContinueWithoutIt := true
  fallbackPlan :=
    "先繼續其他分支；此項僅列於『不能說 / 需人類決策』，不當作事實。"
  status := .open

inductive Disposition where
  | cite
  | drop
  | supplement
  deriving Repr, DecidableEq

structure RouteResult where
  cited : List Claim := []
  dropped : List Claim := []
  needsSupplement : List HumanTask := []
  deriving Repr, DecidableEq

section Assembly

variable [PythonText]

/-- Verification of a claim after its digest refs are stripped. -/
def verifyFlattened (state : ResearchState) (claim : Claim) : VerifyResult :=
  let sources := collectSources state
  verifyClaim
    { claim with
      sourceRefs := CitationPolicy.flattenToPrimary claim sources }
    sources (sourceTexts sources)

/-- What becomes of a claim. -/
def disposition
    (state : ResearchState)
    (claim : Claim)
    (issueId : Option String) : Disposition :=
  if (verifyFlattened state claim).verified then
    .cite
  else if !claimIsCritical state issueId then
    .drop
  else if cellOwnsSupplement state issueId then
    .drop
  else
    .supplement

/--
Route the claims one by one.  A text that was already asked for is looked up
among the tasks; `none` when it is not there any more.
-/
def routeClaims (state : ResearchState) :
    List (Claim × Option String) →
      OrderedMap String HumanTask →
      List String →
      RouteResult →
      Option (RouteResult × OrderedMap String HumanTask)
  | [], tasks, _, result => some (result, tasks)
  | (claim, issueId) :: rest, tasks, existingInputs, result =>
      match disposition state claim issueId with
      | .cite =>
          routeClaims state rest tasks existingInputs
            { result with cited := result.cited ++ [claim] }
      | .drop =>
          routeClaims state rest tasks existingInputs
            { result with dropped := result.dropped ++ [claim] }
      | .supplement =>
          if claim.claim ∈ existingInputs then
            match tasks.values.find? fun task =>
                task.requestedInput = claim.claim with
            | none => none
            | some task =>
                routeClaims state rest tasks existingInputs
                  { result with
                    needsSupplement := result.needsSupplement ++ [task] }
          else
            let task := supplementTask tasks claim.claim
            routeClaims state rest (tasks.insert task.id task)
              (claim.claim :: existingInputs)
              { result with
                needsSupplement := result.needsSupplement ++ [task] }

/-- Route every claim of the state; the tasks of the state may grow. -/
def routeCitations (state : ResearchState) :
    Option (RouteResult × ResearchState) :=
  (routeClaims state (collectClaims state) state.humanTasks
      (state.humanTasks.values.map HumanTask.requestedInput) {}).map
    fun (result, tasks) => (result, { state with humanTasks := tasks })

/-- The texts of the decisive claims that stay unverified. -/
def citationPass (state : ResearchState) : List String :=
  (state.evidence.flatMap EvidenceBundle.claims).filterMap fun claim =>
    let result := verifyFlattened state claim
    let critical := decide (keyClaimConf ≤ claim.confidence)
    let action := CitationPolicy.classify result critical true
    if result.verified = false ∧ critical = true ∧
        (action.kind = .escalateHuman ∨ action.kind = .flag) then
      some claim.claim
    else
      none

/-- Assemble the memo; the gates decide later whether it is emitted. -/
def assembleMemo
    (state : ResearchState)
    (prose : Prose) : Option (Memo × ResearchState) :=
  (routeCitations state).map fun (route, routed) =>
    let needsSupplement :=
      route.needsSupplement.map HumanTask.requestedInput
    ({ sections := memoOrder.map (memoSection routed prose needsSupplement)
       blockers := Blockers.labelBlockers state
       unverifiedKeyClaims :=
         (citationPass routed).filter fun text => text ∉ needsSupplement
       needsSupplement := needsSupplement },
      routed)

end Assembly

/-! ## Emission -/

/-- Apply the four gates in order; the first one that fails names itself. -/
def checkEmission
    (state : ResearchState)
    (memo : Memo)
    (explicit : Bool) : Memo :=
  match state.lastAudit with
  | none =>
      { memo with
        emitted := false
        refusedReason := some "degraded-audit gate: no Albert audit has run" }
  | some audit =>
      if audit.degraded then
        { memo with
          emitted := false
          refusedReason :=
            some "degraded-audit gate: the Albert audit ran degraded/mock" }
      else if !explicit && Convergence.hasUnresolvedHighImpact state then
        { memo with
          emitted := false
          refusedReason :=
            some
              ("convergence gate: a high-impact Albert challenge is " ++
                "still unresolved") }
      else if memo.unverifiedKeyClaims ≠ [] then
        { memo with
          emitted := false
          refusedReason :=
            some
              ("citation gate: unverified KEY claim(s): " ++
                "; ".intercalate memo.unverifiedKeyClaims) }
      else if !Exhaustion.targetsMet state && !explicit then
        { memo with
          emitted := false
          refusedReason :=
            some
              ("readiness gate: readiness target not met and no " ++
                "explicit emit command") }
      else
        { memo with emitted := true, refusedReason := none }

/-- The memo as it is stored. -/
def renderMemo (memo : Memo) : String :=
  let banner :=
    match memo.refusedReason with
    | none => []
    | some reason =>
        if memo.emitted ∨ reason = "" then
          []
        else
          ["\n> ⚠ NOT EMITTED — " ++ reason ++ "\n"]
  joinLines
    ("# §22 Decision Memo" :: banner ++
      memo.sections.map fun part =>
        "\n## " ++ part.title ++ "\n\n" ++ part.body)

end DecisionMemo

end ResearchCos
