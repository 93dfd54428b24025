import ResearchCos.Bookkeeping
import ResearchCos.Collecting

namespace ResearchCos

open Foundation

/-!
# The loop ends on its ceiling

A pass of the loop counts one iteration, and every way back into the loop is
taken below the ceiling only.  So the rounds that are left bound the steps that
are left, from every node of the graph.
-/

/-! ## Entry points -/

/-- The start of the synchronous loop. -/
def runLoopStart
    (initial : ResearchState)
    (now : String)
    (maxIterations : Int)
    (assumeBrief : Bool)
    (world : World) : Execution where
  graph :=
    { researchState := initial
      config :=
        { now := now
          maxIterations := maxIterations
          assumeBrief := assumeBrief } }
  control := .at .intake
  world := world

/-- The recursion limit of the synchronous loop. -/
def runLoopRecursionLimit (maxIterations : Int) : Int :=
  50 + 20 * max 1 maxIterations

/-! ## Uninterrupted runs -/

/-- Neither an exception nor a question stops the run. -/
def Control.Running : Control → Prop
  | .at _ => True
  | .pausedAt _ _ => False
  | .ended => True
  | .crashed => False

instance : DecidablePred Control.Running
  | .at _ => inferInstanceAs (Decidable True)
  | .pausedAt _ _ => inferInstanceAs (Decidable False)
  | .ended => inferInstanceAs (Decidable True)
  | .crashed => inferInstanceAs (Decidable False)

/-- Nothing stops the run wherever it passes. -/
def Uninterrupted
    (step : Execution → StepEnv → Option Execution)
    (initial : Execution)
    (labels : List StepEnv) : Prop :=
  ∀ {earlier later state},
    labels = earlier ++ later →
    exec step initial earlier = some state →
    state.control.Running

/-- The first labels of an endless supply. -/
def firstLabels (envs : Nat → StepEnv) (n : Nat) : List StepEnv :=
  (List.range n).map envs

/-- The node that a step executes. -/
def visitedNodes (execution : Execution) (_ : StepEnv) : List Node :=
  execution.control.node?.toList

/-! ## What is left of a run -/

/-- The iterations below the ceiling. -/
def roundsLeft (state : GraphState) : Nat :=
  (state.config.maxIterations - state.researchState.iterationCount).toNat

/-- The steps that a run has left at most. -/
def stepsFrom (rounds : Nat) : Node → Nat
  | .humanReview => 1
  | .humanPull => 14 * rounds + 2
  | .deepAudit => 14 * rounds + 3
  | .cosDecision => 14 * rounds + 4
  | .antiPremature => 14 * rounds + 5
  | .readinessScoring => 14 * (rounds - 1) + 6
  | .artifactUpdate => 14 * (rounds - 1) + 7
  | .albertAudit => 14 * (rounds - 1) + 8
  | .skeptic => 14 * (rounds - 1) + 9
  | .collect => 14 * (rounds - 1) + 10
  | .researchFanout => 14 * (rounds - 1) + 11
  | .supervisor => 14 * (rounds - 1) + 12
  | .planApproval => 14 * (rounds - 1) + 13
  | .issueExpansion => 14 * (rounds - 1) + 13
  | .humanPush => 14 * (rounds - 1) + 13
  | .planAudit => 14 * (rounds - 1) + 14
  | .orchestratorPlan => 14 * (rounds - 1) + 15
  | .writeBrief => 14 * (rounds - 1) + 16
  | .clarify => 14 * (rounds - 1) + 17
  | .scope => 14 * (rounds - 1) + 18
  | .intake => 14 * (rounds - 1) + 19

/-- The decisions that a run has left at most. -/
def decisionsFrom (rounds : Nat) : Node → Nat
  | .antiPremature
  | .cosDecision => rounds + 1
  | .humanPull
  | .deepAudit
  | .humanReview => rounds
  | _ => rounds - 1 + 1

/-- A pass that is counted but not decided yet. -/
def undecidedPass : Control → Nat
  | .at .antiPremature
  | .at .cosDecision => 1
  | _ => 0

/-- A bound that applies at the node of a run. -/
def boundAt (bound : Nat → Node → Nat) (execution : Execution) : Nat :=
  (execution.control.node?.map (bound (roundsLeft execution.graph))).getD 0

/-- The steps and the decisions that a running step uses up. -/
structure Progresses (node : Node) (execution next : Execution) : Prop where
  config : next.graph.config = execution.graph.config
  iterationCount :
    next.graph.researchState.iterationCount =
      execution.graph.researchState.iterationCount +
        [node].count .readinessScoring
  steps : boundAt stepsFrom next < boundAt stepsFrom execution
  decisions :
    boundAt decisionsFrom next + [node].count .cosDecision ≤
      boundAt decisionsFrom execution
  undecided :
    undecidedPass next.control + [node].count .cosDecision =
      undecidedPass execution.control + [node].count .readinessScoring

section Runs

variable [PythonText]

omit [PythonText] in
/-- One more label of an endless supply. -/
theorem firstLabels_succ
    (envs : Nat → StepEnv)
    (n : Nat) :
    firstLabels envs (n + 1) = firstLabels envs n ++ [envs n] := by
  simp [firstLabels, List.range_succ]

omit [PythonText] in
/-- Below the ceiling there is a round left. -/
theorem roundsLeft_pos_iff
    (state : GraphState) :
    0 < roundsLeft state ↔ ceilingHit state = false := by
  simp only [roundsLeft, ceilingHit, decide_eq_false_iff_not]
  omega

omit [PythonText] in
/-- Following an edge leaves the configuration and the books alone. -/
theorem successor_keepsBooks
    (cap : Option ActiveCap)
    (state : GraphState)
    (node : Node) :
    (successor cap state node).2.config = state.config ∧
      KeepsBooks state.researchState
        (successor cap state node).2.researchState := by
  rcases successor_state cap state node with same | recorded
  · rw [same]
    exact ⟨rfl, .refl _⟩
  · rw [recorded]
    exact ⟨rfl, .of_eq rfl rfl⟩

omit [PythonText] in
/-- The deep audit, or below the ceiling a way back into the loop. -/
theorem route_cases
    (cap : Option ActiveCap)
    (state : GraphState) :
    (route cap state).1 = .deepAudit ∨
      0 < roundsLeft state ∧
        ((route cap state).1 = .orchestratorPlan ∨
          (route cap state).1 = .humanPull ∨
          (route cap state).1 = .humanPush ∨
          (route cap state).1 = .issueExpansion) := by
  rw [roundsLeft_pos_iff]
  simp only [route]
  repeat' split
  all_goals simp_all

omit [PythonText] in
/-- The review, or below the ceiling the way back into the loop. -/
theorem routeAfterPull_cases
    (cap : Option ActiveCap)
    (state : GraphState) :
    (routeAfterPull cap state).1 = .humanReview ∨
      0 < roundsLeft state ∧
        (routeAfterPull cap state).1 = .orchestratorPlan := by
  rw [roundsLeft_pos_iff]
  simp only [routeAfterPull]
  repeat' split
  all_goals simp_all

omit [PythonText] in
/-- An unanswered clarification that does not pause pins the brief down. -/
theorem nodeClarify_passes
    {env : StepEnv}
    {state : GraphState}
    {world after : World}
    {update : Update}
    (unanswered : env.answer = none)
    (updated : nodeClarify env state world = .update update after) :
    update.researchState.clarifyConverged = true := by
  simp only [nodeClarify, unanswered] at updated
  repeat' split at updated
  all_goals
    cases updated
    try rfl

omit [PythonText] in
/-- The rounds that are left after a node: one less after the scoring. -/
theorem roundsLeft_of_books
    {node : Node}
    {before after : GraphState}
    (config : after.config = before.config)
    (iterationCount :
      after.researchState.iterationCount =
        before.researchState.iterationCount +
          [node].count .readinessScoring) :
    roundsLeft after =
      roundsLeft before - [node].count .readinessScoring := by
  simp only [roundsLeft, config, iterationCount]
  omega

omit [PythonText] in
/-- What a node does to the iteration count. -/
theorem NodeBooks.counts
    {node : Node}
    {before after : ResearchState}
    (books : NodeBooks node before after) :
    after.iterationCount =
      before.iterationCount + [node].count .readinessScoring := by
  cases node with
  | readinessScoring =>
      exact books.1
  | orchestratorPlan =>
      simpa using books.1
  | supervisor =>
      simpa using books.1
  | _ =>
      simpa using KeepsBooks.iterationCount books

/-- A visit that updates without an answer uses up a step. -/
theorem progresses_of_update
    {env : StepEnv}
    {node : Node}
    {execution : Execution}
    {update : Update}
    {world : World}
    (standsAt : execution.control = .at node)
    (unanswered : env.answer = none)
    (ran :
      runNode env execution.graph
          (receiveDrops env.drops execution.world) node =
        .update update world) :
    Progresses node execution
      { graph := (successor env.cap (execution.graph.apply update) node).2
        control :=
          (successor env.cap (execution.graph.apply update) node).1.elim
            .ended .at
        world := world } := by
  have books := (runNode_updates ran).books
  obtain ⟨config, kept⟩ :=
    successor_keepsBooks env.cap (execution.graph.apply update) node
  have configKept :
      (successor env.cap (execution.graph.apply update) node).2.config =
        execution.graph.config :=
    config
  have counts := kept.iterationCount.trans books.counts
  have rounds := roundsLeft_of_books configKept counts
  have updatedRounds :
      roundsLeft (execution.graph.apply update) =
        roundsLeft execution.graph - [node].count .readinessScoring :=
    roundsLeft_of_books rfl books.counts
  refine ⟨configKept, counts, ?_, ?_, ?_⟩
  all_goals
    simp only [boundAt, standsAt, rounds, Control.node?_elim]
    cases node with
    | clarify =>
        have pinned := nodeClarify_passes unanswered ran
        simp [successor, routeAfterClarify, GraphState.apply, pinned,
          Control.node?, stepsFrom, decisionsFrom, undecidedPass]
    | cosDecision =>
        rcases route_cases env.cap (execution.graph.apply update) with
          audits | ⟨below, plans | pulls | pushes | expands⟩
        all_goals
          simp_all [successor, Control.node?, stepsFrom, decisionsFrom,
            undecidedPass]
          try omega
    | humanPull =>
        rcases routeAfterPull_cases env.cap
            (execution.graph.apply update) with reviews | ⟨below, plans⟩
        all_goals
          simp_all [successor, Control.node?, stepsFrom, decisionsFrom,
            undecidedPass]
          try omega
    | deepAudit =>
        simp only [successor, routeAfterDeepAudit]
        split <;>
          simp [Control.node?, stepsFrom, decisionsFrom, undecidedPass]
    | _ =>
        simp [successor, Control.node?, stepsFrom, decisionsFrom,
          undecidedPass]

/-- A step between two running states uses up a step. -/
theorem step_progresses
    {execution next : Execution}
    {env : StepEnv}
    (running : execution.control.Running)
    (nextRunning : next.control.Running)
    (stepped : step execution env = some next) :
    ∃ node,
      execution.control = .at node ∧ Progresses node execution next := by
  obtain ⟨node, seen, visits, rfl⟩ := step_visits stepped
  cases visits with
  | resumed standsAt answered =>
      rw [standsAt] at running
      exact running.elim
  | entered standsAt =>
      refine ⟨node, standsAt, ?_⟩
      rcases visit_cases { env with answer := none } node execution with
        ⟨world, raised⟩ | ⟨ask, world, _, paused⟩ |
          ⟨update, world, ran, moved⟩
      · rw [raised] at nextRunning
        exact nextRunning.elim
      · rw [paused] at nextRunning
        exact nextRunning.elim
      · rw [moved]
        exact progresses_of_update standsAt rfl ran

/-- What a run has used up so far, and what it has left. -/
structure Spent
    (initial : Execution)
    (labels : List StepEnv)
    (reached : Execution) : Prop where
  config : reached.graph.config = initial.graph.config
  steps :
    labels.length + boundAt stepsFrom reached ≤ boundAt stepsFrom initial
  decisions :
    (observe step visitedNodes initial labels).count .cosDecision +
        boundAt decisionsFrom reached ≤
      boundAt decisionsFrom initial
  iterationCount :
    reached.graph.researchState.iterationCount =
      initial.graph.researchState.iterationCount +
        (observe step visitedNodes initial labels).count .readinessScoring
  undecided :
    undecidedPass reached.control +
        (observe step visitedNodes initial labels).count .cosDecision =
      undecidedPass initial.control +
        (observe step visitedNodes initial labels).count .readinessScoring

/-- Along an uninterrupted run every step is accounted for. -/
theorem spent_of_run
    {initial reached : Execution}
    {labels : List StepEnv}
    (uninterrupted : Uninterrupted step initial labels)
    (ran : exec step initial labels = some reached) :
    Spent initial labels reached := by
  refine exec_induction
    (motive := fun labels reached =>
      Uninterrupted step initial labels → Spent initial labels reached)
    ?_ ?_ ran uninterrupted
  · intro _
    exact
      { config := rfl
        steps := by simp
        decisions := by simp [observe]
        iterationCount := by simp [observe]
        undecided := by simp [observe] }
  · intro labels state env next reachedState earlier stepped runs
    have spent : Spent initial labels state := by
      refine earlier ?_
      intro before after middle shape
      exact runs (by rw [shape, List.append_assoc])
    have ranNext : exec step initial (labels ++ [env]) = some next := by
      simp [exec_append, reachedState, stepped]
    obtain ⟨node, standsAt, progress⟩ :=
      step_progresses (runs rfl reachedState)
        (runs (List.append_nil _).symm ranNext) stepped
    have visited :
        observe step visitedNodes initial (labels ++ [env]) =
          observe step visitedNodes initial labels ++ [node] := by
      rw [observe_snoc visitedNodes reachedState, visitedNodes, standsAt]
      rfl
    refine ⟨progress.config.trans spent.config, ?_, ?_, ?_, ?_⟩
    · have before := spent.steps
      have used := progress.steps
      simp only [List.length_append, List.length_singleton]
      omega
    · have before := spent.decisions
      have used := progress.decisions
      rw [visited, List.count_append]
      omega
    · have before := spent.iterationCount
      have counted := progress.iterationCount
      rw [visited, List.count_append]
      push_cast
      omega
    · have before := spent.undecided
      have counted := progress.undecided
      rw [visited, List.count_append, List.count_append]
      omega

omit [PythonText] in
/-- A run that stands at a node has a step left. -/
theorem boundAt_stepsFrom_pos
    {execution : Execution}
    {node : Node}
    (standsAt : execution.control = .at node) :
    0 < boundAt stepsFrom execution := by
  rw [boundAt, standsAt]
  cases node <;> simp [Control.node?, stepsFrom]

/-- An endless supply of labels leads to the end, or from node to node. -/
theorem ended_or_running
    {initial : Execution}
    {envs : Nat → StepEnv}
    (started : Started initial)
    {n : Nat}
    (uninterrupted :
      ∀ k ≤ n, ∀ state,
        exec step initial (firstLabels envs k) = some state →
        state.control.Running) :
    (∃ k final, k ≤ n ∧
        exec step initial (firstLabels envs k) = some final ∧
        final.control = .ended) ∨
      ∃ state node,
        exec step initial (firstLabels envs n) = some state ∧
          state.control = .at node := by
  induction n with
  | zero =>
      exact Or.inr ⟨initial, .intake, rfl, started⟩
  | succ n inductionHypothesis =>
      rcases inductionHypothesis
          (fun k within => uninterrupted k (Nat.le_succ_of_le within)) with
        ⟨k, final, within, ran, ended⟩ | ⟨state, node, ran, standsAt⟩
      · exact Or.inl ⟨k, final, Nat.le_succ_of_le within, ran, ended⟩
      · let next := visit { envs n with answer := none } node state
        have ranNext :
            exec step initial (firstLabels envs (n + 1)) = some next := by
          rw [firstLabels_succ, exec_append, ran]
          simp [step, standsAt, next]
        have running := uninterrupted (n + 1) le_rfl next ranNext
        cases reached : next.control with
        | «at» target =>
            exact Or.inr ⟨next, target, ranNext, reached⟩
        | ended =>
            exact Or.inl ⟨n + 1, next, le_rfl, ranNext, reached⟩
        | pausedAt target ask =>
            rw [reached] at running
            exact running.elim
        | crashed =>
            rw [reached] at running
            exact running.elim

omit [PythonText] in
/-- The first part of the first labels are first labels. -/
theorem prefix_firstLabels
    {envs : Nat → StepEnv}
    {n : Nat}
    {earlier later : List StepEnv}
    (shape : firstLabels envs n = earlier ++ later) :
    earlier = firstLabels envs earlier.length := by
  have taken := congrArg (List.take earlier.length) shape
  rw [List.take_left] at taken
  have within : earlier.length ≤ n := by
    have lengths := congrArg List.length shape
    simp only [firstLabels, List.length_map, List.length_range,
      List.length_append] at lengths
    omega
  rw [firstLabels, ← List.map_take, List.take_range, min_eq_left within]
    at taken
  exact taken.symm

/--
A synchronous run with an assumed brief that nothing stops reaches its end
within its recursion limit and within the ceiling of passes, and each pass
counts exactly one iteration.
-/
theorem runLoop_reaches_end
    {initial : ResearchState}
    {now : String}
    {maxIterations : Int}
    {world : World}
    {envs : Nat → StepEnv}
    (counted : 0 ≤ initial.iterationCount)
    (uninterrupted :
      ∀ n state,
        exec step (runLoopStart initial now maxIterations true world)
            (firstLabels envs n) =
          some state →
        state.control.Running) :
    ∃ n final,
      exec step (runLoopStart initial now maxIterations true world)
            (firstLabels envs n) =
          some final ∧
        final.control = .ended ∧
        (n : Int) ≤ runLoopRecursionLimit maxIterations ∧
        ((observe step visitedNodes
              (runLoopStart initial now maxIterations true world)
              (firstLabels envs n)).count .cosDecision : Int) ≤
          max 1 maxIterations ∧
        ∀ k state, k ≤ n →
          exec step (runLoopStart initial now maxIterations true world)
              (firstLabels envs k) =
            some state →
          state.graph.researchState.iterationCount =
            initial.iterationCount +
              ((observe step visitedNodes
                    (runLoopStart initial now maxIterations true world)
                    (firstLabels envs k)).count .cosDecision +
                undecidedPass state.control : Nat) := by
  have rounds :
      (roundsLeft
          (runLoopStart initial now maxIterations true world).graph : Int) ≤
        max 0 maxIterations := by
    simp only [runLoopStart, roundsLeft]
    omega
  have started :
      Started (runLoopStart initial now maxIterations true world) :=
    rfl
  have sameCount :
      (runLoopStart initial now maxIterations true
          world).graph.researchState.iterationCount =
        initial.iterationCount :=
    rfl
  generalize runLoopStart initial now maxIterations true world = start
    at uninterrupted rounds started sameCount ⊢
  have stepsAtStart :
      boundAt stepsFrom start = 14 * (roundsLeft start.graph - 1) + 19 := by
    rw [boundAt, started]
    rfl
  have decisionsAtStart :
      boundAt decisionsFrom start = roundsLeft start.graph - 1 + 1 := by
    rw [boundAt, started]
    rfl
  have undecidedAtStart : undecidedPass start.control = 0 := by
    rw [started]
    rfl
  have uninterruptedPrefix (n : Nat) :
      Uninterrupted step start (firstLabels envs n) := by
    intro earlier later state shape reached
    refine uninterrupted earlier.length state ?_
    rw [← prefix_firstLabels shape]
    exact reached
  have lengthOf (n : Nat) : (firstLabels envs n).length = n := by
    simp [firstLabels]
  have neverStopped :
      ∀ k ≤ boundAt stepsFrom start, ∀ state,
        exec step start (firstLabels envs k) = some state →
        state.control.Running :=
    fun k _ => uninterrupted k
  rcases ended_or_running started neverStopped with
    ⟨n, final, _, ran, ended⟩ | ⟨state, node, ran, standsAt⟩
  · have spent := spent_of_run (uninterruptedPrefix n) ran
    have steps := spent.steps
    have decisions := spent.decisions
    rw [lengthOf] at steps
    refine ⟨n, final, ran, ended, ?_, ?_, ?_⟩
    · simp only [runLoopRecursionLimit]
      omega
    · omega
    · intro k state _ ranEarlier
      have spentEarlier := spent_of_run (uninterruptedPrefix k) ranEarlier
      have undecided := spentEarlier.undecided
      rw [spentEarlier.iterationCount, sameCount]
      push_cast
      omega
  · have spent := spent_of_run (uninterruptedPrefix _) ran
    have steps := spent.steps
    rw [lengthOf] at steps
    have stepLeft := boundAt_stepsFrom_pos standsAt
    omega

/-- A run that is over was not stopped when its states until then were not. -/
theorem running_of_ended
    {initial final : Execution}
    {envs : Nat → StepEnv}
    {k : Nat}
    (ran : exec step initial (firstLabels envs k) = some final)
    (ended : final.control = .ended)
    (before :
      ∀ j ≤ k,
        ∀ state ∈ exec step initial (firstLabels envs j),
          state.control.Running)
    (n : Nat)
    (state : Execution)
    (reached : exec step initial (firstLabels envs n) = some state) :
    state.control.Running := by
  by_cases within : n ≤ k
  · exact before n within state reached
  · exfalso
    obtain ⟨rest, shape⟩ :
        ∃ rest,
          firstLabels envs n = firstLabels envs k ++ envs k :: rest := by
      obtain ⟨more, rfl⟩ := Nat.exists_eq_add_of_lt (Nat.not_le.mp within)
      refine ⟨(List.range more).map fun i => envs (k + (i + 1)), ?_⟩
      rw [firstLabels, Nat.add_assoc, List.range_add, List.map_append,
        List.range_succ_eq_map]
      simp [firstLabels, Function.comp_def]
    rw [shape, exec_append, ran] at reached
    simp [step, ended] at reached

end Runs

/-- A question without anything researched about it. -/
private def bareQuestion : ResearchState where
  runId := "run"
  originalQuestion := "question"

/-- A synchronous run with a ceiling of one pass reaches its end. -/
theorem onePass_reaches_end :
    letI := PythonText.ascii
    ∃ n final,
      exec step (runLoopStart bareQuestion "t" 1 true {})
            (firstLabels (fun _ => .calm Brains.silent) n) =
          some final ∧
        final.control = .ended ∧
        (n : Int) ≤ 70 := by
  let _ := PythonText.ascii
  let start := runLoopStart bareQuestion "t" 1 true {}
  have finished :
      (exec step start
        (firstLabels (fun _ => .calm Brains.silent) 18)).any
          (fun final => decide (final.control = .ended)) = true ∧
        ∀ j ≤ 18,
          ∀ state ∈
            exec step start
              (firstLabels (fun _ => .calm Brains.silent) j),
            state.control.Running := by
    decide +kernel
  obtain ⟨ended, before⟩ := finished
  rw [Option.any_eq_true_iff_get] at ended
  obtain ⟨isSome, isEnded⟩ := ended
  obtain ⟨n, final, ran, reachedEnd, within, _⟩ :=
    runLoop_reaches_end (le_refl bareQuestion.iterationCount)
      (running_of_ended (Option.some_get isSome).symm
        (of_decide_eq_true isEnded) before)
  exact ⟨n, final, ran, reachedEnd, within⟩

end ResearchCos
