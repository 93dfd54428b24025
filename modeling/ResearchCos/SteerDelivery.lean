import Mathlib.Data.List.Forall2
import ResearchCos.CommandLine
import ResearchCos.LoopTermination

namespace ResearchCos

open Foundation

/-!
# The way of a steer

A steer is written into the snapshot.  The graph continues from the checkpoint
and saves what it holds there over the snapshot, so a steer reaches the graph
only when the snapshot is made the input of the run again.
-/

/-! ## Steers by their text and time -/

/-- What identifies a steer: its text and its time. -/
def Steer.key (steer : Steer) : String × String :=
  (steer.text, steer.at_)

def steerKeys (rs : ResearchState) : List (String × String) :=
  (steersOf rs).map Steer.key

/-- The steers that took effect. -/
def consumedKeys (rs : ResearchState) : List (String × String) :=
  ((steersOf rs).filter Steer.consumed).map Steer.key

/-- The steers that are yet to take effect. -/
def waitingKeys (rs : ResearchState) : List (String × String) :=
  ((steersOf rs).filter fun steer => !steer.consumed).map Steer.key

/-- Whether a node consumes the steers. -/
def Node.consumes : Node → Bool
  | .orchestratorPlan
  | .supervisor => true
  | _ => false

/-- The steers that executing a node consumes. -/
def consumedBy (node : Node) (rs : ResearchState) : List (String × String) :=
  if node.consumes then waitingKeys rs else []

/-- The steer that a command adds to a paused run. -/
def acceptedSteers (desk : Desk) : Command → List (String × String)
  | .steer text now _ =>
      match desk.execution.control, desk.execution.world.snapshot with
      | .pausedAt _ _, some _ => [(text, now)]
      | _, _ => []
  | _ => []

/-- The steers that take effect in the node a command executes. -/
def consumptions (desk : Desk) : Command → List (String × String)
  | .proceed _
  | .runResume _
  | .resume _ _ _ =>
      match desk.execution.control.node? with
      | none => []
      | some node => consumedBy node desk.execution.graph.researchState
  | _ => []

/-- Whether a run waits at a pause. -/
def Control.isPaused : Control → Bool
  | .pausedAt _ _ => true
  | _ => false

/-- Consumed steers keep their text and their time. -/
theorem steerKeys_of_consumed
    {before after : ResearchState}
    (consumed : List.Forall₂ Consumed (steersOf before) (steersOf after)) :
    steerKeys after = steerKeys before := by
  simp only [steerKeys]
  generalize steersOf before = earlier, steersOf after = later
    at consumed ⊢
  induction consumed with
  | nil =>
      rfl
  | cons first _ inductionHypothesis =>
      simp only [List.map_cons, inductionHypothesis, Steer.key, first.text,
        first.at_]

/-- Consumed steers are marked as such. -/
theorem all_consumed
    {before after : ResearchState}
    (consumed : List.Forall₂ Consumed (steersOf before) (steersOf after)) :
    ∀ steer ∈ steersOf after, steer.consumed = true := by
  intro steer member
  obtain ⟨index, within, rfl⟩ := List.mem_iff_getElem.mp member
  have sameLength := consumed.length_eq
  have first := (List.forall₂_iff_get.mp consumed).2 index (by omega) within
  exact first.consumed

/-- Executing a node keeps every steer in its place. -/
theorem NodeBooks.steerKeys
    {node : Node}
    {before after : ResearchState}
    (books : NodeBooks node before after) :
    steerKeys after = steerKeys before := by
  cases node with
  | readinessScoring =>
      exact congrArg (List.map Steer.key) books.2
  | orchestratorPlan =>
      exact steerKeys_of_consumed books.2
  | supervisor =>
      exact steerKeys_of_consumed books.2
  | _ =>
      exact congrArg (List.map Steer.key) (KeepsBooks.steers books)

/-- The steers of a state are those that took effect and those that wait. -/
theorem consumedKeys_append_waitingKeys
    (rs : ResearchState) :
    (consumedKeys rs ++ waitingKeys rs).Perm (steerKeys rs) := by
  rw [consumedKeys, waitingKeys, ← List.map_append]
  exact (List.filter_append_perm Steer.consumed (steersOf rs)).map Steer.key

/-- Executing a node consumes what waits, or nothing. -/
theorem NodeBooks.consumedKeys
    {node : Node}
    {before after : ResearchState}
    (books : NodeBooks node before after) :
    (consumedKeys after).Perm
      (consumedKeys before ++ consumedBy node before) := by
  have consumes
      (consumed : List.Forall₂ Consumed (steersOf before) (steersOf after)) :
      (ResearchCos.consumedKeys after).Perm
        (ResearchCos.consumedKeys before ++ waitingKeys before) := by
    have everything : ResearchCos.consumedKeys after =
        ResearchCos.steerKeys after := by
      rw [ResearchCos.consumedKeys,
        List.filter_eq_self.mpr (all_consumed consumed)]
      rfl
    rw [everything, steerKeys_of_consumed consumed]
    exact (consumedKeys_append_waitingKeys before).symm
  have keeps (kept : steersOf after = steersOf before) :
      (ResearchCos.consumedKeys after).Perm
        (ResearchCos.consumedKeys before ++ []) := by
    rw [List.append_nil, ResearchCos.consumedKeys, kept]
    rfl
  cases node with
  | readinessScoring =>
      exact keeps books.2
  | orchestratorPlan =>
      exact consumes books.2
  | supervisor =>
      exact consumes books.2
  | _ =>
      exact keeps (KeepsBooks.steers books)

/-- Books that are kept after a node. -/
theorem NodeBooks.trans
    {node : Node}
    {before between after : ResearchState}
    (books : NodeBooks node before between)
    (kept : KeepsBooks between after) :
    NodeBooks node before after := by
  cases node with
  | readinessScoring =>
      exact ⟨kept.iterationCount.trans books.1, kept.steers.trans books.2⟩
  | orchestratorPlan =>
      exact ⟨kept.iterationCount.trans books.1, kept.steers ▸ books.2⟩
  | supervisor =>
      exact ⟨kept.iterationCount.trans books.1, kept.steers ▸ books.2⟩
  | _ =>
      exact KeepsBooks.trans books kept

/-! ## What executing a node does to the steers -/

section Delivery

variable [PythonText]

/-- A node that consumes steers does not pause. -/
theorem consumes_of_interrupt
    {env : StepEnv}
    {state : GraphState}
    {world after : World}
    {node : Node}
    {ask : Ask}
    (paused : runNode env state world node = .interrupt ask after) :
    node.consumes = false := by
  cases node with
  | orchestratorPlan =>
      simp only [runNode] at paused
      cases planned : nodeOrchestratorPlan env state <;>
        simp [planned, NodeResult.ofOption] at paused
  | supervisor =>
      cases paused
  | _ =>
      rfl

omit [PythonText] in
/-- The fan-out follows the supervisor, the scoring follows the snapshot. -/
theorem successor_origin
    (cap : Option ActiveCap)
    (state : GraphState)
    (node : Node) :
    ((successor cap state node).1 = some .researchFanout →
        node = .supervisor) ∧
      ((successor cap state node).1 = some .readinessScoring →
        node = .artifactUpdate) := by
  cases node with
  | clarify =>
      simp only [successor, routeAfterClarify]
      split <;> simp
  | cosDecision =>
      simp only [successor, route]
      repeat' split
      all_goals simp
  | humanPull =>
      simp only [successor, routeAfterPull]
      repeat' split
      all_goals simp
  | deepAudit =>
      simp only [successor, routeAfterDeepAudit]
      split <;> simp
  | _ =>
      simp [successor]

/-- How a visit leaves the steers. -/
inductive Leaves (node : Node) (execution next : Execution) : Prop where
  | crashed :
      next.graph = execution.graph →
      next.control = .crashed →
      Leaves node execution next
  | paused (ask : Ask) :
      next.graph = execution.graph →
      next.control = .pausedAt node ask →
      node.consumes = false →
      Leaves node execution next
  | moved (target : Option Node) :
      next.control = target.elim .ended .at →
      NodeBooks node execution.graph.researchState
        next.graph.researchState →
      (target = some .researchFanout → node = .supervisor) →
      (target = some .readinessScoring →
        ∃ saved,
          next.world.snapshot = some saved ∧
            steersOf saved = steersOf execution.graph.researchState) →
      Leaves node execution next

/-- Every visit leaves the steers in one of these ways. -/
theorem visit_leaves
    (env : StepEnv)
    (node : Node)
    (execution : Execution) :
    Leaves node execution (visit env node execution) := by
  rcases visit_cases env node execution with
    ⟨world, raised⟩ | ⟨ask, world, ran, paused⟩ | ⟨update, world, ran, moved⟩
  · rw [raised]
    exact .crashed rfl rfl
  · rw [paused]
    exact .paused ask rfl rfl (consumes_of_interrupt ran)
  · rw [moved]
    obtain ⟨toFanout, toScoring⟩ :=
      successor_origin env.cap (execution.graph.apply update) node
    refine .moved _ rfl ?_ toFanout ?_
    · exact
        NodeBooks.trans (runNode_updates ran).books
          (successor_keepsBooks env.cap (execution.graph.apply update) node).2
    · intro scores
      obtain rfl := toScoring scores
      simp only [runNode, nodeArtifactUpdate] at ran
      split at ran
      · cases ran
        exact ⟨_, rfl, rfl⟩
      · cases ran

/-! ## Segments -/

/-- The end of a segment leaves the channels and the control point alone. -/
theorem advance_execution
    (env : StepEnv)
    (node : Node)
    (desk : Desk) :
    (advance env node desk).execution.graph =
        (visit env node desk.execution).graph ∧
      (advance env node desk).execution.control =
        (visit env node desk.execution).control := by
  simp only [advance]
  split <;> exact ⟨rfl, rfl⟩

/-- What a command holds in memory at a pause has the steers of the checkpoint. -/
theorem steersOf_inPlaceState
    (env : StepEnv)
    (ask : Ask)
    (execution : Execution) :
    steersOf (inPlaceState env execution ask) =
      steersOf execution.graph.researchState := by
  cases ask with
  | clarify questions missing =>
      simp [inPlaceState, steersOf, SteeringEvent.steer?]
  | planApproval cells firstCycle =>
      simp [inPlaceState, steersOf, SteeringEvent.steer?]
  | pull payload =>
      rfl
  | review =>
      simp only [inPlaceState]
      cases built :
          buildAndGateMemo env execution.graph
            (receiveDrops env.drops execution.world) with
      | none =>
          rfl
      | some outcome =>
          exact (buildAndGateMemo_keepsBooks built).steers

/-- At the end of a segment the snapshot has the steers of the channels. -/
theorem advance_saves
    {env : StepEnv}
    {node : Node}
    {desk : Desk}
    (stops :
      (advance env node desk).execution.control.isPaused = true ∨
        (advance env node desk).execution.control = .ended) :
    ∃ saved,
      (advance env node desk).execution.world.snapshot = some saved ∧
        steersOf saved =
          steersOf (advance env node desk).execution.graph.researchState := by
  have leaves := visit_leaves env node desk.execution
  rw [(advance_execution env node desk).1]
  rw [(advance_execution env node desk).2] at stops
  simp only [advance]
  cases reached : (visit env node desk.execution).control with
  | «at» target =>
      rw [reached] at stops
      rcases stops with paused | ended
      · cases paused
      · cases ended
  | crashed =>
      rw [reached] at stops
      rcases stops with paused | ended
      · cases paused
      · cases ended
  | ended =>
      exact ⟨_, rfl, rfl⟩
  | pausedAt target ask =>
      refine ⟨_, rfl, ?_⟩
      have sameGraph :
          (visit env node desk.execution).graph = desk.execution.graph := by
        cases leaves with
        | crashed sameGraph _ =>
            exact sameGraph
        | paused _ sameGraph _ _ =>
            exact sameGraph
        | moved next isNext _ _ _ =>
            rw [reached] at isNext
            cases next <;> cases isNext
      cases desk.segment with
      | run =>
          rfl
      | resume =>
          rw [sameGraph]
          exact steersOf_inPlaceState env ask desk.execution

/-- While the run goes on the snapshot is left to its nodes. -/
theorem advance_snapshot
    {env : StepEnv}
    {node target : Node}
    {desk : Desk}
    (moves : (advance env node desk).execution.control = .at target) :
    (advance env node desk).execution.world.snapshot =
      (visit env node desk.execution).world.snapshot := by
  rw [(advance_execution env node desk).2] at moves
  simp only [advance, moves]

/-- The steers that reached a run, and the effect they had. -/
structure Delivered
    (base baseConsumed accepted consumed : List (String × String))
    (desk : Desk) : Prop where
  present :
    desk.execution.control.isPaused = false →
      steerKeys desk.execution.graph.researchState = base ++ accepted
  saved :
    desk.execution.control.isPaused = true ∨
        desk.execution.control = .ended →
      ∃ saved fresh,
        desk.execution.world.snapshot = some saved ∧
          steersOf saved =
            steersOf desk.execution.graph.researchState ++ fresh ∧
          (∀ steer ∈ fresh, steer.consumed = false) ∧
          steerKeys saved = base ++ accepted
  consumedOnce :
    desk.execution.control ≠ .crashed →
      (consumedKeys desk.execution.graph.researchState).Perm
        (baseConsumed ++ consumed)
  consumedNext :
    desk.execution.control = .at .researchFanout →
      ∀ steer ∈ steersOf desk.execution.graph.researchState,
        steer.consumed = true
  written :
    desk.execution.control = .at .readinessScoring →
      ∃ saved,
        desk.execution.world.snapshot = some saved ∧
          (base ++ accepted).Sublist (steerKeys saved)

/-- A node that is executed where every steer is present. -/
theorem advance_delivered
    {base baseConsumed accepted consumed : List (String × String)}
    (desk : Desk)
    (present :
      steerKeys desk.execution.graph.researchState = base ++ accepted)
    (consumedOnce :
      (consumedKeys desk.execution.graph.researchState).Perm
        (baseConsumed ++ consumed))
    (env : StepEnv)
    (node : Node) :
    Delivered base baseConsumed accepted
      (consumed ++ consumedBy node desk.execution.graph.researchState)
      (advance env node desk) := by
  obtain ⟨sameGraph, sameControl⟩ := advance_execution env node desk
  have saves (everySteer :
      steerKeys (advance env node desk).execution.graph.researchState =
        base ++ accepted) :
      (advance env node desk).execution.control.isPaused = true ∨
          (advance env node desk).execution.control = .ended →
        ∃ saved fresh,
          (advance env node desk).execution.world.snapshot = some saved ∧
            steersOf saved =
              steersOf (advance env node desk).execution.graph.researchState
                ++ fresh ∧
            (∀ steer ∈ fresh, steer.consumed = false) ∧
            steerKeys saved = base ++ accepted := by
    intro stops
    obtain ⟨saved, isSaved, sameSteers⟩ := advance_saves stops
    refine ⟨saved, [], isSaved, by rw [sameSteers, List.append_nil],
      by simp, ?_⟩
    rw [← everySteer]
    exact congrArg (List.map Steer.key) sameSteers
  cases visit_leaves env node desk.execution with
  | crashed unchanged crashed =>
      rw [crashed] at sameControl
      rw [unchanged] at sameGraph
      refine ⟨fun _ => by rw [sameGraph]; exact present,
        saves (by rw [sameGraph]; exact present), ?_, ?_, ?_⟩
      · intro notCrashed
        exact absurd sameControl notCrashed
      · intro researches
        cases sameControl.symm.trans researches
      · intro scores
        cases sameControl.symm.trans scores
  | paused ask unchanged paused consumesNot =>
      rw [paused] at sameControl
      rw [unchanged] at sameGraph
      refine ⟨fun _ => by rw [sameGraph]; exact present,
        saves (by rw [sameGraph]; exact present), ?_, ?_, ?_⟩
      · intro _
        rw [sameGraph, consumedBy, consumesNot]
        simpa using consumedOnce
      · intro researches
        cases sameControl.symm.trans researches
      · intro scores
        cases sameControl.symm.trans scores
  | moved target isTarget books toFanout toScoring =>
      rw [isTarget] at sameControl
      rw [← sameGraph] at books
      have everySteer :
          steerKeys (advance env node desk).execution.graph.researchState =
            base ++ accepted :=
        books.steerKeys.trans present
      refine ⟨fun _ => everySteer, saves everySteer, ?_, ?_, ?_⟩
      · intro _
        refine books.consumedKeys.trans ?_
        rw [← List.append_assoc]
        exact consumedOnce.append_right _
      · intro researches
        have isFanout : target = some .researchFanout := by
          cases target <;> cases sameControl.symm.trans researches
          rfl
        obtain rfl := toFanout isFanout
        exact all_consumed books.2
      · intro scores
        have isScoring : target = some .readinessScoring := by
          cases target <;> cases sameControl.symm.trans scores
          rfl
        obtain ⟨saved, isSaved, sameSteers⟩ := toScoring isScoring
        refine ⟨saved, (advance_snapshot scores).trans isSaved, ?_⟩
        rw [← present, steerKeys, steerKeys, sameSteers]

/-! ## Commands -/

omit [PythonText] in
/-- A paused run is continued from a checkpoint that has all steers. -/
def SteersCarried (desk : Desk) : Command → Prop
  | .runResume _
  | .resume _ _ _ =>
      ∀ saved ∈ desk.execution.world.snapshot,
        steersOf saved = steersOf desk.execution.graph.researchState
  | _ => True

omit [PythonText] in
instance (desk : Desk) :
    ∀ command, Decidable (SteersCarried desk command)
  | .proceed _ => inferInstanceAs (Decidable True)
  | .runResume _ => inferInstanceAs (Decidable (∀ saved ∈ _, _ = _))
  | .resume _ _ _ => inferInstanceAs (Decidable (∀ saved ∈ _, _ = _))
  | .steer _ _ _ => inferInstanceAs (Decidable True)
  | .runResumeState _ _ _ => inferInstanceAs (Decidable True)

omit [PythonText] in
/-- A paused run whose steers are all carried has them in its checkpoint. -/
theorem Delivered.carried
    {base baseConsumed accepted consumed : List (String × String)}
    {desk : Desk}
    (delivered : Delivered base baseConsumed accepted consumed desk)
    (paused : desk.execution.control.isPaused = true)
    (carried :
      ∀ saved ∈ desk.execution.world.snapshot,
        steersOf saved = steersOf desk.execution.graph.researchState) :
    steerKeys desk.execution.graph.researchState = base ++ accepted := by
  obtain ⟨saved, fresh, isSaved, _, _, everySteer⟩ :=
    delivered.saved (Or.inl paused)
  rw [← everySteer, steerKeys, steerKeys, carried saved isSaved]

omit [PythonText] in
/-- A steer that is yet to take effect. -/
def newSteer (text now : String) : Steer where
  text := text
  at_ := now
  consumed := false
  reranked := false

omit [PythonText] in
/-- A steer is appended to the steers of the snapshot. -/
theorem steersOf_applySteer
    (rs : ResearchState)
    (text now : String) :
    steersOf (applySteer rs text now) =
      steersOf rs ++ [newSteer text now] := by
  simp [steersOf, applySteer, SteeringEvent.steer?, newSteer]

omit [PythonText] in
/-- A steer reaches only the file of a run that does not wait. -/
theorem Delivered.steer_running
    {base baseConsumed accepted consumed : List (String × String)}
    {desk next : Desk}
    {node : Node}
    {saved : ResearchState}
    {text now : String}
    (delivered : Delivered base baseConsumed accepted consumed desk)
    (standsAt : desk.execution.control = .at node)
    (isSaved : desk.execution.world.snapshot = some saved)
    (graph : next.execution.graph = desk.execution.graph)
    (control : next.execution.control = desk.execution.control)
    (stored :
      next.execution.world.snapshot = some (applySteer saved text now)) :
    Delivered base baseConsumed accepted consumed next := by
  rw [standsAt] at control
  refine ⟨?_, ?_, ?_, ?_, ?_⟩
  · intro _
    rw [graph]
    exact delivered.present (by rw [standsAt]; rfl)
  · rintro (paused | ended)
    · rw [control] at paused
      cases paused
    · cases control.symm.trans ended
  · intro _
    rw [graph]
    exact delivered.consumedOnce (by rw [standsAt]; simp)
  · intro researches
    rw [graph]
    exact
      delivered.consumedNext
        (standsAt.trans (control.symm.trans researches))
  · intro scores
    obtain ⟨known, isKnown, everySteer⟩ :=
      delivered.written (standsAt.trans (control.symm.trans scores))
    cases isSaved.symm.trans isKnown
    refine ⟨_, stored, everySteer.trans ?_⟩
    rw [steerKeys, steerKeys, steersOf_applySteer, List.map_append]
    exact List.sublist_append_left _ _

omit [PythonText] in
/-- A steer of a paused run is added to those of its checkpoint. -/
theorem Delivered.steer_paused
    {base baseConsumed accepted consumed : List (String × String)}
    {desk next : Desk}
    {saved : ResearchState}
    {text now : String}
    (delivered : Delivered base baseConsumed accepted consumed desk)
    (paused : desk.execution.control.isPaused = true)
    (isSaved : desk.execution.world.snapshot = some saved)
    (graph : next.execution.graph = desk.execution.graph)
    (control : next.execution.control = desk.execution.control)
    (stored :
      next.execution.world.snapshot = some (applySteer saved text now)) :
    Delivered base baseConsumed (accepted ++ [(text, now)]) consumed next := by
  have staysPaused : next.execution.control.isPaused = true := by
    rw [control]
    exact paused
  refine ⟨?_, ?_, ?_, ?_, ?_⟩
  · intro goesOn
    rw [staysPaused] at goesOn
    cases goesOn
  · intro _
    obtain ⟨known, fresh, isKnown, steers, waiting, everySteer⟩ :=
      delivered.saved (Or.inl paused)
    cases isSaved.symm.trans isKnown
    refine ⟨_, fresh ++ [newSteer text now], stored, ?_, ?_, ?_⟩
    · rw [steersOf_applySteer, steers, graph, List.append_assoc]
    · intro steer member
      rcases List.mem_append.mp member with earlier | new
      · exact waiting steer earlier
      · rw [List.mem_singleton.mp new]
        rfl
    · rw [steerKeys, steersOf_applySteer, List.map_append,
        ← List.append_assoc, ← everySteer]
      rfl
  · intro notCrashed
    rw [graph]
    exact delivered.consumedOnce (by rw [← control]; exact notCrashed)
  · intro researches
    rw [researches] at staysPaused
    cases staysPaused
  · intro scores
    rw [scores] at staysPaused
    cases staysPaused

omit [PythonText] in
/-- A paused run that starts over has every steer of its checkpoint. -/
theorem Delivered.restarted
    {base baseConsumed accepted consumed : List (String × String)}
    {desk next : Desk}
    {node : Node}
    {ask : Ask}
    {saved : ResearchState}
    (delivered : Delivered base baseConsumed accepted consumed desk)
    (standsAt : desk.execution.control = .pausedAt node ask)
    (isSaved : desk.execution.world.snapshot = some saved)
    (restored : steersOf next.execution.graph.researchState = steersOf saved)
    (control : next.execution.control = .at .intake) :
    Delivered base baseConsumed accepted consumed next := by
  obtain ⟨known, fresh, isKnown, steers, waiting, everySteer⟩ :=
    delivered.saved (Or.inl (by rw [standsAt]; rfl))
  cases isSaved.symm.trans isKnown
  refine ⟨?_, ?_, ?_, ?_, ?_⟩
  · intro _
    rw [steerKeys, restored]
    exact everySteer
  · rintro (paused | ended)
    · rw [control] at paused
      cases paused
    · cases control.symm.trans ended
  · intro _
    have nothingConsumed : fresh.filter Steer.consumed = [] := by
      rw [List.filter_eq_nil_iff]
      intro steer member
      rw [waiting steer member]
      simp
    have sameConsumed :
        consumedKeys next.execution.graph.researchState =
          consumedKeys desk.execution.graph.researchState := by
      rw [consumedKeys, restored, steers, List.filter_append, nothingConsumed,
        List.append_nil]
      rfl
    rw [sameConsumed]
    exact delivered.consumedOnce (by rw [standsAt]; simp)
  · intro researches
    cases control.symm.trans researches
  · intro scores
    cases control.symm.trans scores

/-- One command, when it carries the steers on. -/
theorem Delivered.step
    {base baseConsumed accepted consumed : List (String × String)}
    {desk next : Desk}
    {command : Command}
    (delivered : Delivered base baseConsumed accepted consumed desk)
    (carried : SteersCarried desk command)
    (stepped : deskStep desk command = some next) :
    Delivered base baseConsumed (accepted ++ acceptedSteers desk command)
      (consumed ++ consumptions desk command) next := by
  cases command with
  | proceed env =>
      simp only [deskStep] at stepped
      split at stepped
      · rename_i node standsAt
        cases stepped
        have present := delivered.present (by rw [standsAt]; rfl)
        have once := delivered.consumedOnce (by rw [standsAt]; simp)
        simpa only [acceptedSteers, List.append_nil, consumptions, standsAt,
          Control.node?] using advance_delivered desk present once _ node
      · cases stepped
  | runResume env =>
      simp only [deskStep] at stepped
      split at stepped
      · rename_i node ask standsAt
        cases stepped
        have present :=
          delivered.carried (by rw [standsAt]; rfl) carried
        have once := delivered.consumedOnce (by rw [standsAt]; simp)
        simp only [acceptedSteers, List.append_nil, consumptions, standsAt,
          Control.node?]
        exact
          advance_delivered { desk with segment := .run } present once _ node
      · cases stepped
  | resume choice answer env =>
      simp only [deskStep] at stepped
      split at stepped
      · rename_i node ask standsAt
        split at stepped
        · cases stepped
        · cases stepped
          have present :=
            delivered.carried (by rw [standsAt]; rfl) carried
          have once := delivered.consumedOnce (by rw [standsAt]; simp)
          simp only [acceptedSteers, List.append_nil, consumptions, standsAt,
            Control.node?]
          exact
            advance_delivered { desk with segment := .resume } present once _
              node
      · cases stepped
  | steer text now note =>
      simp only [deskStep] at stepped
      split at stepped
      · rename_i node saved standsAt isSaved
        cases stepped
        simp only [acceptedSteers, standsAt, isSaved, List.append_nil,
          consumptions]
        exact
          delivered.steer_running standsAt isSaved rfl standsAt.symm rfl
      · rename_i node ask saved standsAt isSaved
        cases stepped
        simp only [acceptedSteers, standsAt, isSaved, List.append_nil,
          consumptions]
        exact
          delivered.steer_paused (by rw [standsAt]; rfl) isSaved rfl
            standsAt.symm rfl
      · cases stepped
  | runResumeState now maxIterations assumeBrief =>
      simp only [deskStep] at stepped
      split at stepped
      · rename_i node ask saved standsAt isSaved
        cases stepped
        simp only [acceptedSteers, List.append_nil, consumptions]
        exact delivered.restarted standsAt isSaved rfl rfl
      · cases stepped

/-! ## Histories -/

/-- The steers of the channels are those from before a segment, by their keys. -/
theorem advance_steerKeys
    (env : StepEnv)
    (node : Node)
    (desk : Desk) :
    steerKeys (advance env node desk).execution.graph.researchState =
      steerKeys desk.execution.graph.researchState := by
  rw [(advance_execution env node desk).1]
  cases visit_leaves env node desk.execution with
  | crashed unchanged _ =>
      rw [unchanged]
  | paused _ unchanged _ _ =>
      rw [unchanged]
  | moved _ _ books _ _ =>
      exact books.steerKeys

/-- A segment that continues without a steer does not deliver it. -/
theorem not_delivered_of_advance
    {base baseConsumed accepted consumed : List (String × String)}
    (desk : Desk)
    {env : StepEnv}
    {node : Node}
    (lost :
      (steerKeys desk.execution.graph.researchState).length <
        (base ++ accepted).length) :
    ¬Delivered base baseConsumed accepted consumed (advance env node desk) := by
  intro delivered
  have sameKeys := advance_steerKeys env node desk
  by_cases stops :
      (advance env node desk).execution.control.isPaused = true
  · obtain ⟨saved, fresh, isSaved, _, _, everySteer⟩ :=
      delivered.saved (Or.inl stops)
    obtain ⟨known, isKnown, sameSteers⟩ := advance_saves (Or.inl stops)
    cases isSaved.symm.trans isKnown
    rw [← everySteer, ← sameKeys, steerKeys, steerKeys, sameSteers] at lost
    exact lost.false
  · rw [Bool.not_eq_true] at stops
    rw [← delivered.present stops, sameKeys] at lost
    exact lost.false

omit [PythonText] in
/-- A paused run with a steer that is not carried on holds fewer steers. -/
theorem Delivered.lost
    {base baseConsumed accepted consumed : List (String × String)}
    {desk : Desk}
    (delivered : Delivered base baseConsumed accepted consumed desk)
    (paused : desk.execution.control.isPaused = true)
    (notCarried :
      ¬∀ saved ∈ desk.execution.world.snapshot,
        steersOf saved = steersOf desk.execution.graph.researchState) :
    (steerKeys desk.execution.graph.researchState).length <
      (base ++ accepted).length := by
  obtain ⟨saved, fresh, isSaved, steers, _, everySteer⟩ :=
    delivered.saved (Or.inl paused)
  have someFresh : fresh ≠ [] := by
    rintro rfl
    refine notCarried ?_
    intro other isOther
    cases isSaved.symm.trans isOther
    rw [steers, List.append_nil]
  rw [← everySteer, steerKeys, steerKeys, steers, List.length_map,
    List.length_map, List.length_append]
  have := List.length_pos_of_ne_nil someFresh
  omega

/-- A command that does not carry the steers on does not deliver them. -/
theorem Delivered.carried_of_step
    {base baseConsumed accepted consumed laterConsumed :
      List (String × String)}
    {desk next : Desk}
    {command : Command}
    (delivered : Delivered base baseConsumed accepted consumed desk)
    (stepped : deskStep desk command = some next)
    (deliveredNext :
      Delivered base baseConsumed (accepted ++ acceptedSteers desk command)
        laterConsumed next) :
    SteersCarried desk command := by
  by_contra notCarried
  cases command with
  | runResume env =>
      simp only [deskStep] at stepped
      split at stepped
      · rename_i node ask standsAt
        cases stepped
        have lost := delivered.lost (by rw [standsAt]; rfl) notCarried
        simp only [acceptedSteers, List.append_nil] at deliveredNext
        exact
          not_delivered_of_advance { desk with segment := .run } lost
            deliveredNext
      · cases stepped
  | resume choice answer env =>
      simp only [deskStep] at stepped
      split at stepped
      · rename_i node ask standsAt
        split at stepped
        · cases stepped
        · cases stepped
          have lost := delivered.lost (by rw [standsAt]; rfl) notCarried
          simp only [acceptedSteers, List.append_nil] at deliveredNext
          exact
            not_delivered_of_advance { desk with segment := .resume } lost
              deliveredNext
      · cases stepped
  | _ =>
      exact notCarried trivial

/-- Every steer that a paused run accepted has reached it so far. -/
def SteersDelivered
    (start : Desk)
    (commands : List Command)
    (desk : Desk) : Prop :=
  Delivered (steerKeys start.execution.graph.researchState)
    (consumedKeys start.execution.graph.researchState)
    (observe deskStep acceptedSteers start commands)
    (observe deskStep consumptions start commands)
    desk

/-- Nothing has to be delivered where a run is entered. -/
theorem steersDelivered_start
    {start : Desk}
    (started : Started start.execution) :
    SteersDelivered start [] start := by
  refine ⟨fun _ => (List.append_nil _).symm, ?_, ?_, ?_, ?_⟩
  · rintro (paused | ended)
    · rw [started] at paused
      cases paused
    · cases started.symm.trans ended
  · intro _
    simp [observe]
  · intro researches
    cases started.symm.trans researches
  · intro scores
    cases started.symm.trans scores

/--
Along a history every accepted steer is in the channels once the run goes on,
takes effect exactly once at the head of the next cycle, and stays in every
snapshot, exactly when no pause is continued from a checkpoint that lacks a
steer of the snapshot.
-/
theorem steersDelivered_iff
    {start final : Desk}
    {commands : List Command}
    (started : Started start.execution)
    (ran : exec deskStep start commands = some final) :
    (∀ earlier later desk,
        commands = earlier ++ later →
        exec deskStep start earlier = some desk →
        SteersDelivered start earlier desk) ↔
      AllSteps deskStep SteersCarried start commands := by
  refine everyState_iff_allSteps (steersDelivered_start started) ?_ ran
  intro earlier middle command next reached delivered stepped
  rw [SteersDelivered, observe_snoc acceptedSteers reached,
    observe_snoc consumptions reached]
  constructor
  · exact delivered.carried_of_step stepped
  · intro carried
    exact delivered.step carried stepped

end Delivery

/-- An interactive run on a question whose brief is pinned down. -/
private def briefedRun : Desk where
  execution :=
    { graph :=
        { researchState :=
            { runId := "run"
              originalQuestion := "question"
              researchBrief := some "brief"
              decisionCriterion := some "criterion"
              successForm := some "form"
              fallbackBehaviorIfHumanUnavailable := some "fallback" }
          config := { mode := some .interactive, enableH6 := true } }
      control := .at .intake
      world := {} }
  segment := .run

/-- The commands up to the approval of the plan, where a steer is given. -/
private def steeredPause : List Command :=
  List.replicate 7 (.proceed (.calm Brains.silent)) ++
    [.steer "text" "t" none]

/-- A steer given at a pause is gone when the answered run plans its research. -/
theorem answeredPause_loses_steer :
    letI := PythonText.ascii
    ∃ final,
      exec deskStep briefedRun
          (steeredPause ++
            [.resume (some "A") none (.calm Brains.silent),
              .proceed (.calm Brains.silent)]) =
        some final ∧
        observe deskStep acceptedSteers briefedRun
            (steeredPause ++
              [.resume (some "A") none (.calm Brains.silent),
                .proceed (.calm Brains.silent)]) =
          [("text", "t")] ∧
        final.execution.control = .at .researchFanout ∧
        steerKeys final.execution.graph.researchState = [] := by
  let _ := PythonText.ascii
  let final :=
    (exec deskStep briefedRun
      (steeredPause ++
        [.resume (some "A") none (.calm Brains.silent),
          .proceed (.calm Brains.silent)])).get
      (by decide +kernel)
  exact ⟨final, (Option.some_get _).symm, by decide +kernel,
    by decide +kernel, by decide +kernel⟩

/-- The run is entered again with the steered snapshot as its input. -/
private def carriedSteer : List Command :=
  steeredPause ++
    .runResumeState "t" 8 false ::
      List.replicate 5 (.proceed (.calm Brains.silent))

private theorem carriedSteer_carries :
    letI := PythonText.ascii
    AllSteps deskStep SteersCarried briefedRun carriedSteer := by
  decide +kernel

/-- A steer reaches the run that is entered again with its snapshot. -/
theorem enteredAgain_delivers_steer :
    letI := PythonText.ascii
    ∃ final,
      exec deskStep briefedRun carriedSteer = some final ∧
        SteersDelivered briefedRun carriedSteer final := by
  let _ := PythonText.ascii
  let final :=
    (exec deskStep briefedRun carriedSteer).get (by decide +kernel)
  have ran : exec deskStep briefedRun carriedSteer = some final :=
    (Option.some_get _).symm
  have started : Started briefedRun.execution := rfl
  exact ⟨final, ran,
    (steersDelivered_iff started ran).mpr carriedSteer_carries carriedSteer
      [] final (List.append_nil _).symm ran⟩

end ResearchCos
