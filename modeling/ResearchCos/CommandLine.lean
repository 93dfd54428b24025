import ResearchCos.Collecting

namespace ResearchCos

open Foundation

/-!
# The command line over one run

A run has two stores.  The checkpoint holds the channels and is what the graph
continues from; the snapshot beside it is what the commands read and write.  A
node that pauses is executed again from its start on the channels of the
checkpoint, so what it changed before the pause is gone.
-/

section Thread

variable [PythonText]

/--
Continue a run from its checkpoint.  A paused node is executed again, with the
answer of a human or without one.
-/
def continueRun (execution : Execution) (env : StepEnv) : Option Execution :=
  match execution.control with
  | .at node => some (visit { env with answer := none } node execution)
  | .pausedAt node _ => some (visit env node execution)
  | .ended => none
  | .crashed => none

omit [PythonText] in
/-- The surroundings as the next node sees them: only a pause is answered. -/
def Control.sees (control : Control) (env : StepEnv) : StepEnv :=
  match control with
  | .pausedAt _ _ => env
  | _ => { env with answer := none }

/-- Continuing a run visits the node that it is about to execute. -/
theorem continueRun_visits
    {execution next : Execution}
    {env : StepEnv}
    (continued : continueRun execution env = some next) :
    ∃ node,
      execution.control.node? = some node ∧
        next = visit (execution.control.sees env) node execution := by
  simp only [continueRun] at continued
  split at continued
  · rename_i node standsAt
    exact ⟨node, by rw [standsAt]; rfl,
      by rw [standsAt]; exact (Option.some.inj continued).symm⟩
  · rename_i node ask standsAt
    exact ⟨node, by rw [standsAt]; rfl,
      by rw [standsAt]; exact (Option.some.inj continued).symm⟩
  · cases continued
  · cases continued

end Thread

/-! ## Segments -/

/-- The command that runs the current segment of a run. -/
inductive Segment where
  | run
  | resume
  deriving Repr, DecidableEq

/-- A run with the command that executes it at the moment, or did last. -/
structure Desk where
  execution : Execution
  segment : Segment
  deriving DecidableEq

/-- What a human or the operating system does next. -/
inductive Command where
  | proceed (env : StepEnv)
  | runResume (env : StepEnv)
  | resume (choice answer : Option String) (env : StepEnv)
  | steer (text now : String) (note : Option DroppedFile)
  | runResumeState (now : String) (maxIterations : Int) (assumeBrief : Bool)

/-- Append a steer of the human. -/
def applySteer (rs : ResearchState) (text now : String) : ResearchState :=
  { rs with
    steeringEvents := rs.steeringEvents ++ [.steer text now false false]
    updatedAt := some now }

/-- The snapshot on disk after a save. -/
def saveSnapshot (rs : ResearchState) (world : World) : World :=
  { world with snapshot := some rs }

section Commands

variable [PythonText]

/--
The research state in memory when a node pauses.  A node logs what it asks
before it pauses, and the review builds the memo.
-/
def inPlaceState
    (env : StepEnv)
    (execution : Execution) : Ask → ResearchState
  | .clarify questions missing =>
      { execution.graph.researchState with
        steeringEvents :=
          execution.graph.researchState.steeringEvents ++
            [.clarifyAsk questions missing] }
  | .planApproval cells firstCycle =>
      { execution.graph.researchState with
        steeringEvents :=
          execution.graph.researchState.steeringEvents ++
            [.planApproval firstCycle cells] }
  | .pull _ => execution.graph.researchState
  | .review =>
      ((buildAndGateMemo env execution.graph
          (receiveDrops env.drops execution.world)).map Prod.fst).getD
        execution.graph.researchState

/--
Execute a node.  The segment is over when the node pauses or the run ends, and
the command saves the state: the one of the checkpoint, or the one it holds in
memory.
-/
def advance (env : StepEnv) (node : Node) (desk : Desk) : Desk :=
  let next := visit env node desk.execution
  match next.control with
  | .at _
  | .crashed => { desk with execution := next }
  | .ended =>
      { desk with
        execution :=
          { next with
            world := saveSnapshot next.graph.researchState next.world } }
  | .pausedAt _ ask =>
      let held :=
        match desk.segment with
        | .run => next.graph.researchState
        | .resume => inPlaceState env desk.execution ask
      { desk with
        execution := { next with world := saveSnapshot held next.world } }

/--
One command.  A segment proceeds until it pauses.  A paused run is answered,
continued without an answer, or entered again with its snapshot as input.  A
steer changes the snapshot only.
-/
def deskStep (desk : Desk) : Command → Option Desk
  | .proceed env =>
      match desk.execution.control with
      | .at node => some (advance { env with answer := none } node desk)
      | _ => none
  | .runResume env =>
      match desk.execution.control with
      | .pausedAt node _ =>
          some
            (advance { env with answer := none } node
              { desk with segment := .run })
      | _ => none
  | .resume choice answer env =>
      match desk.execution.control with
      | .pausedAt node _ =>
          if choice = none ∧ answer = none then
            none
          else
            some
              (advance
                { env with
                  answer := some (.reply choice (some (answer.getD ""))) }
                node { desk with segment := .resume })
      | _ => none
  | .steer text now note =>
      match desk.execution.control, desk.execution.world.snapshot with
      | .at _, some saved
      | .pausedAt _ _, some saved =>
          some
            { desk with
              execution :=
                { desk.execution with
                  world :=
                    saveSnapshot (applySteer saved text now)
                      (receiveDrops note.toList desk.execution.world) } }
      | _, _ => none
  | .runResumeState now maxIterations assumeBrief =>
      match desk.execution.control, desk.execution.world.snapshot with
      | .pausedAt _ _, some saved =>
          some
            { segment := .run
              execution :=
                { desk.execution with
                  graph :=
                    { desk.execution.graph with
                      researchState := { saved with mode := .interactive }
                      config :=
                        { desk.execution.graph.config with
                          now := now
                          maxIterations := maxIterations
                          mode := some .interactive
                          enableH6 := true
                          assumeBrief := assumeBrief } }
                  control := .at .intake } }
      | _, _ => none

end Commands

end ResearchCos
