import ResearchCos.DebateRecord
import ResearchCos.Foundation.Growth
import ResearchCos.Foundation.Utf8

namespace ResearchCos

open Foundation

/-!
# Watching the debate

A watcher prints the file of the debate as it finds it, and then again and again
what has been appended since.  It runs beside the run: it may begin and look at
any moment, also while a block has arrived in the file only in part.
-/

/-- A watcher: the bytes that it has read and the text that it has printed. -/
structure Watcher where
  follow : Bool
  reader : Reader UInt8 := {}
  printed : String := ""
  deriving Repr, DecidableEq

/-- Read what is beyond the position and print it. -/
def Watcher.look (content : List UInt8) (watcher : Watcher) : Watcher :=
  { watcher with
    reader := watcher.reader.look content
    printed :=
      watcher.printed ++ Utf8.decode (content.drop watcher.reader.mark) }

/--
What appending the block of a stage brings into the file.  An append that fails
may leave the first bytes of its block, or may not have opened the file.
-/
def Reporting.appended
    (reporting : Reporting)
    (left : Stage → Option Nat)
    (stage : Stage) : Option (List UInt8) :=
  (reporting.body stage).bind fun body =>
    let bytes := Utf8.encode (StageReporter.block stage.name body)
    if reporting.append stage = .written then
      some bytes
    else
      (left stage).map bytes.take

/-- A run with a reporter, the file of its debate, and who watches it. -/
structure WatchedDebate where
  run : ReportedRun
  file : Option (List UInt8)
  arriving : List UInt8 := []
  watchers : List Watcher := []
  deriving DecidableEq

inductive DebateMove where
  | report (env : ReportedEnv) (left : Stage → Option Nat)
  | arrive (count : Nat)
  | watch (follow : Bool)
  | poll (watcher : Nat)

namespace WatchedDebate

/-- A process enters a run whose file may hold what others have appended. -/
def start (execution : Execution) (file : Option (List UInt8)) :
    WatchedDebate where
  run := .start execution
  file := file

/-- The bytes of the file; there are none before there is a file. -/
def content (state : WatchedDebate) : List UInt8 :=
  state.file.getD []

/-- The file is a text: no character has arrived in part. -/
def WholeCharacters (state : WatchedDebate) : Prop :=
  ∃ text : String, state.content = Utf8.encode text

/-- The blocks of a step come to the file; opening it creates it. -/
def report
    (state : WatchedDebate)
    (next : ReportedRun)
    (pieces : List (List UInt8)) : WatchedDebate :=
  { state with
    run := next
    file := if pieces = [] then state.file else some state.content
    arriving := pieces.flatten }

/-- The next bytes arrive in the file. -/
def arrive (state : WatchedDebate) (count : Nat) : WatchedDebate :=
  { state with
    file := some (state.content ++ state.arriving.take count)
    arriving := state.arriving.drop count }

/-- A watcher begins; without a file it ends at once. -/
def watch (state : WatchedDebate) (follow : Bool) : WatchedDebate :=
  match state.file with
  | none => state
  | some content =>
      { state with
        watchers := state.watchers ++ [Watcher.look content { follow }] }

/-- A watcher looks again. -/
def poll (state : WatchedDebate) (index : Nat) : WatchedDebate :=
  { state with
    watchers := state.watchers.modify index (Watcher.look state.content) }

section Steps

variable [PythonText]

/-- One move; a step of the run ends when its blocks have arrived. -/
def step
    (reporter : StageReporter)
    (state : WatchedDebate) : DebateMove → Option WatchedDebate
  | .report env left =>
      if state.arriving = [] then
        (reportedStep reporter state.run env).map fun next =>
          state.report next
            ((reportedStages state.run.execution next.execution).filterMap
              (env.reporting.appended left))
      else
        none
  | .arrive count =>
      if state.arriving = [] then none else some (state.arrive count)
  | .watch follow => some (state.watch follow)
  | .poll index =>
      if ∃ watcher ∈ state.watchers[index]?, watcher.follow = true then
        some (state.poll index)
      else
        none

/-- No append fails, and nobody looks at a part of a character. -/
def LooksBetweenCharacters (state : WatchedDebate) : DebateMove → Prop
  | .report env _ => AppendsAll state.run env
  | .arrive _ => True
  | .watch _
  | .poll _ => state.WholeCharacters

end Steps

/-! ## Every byte is read once -/

/-- What every watcher has read is the file up to its position. -/
def Reads (state : WatchedDebate) : Prop :=
  ∀ watcher ∈ state.watchers, watcher.reader.Exact state.content

@[simp] theorem content_report
    (state : WatchedDebate)
    (next : ReportedRun)
    (pieces : List (List UInt8)) :
    (state.report next pieces).content = state.content := by
  unfold content report
  split <;> rfl

theorem content_watch
    (state : WatchedDebate)
    (follow : Bool) :
    (state.watch follow).content = state.content := by
  unfold watch
  split <;> rfl

/-- The watchers after one has begun. -/
theorem mem_watch
    {state : WatchedDebate}
    {follow : Bool}
    {watcher : Watcher}
    (member : watcher ∈ (state.watch follow).watchers) :
    watcher ∈ state.watchers ∨
      watcher = Watcher.look state.content { follow } := by
  unfold watch at member
  split at member
  · exact Or.inl member
  · rename_i content isFile
    rw [WatchedDebate.content, isFile]
    simpa using member

/-- The watchers after one has looked again. -/
theorem mem_poll
    {state : WatchedDebate}
    {index : Nat}
    {watcher : Watcher}
    (member : watcher ∈ (state.poll index).watchers) :
    watcher ∈ state.watchers ∨
      ∃ before ∈ state.watchers,
        watcher = before.look state.content := by
  obtain ⟨position, stands⟩ := List.mem_iff_getElem?.mp member
  rw [poll, List.getElem?_modify] at stands
  obtain ⟨before, stood, changed⟩ := Option.map_eq_some_iff.mp stands
  have stayed := List.mem_of_getElem? stood
  split at changed
  · exact Or.inr ⟨before, stayed, changed.symm⟩
  · exact Or.inl (changed ▸ stayed)

section Runs

variable [PythonText] {reporter : StageReporter}
  {state next : WatchedDebate} {move : DebateMove}

/-- What a move does. -/
theorem step_cases
    (stepped : step reporter state move = some next) :
    (∃ env left after,
        move = .report env left ∧
          state.arriving = [] ∧
          reportedStep reporter state.run env = some after ∧
          next =
            state.report after
              ((reportedStages state.run.execution after.execution).filterMap
                (env.reporting.appended left))) ∨
      (∃ count, move = .arrive count ∧ next = state.arrive count) ∨
      (∃ follow, move = .watch follow ∧ next = state.watch follow) ∨
      ∃ index, move = .poll index ∧ next = state.poll index := by
  cases move with
  | report env left =>
      rw [step] at stepped
      split at stepped
      · rename_i arrived
        obtain ⟨after, reported, rfl⟩ := Option.map_eq_some_iff.mp stepped
        exact Or.inl ⟨env, left, after, rfl, arrived, reported, rfl⟩
      · cases stepped
  | arrive count =>
      rw [step] at stepped
      split at stepped
      · cases stepped
      · cases stepped
        exact Or.inr (Or.inl ⟨count, rfl, rfl⟩)
  | watch follow =>
      cases stepped
      exact Or.inr (Or.inr (Or.inl ⟨follow, rfl, rfl⟩))
  | poll index =>
      rw [step] at stepped
      split at stepped
      · cases stepped
        exact Or.inr (Or.inr (Or.inr ⟨index, rfl, rfl⟩))
      · cases stepped

/-- A move keeps what the watchers have read. -/
theorem step_reads
    (reads : state.Reads)
    (stepped : step reporter state move = some next) :
    next.Reads := by
  intro watcher member
  obtain
    ⟨env, left, after, -, -, -, rfl⟩ | ⟨count, -, rfl⟩ | ⟨follow, -, rfl⟩ |
      ⟨index, -, rfl⟩ := step_cases stepped
  · rw [content_report]
    exact reads watcher member
  · exact (reads watcher member).grow (List.prefix_append _ _)
  · rw [content_watch]
    obtain before | rfl := mem_watch member
    · exact reads watcher before
    · exact (Reader.exact_new _).look
  · obtain before | ⟨before, stood, rfl⟩ := mem_poll member
    · exact reads watcher before
    · exact (reads before stood).look

end Runs

/-! ## The text is printed as it was appended -/

/-- What comes to the file of blocks that are all written. -/
theorem flatten_appended
    {reporting : Reporting}
    {stages : List Stage}
    (left : Stage → Option Nat)
    (writes : ∀ stage ∈ stages, reporting.writes stage = true) :
    (stages.filterMap (reporting.appended left)).flatten =
      Utf8.encode (String.join (reporting.blocks stages)) := by
  induction stages with
  | nil =>
      rfl
  | cons stage rest inductionHypothesis =>
      have others :=
        inductionHypothesis fun other member =>
          writes other (List.mem_cons_of_mem _ member)
      have isWritten := writes stage List.mem_cons_self
      rw [reporting.blocks_cons, String.join_append, Utf8.encode_append,
        ← others]
      cases rendered : reporting.body stage with
      | none =>
          simp [Reporting.appended, Reporting.blocks, rendered, Utf8.encode]
      | some body =>
          have written : reporting.append stage = .written := by
            simpa [Reporting.writes, rendered] using isWritten
          simp [Reporting.appended, Reporting.blocks, rendered, written]

/-- The file, with what is arriving, is a text of which watchers print parts. -/
structure KeepsText (earlier : String) (state : WatchedDebate) : Prop where
  reads : state.Reads
  record :
    Utf8.encode (earlier ++ String.join state.run.debate.emitted) =
      state.content ++ state.arriving
  printed :
    ∀ watcher ∈ state.watchers,
      Utf8.encode watcher.printed = state.content.take watcher.reader.mark

/-- A look at whole characters prints the rest of the file. -/
theorem look_printed
    {state : WatchedDebate}
    (whole : state.WholeCharacters)
    {watcher : Watcher}
    (isPart :
      Utf8.encode watcher.printed =
        state.content.take watcher.reader.mark) :
    Utf8.encode (watcher.look state.content).printed =
      state.content.take (watcher.look state.content).reader.mark := by
  obtain ⟨text, isText⟩ := whole
  have begins :
      Utf8.encode watcher.printed ++
          state.content.drop watcher.reader.mark =
        Utf8.encode text := by
    rw [isPart, List.take_append_drop, isText]
  calc
    Utf8.encode (watcher.look state.content).printed = Utf8.encode text :=
      Utf8.encode_append_decode begins
    _ = state.content := isText.symm
    _ = state.content.take (watcher.look state.content).reader.mark :=
      List.take_length.symm

section Runs

variable [PythonText] {reporter : StageReporter}
  {state next : WatchedDebate} {move : DebateMove}

theorem step_keepsText
    {path earlier : String}
    (hasPath : reporter.debatePath = some path)
    (kept : state.KeepsText earlier)
    (between : LooksBetweenCharacters state move)
    (stepped : step reporter state move = some next) :
    next.KeepsText earlier := by
  have reads := step_reads kept.reads stepped
  obtain
    ⟨env, left, after, rfl, arrived, reported, rfl⟩ | ⟨count, rfl, rfl⟩ |
      ⟨follow, rfl, rfl⟩ | ⟨index, rfl, rfl⟩ := step_cases stepped
  · obtain ⟨isStep, -, emitted, -⟩ := reportedStep_eq_some hasPath reported
    have bytes :=
      flatten_appended left (between after.execution isStep)
    have before := kept.record
    rw [arrived, List.append_nil] at before
    refine ⟨reads, ?_, ?_⟩
    · calc
        Utf8.encode (earlier ++ String.join after.debate.emitted) =
            state.content ++
              Utf8.encode
                (String.join
                  (env.reporting.blocks
                    (reportedStages state.run.execution
                      after.execution))) := by
          rw [emitted, String.join_append, ← String.append_assoc,
            Utf8.encode_append, before]
        _ = _ := by
          rw [← bytes, content_report]
          rfl
    · intro watcher member
      rw [content_report]
      exact kept.printed watcher member
  · refine ⟨reads, ?_, ?_⟩
    · refine kept.record.trans ?_
      change
        _ =
          (state.content ++ state.arriving.take count) ++
            state.arriving.drop count
      rw [List.append_assoc, List.take_append_drop]
    · intro watcher member
      refine (kept.printed watcher member).trans ?_
      exact
        (List.take_append_of_le_length (kept.reads watcher member).1).symm
  · refine ⟨reads, ?_, ?_⟩
    · rw [content_watch]
      unfold watch
      split <;> exact kept.record
    · intro watcher member
      rw [content_watch]
      obtain before | rfl := mem_watch member
      · exact kept.printed watcher before
      · exact look_printed between rfl
  · refine ⟨reads, kept.record, ?_⟩
    intro watcher member
    obtain before | ⟨before, stood, rfl⟩ := mem_poll member
    · exact kept.printed watcher before
    · exact look_printed between (kept.printed before stood)

end Runs

end WatchedDebate

section Runs

variable [PythonText]

/--
Whoever watches a run, and whenever they look: the bytes that a watcher has read
are the file up to its position, each once and in order.  When no append fails
and nobody looks while a character is arriving, what a watcher has printed is
the beginning of the debate, and what is left of it is what the watcher has not
read.
-/
theorem watch_shows_debate
    {runDir : String}
    {mkdirError : Option String}
    {reporter : StageReporter}
    (created : StageReporter.create (some runDir) mkdirError = .ok reporter)
    {execution : Execution}
    {file : Option (List UInt8)}
    {moves : List DebateMove}
    {final : WatchedDebate}
    (ran :
      exec (WatchedDebate.step reporter) (.start execution file) moves =
        some final) :
    (∀ watcher ∈ final.watchers,
      watcher.reader.mark ≤ final.content.length ∧
        watcher.reader.shown.flatten =
          final.content.take watcher.reader.mark) ∧
    ∀ earlier : String,
      file.getD [] = Utf8.encode earlier →
      AllSteps (WatchedDebate.step reporter) WatchedDebate.LooksBetweenCharacters
        (.start execution file) moves →
      ∀ watcher ∈ final.watchers,
        ∃ later : String,
          earlier ++ String.join final.run.debate.emitted =
              watcher.printed ++ later ∧
            Utf8.encode later =
              final.content.drop watcher.reader.mark ++ final.arriving := by
  obtain ⟨path, hasPath⟩ : ∃ path, reporter.debatePath = some path := by
    cases mkdirError with
    | none =>
        cases created
        exact ⟨_, rfl⟩
    | some text =>
        cases created
  have nobody : (WatchedDebate.start execution file).Reads := by
    intro watcher member
    cases member
  refine ⟨exec_invariant WatchedDebate.step_reads nobody ran, ?_⟩
  intro earlier isText between watcher member
  have begins :
      (WatchedDebate.start execution file).KeepsText earlier := by
    refine ⟨nobody, ?_, fun _ member => absurd member List.not_mem_nil⟩
    rw [Utf8.encode_append, ← isText]
    rfl
  have kept :=
    AllSteps.invariant (WatchedDebate.step_keepsText hasPath) begins between
      ran
  have whole :
      Utf8.encode watcher.printed ++
          (final.content.drop watcher.reader.mark ++ final.arriving) =
        Utf8.encode (earlier ++ String.join final.run.debate.emitted) := by
    rw [kept.printed watcher member, ← List.append_assoc,
      List.take_append_drop, kept.record]
  obtain ⟨later, isWhole, isRest⟩ := Utf8.exists_of_encode_prefix whole
  exact ⟨later, isWhole, isRest.symm⟩

end Runs

/-- A run whose scope is reported next; its file holds an earlier text. -/
private def watchedQuestion : Execution where
  graph :=
    { researchState := { runId := "run", originalQuestion := "question" }
      config := { assumeBrief := true } }
  control := .at .scope
  world := {}

private def watchedReporter : StageReporter where
  debatePath := some "runs/run/debate.md"

private def scopeReport : ReportedEnv where
  graph := StepEnv.calm Brains.silent
  reporting :=
    { body := fun _ => some "objective: question"
      append := fun _ => .written
      streamWrites := fun _ => true }

/-- A look before, one while the block is arriving and one when it is there. -/
private def threeLooks : List DebateMove :=
  [.watch true, .report scopeReport fun _ => none, .arrive 7, .poll 0,
    .arrive 100, .poll 0]

/-- The file after some of the moves. -/
private theorem contents_threeLooks :
    letI := PythonText.ascii
    ([0, 3, 5].map fun count =>
        (exec (WatchedDebate.step watchedReporter)
          (.start watchedQuestion (some (Utf8.encode "earlier\n")))
          (threeLooks.take count)).map WatchedDebate.content) =
      [some (Utf8.encode "earlier\n"), some (Utf8.encode "earlier\n=== [sc"),
        some
          (Utf8.encode
            "earlier\n=== [scope] ===\nobjective: question\n\n")] := by
  decide +kernel

theorem watch_shows_debate_threeLooks :
    letI := PythonText.ascii
    ∃ final,
      exec (WatchedDebate.step watchedReporter)
          (.start watchedQuestion (some (Utf8.encode "earlier\n")))
          threeLooks =
        some final ∧
      final.watchers.map Watcher.printed =
        ["earlier\n=== [scope] ===\nobjective: question\n\n"] := by
  let _ := PythonText.ascii
  have seen :
      (exec (WatchedDebate.step watchedReporter)
          (.start watchedQuestion (some (Utf8.encode "earlier\n")))
          threeLooks).map
        (fun final =>
          (final.watchers.map fun watcher =>
              final.content.drop watcher.reader.mark,
            final.arriving, final.run.debate.emitted)) =
        some
          ([[]], [], ["=== [scope] ===\nobjective: question\n\n"]) := by
    decide +kernel
  have contents := contents_threeLooks
  simp only [List.map_cons, List.map_nil, List.cons.injEq, and_true] at contents
  obtain ⟨atStart, inBlock, atEnd⟩ := contents
  have isWhole
      {state : WatchedDebate}
      {moves : List DebateMove}
      {text : String}
      (isText :
        (exec (WatchedDebate.step watchedReporter)
            (.start watchedQuestion (some (Utf8.encode "earlier\n")))
            moves).map WatchedDebate.content =
          some (Utf8.encode text))
      (reached :
        exec (WatchedDebate.step watchedReporter)
            (.start watchedQuestion (some (Utf8.encode "earlier\n"))) moves =
          some state) :
      state.WholeCharacters := by
    rw [reached] at isText
    exact ⟨text, Option.some.inj isText⟩
  obtain ⟨final, ran, isFinal⟩ := Option.map_eq_some_iff.mp seen
  simp only [Prod.mk.injEq] at isFinal
  obtain ⟨watchers, nothing, emitted⟩ := isFinal
  obtain ⟨watcher, isOnly, isRead⟩ := List.map_eq_singleton_iff.mp watchers
  have between :
      AllSteps (WatchedDebate.step watchedReporter)
        WatchedDebate.LooksBetweenCharacters
        (.start watchedQuestion (some (Utf8.encode "earlier\n")))
        threeLooks := by
    intro earlier move later middle shape reached
    rcases earlier with
      _ | ⟨_, _ | ⟨_, _ | ⟨_, _ | ⟨_, _ | ⟨_, _ | ⟨_, others⟩⟩⟩⟩⟩⟩
    · cases shape
      exact isWhole atStart reached
    · cases shape
      intro _ _ _ _
      rfl
    · cases shape
      trivial
    · cases shape
      exact isWhole inBlock reached
    · cases shape
      trivial
    · cases shape
      exact isWhole atEnd reached
    · exact absurd (congrArg List.length shape) (by simp [threeLooks])
  have created :
      StageReporter.create (some "runs/run") none = .ok watchedReporter :=
    rfl
  obtain ⟨later, isText, isRest⟩ :=
    (watch_shows_debate created ran).2 "earlier\n" rfl between watcher
      (isOnly ▸ List.mem_cons_self)
  refine ⟨final, ran, ?_⟩
  rw [isRead, nothing] at isRest
  rw [emitted] at isText
  have isDone : later = "" := by
    rw [← Utf8.decode_encode later, isRest]
    rfl
  rw [isOnly, List.map_singleton]
  rw [isDone, String.append_empty] at isText
  rw [← isText]
  rfl

end ResearchCos
