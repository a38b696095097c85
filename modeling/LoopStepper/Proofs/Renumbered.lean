import LoopStepper.EventLoop.Run
import LoopStepper.Proofs.Forest

/-!
# Loops whose lines are numbered differently

A line number is shown and never asked for: whatever numbers the tasks of a loop carry, it runs in
the same way. `renumbered` puts other numbers in all places of a task, a frame, a timer or a loop.
The one thing that a step does with a number is to see whether it is zero, which counts as none; so
a renumbering that keeps zero apart commutes with every event (`replay_renumbered`), and the two
runs differ in nothing but line numbers (`LooksLike`).
-/

namespace LoopStepper

variable (f : Int → Int)

/-! ## Tasks -/

mutual

/-- A task with the numbers of its lines replaced, at every depth. -/
def Task.renumbered : Task → Task
  | ⟨id, kind, content, delay, children, line⟩ =>
    ⟨id, kind, content, delay, renumberedBody children, line.map f⟩

/-- A body with the numbers of its lines replaced. -/
def renumberedBody : Option (List Task) → Option (List Task)
  | none => none
  | some tasks => some (renumberedForest tasks)

/-- A forest with the numbers of its lines replaced. -/
def renumberedForest : List Task → List Task
  | [] => []
  | task :: tasks => task.renumbered :: renumberedForest tasks

end

theorem renumberedForest_eq_map (tasks : List Task) :
    renumberedForest f tasks = tasks.map (Task.renumbered f) := by
  induction tasks with
  | nil => rfl
  | cons task tasks ih => rw [renumberedForest, ih, List.map_cons]

namespace Task

variable (task : Task)

@[simp] theorem renumbered_id : (task.renumbered f).id = task.id := by
  cases task; rfl

@[simp] theorem renumbered_kind : (task.renumbered f).kind = task.kind := by
  cases task; rfl

@[simp] theorem renumbered_content : (task.renumbered f).content = task.content := by
  cases task; rfl

@[simp] theorem renumbered_delay : (task.renumbered f).delay = task.delay := by
  cases task; rfl

@[simp] theorem renumbered_line : (task.renumbered f).line = task.line.map f := by
  cases task; rfl

@[simp] theorem renumbered_body :
    (task.renumbered f).body = task.body.map (Task.renumbered f) := by
  obtain ⟨_, _, _, _, children, _⟩ := task
  cases children with
  | none => rfl
  | some tasks => exact renumberedForest_eq_map f tasks

theorem renumbered_relabel (content : String) :
    Task.renumbered f { task with content } = { task.renumbered f with content } := by
  cases task; rfl

end Task

/-! ## Loops -/

/-- A frame with the numbers of its lines replaced. -/
def Frame.renumbered (frame : Frame) : Frame :=
  { frame with
    instructions := frame.instructions.map (Task.renumbered f)
    line := frame.line.map f }

/-- A waiting timer with the numbers of its lines replaced. -/
def PendingTimer.renumbered (timer : PendingTimer) : PendingTimer :=
  { timer with task := timer.task.renumbered f }

/-- A loop with the numbers of its lines replaced. -/
def EventLoop.renumbered (loop : EventLoop) : EventLoop :=
  { loop with
    program := loop.program.map (Task.renumbered f)
    stack := loop.stack.map (Frame.renumbered f)
    pending := loop.pending.map (PendingTimer.renumbered f)
    microtasks := loop.microtasks.map (Task.renumbered f)
    macrotasks := loop.macrotasks.map (Task.renumbered f)
    activeLine := loop.activeLine.map f }

theorem Frame.renumbered_current? (frame : Frame) :
    (frame.renumbered f).current? = frame.current?.map (Task.renumbered f) := by
  unfold Frame.current? Frame.renumbered
  rw [List.getElem?_map]

theorem Frame.renumbered_ofEntry (entry : Task) (name : String) (kind : TaskKind) :
    Frame.ofEntry (entry.renumbered f) name kind =
      (Frame.ofEntry entry name kind).renumbered f := by
  simp [Frame.ofEntry, Frame.renumbered]

variable {f} (hf : ∀ line, f line = 0 ↔ line = 0)

include hf

/-- The line that a task shows is renumbered as well. -/
theorem Task.renumbered_shownLine (task : Task) :
    (task.renumbered f).shownLine = task.shownLine.map f := by
  unfold Task.shownLine
  rw [Task.renumbered_line]
  cases task.line with
  | none => rfl
  | some line => by_cases hline : line = 0 <;> simp [Option.filter, hline, hf]

namespace EventLoop

omit hf in
theorem perform_renumbered (loop : EventLoop) (task : Task) :
    (loop.renumbered f).perform (task.renumbered f) = (loop.perform task).renumbered f := by
  unfold perform
  rw [Task.renumbered_kind]
  cases task.kind with
  | log => simp [renumbered]
  | timer => simp [renumbered, PendingTimer.renumbered]
  | microtask =>
    simp [renumbered, microtaskEntry, Task.renumbered, renumberedBody, renumberedForest_eq_map]
  | main => rfl

theorem runTop_renumbered (loop : EventLoop) (top : Frame) (below : List Frame) :
    (loop.renumbered f).runTop (top.renumbered f) (below.map (Frame.renumbered f)) =
      (loop.runTop top below).renumbered f := by
  unfold runTop
  rw [Frame.renumbered_current?]
  cases top.current? with
  | none => rfl
  | some task =>
    rw [Option.map_some]
    dsimp only
    rw [← perform_renumbered, Task.renumbered_shownLine hf]
    simp [renumbered, Frame.renumbered, Option.map_or]

/-- **A step does not look at line numbers.** -/
theorem step_renumbered (loop : EventLoop) :
    (loop.renumbered f).step = loop.step.renumbered f := by
  obtain ⟨program, stack, pending, microtasks, macrotasks, output, finished, active, clock, queued⟩
    := loop
  cases finished with
  | true => rfl
  | false =>
    cases stack with
    | cons top below => exact runTop_renumbered hf _ top below
    | nil =>
      cases microtasks with
      | cons entry later =>
        simp [step, renumbered, enter, Frame.renumbered_ofEntry]
      | nil =>
        cases macrotasks with
        | cons entry later => simp [step, renumbered, enter, Frame.renumbered_ofEntry]
        | nil =>
          cases pending with
          | nil => rfl
          | cons timer timers => rfl

omit hf in
/-- Nor does a tick. -/
theorem advance_renumbered (loop : EventLoop) (ms : Int) :
    (loop.renumbered f).advance ms = (loop.advance ms).renumbered f := by
  have hdue : ∀ timer : PendingTimer, (timer.renumbered f).isDue = timer.isDue := fun _ => rfl
  have hpromoted : ∀ timer : PendingTimer,
      (timer.renumbered f).promoted = timer.promoted.renumbered f := by
    intro timer
    rw [PendingTimer.promoted, PendingTimer.promoted, Task.renumbered_relabel]
    simp [PendingTimer.renumbered]
  have hwait : ∀ timer : PendingTimer,
      (timer.renumbered f).wait (max 0 ms) = (timer.wait (max 0 ms)).renumbered f := fun _ => rfl
  simp [advance, renumbered, List.filter_map, Function.comp_def, hdue, hpromoted, hwait]

/-- **Nor does any run**: with other numbers it comes to the same state with other numbers. -/
theorem replay_renumbered (loop : EventLoop) (events : List Event) :
    (loop.renumbered f).replay events = (loop.replay events).renumbered f := by
  induction events generalizing loop with
  | nil => rfl
  | cons event events ih =>
    have hevent : (loop.renumbered f).apply event = (loop.apply event).renumbered f := by
      cases event with
      | step => exact step_renumbered hf loop
      | tick ms => exact advance_renumbered loop ms
    change ((loop.renumbered f).apply event).replay events = _
    rw [hevent, ih]
    rfl

omit hf in
theorem start_renumbered (program : List Task) :
    (start program).renumbered f = start (renumberedForest f program) := by
  simp [start, renumbered, mainFrame, Frame.renumbered, renumberedForest_eq_map]

/-- Two loops look alike, apart from the numbers of lines. -/
structure LooksLike (loop other : EventLoop) : Prop where
  output : other.output = loop.output
  finished : other.finished = loop.finished
  clock : other.clock = loop.clock
  /-- The ids and names of the frames. -/
  stack : other.stack.map (fun frame => (frame.id, frame.name)) =
    loop.stack.map fun frame => (frame.id, frame.name)
  /-- The ids and labels of the timers that wait, and what is left of their delays. -/
  pending : other.pending.map (fun timer => (timer.task.id, timer.task.content, timer.remaining)) =
    loop.pending.map fun timer => (timer.task.id, timer.task.content, timer.remaining)
  /-- The ids and labels of the microtasks. -/
  microtasks : other.microtasks.map (fun entry => (entry.id, entry.content)) =
    loop.microtasks.map fun entry => (entry.id, entry.content)
  /-- The ids and labels of the macrotasks. -/
  macrotasks : other.macrotasks.map (fun entry => (entry.id, entry.content)) =
    loop.macrotasks.map fun entry => (entry.id, entry.content)

/-- Runs of forests that differ in the numbers of their lines look alike. -/
theorem replay_looksLike (program : List Task) (events : List Event) :
    LooksLike ((start program).replay events)
      ((start (renumberedForest f program)).replay events) := by
  rw [← start_renumbered, replay_renumbered hf]
  generalize (start program).replay events = loop
  constructor <;>
    simp [renumbered, Frame.renumbered, PendingTimer.renumbered, Function.comp_def]

end EventLoop

end LoopStepper
