import LoopStepper.EventLoop.Snapshot
import LoopStepper.Loose.Run
import LoopStepper.Loose.Snapshot

/-!
# Event loops as loose ones

Every event loop is a loose one whose texts are texts and whose numbers are whole (`loosen`). Main
statements: a tick of the loose loop is the tick of the loop (`advance_loosen`), and so is a step,
as long as the next microtask's number can be written and the innermost frame has no more
instructions than can be counted (`step_loosen`); the loose loop looks like the loop
(`snapshot_loosen`).
-/

namespace LoopStepper

mutual

/-- A task as a loose one. -/
def Task.loosen : Task → LooseTask
  | ⟨id, kind, content, delay, children, line⟩ =>
    ⟨.text id, kind, .text content, .ofInt? delay, loosenBody children, .ofInt? line⟩

/-- A body as a loose one. -/
def loosenBody : Option (List Task) → Option (List LooseTask)
  | none => none
  | some tasks => some (loosenForest tasks)

/-- A forest as a loose one. -/
def loosenForest : List Task → List LooseTask
  | [] => []
  | task :: tasks => task.loosen :: loosenForest tasks

end

/-- A frame as a loose one. -/
def Frame.loosen (frame : Frame) : LooseFrame where
  id := .text frame.id
  name := .text frame.name
  kind := frame.kind
  instructions := frame.instructions.map Task.loosen
  cursor := .whole frame.cursor
  line := .ofInt? frame.line

/-- A waiting timer as a loose one. -/
def PendingTimer.loosen (timer : PendingTimer) : LooseTimer where
  task := timer.task.loosen
  createdAt := .whole timer.createdAt
  remaining := .whole timer.remaining

/-- An event loop as a loose one. -/
def EventLoop.loosen (loop : EventLoop) : LooseLoop where
  stack := loop.stack.map (·.loosen)
  pending := loop.pending.map (·.loosen)
  microtasks := loop.microtasks.map Task.loosen
  macrotasks := loop.macrotasks.map Task.loosen
  output := loop.output.map .text
  finished := .flag loop.finished
  activeLine := .ofInt? loop.activeLine
  clock := .whole loop.clock
  queued := .whole loop.queued

/-! ## Tasks -/

theorem loosenForest_eq_map (tasks : List Task) : loosenForest tasks = tasks.map Task.loosen := by
  induction tasks with
  | nil => rfl
  | cons task tasks ih => simp [loosenForest, ih]

namespace Task

@[simp] theorem loosen_id (task : Task) : task.loosen.id = .text task.id := by
  cases task; rfl

@[simp] theorem loosen_kind (task : Task) : task.loosen.kind = task.kind := by
  cases task; rfl

@[simp] theorem loosen_content (task : Task) : task.loosen.content = .text task.content := by
  cases task; rfl

@[simp] theorem loosen_delay (task : Task) : task.loosen.delay = .ofInt? task.delay := by
  cases task; rfl

@[simp] theorem loosen_line (task : Task) : task.loosen.line = .ofInt? task.line := by
  cases task; rfl

@[simp] theorem loosen_body (task : Task) : task.loosen.body = task.body.map Task.loosen := by
  obtain ⟨_, _, _, _, children, _⟩ := task
  cases children <;> simp [Task.loosen, LooseTask.body, Task.body, loosenBody, loosenForest_eq_map]

/-- A task with another content, as a loose one. -/
theorem loosen_relabel (task : Task) (content : String) :
    Task.loosen { task with content } = { task.loosen with content := .text content } := by
  cases task; rfl

end Task

theorem truth?_ofInt?_getD (delay : Option Int) :
    (Datum.ofInt? delay).truth?.getD (.whole 0) = .whole (delay.getD 0) := by
  cases delay with
  | none => rfl
  | some n =>
    by_cases h : n = 0
    · simp [h, Datum.ofInt?, Datum.truth?, Datum.isTrue]
    · simp [h, Datum.ofInt?, Datum.truth?, Datum.isTrue]

theorem truth?_ofInt?_getD_ofInt? (line active : Option Int) :
    (Datum.ofInt? line).truth?.getD (.ofInt? active) =
      .ofInt? ((line.filter (· ≠ 0)).or active) := by
  cases line with
  | none => rfl
  | some n =>
    by_cases h : n = 0
    · simp [h, Datum.ofInt?, Datum.truth?, Datum.isTrue, Option.filter]
    · simp [h, Datum.ofInt?, Datum.truth?, Datum.isTrue, Option.filter]

/-! ## Frames -/

@[simp] theorem mapError_ok {ε ε' α : Type} (f : ε → ε') (a : α) :
    (Except.ok a : Except ε α).mapError f = .ok a := rfl

namespace Frame

/-- The instructions of a frame can be counted. -/
def Countable (frame : Frame) : Prop :=
  (frame.instructions.length : Int) ≤ positionLimit

theorem locate_eq_ok {size n : Nat} (hs : (size : Int) ≤ positionLimit) (hn : n < size) :
    locate size n = .ok n := by
  have hlow : ¬ ((n : Int) < -positionLimit) := by unfold positionLimit; omega
  have hhigh : ¬ (positionLimit ≤ (n : Int)) := by omega
  simp [locate, hlow, hhigh, hn]

theorem current?_loosen {frame : Frame} (h : frame.Countable) :
    frame.loosen.current? = .ok (frame.current?.map Task.loosen) := by
  simp only [LooseFrame.current?, LooseFrame.exhausted, Datum.reaches, loosen, List.length_map,
    bind, Except.bind, pure, Except.pure, Frame.current?]
  by_cases hn : frame.cursor < frame.instructions.length
  · have hlt : ¬ ((frame.instructions.length : Int) ≤ frame.cursor) := by omega
    simp [hlt, Datum.wholeNumber, locate_eq_ok h hn]
  · have hle : (frame.instructions.length : Int) ≤ frame.cursor := by omega
    simp [hle, List.getElem?_eq_none (Nat.le_of_not_lt hn)]

end Frame

/-! ## Steps -/

theorem microtaskEntry_loosen {loop : EventLoop} {numeral : String}
    (h : Text.writeInt loop.queued = .ok numeral) (task : Task) :
    loop.loosen.microtaskEntry task.loosen = .ok (loop.microtaskEntry task).loosen := by
  have hnumeral : numeral = toString loop.queued := by
    unfold Text.writeInt at h
    split at h
    · cases h
    · cases h; rfl
  subst hnumeral
  simp only [LooseLoop.microtaskEntry, EventLoop.loosen, Datum.display, Datum.literal, h,
    mapError_ok, bind, Except.bind, pure, Except.pure, Task.loosen_content, Datum.asText,
    Task.loosen_body, Task.loosen_line, EventLoop.microtaskEntry, Task.loosen, loosenBody,
    loosenForest_eq_map, Datum.ofInt?]

theorem perform_loosen {loop : EventLoop} {numeral : String}
    (h : Text.writeInt loop.queued = .ok numeral) (task : Task) :
    loop.loosen.perform task.loosen = .ok (loop.perform task).loosen := by
  simp only [LooseLoop.perform, EventLoop.perform, Task.loosen_kind]
  cases task.kind with
  | log => simp [EventLoop.loosen]
  | timer =>
    simp only [Task.loosen_delay, truth?_ofInt?_getD]
    simp [EventLoop.loosen, PendingTimer.loosen]
  | microtask =>
    simp only [microtaskEntry_loosen h, bind, Except.bind, pure, Except.pure]
    simp [EventLoop.loosen, Datum.plus]
  | main => rfl

theorem runTop_loosen {loop : EventLoop} {top : Frame} {below : List Frame} {numeral : String}
    (h : Text.writeInt loop.queued = .ok numeral) (htop : top.Countable) :
    loop.loosen.runTop top.loosen (below.map (·.loosen)) = .ok (loop.runTop top below).loosen := by
  simp only [LooseLoop.runTop, EventLoop.runTop, Frame.current?_loosen htop, bind, Except.bind]
  cases top.current? with
  | none => rfl
  | some task =>
    simp only [Option.map_some, Frame.loosen, Datum.plus, Task.loosen_line]
    have hline : (Datum.ofInt? task.line).truth?.getD loop.loosen.activeLine =
        .ofInt? (task.shownLine.or loop.activeLine) :=
      truth?_ofInt?_getD_ofInt? task.line loop.activeLine
    rw [hline]
    exact @perform_loosen { loop with
      stack := { top with cursor := top.cursor + 1 } :: below
      activeLine := task.shownLine.or loop.activeLine } numeral h task

/-- A step of a loop as a loose one is the step of the loop. -/
theorem step_loosen {loop : EventLoop} {numeral : String}
    (h : Text.writeInt loop.queued = .ok numeral) (htop : ∀ top ∈ loop.stack.head?, top.Countable) :
    loop.loosen.step = .ok loop.step.loosen := by
  obtain ⟨program, stack, pending, microtasks, macrotasks, output, finished, active, clock, queued⟩
    := loop
  cases finished with
  | true => rfl
  | false =>
    cases stack with
    | cons top below => exact runTop_loosen h (htop top rfl)
    | nil =>
      cases microtasks with
      | cons entry rest =>
        simp [LooseLoop.step, EventLoop.step, EventLoop.loosen, Datum.isTrue, LooseLoop.enter,
          EventLoop.enter, LooseFrame.ofEntry, Frame.ofEntry, Frame.loosen]
      | nil =>
        cases macrotasks with
        | cons entry rest =>
          simp [LooseLoop.step, EventLoop.step, EventLoop.loosen, Datum.isTrue, LooseLoop.enter,
            EventLoop.enter, LooseFrame.ofEntry, Frame.ofEntry, Frame.loosen, Datum.asText]
        | nil =>
          cases pending with
          | nil => rfl
          | cons timer timers => rfl

/-! ## Ticks -/

theorem sift_loosen (elapsed : Int) (pending : List PendingTimer) :
    LooseLoop.sift elapsed (pending.map (·.loosen)) =
      .ok (((pending.filter (!·.isDue)).map (·.wait elapsed)).map (·.loosen),
        ((pending.filter (·.isDue)).map (·.promoted)).map Task.loosen) := by
  induction pending with
  | nil => rfl
  | cons timer timers ih =>
    have hdue : timer.loosen.isDue = .ok timer.isDue := rfl
    simp only [List.map_cons, LooseLoop.sift, hdue, ih, bind, Except.bind, pure, Except.pure]
    cases hd : timer.isDue with
    | true =>
      simp [hd, PendingTimer.promoted, LooseTimer.promoted, PendingTimer.loosen, Datum.asText,
        Task.loosen_relabel]
    | false =>
      simp [hd, LooseTimer.wait, PendingTimer.wait, PendingTimer.loosen, Datum.minus, bind,
        Except.bind, pure, Except.pure]

/-- A tick of a loop as a loose one is the tick of the loop. -/
theorem advance_loosen (loop : EventLoop) (ms : Int) :
    loop.loosen.advance ms = .ok (loop.advance ms).loosen := by
  have hsift := sift_loosen (max 0 ms) loop.pending
  simp only [LooseLoop.advance, EventLoop.advance, EventLoop.loosen, Datum.plus, bind, Except.bind,
    pure, Except.pure] at hsift ⊢
  rw [hsift]
  simp

/-! ## Snapshots -/

theorem view_loosen {frame : Frame} (h : frame.Countable) :
    frame.loosen.view = .ok frame.view := by
  simp only [LooseFrame.view, Frame.current?_loosen h, bind, Except.bind, pure, Except.pure,
    Frame.view, Frame.currentText]
  cases frame.current? <;> simp [Frame.loosen]

theorem mapM_view_loosen {frames : List Frame} (h : ∀ frame ∈ frames, frame.Countable) :
    (frames.map (·.loosen)).mapM (·.view) = (.ok (frames.map (·.view)) : Except ShapeError _) := by
  induction frames with
  | nil => rfl
  | cons frame frames ih =>
    have hrest := ih fun frame hframe => h frame (List.mem_cons_of_mem _ hframe)
    simp only [List.map_cons, List.mapM_cons, view_loosen (h frame List.mem_cons_self), hrest,
      bind, Except.bind, pure, Except.pure]

/-- A loop as a loose one looks like the loop. -/
theorem snapshot_loosen {loop : EventLoop} (h : ∀ frame ∈ loop.stack, frame.Countable) :
    loop.loosen.snapshot = .ok loop.snapshot := by
  have hviews := @mapM_view_loosen loop.stack.reverse (by simpa using h)
  simp only [LooseLoop.snapshot, EventLoop.loosen, ← List.map_reverse, hviews, bind, Except.bind,
    pure, Except.pure, EventLoop.snapshot, List.map_map]
  simp [Function.comp_def, LooseTimer.view, PendingTimer.view, PendingTimer.loosen,
    truth?_ofInt?_getD, LooseTask.entryView, Task.entryView]

end LoopStepper
