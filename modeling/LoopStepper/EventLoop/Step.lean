import LoopStepper.EventLoop.Timer

/-!
# Steps

A step does one thing: it executes the next instruction of the innermost frame, or drops that frame
if it is exhausted, or takes one callback off a queue, or finds that all is done. The call stack is
emptied before a queue is looked at, microtasks come before macrotasks, and both queues are first
in, first out.
-/

namespace LoopStepper

/-- The content of the entry that a registration with some content puts into the microtask queue. -/
def microtaskLabel (content : String) : String :=
  if content = "process.nextTick" || content = "queueMicrotask" then content
  else "Promise Callback"

/-- The name of the frame that runs a macrotask entry with some content. -/
def macrotaskFrameName (content : String) : String :=
  if content = "setImmediate" then "setImmediate" else "setTimeout"

/-- The frame that runs a queue entry. -/
def Frame.ofEntry (entry : Task) (name : String) (kind : TaskKind) : Frame where
  id := entry.id
  name := name
  kind := kind
  instructions := entry.body
  line := entry.line

/-- The line of a task, if it has one that can be shown. -/
def Task.shownLine (task : Task) : Option Int :=
  task.line.filter (· ≠ 0)

namespace EventLoop

/-- The microtask entry of a registration; entries are numbered in the order of queueing. -/
def microtaskEntry (loop : EventLoop) (task : Task) : Task where
  id := "micro-" ++ toString loop.queued
  kind := .microtask
  content := microtaskLabel task.content
  children := some task.body
  line := task.line

/-- What an instruction does, apart from moving the cursor on. -/
def perform (loop : EventLoop) (task : Task) : EventLoop :=
  match task.kind with
  | .log => { loop with output := loop.output ++ [task.content] }
  | .timer =>
    { loop with pending := loop.pending ++
        [{ task, createdAt := loop.clock, remaining := task.delay.getD 0 }] }
  | .microtask =>
    { loop with
      microtasks := loop.microtasks ++ [loop.microtaskEntry task]
      queued := loop.queued + 1 }
  | .main => loop

/-- Executes the next instruction of the frame `top`, or drops the frame if none is left. -/
def runTop (loop : EventLoop) (top : Frame) (below : List Frame) : EventLoop :=
  match top.current? with
  | none => { loop with stack := below, activeLine := none }
  | some task =>
    { loop with
      stack := { top with cursor := top.cursor + 1 } :: below
      activeLine := task.shownLine.or loop.activeLine }.perform task

/-- Begins to run a queue entry. -/
def enter (loop : EventLoop) (entry : Task) (name : String) (kind : TaskKind) : EventLoop :=
  { loop with stack := [Frame.ofEntry entry name kind], activeLine := entry.line }

/-- One step. A finished loop stays as it is, and so does one that waits for a timer. -/
def step (loop : EventLoop) : EventLoop :=
  if loop.finished then loop
  else
    match loop.stack with
    | top :: below => loop.runTop top below
    | [] =>
      match loop.microtasks with
      | entry :: rest =>
        { loop with microtasks := rest }.enter entry entry.content .microtask
      | [] =>
        match loop.macrotasks with
        | entry :: rest =>
          { loop with macrotasks := rest }.enter entry (macrotaskFrameName entry.content) .timer
        | [] =>
          if loop.pending.isEmpty then { loop with finished := true, activeLine := none }
          else loop

end EventLoop

end LoopStepper
