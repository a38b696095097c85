import LoopStepper.EventLoop.Step
import LoopStepper.Loose.Basic

/-!
# Steps and ticks of loose event loops

The rules are those of any event loop: the call stack is emptied before a queue is looked at, both
queues are first in, first out, and microtasks come first. A value is looked at only where a rule
needs it, and what does not fit there is the error; the state then stays as it was.
-/

namespace LoopStepper

namespace LooseFrame

/-- Whether a frame has started all its instructions. -/
def exhausted (frame : LooseFrame) : Except ShapeError Bool :=
  frame.cursor.reaches frame.instructions.length

/-- The instruction a frame executes next, if any is left. A cursor below zero counts from the
end. -/
def current? (frame : LooseFrame) : Except ShapeError (Option LooseTask) := do
  if ← frame.exhausted then return none
  match frame.cursor with
  | .real x => .error (.noPosition "tuple" (Datum.real x).kind)
  | cursor =>
    let index ← cursor.wholeNumber
    let place ← (locate frame.instructions.length index).mapError (.position "tuple")
    return frame.instructions[place]?

/-- The frame that runs a queue entry. -/
def ofEntry (entry : LooseTask) (name : Datum) (kind : TaskKind) : LooseFrame where
  id := entry.id
  name := name
  kind := kind
  instructions := entry.body
  line := entry.line

end LooseFrame

namespace LooseTimer

/-- The macrotask entry of a timer: its task under the label of its queue. -/
def promoted (timer : LooseTimer) : LooseTask :=
  { timer.task with content := .text (promotedContent timer.task.content.asText) }

/-- Whether the next tick moves the timer to the queue. -/
def isDue (timer : LooseTimer) : Except ShapeError Bool :=
  timer.remaining.isSpent

/-- The timer after so many milliseconds more. -/
def wait (elapsed : Int) (timer : LooseTimer) : Except ShapeError LooseTimer := do
  return { timer with remaining := ← timer.remaining.minus elapsed }

end LooseTimer

namespace LooseLoop

/-- The microtask entry of a registration; entries are numbered in the order of queueing. -/
def microtaskEntry (loop : LooseLoop) (task : LooseTask) : Except ShapeError LooseTask := do
  return {
    id := .text ("micro-" ++ (← loop.queued.display))
    kind := .microtask
    content := .text (microtaskLabel task.content.asText)
    children := some task.body
    line := task.line }

/-- What an instruction does, apart from moving the cursor on. -/
def perform (loop : LooseLoop) (task : LooseTask) : Except ShapeError LooseLoop :=
  match task.kind with
  | .log => .ok { loop with output := loop.output ++ [task.content] }
  | .timer =>
    let remaining := task.delay.truth?.getD (.whole 0)
    .ok { loop with pending := loop.pending ++ [{ task, createdAt := loop.clock, remaining }] }
  | .microtask => do
    let entry ← loop.microtaskEntry task
    let queued ← loop.queued.plus 1
    return { loop with microtasks := loop.microtasks ++ [entry], queued }
  | .main => .ok loop

/-- Executes the next instruction of the frame `top`, or drops the frame if none is left. -/
def runTop (loop : LooseLoop) (top : LooseFrame) (below : List LooseFrame) :
    Except ShapeError LooseLoop := do
  match ← top.current? with
  | none => return { loop with stack := below, activeLine := .nothing }
  | some task =>
    let cursor ← top.cursor.plus 1
    { loop with
      stack := { top with cursor } :: below
      activeLine := task.line.truth?.getD loop.activeLine }.perform task

/-- Begins to run a queue entry. -/
def enter (loop : LooseLoop) (entry : LooseTask) (name : Datum) (kind : TaskKind) : LooseLoop :=
  { loop with stack := [.ofEntry entry name kind], activeLine := entry.line }

/-- One step. A finished loop stays as it is, and so does one that waits for a timer. -/
def step (loop : LooseLoop) : Except ShapeError LooseLoop :=
  if loop.finished.isTrue then .ok loop
  else
    match loop.stack with
    | top :: below => loop.runTop top below
    | [] =>
      match loop.microtasks with
      | entry :: rest =>
        .ok ({ loop with microtasks := rest }.enter entry entry.content .microtask)
      | [] =>
        match loop.macrotasks with
        | entry :: rest =>
          let name := Datum.text (macrotaskFrameName entry.content.asText)
          .ok ({ loop with macrotasks := rest }.enter entry name .timer)
        | [] =>
          .ok (if loop.pending.isEmpty then
            { loop with finished := .flag true, activeLine := .nothing } else loop)

/-- The timers that go on waiting and the entries of those that are due, both in the order of their
registration. -/
def sift (elapsed : Int) : List LooseTimer → Except ShapeError (List LooseTimer × List LooseTask)
  | [] => .ok ([], [])
  | timer :: timers => do
    if ← timer.isDue then
      let (waiting, due) ← sift elapsed timers
      return (waiting, timer.promoted :: due)
    else
      let timer ← timer.wait elapsed
      let (waiting, due) ← sift elapsed timers
      return (timer :: waiting, due)

/-- One tick of `ms` milliseconds; a negative amount counts as none. -/
def advance (loop : LooseLoop) (ms : Int) : Except ShapeError LooseLoop := do
  let elapsed := max 0 ms
  let clock ← loop.clock.plus elapsed
  let (pending, due) ← sift elapsed loop.pending
  return { loop with pending, macrotasks := loop.macrotasks ++ due, clock }

end LooseLoop

end LoopStepper
