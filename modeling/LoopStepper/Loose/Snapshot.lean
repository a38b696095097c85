import LoopStepper.Loose.Step

/-!
# Snapshots of loose event loops

What a loose event loop looks like from outside. Every frame is asked what it does next, the
outermost first, so a cursor that does not fit leaves the loop without a snapshot.
-/

namespace LoopStepper

/-- A frame as it is shown. -/
def LooseFrame.view (frame : LooseFrame) : Except ShapeError Datum := do
  let current := (← frame.current?).map (·.content)
  return .record [
    ("id", frame.id),
    ("name", frame.name),
    ("kind", .text frame.kind.label),
    ("cursor", frame.cursor),
    ("length", .whole frame.instructions.length),
    ("current", current.getD (.text "executing...")),
    ("highlight_line", frame.line)]

/-- A waiting timer as it is shown. -/
def LooseTimer.view (timer : LooseTimer) : Datum :=
  .record [
    ("id", timer.task.id),
    ("content", timer.task.content),
    ("delay", timer.task.delay.truth?.getD (.whole 0)),
    ("created_at", timer.createdAt),
    ("remaining_ms", timer.remaining)]

/-- A queue entry as it is shown. -/
def LooseTask.entryView (entry : LooseTask) : Datum :=
  .record [
    ("id", entry.id),
    ("content", entry.content),
    ("line", entry.line)]

/-- The state as it is shown. -/
def LooseLoop.snapshot (loop : LooseLoop) : Except ShapeError Datum := do
  return .record [
    ("call_stack", .list (← loop.stack.reverse.mapM (·.view))),
    ("web_apis", .list (loop.pending.map (·.view))),
    ("microtask_queue", .list (loop.microtasks.map (·.entryView))),
    ("macrotask_queue", .list (loop.macrotasks.map (·.entryView))),
    ("output", .list loop.output),
    ("finished", loop.finished),
    ("active_line", loop.activeLine),
    ("clock_ms", loop.clock)]

end LoopStepper
