import LoopStepper.Datum
import LoopStepper.EventLoop.Basic

/-!
# Snapshots

What a state of an event loop looks like from outside, as a value: the call stack from the
outermost frame inwards, the waiting timers, the queues, the output, and where the run stands.
-/

namespace LoopStepper

/-- What a frame does next, as text. -/
def Frame.currentText (frame : Frame) : String :=
  match frame.current? with
  | some task => task.content
  | none => "executing..."

/-- A frame as it is shown. -/
def Frame.view (frame : Frame) : Datum :=
  .record [
    ("id", .text frame.id),
    ("name", .text frame.name),
    ("kind", .text frame.kind.label),
    ("cursor", .whole frame.cursor),
    ("length", .whole frame.instructions.length),
    ("current", .text frame.currentText),
    ("highlight_line", .ofInt? frame.line)]

/-- A waiting timer as it is shown. -/
def PendingTimer.view (timer : PendingTimer) : Datum :=
  .record [
    ("id", .text timer.task.id),
    ("content", .text timer.task.content),
    ("delay", .whole (timer.task.delay.getD 0)),
    ("created_at", .whole timer.createdAt),
    ("remaining_ms", .whole timer.remaining)]

/-- A queue entry as it is shown. -/
def Task.entryView (entry : Task) : Datum :=
  .record [
    ("id", .text entry.id),
    ("content", .text entry.content),
    ("line", .ofInt? entry.line)]

/-- The state as it is shown. -/
def EventLoop.snapshot (loop : EventLoop) : Datum :=
  .record [
    ("call_stack", .list (loop.stack.reverse.map (·.view))),
    ("web_apis", .list (loop.pending.map (·.view))),
    ("microtask_queue", .list (loop.microtasks.map (·.entryView))),
    ("macrotask_queue", .list (loop.macrotasks.map (·.entryView))),
    ("output", .list (loop.output.map .text)),
    ("finished", .flag loop.finished),
    ("active_line", .ofInt? loop.activeLine),
    ("clock_ms", .whole loop.clock)]

end LoopStepper
