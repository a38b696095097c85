import LoopStepper.EventLoop.Basic

/-!
# Ticks

A tick advances the virtual clock and looks at every waiting timer once. A timer that has nothing
left to wait for moves to the macrotask queue, the others wait for so much less. Timers that move
together keep the order of their registration and go behind what is already queued.
-/

namespace LoopStepper

/-- The content of the macrotask entry of a timer with some content: immediates keep their label,
all other timers share one. -/
def promotedContent (content : String) : String :=
  if content = "setImmediate" then "setImmediate" else "Timeout Callback"

namespace PendingTimer

/-- The macrotask entry of a timer: its task under the label of its queue. -/
def promoted (timer : PendingTimer) : Task :=
  { timer.task with content := promotedContent timer.task.content }

/-- Whether the next tick moves the timer to the queue. -/
def isDue (timer : PendingTimer) : Bool :=
  timer.remaining ≤ 0

/-- The timer after so many milliseconds more. -/
def wait (elapsed : Int) (timer : PendingTimer) : PendingTimer :=
  { timer with remaining := timer.remaining - elapsed }

end PendingTimer

/-- One tick of `ms` milliseconds; a negative amount counts as none. -/
def EventLoop.advance (loop : EventLoop) (ms : Int) : EventLoop :=
  let elapsed := max 0 ms
  { loop with
    pending := (loop.pending.filter (!·.isDue)).map (·.wait elapsed)
    macrotasks := loop.macrotasks ++ (loop.pending.filter (·.isDue)).map (·.promoted)
    clock := loop.clock + elapsed }

end LoopStepper
