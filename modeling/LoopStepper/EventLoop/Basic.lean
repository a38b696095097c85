import LoopStepper.Task

/-!
# The state of an event loop

A script that runs: the call stack, the timers that wait, the two queues, what was printed, and a
virtual clock that only ticks advance. Everything the loop does is a function from one such state
to the next.
-/

namespace LoopStepper

/-- One entry of the call stack: a list of instructions and how many of them were started. -/
structure Frame where
  id : String
  name : String
  kind : TaskKind
  instructions : List Task
  cursor : Nat := 0
  /-- The line that registered the callback. -/
  line : Option Int := none

/-- The instruction a frame executes next, if any is left. -/
def Frame.current? (frame : Frame) : Option Task :=
  frame.instructions[frame.cursor]?

/-- The instructions a frame has not started yet. -/
def Frame.ahead (frame : Frame) : List Task :=
  frame.instructions.drop frame.cursor

/-- A timer that was registered and is not due yet, or is due at the next tick. -/
structure PendingTimer where
  task : Task
  /-- The clock at its registration. -/
  createdAt : Int
  /-- Its delay less the time since its registration. -/
  remaining : Int

/-- The state of an event loop. -/
structure EventLoop where
  /-- The forest of the whole script. -/
  program : List Task := []
  /-- The call stack, the innermost frame first. -/
  stack : List Frame := []
  /-- The waiting timers in the order of their registration. -/
  pending : List PendingTimer := []
  /-- The microtask queue, the next entry first. -/
  microtasks : List Task := []
  /-- The macrotask queue, the next entry first. -/
  macrotasks : List Task := []
  /-- The messages printed so far. -/
  output : List String := []
  finished : Bool := false
  /-- The line of the last instruction executed in the current callback. -/
  activeLine : Option Int := none
  clock : Int := 0
  /-- The number of the next microtask to be queued. -/
  queued : Int := 0

namespace EventLoop

/-- The frame around the whole script. -/
def mainFrame (program : List Task) : Frame where
  id := "main"
  name := "main()"
  kind := .main
  instructions := program

/-- The state in which nothing of a script has run yet. -/
def start (program : List Task) : EventLoop where
  program := program
  stack := [mainFrame program]

/-- Nothing can run now: only a waiting timer may bring more to do. -/
def idle (loop : EventLoop) : Bool :=
  loop.stack.isEmpty && loop.microtasks.isEmpty && loop.macrotasks.isEmpty

end EventLoop

end LoopStepper
