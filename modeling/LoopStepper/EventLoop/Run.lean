import LoopStepper.Datum
import LoopStepper.EventLoop.Step

/-!
# Runs

A run is a sequence of steps and ticks. `replay` follows any such sequence; `runRounds` alternates
a number of steps with one tick until the loop is finished.
-/

namespace LoopStepper

/-- What can happen to an event loop. -/
inductive Event where
  | step
  | tick (ms : Int)
  deriving DecidableEq, Repr

/-- What is handed over as an event: an event, a tick of any quantity, or some other value. -/
inductive EventRequest where
  | step
  | tick (ms : Quantity)
  | other (value : Datum)

/-- The event that is asked for. -/
def EventRequest.event : EventRequest → Except ShapeError Event
  | .step => .ok .step
  | .tick ms => (ms.toInt.map Event.tick).mapError .quantity
  | .other value =>
    match value.literal with
    | .ok literal => .error (.noEvent literal)
    | .error error => .error (.numeral error)

namespace EventLoop

/-- The state after an event. -/
def apply (loop : EventLoop) : Event → EventLoop
  | .step => loop.step
  | .tick ms => loop.advance ms

/-- The state after a sequence of events. -/
def replay (loop : EventLoop) (events : List Event) : EventLoop :=
  events.foldl apply loop

/-- The state after `n` steps. -/
def steps (loop : EventLoop) : (n : Nat) → EventLoop
  | 0 => loop
  | n + 1 => loop.step.steps n

/-- At most `rounds` rounds of `perRound` steps and a tick; a finished loop has no more rounds. -/
def runRounds (tick : Int) (perRound : Nat) (loop : EventLoop) : (rounds : Nat) → EventLoop
  | 0 => loop
  | rounds + 1 =>
    if loop.finished then loop
    else runRounds tick perRound ((loop.steps perRound).advance tick) rounds

/-- Runs the loop until it is finished or its rounds are used up. There is at least one step in a
round. The size of the ticks is looked at only if a round takes place. -/
def run (loop : EventLoop) (tick perRound rounds : Quantity) : Except QuantityError EventLoop := do
  let perRound ← perRound.toInt
  let rounds ← rounds.toInt
  if rounds ≤ 0 || loop.finished then return loop
  let tick ← tick.toInt
  return loop.runRounds tick (max 1 perRound).toNat rounds.toNat

end EventLoop

end LoopStepper
