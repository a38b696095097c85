import LoopStepper.EventLoop.Run
import LoopStepper.Loose.Step

/-!
# Runs of loose event loops

Sequences of requests and rounds of steps and ticks, as for any event loop. The first thing that
does not fit ends them.
-/

namespace LoopStepper.LooseLoop

/-- The state after an event. -/
def apply (loop : LooseLoop) : Event → Except ShapeError LooseLoop
  | .step => loop.step
  | .tick ms => loop.advance ms

/-- The state after a request. -/
def answer (loop : LooseLoop) (request : EventRequest) : Except ShapeError LooseLoop := do
  loop.apply (← request.event)

/-- The state after a sequence of requests. -/
def replay (loop : LooseLoop) (requests : List EventRequest) : Except ShapeError LooseLoop :=
  requests.foldlM answer loop

/-- The state after `n` steps. -/
def steps (loop : LooseLoop) : (n : Nat) → Except ShapeError LooseLoop
  | 0 => .ok loop
  | n + 1 => do (← loop.step).steps n

/-- At most `rounds` rounds of `perRound` steps and a tick; a finished loop has no more rounds. The
size of the tick is looked at after the steps. -/
def runRounds (tick : Quantity) (perRound : Nat) (loop : LooseLoop) :
    (rounds : Nat) → Except ShapeError LooseLoop
  | 0 => .ok loop
  | rounds + 1 =>
    if loop.finished.isTrue then .ok loop
    else do
      let stepped ← loop.steps perRound
      let ms ← tick.toInt.mapError .quantity
      (← stepped.advance ms).runRounds tick perRound rounds

/-- Runs the loop until it is finished or its rounds are used up. There is at least one step in a
round. -/
def run (loop : LooseLoop) (tick perRound rounds : Quantity) : Except ShapeError LooseLoop := do
  let perRound ← perRound.toInt.mapError .quantity
  let rounds ← rounds.toInt.mapError .quantity
  loop.runRounds tick (max 1 perRound).toNat rounds.toNat

end LoopStepper.LooseLoop
