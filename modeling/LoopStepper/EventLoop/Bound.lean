import LoopStepper.EventLoop.Run

/-!
# How long a run takes

A number of rounds after which a script is surely finished, counted from its tasks: a step for each
task, two more for each callback to enter and leave it, two to leave the script and find that all is
done, and for each timer the ticks that its delay takes and one to move it to the queue.
-/

namespace LoopStepper

/-- The ticks of size `tick` that a delay takes. -/
def delayTicks (tick : Nat) (delay : Int) : Nat :=
  (delay.toNat + tick - 1) / tick

/-- The rounds that a task takes itself. -/
def Task.ownRounds (tick : Nat) (task : Task) : Nat :=
  match task.kind with
  | .log | .main => 1
  | .microtask => 3
  | .timer => 4 + delayTicks tick (task.delay.getD 0)

mutual

/-- The rounds that a task and its body take. -/
def Task.rounds (tick : Nat) : Task → Nat
  | ⟨id, kind, content, delay, children, line⟩ =>
    Task.ownRounds tick ⟨id, kind, content, delay, none, line⟩ + bodyRounds tick children

/-- The rounds that a body takes. -/
def bodyRounds (tick : Nat) : Option (List Task) → Nat
  | none => 0
  | some tasks => forestRounds tick tasks

/-- The rounds that a forest takes. -/
def forestRounds (tick : Nat) : List Task → Nat
  | [] => 0
  | task :: tasks => task.rounds tick + forestRounds tick tasks

end

/-- A number of rounds after which a script is finished. -/
def enoughRounds (tick : Nat) (program : List Task) : Nat :=
  forestRounds tick program + 2

end LoopStepper
