import LoopStepper.Simulator.Request

/-!
# Background loops

Two loops drive a simulator while others use it. The clock loop ticks after every sleep. The
autoplay loop makes a step after every sleep that it began during an automatic run, and otherwise
looks again after a short while. Neither is ended by an operation that fails. A loop is a plan for
its next sleep, made from the simulator it finds; `Pacer.run` follows a loop through given sleeps,
in each of which others make given requests.
-/

namespace LoopStepper

/-- A sleep in seconds and what the loop does with the simulator it finds on waking. -/
structure SleepPlan where
  seconds : Float
  wake : Simulator → Outcome Unit

/-- A background loop. -/
abbrev Pacer := Simulator → SleepPlan

/-- The interval of the clock loop: the given one, or the simulator's tick if what is given counts
as no; at least one millisecond. -/
def clockInterval (sim : Simulator) (given : Datum) : Except QuantityError Int :=
  if given.isTrue then given.quantity.toInt.map (max 1) else .ok (max 1 sim.tickMs)

/-- The loop that ticks after every sleep, whatever the simulator does. -/
def clockLoop (interval : Int) : Except QuantityError Pacer := do
  let seconds ← (Quantity.whole interval).seconds
  return fun _ =>
    { seconds, wake := fun woken => woken.tick (some (.whole interval)) }

/-- The seconds between two looks at a simulator that is not running; not less than 5 ms. -/
def pollSeconds (pollMs : Quantity) : Except QuantityError Float := do
  let seconds ← pollMs.seconds
  return if seconds > 0.005 then seconds else 0.005

/-- The loop that makes the steps of an automatic run, each planned before the sleep. -/
def autoplayLoop (poll : Float) : Pacer := fun sim =>
  if sim.running then
    { seconds := Float.ofInt sim.intervalMs / 1000.0
      wake := fun woken => (woken.autoplayStep sim.generation).map fun _ => () }
  else { seconds := poll, wake := fun woken => { result := .ok (), simulator := woken } }

/-- How a loop is made to end during its last sleep: it is asked to stop, and does so once it has
done what it wakes for, or it is cancelled where it sleeps. -/
inductive Stop where
  | asked
  | cancelled
  deriving DecidableEq, Repr

/-- One sleep of a loop. -/
structure Nap where
  seconds : Float
  before : Simulator
  results : List (Except Failure Reply)
  after : Simulator

/-- A loop through given sleeps, each with the requests made meanwhile: the naps it took and the
simulator at its end. -/
def Pacer.run (pacer : Pacer) (stop : Stop) : List (List Request) → Simulator →
    List Nap × Simulator
  | [], sim => ([], sim)
  | requests :: rest, sim =>
    let plan := pacer sim
    let (results, slept) := sim.answerAll requests
    let nap := { seconds := plan.seconds, before := sim, results, after := slept }
    if rest.isEmpty && stop = .cancelled then ([nap], slept)
    else
      let (naps, last) := pacer.run stop rest (plan.wake slept).simulator
      (nap :: naps, last)

end LoopStepper
