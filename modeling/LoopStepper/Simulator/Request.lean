import LoopStepper.Simulator.Basic

/-!
# Requests

The calls that a simulator answers, as data. A list of requests is a script of what users and
background loops do with a simulator, in the order in which they get hold of it.
-/

namespace LoopStepper

/-- A call of a simulator. -/
inductive Request where
  | step
  | tick (ms : Option Quantity)
  | reset (source : Option String) (autoplay : Bool)
  | play
  | pause
  | toggle
  | setSpeed (ms : Quantity)
  /-- A step of the automatic run, by default one planned just now. -/
  | autoplayStep (generation : Option Int)
  | subscribe (name : String)
  | unsubscribe (name : String)
  | failNext (operation : Operation)

/-- What a call answers. -/
inductive Reply where
  | nothing
  | text (text : String)
  | number (n : Int)
  | flag (b : Bool)
  deriving DecidableEq, Repr

namespace Simulator

/-- Answers a call. -/
def answer (sim : Simulator) : Request → Outcome Reply
  | .step => sim.step.map fun _ => .nothing
  | .tick ms => (sim.tick ms).map fun _ => .nothing
  | .reset source autoplay => (sim.reset source autoplay).map fun _ => .nothing
  | .play => sim.play.map fun _ => .nothing
  | .pause => sim.pause.map fun _ => .nothing
  | .toggle => sim.toggle.map fun did => .text did.label
  | .setSpeed ms => (sim.setSpeed ms).map .number
  | .autoplayStep generation =>
    (sim.autoplayStep (generation.getD sim.generation)).map .flag
  | .subscribe name => (sim.resubscribe .subscribe (·.subscribe name)).map fun _ => .nothing
  | .unsubscribe name => (sim.resubscribe .unsubscribe (·.unsubscribe name)).map fun _ => .nothing
  | .failNext operation => { result := .ok .nothing, simulator := sim.failNext operation }

/-- Answers calls one after the other; one that fails does not keep the others from being made. -/
def answerAll (sim : Simulator) : List Request → List (Except Failure Reply) × Simulator
  | [] => ([], sim)
  | request :: requests =>
    let outcome := sim.answer request
    let (results, last) := outcome.simulator.answerAll requests
    (outcome.result :: results, last)

end Simulator

end LoopStepper
