import LoopStepper.EventLoop.Run
import LoopStepper.EventLoop.Snapshot
import LoopStepper.Script.Parse

/-!
# Simulators

A simulator owns a script, the event loop that runs it, and the settings of an automatic run. Its
operations may fail, and tell those who subscribed about each change; what came of an operation is
an `Outcome`, which holds the simulator as the operation left it in either case.
-/

namespace LoopStepper

/-- Why an operation of a simulator fails. -/
inductive Failure where
  /-- The operation was told to fail. -/
  | injected
  /-- A delay of the script, or a number to be shown, has too many digits. -/
  | numeral (error : Text.NumeralError)
  /-- A quantity has no whole part. -/
  | quantity (error : QuantityError)
  deriving DecidableEq, Repr

/-- The message shown for a failure. -/
def Failure.message : Failure → String
  | .injected => "injected"
  | .numeral error => error.message
  | .quantity error => error.message

/-- The operations of a simulator that can be told to fail. -/
inductive Operation where
  | step
  | tick
  | reset
  | autoplayStep
  | play
  | pause
  | toggle
  | setSpeed
  | snapshot
  | subscribe
  | unsubscribe
  /-- Telling those who subscribed of a change. -/
  | announce
  /-- What no simulator does, by its name. -/
  | unknown (name : String)
  deriving DecidableEq, Repr

/-- The changes that subscribers hear of. -/
inductive Change where
  | step
  | tick
  | reset
  deriving DecidableEq, Repr

/-- The name of a change. -/
def Change.label : Change → String
  | .step => "step"
  | .tick => "tick"
  | .reset => "reset"

/-- A simulator. -/
structure Simulator where
  source : String
  program : List Task
  loop : EventLoop
  /-- The milliseconds of a tick that is given no size. -/
  tickMs : Int
  /-- The milliseconds between two steps of an automatic run. -/
  intervalMs : Int
  /-- Whether an automatic run is on. -/
  running : Bool := false
  /-- The number of resets so far. -/
  generation : Nat := 0
  /-- Who hears of changes, in the order of subscription; one who subscribed twice hears twice. -/
  subscribers : List String := []
  /-- The operations whose next call fails; each stands here at most once. -/
  faults : List Operation := []

/-- What subscribers are told: the change, the simulator's state right after it, and a snapshot of
that state, which is one and the same for all of them. -/
structure Notice where
  change : Change
  loop : EventLoop
  running : Bool
  subscribers : List String
  snapshot : Datum

/-- What came of an operation. -/
structure Outcome (α : Type) where
  result : Except Failure α
  simulator : Simulator
  notices : List Notice := []

/-- The outcome with its answer changed. -/
def Outcome.map {α β : Type} (f : α → β) (outcome : Outcome α) : Outcome β :=
  { outcome with result := outcome.result.map f }

/-- The bounds of the milliseconds between two steps. -/
def minIntervalMs : Int := 100

@[inherit_doc minIntervalMs]
def maxIntervalMs : Int := 2000

/-- The interval nearest to the given one within the bounds. -/
def clampInterval (ms : Quantity) : Except QuantityError Int :=
  ms.toInt.map fun n => min maxIntervalMs (max minIntervalMs n)

namespace Simulator

/-- A simulator for a source text. The size of a tick is at least one. -/
def create (source : String) (tickMs intervalMs : Quantity) (subscribers : List String := []) :
    Except Failure Simulator := do
  let tick ← tickMs.toInt.mapError .quantity
  let interval ← (clampInterval intervalMs).mapError .quantity
  let program ← (Script.parse source).mapError .numeral
  return { source, program, loop := .start program, tickMs := max 1 tick, intervalMs := interval,
           subscribers }

/-- The notice of a change, to all who subscribe now. -/
def notice (sim : Simulator) (change : Change) : Notice where
  change := change
  loop := sim.loop
  running := sim.running
  subscribers := sim.subscribers
  snapshot := sim.loop.snapshot

/-- An operation, unless it was told to fail: then it does nothing this once. -/
def guarded {α : Type} (sim : Simulator) (operation : Operation)
    (body : Simulator → Outcome α) : Outcome α :=
  if operation ∈ sim.faults then
    { result := .error .injected, simulator := { sim with faults := sim.faults.erase operation } }
  else body sim

/-- Tells those who subscribed of a change. It can fail only if it was told to; the change stays. -/
def announce (sim : Simulator) (change : Change) : Outcome Unit :=
  sim.guarded .announce fun sim =>
    { result := .ok (), simulator := sim, notices := [sim.notice change] }

/-- Starts over with a new source text, or the same one. A text that cannot be read is kept as the
source, and nothing else changes. -/
def reset (sim : Simulator) (source : Option String) (autoplay : Bool) : Outcome Unit :=
  sim.guarded .reset fun sim =>
    let sim := { sim with source := source.getD sim.source }
    match Script.parse sim.source with
    | .error error => { result := .error (.numeral error), simulator := sim }
    | .ok program =>
      let sim := { sim with
        program
        loop := .start program
        running := autoplay
        generation := sim.generation + 1 }
      sim.announce .reset

/-- One step. The automatic run ends with the script. -/
def step (sim : Simulator) : Outcome Unit :=
  sim.guarded .step fun sim =>
    let loop := sim.loop.step
    { sim with loop, running := sim.running && !loop.finished }.announce .step

/-- One tick of the given size, or of the simulator's own. -/
def tick (sim : Simulator) (ms : Option Quantity) : Outcome Unit :=
  sim.guarded .tick fun sim =>
    match (ms.getD (.whole sim.tickMs)).toInt with
    | .error error => { result := .error (.quantity error), simulator := sim }
    | .ok ms => { sim with loop := sim.loop.advance ms }.announce .tick

/-- A step of the automatic run, planned in the given generation. It is dropped, with the answer
`false`, if the run is off or over, or there was a reset since. -/
def autoplayStep (sim : Simulator) (generation : Int) : Outcome Bool :=
  sim.guarded .autoplayStep fun sim =>
    if !sim.running || generation ≠ sim.generation || sim.loop.finished then
      { result := .ok false, simulator := sim }
    else sim.step.map fun _ => true

/-- Turns the automatic run on, unless the script is finished. -/
def play (sim : Simulator) : Outcome Unit :=
  sim.guarded .play fun sim =>
    { result := .ok (), simulator := { sim with running := sim.running || !sim.loop.finished } }

/-- Turns the automatic run off. -/
def pause (sim : Simulator) : Outcome Unit :=
  sim.guarded .pause fun sim =>
    { result := .ok (), simulator := { sim with running := false } }

/-- What a toggle did. -/
inductive Toggled where
  | replay
  | paused
  | running
  deriving DecidableEq, Repr

/-- The name of what a toggle did. -/
def Toggled.label : Toggled → String
  | .replay => "replay"
  | .paused => "paused"
  | .running => "running"

/-- Turns the automatic run on or off; a finished script starts over. -/
def toggle (sim : Simulator) : Outcome Toggled :=
  sim.guarded .toggle fun sim =>
    if sim.loop.finished then (sim.reset none true).map fun _ => .replay
    else if sim.running then sim.pause.map fun _ => .paused
    else sim.play.map fun _ => .running

/-- Sets the interval between two steps, within its bounds. -/
def setSpeed (sim : Simulator) (ms : Quantity) : Outcome Int :=
  sim.guarded .setSpeed fun sim =>
    match clampInterval ms with
    | .error error => { result := .error (.quantity error), simulator := sim }
    | .ok interval =>
      { result := .ok interval, simulator := { sim with intervalMs := interval } }

/-- The state of the event loop, for a snapshot. -/
def view (sim : Simulator) : Outcome EventLoop :=
  sim.guarded .snapshot fun sim => { result := .ok sim.loop, simulator := sim }

/-- One more subscription. -/
def subscribe (sim : Simulator) (name : String) : Simulator :=
  { sim with subscribers := sim.subscribers ++ [name] }

/-- Ends the earliest subscription of that name, if there is one. -/
def unsubscribe (sim : Simulator) (name : String) : Simulator :=
  { sim with subscribers := sim.subscribers.erase name }

/-- A change of the subscriptions, unless it was told to fail. -/
def resubscribe (sim : Simulator) (operation : Operation) (change : Simulator → Simulator) :
    Outcome Unit :=
  sim.guarded operation fun sim => { result := .ok (), simulator := change sim }

/-- Tells an operation to fail at its next call. Telling it again before that call changes
nothing. -/
def failNext (sim : Simulator) (operation : Operation) : Simulator :=
  { sim with faults := sim.faults.insert operation }

end Simulator

end LoopStepper
