import LoopStepper.Command.Registry
import LoopStepper.Session.Bench

/-!
# The commands

What each command of the console does with a bench and what it replies. A command may say notes
while it works, if someone listens to them.
-/

namespace LoopStepper

open Text

/-- The commands of the console. -/
inductive Command where
  | help
  | status
  | showState
  | code
  | step
  | tick
  | run
  | pause
  | speed
  | reset
  | gen
  | feature
  | load
  | save
  | json
  | predict
  deriving DecidableEq, Repr

namespace Command

/-- The registry of all commands. -/
def registry : Registry Command :=
  ({} : Registry Command)
    |>.register "help" .help "Show available commands." ["h", "?"]
    |>.register "status" .status "Show mode, speed and generator settings."
    |>.register "show" .showState "Show stack, Web APIs, queues and output." ["s"]
    |>.register "code" .code "Show the script with the active line marked."
    |>.register "step" .step "Execute one step: /step [n]." ["n"]
    |>.register "tick" .tick "Advance timers once: /tick [ms]."
    |>.register "run" .run "Play / pause (replay when finished)." ["play"]
    |>.register "pause" .pause "Pause auto-run."
    |>.register "speed" .speed "Show or set the step interval: /speed [ms]."
    |>.register "reset" .reset "Re-parse the script and start over."
    |>.register "gen" .gen "Generate a sample: /gen simple | /gen complex."
    |>.register "feature" .feature "Generator features: /feature [name on|off]."
    |>.register "load" .load "Load a script file: /load <path>."
    |>.register "save" .save "Save the script: /save [path]."
    |>.register "json" .json "Dump the state snapshot as JSON: /json [path]."
    |>.register "predict" .predict
      "Prediction game: /predict | /predict move I J | /predict check."

/-! ## Looking -/

/-- The overview of the current state. -/
def overview : Act String := do
  return Report.overview (← Bench.operate Simulator.view)

/-- The reply of `help`. -/
def runHelp : Act String :=
  return registry.helpText ++ "\n  /edit - Enter a new script (finish with a single '.')"

/-- The reply of `status`. -/
def runStatus : Act String := do
  let session := (← get).session
  let sim := session.simulator
  let mode := if sim.running then "AUTO-RUN" else "MANUAL"
  let tick ← Bench.written (writeInt sim.tickMs)
  let labels := session.features.labels
  return "Status:\n" ++
    s!"  Mode: {mode} (every {sim.intervalMs} ms, tick {tick} ms)\n" ++
    "  Finished: " ++ (if sim.loop.finished then "yes" else "no") ++ "\n" ++
    s!"  Script: {lineCount sim.source.toList} lines, {sim.program.length} top-level tasks\n" ++
    s!"  Generator: {session.complexity.label}; features: " ++
    if labels.isEmpty then "(none)" else ", ".intercalate labels

/-- The reply of `code`. -/
def runCode : Act String := do
  let sim ← Bench.simulator
  return Report.listing sim.source sim.loop.activeLine

/-! ## Stepping -/

/-- The most steps that one command makes. -/
def maxSteps : Int := 10000

/-- How many steps an argument asks for: one if it is missing or no number. -/
def stepCount (arguments : List String) : Nat :=
  let asked := (arguments.head?.map (readIntD · 1)).getD 1
  (min maxSteps (max 1 asked)).toNat

/-- Makes steps until the script is finished or `left` of them were made, each with a note if
`noted`; gives their number. -/
def makeSteps (noted : Bool) (made : Nat) : (left : Nat) → Act Nat
  | 0 => return made
  | left + 1 => do
    if (← Bench.simulator).loop.finished then return made
    Bench.operate Simulator.step
    if noted then
      let loop ← Bench.operate Simulator.view
      Bench.say (.note (Report.progress "step" loop))
    makeSteps noted (made + 1) left

/-- The reply of `step`. Several steps are noted one by one, if someone listens. -/
def runStep (arguments : List String) (listened : Bool) : Act String := do
  let count := stepCount arguments
  Bench.operate Simulator.pause
  let made ← makeSteps (listened && 1 < count) 0 count
  return s!"Stepped {made}x.\n" ++ (← overview)

/-- The reply of `tick`. -/
def runTick (arguments : List String) : Act String := do
  let sim ← Bench.simulator
  let elapsed := (arguments.head?.map (readIntD · sim.tickMs)).getD sim.tickMs
  Bench.operate (·.tick (some (.whole elapsed)))
  let shown ← Bench.written (writeInt (max 0 elapsed))
  return s!"Ticked {shown} ms.\n" ++ (← overview)

/-! ## Running -/

/-- The reply of `run`. -/
def runRun : Act String := do
  if (← Bench.simulator).loop.finished then
    Bench.reset none true
    return "Replaying from the start."
  let did ← Bench.operate Simulator.toggle
  if did = .paused then return "Paused."
  return s!"Running (every {(← Bench.simulator).intervalMs} ms). Use /pause or /run to stop."

/-- The reply of `pause`. -/
def runPause : Act String := do
  Bench.operate Simulator.pause
  return "Paused."

/-- The reply of `speed`. -/
def runSpeed (arguments : List String) : Act String := do
  let sim ← Bench.simulator
  match arguments.head? with
  | none => return s!"Speed: {sim.intervalMs} ms per step."
  | some text =>
    let interval ← Bench.operate (·.setSpeed (.whole (readIntD text sim.intervalMs)))
    return s!"Speed set to {interval} ms per step."

/-- The reply of `reset`. -/
def runReset : Act String := do
  Bench.reset none false
  return "Reset.\n" ++ (← overview)

/-! ## Scripts -/

/-- Starts over with a script and lists it. -/
def begin (source : String) : Act String := do
  Bench.reset (some source) false
  return Report.listing source none

/-- The reply of `gen`. -/
def runGen (arguments : List String) : Act String := do
  let chosen ← match arguments.head? with
    | none => pure (some (← get).session.complexity)
    | some name => pure (Complexity.ofName? name)
  match chosen with
  | none => return "Usage: /gen simple | /gen complex"
  | some complexity =>
    Bench.modifySession fun session => { session with complexity }
    begin (Script.sample complexity (← get).session.features)

/-- The row of a feature in the list of features. -/
def featureRow (features : Features) (feature : Feature) : String :=
  let mark := if features feature then "x" else " "
  s!"  [{mark}] {feature.name} ({feature.label})"

/-- The words that turn a feature on. -/
def onWords : List String :=
  ["on", "1", "true", "yes"]

/-- The reply of `feature`. -/
def runFeature (arguments : List String) : Act String := do
  let features := (← get).session.features
  match arguments with
  | [] =>
    return "\n".intercalate ("Generator features:" :: Feature.all.map (featureRow features))
  | name :: rest =>
    match Feature.ofName? name with
    | none =>
      return s!"Unknown feature: {name}. Known: " ++ ", ".intercalate (Feature.all.map (·.name))
    | some chosen =>
      let on := match rest with
        | word :: _ => onWords.contains (lowerString word)
        | [] => !features chosen
      Bench.modifySession fun session => { session with features := features.set chosen on }
      let state := if on then "ON" else "OFF"
      return s!"Feature {chosen.name} is now {state}. Use /gen to regenerate."

/-- The reply of `load`. -/
def runLoad (arguments : List String) : Act String := do
  match arguments.head? with
  | none => return "Usage: /load <path>"
  | some path =>
    match ← Bench.loadScript path with
    | none => return s!"Could not read {path}."
    | some source => begin source

/-- The reply of `save`. -/
def runSave (arguments : List String) : Act String := do
  let options := (← get).session.options
  let saved ← match arguments.head?.map Bench.named, options.scriptPath with
    | some target, _ => Bench.saveScriptTo target
    | none, some path => Bench.saveScriptTo (some path)
    | none, none => Bench.saveScript
  match saved with
  | some path => return s!"Saved script to {path}."
  | none => return "Script was not saved (see log)."

/-- The reply of `json`. -/
def runJson (arguments : List String) : Act String := do
  match arguments.head? with
  | none =>
    let loop ← Bench.operate Simulator.view
    Bench.written loop.snapshot.json
  | some path =>
    match ← Bench.saveSnapshot (some (Path.ofString path)) with
    | some path => return s!"Snapshot written to {path}."
    | none => return "Snapshot was not written (see log)."

/-! ## The prediction game -/

/-- The rows of a list, numbered from one. -/
def numbered (row : Nat → String → String) (number : Nat) : List String → List String
  | [] => []
  | item :: items => row number item :: numbered row (number + 1) items

/-- The current guess. -/
def guessText (game : Prediction) : String :=
  if game.items.isEmpty then "No logs detected."
  else
    "\n".intercalate ("Your predicted output order:" ::
      numbered (fun number item => s!"  #{number} {item}") 1 game.items)

/-- The rows of a guess with its marks. -/
def markRows (number : Nat) : List String → List Bool → List String
  | item :: items, mark :: marks =>
    let sign := if mark then "+" else "x"
    s!"  {sign} #{number} {item}" :: markRows (number + 1) items marks
  | _, _ => []

/-- The comparison of a guess with the output. -/
def checkText (game : Prediction) (output : List String) : String :=
  let verdict := game.verdict output
  "\n".intercalate (verdict.word :: markRows 1 game.items verdict.marks ++
    ["Actual: " ++ ", ".intercalate output])

/-- Moves an item of the guess; places are counted from one. -/
def moveItem (source target : String) : Act String := do
  let game := (← get).session.prediction
  match game.move? (readIntD source 0 - 1) (readIntD target 0 - 1) with
  | none => return s!"Positions must be between 1 and {game.items.length}."
  | some game =>
    Bench.modifySession fun session => { session with prediction := game }
    return guessText game

/-- The reply of `predict`. -/
def runPredict (arguments : List String) : Act String := do
  let session := (← get).session
  match arguments with
  | [] => return guessText session.prediction
  | word :: rest =>
    if lowerString word = "move" then
      match rest with
      | source :: target :: _ => moveItem source target
      | _ => return "Usage: /predict move I J"
    else if lowerString word = "check" then
      let loop := session.simulator.loop
      if loop.finished then return checkText session.prediction loop.output
      else return "The run is not finished yet. Use /run or /step first."
    else return "Usage: /predict | /predict move I J | /predict check"

/-! ## All of them -/

/-- Runs a command; `listened` says whether someone listens to its notes. -/
def perform (command : Command) (arguments : List String) (listened : Bool) : Act String :=
  match command with
  | .help => runHelp
  | .status => runStatus
  | .showState => overview
  | .code => runCode
  | .step => runStep arguments listened
  | .tick => runTick arguments
  | .run => runRun
  | .pause => runPause
  | .speed => runSpeed arguments
  | .reset => runReset
  | .gen => runGen arguments
  | .feature => runFeature arguments
  | .load => runLoad arguments
  | .save => runSave arguments
  | .json => runJson arguments
  | .predict => runPredict arguments

/-- Handles a line: the reply, or none if the line is no command. -/
def handle (line : String) (listened : Bool) : Act (Option String) :=
  match registry.read line with
  | .noCommand => return none
  | .empty => return some Registry.emptyReply
  | .unknown name => return some (Registry.unknownReply name)
  | .call command arguments => do return some (← command.perform arguments listened)

end Command

end LoopStepper
