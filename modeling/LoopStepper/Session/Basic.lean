import LoopStepper.Files.Script
import LoopStepper.Prediction
import LoopStepper.Script.Sample
import LoopStepper.Settings
import LoopStepper.Simulator.Request

/-!
# Sessions

A session is what the user works with: a simulator, the sample generator's settings and the
prediction game for the current script. It starts from options, any of which may be left out, and
from the files there are.
-/

namespace LoopStepper

/-- The options of a session; one that is left out has a default where it has one. -/
structure Options where
  dataDir : Option Path := none
  scriptPath : Option Path := none
  snapshotPath : Option Path := none
  /-- Whether the script is saved when no path is asked for. -/
  saveScript : Option Bool := none
  tickMs : Option Quantity := none
  intervalMs : Option Quantity := none
  autoplay : Option Bool := none
  complexity : Option String := none
  features : Option Features := none
  /-- The seed of the shuffler; one that is there may still be none at all. -/
  seed : Option (Option Quantity) := none
  /-- The names of further options that are there, of which a session makes no use. -/
  others : List String := []

/-- The names of the settings of which a session makes no use. -/
def Options.unused : List String :=
  ["app_name", "log_level", "console_enabled"]

/-- All settings as the options of a session. -/
def Options.ofSettings (settings : Settings) : Options where
  dataDir := some settings.dataDir
  scriptPath := some settings.scriptPath
  snapshotPath := some settings.snapshotPath
  saveScript := some settings.saveScript
  tickMs := some (.whole settings.tickIntervalMs)
  intervalMs := some (.whole settings.stepIntervalMs)
  autoplay := some settings.autoplay
  complexity := some settings.complexity
  features := some settings.features
  seed := some (settings.predictionSeed.map .whole)
  others := unused

/-- The options without the one of a name, if it is there. -/
def Options.without? (options : Options) (name : String) : Option Options :=
  match name with
  | "data_dir" => options.dataDir.map fun _ => { options with dataDir := none }
  | "script_path" => options.scriptPath.map fun _ => { options with scriptPath := none }
  | "snapshot_path" => options.snapshotPath.map fun _ => { options with snapshotPath := none }
  | "save_script" => options.saveScript.map fun _ => { options with saveScript := none }
  | "tick_interval_ms" => options.tickMs.map fun _ => { options with tickMs := none }
  | "step_interval_ms" => options.intervalMs.map fun _ => { options with intervalMs := none }
  | "autoplay" => options.autoplay.map fun _ => { options with autoplay := none }
  | "complexity" => options.complexity.map fun _ => { options with complexity := none }
  | "features" => options.features.map fun _ => { options with features := none }
  | "prediction_seed" => options.seed.map fun _ => { options with seed := none }
  | name =>
    if options.others.contains name then some { options with others := options.others.erase name }
    else none

/-- Why something cannot be done in a session. -/
inductive SessionError where
  | simulator (failure : Failure)
  | file (error : FileError)
  /-- An option without a default is left out. -/
  | missingOption (name : String)
  /-- An option that cannot be left out is to be left out. -/
  | fixedOption (name : String)
  deriving DecidableEq, Repr

/-- The message shown for an error. -/
def SessionError.message : SessionError → String
  | .simulator failure => failure.message
  | .file error => error.message
  | .missingOption name => s!"'types.SimpleNamespace' object has no attribute '{name}'"
  | .fixedOption name => s!"cannot delete field '{name}'"

/-- A session. -/
structure Session where
  options : Options
  simulator : Simulator
  shuffler : Shuffler
  complexity : Complexity
  features : Features
  prediction : Prediction := {}

namespace Session

/-- A new game for the current script. -/
def deal (session : Session) : Session :=
  let (prediction, shuffler) := Prediction.deal session.simulator.program session.shuffler
  { session with prediction, shuffler }

/-- Starts over with a new script, or the same one, and a new game. If the script cannot be read,
the game stays. -/
def reset (session : Session) (source : Option String) (autoplay : Bool) :
    Except Failure Unit × Session × List Notice :=
  let outcome := session.simulator.reset source autoplay
  let session := { session with simulator := outcome.simulator }
  match outcome.result with
  | .error failure => (.error failure, session, outcome.notices)
  | .ok () => (.ok (), session.deal, outcome.notices)

/-- A setting that has to be there. -/
def required {α : Type} (name : String) : Option α → Except SessionError α
  | some a => .ok a
  | none => .error (.missingOption name)

/-- Creates directories that are missing. -/
def prepare (files : Tree) (path : Path) : Except SessionError Tree :=
  match files.makeDirectories path with
  | (files, .ok ()) => .ok files
  | (_, .error error) => .error (.file error)

/-- Creates the directories that the options name. -/
def prepareAll (files : Tree) (options : Options) : Except SessionError Tree := do
  let dataDir ← required "data_dir" options.dataDir
  let files ← prepare files dataDir
  let scriptPath ← required "script_path" options.scriptPath
  let files ← prepare files scriptPath.parent
  let snapshotPath ← required "snapshot_path" options.snapshotPath
  prepare files snapshotPath.parent

/-- The saved script, if the options name one that can be read. -/
def savedScript (files : Tree) (options : Options) : Except SessionError (Option String) :=
  match options.scriptPath with
  | none => .ok none
  | some path => (files.loadScript path).mapError .file

/-- The shuffler that the options ask for. -/
def seeded (options : Options) : Except QuantityError Shuffler :=
  match options.seed.join with
  | some seed => seed.seed.map fun seed => .ofSeed? (some seed)
  | none => .ok (.ofSeed? none)

/-- A session with a script: the given one, else the saved one, else a sample. -/
def start (options : Options) (source : Option String) (files : Tree) :
    Except SessionError (Session × Tree) := do
  let files ← prepareAll files options
  let complexity := Complexity.ofName (options.complexity.getD "simple")
  let features := options.features.getD fun _ => false
  let found ← match source with
    | some source => pure (some source)
    | none => savedScript files options
  let source := found.getD (Script.sample complexity features)
  let simulator ← (Simulator.create source (options.tickMs.getD (.whole 100))
    (options.intervalMs.getD (.whole 1000))).mapError .simulator
  let shuffler ← (seeded options).mapError (.simulator ∘ .quantity)
  let session : Session := { options, simulator, shuffler, complexity, features }
  match session.reset none (options.autoplay.getD false) with
  | (.ok (), session, _) => return (session, files)
  | (.error failure, _, _) => .error (.simulator failure)

end Session

end LoopStepper
