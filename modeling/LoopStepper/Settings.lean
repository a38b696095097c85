import LoopStepper.Datum
import LoopStepper.Environment
import LoopStepper.Script.Feature

/-!
# Settings

What the program is told before it starts: by environment variables, all with defaults, and by a
few local overrides of any shape that go before them.
-/

namespace LoopStepper

/-- The settings of a run of the program. -/
structure Settings where
  appName : String
  logLevel : String
  consoleEnabled : Bool
  autoplay : Bool
  tickIntervalMs : Int
  stepIntervalMs : Int
  complexity : String
  features : Features
  predictionSeed : Option Int
  saveScript : Bool
  dataDir : Path
  scriptPath : Path
  snapshotPath : Path

namespace Settings

/-- The name of the variable for a setting. -/
def key (suffix : String) : String :=
  "ELAB_" ++ suffix

/-- A text, or another one in place of the empty text. -/
def orElse (text default : String) : String :=
  if text.isEmpty then default else text

/-- The features whose names are in a list, in any case. -/
def enabled (names : List String) : Features := fun feature =>
  (names.map Text.lowerString).contains (Text.lowerString feature.name)

/-- The settings that the environment gives. -/
def ofEnvironment (env : Environment) : Except HomeError Settings := do
  let complexity := Text.lower (Text.strip (env.text (key "COMPLEXITY") "simple").toList)
  let dataDir ← env.path (key "DATA_DIR") (Path.ofString ".local/event-loop-lab")
  let scriptPath ← env.path (key "SCRIPT_PATH") (dataDir.child "script.js")
  let snapshotPath ← env.path (key "SNAPSHOT_PATH") (dataDir.child "snapshot.json")
  return {
    appName := orElse (env.text (key "APP_NAME") "event-loop-lab") "event-loop-lab"
    logLevel := env.text (key "LOG_LEVEL") "INFO"
    consoleEnabled := env.flag (key "CONSOLE_ENABLED") true
    autoplay := env.flag (key "AUTOPLAY") false
    tickIntervalMs := max 1 (env.whole (key "TICK_INTERVAL_MS") 100)
    stepIntervalMs := env.whole (key "STEP_INTERVAL_MS") 1000
    complexity := orElse (String.ofList complexity) "simple"
    features := enabled (env.list (key "FEATURES") ["log", "timeout", "promise"])
    predictionSeed := env.whole? (key "PREDICTION_SEED")
    saveScript := env.flag (key "SAVE_SCRIPT") true
    dataDir, scriptPath, snapshotPath }

/-- The settings with the three overrides that count; overrides of other names are ignored. -/
def override (settings : Settings) (overrides : List (String × Datum)) :
    Except QuantityError Settings := do
  let interval ← match overrides.lookup "STEP_INTERVAL_MS" with
    | some value => value.quantity.toInt
    | none => pure settings.stepIntervalMs
  return { settings with
    consoleEnabled := ((overrides.lookup "CONSOLE_ENABLED").map (·.isTrue)).getD
      settings.consoleEnabled
    autoplay := ((overrides.lookup "AUTOPLAY").map (·.isTrue)).getD settings.autoplay
    stepIntervalMs := interval }

end Settings

end LoopStepper
