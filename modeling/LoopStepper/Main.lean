import LoopStepper.App
import LoopStepper.Journal
import LoopStepper.Simulator.Background
import Std.Time.Format

/-!
# The command line

The program on a terminal. Everything it decides is decided by the library; what is left here is to
read variables, lines and files, to show what is said, to write the files that changed, and to
sleep. The bench is shared between the dialogue and the two background loops, each of which changes
it in one piece.
-/

namespace LoopStepper.Terminal

/-! ## The surroundings -/

/-- The variables that settings are read from, without what their names begin with. -/
def suffixes : List String :=
  ["APP_NAME", "LOG_LEVEL", "CONSOLE_ENABLED", "AUTOPLAY", "TICK_INTERVAL_MS",
   "STEP_INTERVAL_MS", "COMPLEXITY", "FEATURES", "PREDICTION_SEED", "SAVE_SCRIPT", "DATA_DIR",
   "SCRIPT_PATH", "SNAPSHOT_PATH"]

/-- The environment the program runs in. -/
def environment : IO Environment := do
  let found ← (suffixes.map Settings.key).filterMapM fun name => do
    return (← IO.getEnv name).map fun value => (name, value)
  return { bindings := found, home := (← IO.getEnv "HOME").getD "/",
           homes := Environment.systemHomes }

/-- The time of day. -/
def timeStamp : IO String := do
  return (← Std.Time.PlainDateTime.now).format "uuuu-MM-dd HH:mm:ss"

/-- Shows something that was said. -/
def display (utterance : Utterance) : IO Unit := do
  let out ← IO.getStdout
  out.putStr (Console.Utterance.render (← timeStamp) utterance)
  out.flush

/-! ## Files -/

/-- What is on the disk under a name: only a directory can be opened and not be read. -/
def entryAt (name : String) : IO (Option Entry) := do
  match ← (IO.FS.Handle.mk name .read).toBaseIO with
  | .error _ => return none
  | .ok handle =>
    match ← handle.readBinToEnd.toBaseIO with
    | .ok bytes => return some (.file bytes)
    | .error _ => return some .directory

/-- A tree with what the disk has at a path and on the way there. -/
def refresh (tree : Tree) (path : Path) : IO Tree := do
  let places := (List.range path.parts.length).map fun n =>
    Path.place { path with parts := path.parts.take (n + 1) }
  places.foldlM (fun tree place => do
    if place.isFixed then return tree
    match ← entryAt place.text with
    | some entry => return tree.set place entry
    | none => return tree.remove place) tree

/-- Brings one place of the disk to what a tree has there. A file is replaced as a whole. -/
def storeEntry (old : Option Entry) (name : String) : Entry → IO Unit
  | .directory => IO.FS.createDirAll name
  | .file bytes => do
    let unchanged := match old with
      | some (.file known) => known == bytes
      | _ => false
    unless unchanged do
      IO.FS.writeBinFile (name ++ ".part") bytes
      IO.FS.rename (name ++ ".part") name

/-- Brings the disk from one tree to another. -/
def store (before after : Tree) : IO Unit := do
  for (place, entry) in after.entries do
    storeEntry (before.get? place) place.text entry
  for (place, _) in before.entries do
    if (after.get? place).isNone then IO.FS.removeFile place.text

/-! ## The shared bench -/

/-- Does something on the shared bench, shows what is said, and stores the files that changed. -/
def act {α : Type} (shared : IO.Ref Bench) (action : Act α) : IO (Except SessionError α) := do
  let (answer, before, after) ← shared.modifyGet fun bench =>
    match action { bench with said := [] } with
    | .ok a after => ((.ok a, bench.files, after), after)
    | .error error after => ((.error error, bench.files, after), after)
  after.said.reverse.forM display
  store before after.files
  return answer

/-- Looks at the disk again for the paths that a line may speak of. -/
def look (shared : IO.Ref Bench) (paths : List Path) : IO Unit := do
  let files ← paths.foldlM refresh (← shared.get).files
  shared.modify fun bench => { bench with files }

/-- Sleeps for so many milliseconds, or until the program is about to end. -/
partial def sleep (ending : IO.Ref Bool) (ms : Nat) : IO Unit := do
  if ms = 0 || (← ending.get) then return
  let slice := min ms 20
  IO.sleep slice.toUInt32
  sleep ending (ms - slice)

/-- Follows a background loop until the program is about to end. -/
partial def follow (shared : IO.Ref Bench) (ending : IO.Ref Bool) (pacer : Pacer) : IO Unit := do
  let plan := pacer (← Bench.session <$> shared.get).simulator
  sleep ending (plan.seconds * 1000.0).toUInt64.toNat
  if ← ending.get then return
  let _ ← act shared (Bench.operate plan.wake)
  follow shared ending pacer

/-- The background loops of a simulator. -/
def pacers (sim : Simulator) : Except QuantityError (List Pacer) := do
  let clock ← (clockInterval sim .nothing).bind clockLoop
  let poll ← pollSeconds (.whole 50)
  return [clock, autoplayLoop poll]

/-! ## The program -/

/-- A line of the input, unless the input has ended. -/
def readInput : IO Input := do
  let line ← (← IO.getStdin).getLine
  if line.isEmpty then return .endOfInput
  return .line (String.ofList (line.toList.filter (· ≠ '\n')))

/-- The paths that an input may speak of. -/
def pathsOf : Input → List Path
  | .line text => (Text.words text.toList).map fun word => Path.ofString (String.ofList word)
  | _ => []

/-- Goes on with a dialogue until it is closed. -/
partial def converse (shared : IO.Ref Bench) (dialogue : Dialogue) : IO Unit := do
  match Console.prompt? dialogue with
  | none => return
  | some prompt =>
    display (.prompt prompt)
    let input ← readInput
    look shared (pathsOf input)
    match ← act shared (Console.react dialogue input) with
    | .ok next => converse shared next
    | .error error => throw (IO.userError error.message)

/-- A dialogue with the background loops at work. -/
def dialogue (shared : IO.Ref Bench) : IO Unit := do
  let ending ← IO.mkRef false
  let loops ← IO.ofExcept ((pacers (← shared.get).session.simulator).mapError (·.message))
  let tasks ← loops.mapM fun pacer => (follow shared ending pacer).asTask .dedicated
  match ← act shared Console.begin with
  | .ok opening => converse shared opening
  | .error error => throw (IO.userError error.message)
  let _ ← act shared Console.finish
  ending.set true
  for task in tasks do
    IO.ofExcept task.get

/-- Writes down that something happened, for both readers of the journal. -/
def record (setup : Journal.Setup) (message : String) : IO Unit := do
  let entry : LogRecord := { name := Journal.program ++ "main", level := Journal.info, message }
  let row := (← timeStamp) ++ " " ++ entry.text ++ "\n"
  if setup.onConsole entry then (← IO.getStderr).putStr row
  if setup.inFile entry then
    let file := (setup.directory.child Journal.fileName).toString
    (← IO.FS.Handle.mk file .append).putStr row

/-- The whole program, from settings that could be read. -/
def program (settings : Settings) : IO Unit := do
  let paths := [settings.dataDir.child Journal.fileName, settings.scriptPath, settings.snapshotPath]
  let files ← paths.foldlM refresh {}
  let bench ← IO.ofExcept ((App.open? settings files).mapError (·.message))
  store files bench.files
  let consoleLevel ← IO.ofExcept ((LogRecord.levelNamed settings.logLevel).mapError (·.message))
  let setup : Journal.Setup := { directory := settings.dataDir, consoleLevel }
  record setup s!"Starting {settings.appName}..."
  let shared ← IO.mkRef bench
  if settings.consoleEnabled then dialogue shared
  else
    match ← act shared App.headless with
    | .ok printed => (← IO.getStdout).putStr printed
    | .error error => throw (IO.userError error.message)
  let _ ← act shared Bench.shutdown
  record setup "Bye."

end LoopStepper.Terminal

/-- Runs the program with the settings of its environment. -/
def main : IO Unit := do
  let settings := LoopStepper.Settings.ofEnvironment (← LoopStepper.Terminal.environment)
  LoopStepper.Terminal.program (← IO.ofExcept (settings.mapError (·.message)))
