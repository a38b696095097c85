import LoopStepper.Console
import LoopStepper.EventLoop.Bound
import LoopStepper.Journal
import LoopStepper.Simulator.Vigil

/-!
# The program

From the environment and the files to a session, and from there either to a dialogue or, with the
console disabled, to an automatic run of the whole script. At the end the script is saved.
-/

namespace LoopStepper

/-- Why the program does not start. -/
inductive AppError where
  | home (error : HomeError)
  | session (error : SessionError)
  /-- The settings name something that is no level of the journal. -/
  | level (error : JournalError)
  deriving DecidableEq, Repr

/-- The message shown for an error. -/
def AppError.message : AppError → String
  | .home error => error.message
  | .session error => error.message
  | .level error => error.message

namespace App

/-- The bench that the settings give. The journal begins first, in the data directory. -/
def open? (settings : Settings) (files : Tree) : Except AppError Bench := do
  let files ← (Session.prepare files settings.dataDir).mapError .session
  let _ ← (LogRecord.levelNamed settings.logLevel).mapError .level
  let files ← (Journal.begin settings.dataDir files).mapError (.session ∘ .file)
  let (session, files) ← (Session.start (.ofSettings settings) none files).mapError .session
  return { session, files }

/-- The script run to its end without a dialogue: the main thread waits for that, and the background
loops make their rounds. -/
def runThrough (sim : Simulator) : Simulator :=
  let waiting := Vigil.run { simulator := sim } (List.replicate 4 .main)
  (waiting.rounds (enoughRounds sim.tickMs.toNat sim.program)).simulator

/-- The program without a dialogue: what it prints is the output of the script. -/
def headless : Act String := do
  Bench.modifySession fun session => { session with simulator := runThrough session.simulator }
  return "\n".intercalate (← Bench.simulator).loop.output ++ "\n"

/-- The program with a dialogue. -/
def dialogue (inputs : List Input) (stamp : String) : Act String := do
  Console.run inputs
  return Console.transcript stamp (← get)

/-- The whole program: what it prints, and the files it leaves. -/
def run (env : Environment) (inputs : List Input) (stamp : String) (files : Tree) :
    Except AppError (String × Tree) := do
  let settings ← (Settings.ofEnvironment env).mapError .home
  let bench ← open? settings files
  let program := if settings.consoleEnabled then dialogue inputs stamp else headless
  let whole : Act String := do
    let printed ← program
    Bench.shutdown
    return printed
  match whole bench with
  | .ok printed bench => return (printed, bench.files)
  | .error error _ => .error (.session error)

end App

end LoopStepper
