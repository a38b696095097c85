import LoopStepper.Datum.Json
import LoopStepper.Session.Basic
import LoopStepper.Session.Echo

/-!
# The bench

A session with what lies around it: the files, and what was said to the user so far. Everything a
command does is an action on a bench. An action that fails keeps what it has done until then.
-/

namespace LoopStepper

/-- Something said to the user. -/
inductive Utterance where
  /-- What a command says while it works. -/
  | note (text : String)
  /-- What the echo prints. -/
  | echo (text : String)
  /-- What is said by the console itself. -/
  | line (text : String)
  /-- A prompt, with the rest of its line open. -/
  | prompt (text : String)
  /-- The end of a line on which a prompt got no answer. -/
  | newline
  deriving DecidableEq, Repr

/-- A session, the files around it, and what was said, last first. -/
structure Bench where
  session : Session
  files : Tree := {}
  echo : Echo := {}
  said : List Utterance := []

/-- An action on a bench. -/
abbrev Act := EStateM SessionError Bench

namespace Bench

/-- Says something. -/
def say (utterance : Utterance) : Act Unit :=
  modify fun bench => { bench with said := utterance :: bench.said }

/-- The bench after notices were delivered: what the echo prints is said. -/
def deliver (bench : Bench) (notices : List Notice) : Bench :=
  let silent := { bench.echo with printed := [] }
  let echo := (Echo.audience bench.session.prediction).deliverAll silent notices
  { bench with echo, said := echo.printed.map .echo ++ bench.said }

/-- An operation of the simulator. -/
def operate {α : Type} (operation : Simulator → Outcome α) : Act α := fun bench =>
  let outcome := operation bench.session.simulator
  let bench := { bench with session := { bench.session with simulator := outcome.simulator } }
  match outcome.result with
  | .ok a => .ok a (bench.deliver outcome.notices)
  | .error failure => .error (.simulator failure) (bench.deliver outcome.notices)

/-- The simulator as it is. -/
def simulator : Act Simulator := do
  return (← get).session.simulator

/-- Changes the session. -/
def modifySession (change : Session → Session) : Act Unit :=
  modify fun bench => { bench with session := change bench.session }

/-- Starts over with a new script, or the same one, and a new game. -/
def reset (source : Option String) (autoplay : Bool) : Act Unit := fun bench =>
  let (result, session, notices) := bench.session.reset source autoplay
  let heard := bench.deliver notices
  match result with
  | .ok () => .ok () { heard with session }
  | .error failure => .error (.simulator failure) { heard with session }

/-- A result in which a number may have too many digits to be shown. -/
def written {α : Type} : Except Text.NumeralError α → Act α
  | .ok a => pure a
  | .error error => throw (.simulator (.numeral error))

/-- Tries an action; says whether it succeeded. -/
def attempt (action : Act Unit) : Act Bool := fun bench =>
  match action bench with
  | .ok () bench => .ok true bench
  | .error _ bench => .ok false bench

/-! ## Files -/

/-- The script in a file. The empty text names no file. -/
def loadScript (path : String) : Act (Option String) := fun bench =>
  if path.isEmpty then .ok none bench
  else
    match bench.files.loadScript (Path.ofString path) with
    | .ok text => .ok text bench
    | .error error => .error (.file error) bench

/-- Writes a text to a file, if one is named; gives its path if the file holds the text now. -/
def saveText (target : Option Path) (text : String) : Act (Option Path) := fun bench =>
  match target with
  | none => .ok none bench
  | some path =>
    let (files, saved) := bench.files.saveText path text
    .ok (if saved then some path else none) { bench with files }

/-- The path that a text names; the empty text names none. -/
def named (path : String) : Option Path :=
  if path.isEmpty then none else some (Path.ofString path)

/-- Saves the script to a path. -/
def saveScriptTo (target : Option Path) : Act (Option Path) := do
  saveText target (← simulator).source

/-- Saves the script where the options say, if they say that it is saved. -/
def saveScript : Act (Option Path) := do
  let options := (← get).session.options
  if options.saveScript.getD false then saveScriptTo options.scriptPath else return none

/-- Saves a snapshot to a path, or where the options say. A snapshot that cannot be taken or
written down is not saved. -/
def saveSnapshot (path : Option Path) : Act (Option Path) := do
  let options := (← get).session.options
  match path.or options.snapshotPath with
  | none => return none
  | some path => fun bench =>
    let snapshot : Act String := do
      let loop ← operate Simulator.view
      written loop.snapshot.json
    match snapshot bench with
    | .error _ bench => .ok none bench
    | .ok text bench => saveText (some path) text bench

/-- Ends a session: the automatic run is turned off and the script saved, as far as possible. -/
def shutdown : Act Unit := do
  let _ ← attempt (operate Simulator.pause)
  let _ ← saveScript

end Bench

end LoopStepper
