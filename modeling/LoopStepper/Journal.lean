import LoopStepper.Datum
import LoopStepper.Files.Tree
import LoopStepper.Text.Case

/-!
# The journal

Records of what the program does, for two readers. The file gets everything from its level on. The
console gets what a user wants to see: no chatter of the simulation's core below a warning, and
from outside the program only errors.
-/

namespace LoopStepper

/-- One record: who writes it, how grave it is, and what it says. -/
structure LogRecord where
  name : String
  level : Int
  message : String
  deriving DecidableEq, Repr

/-- Why something is not put down in the journal. -/
inductive JournalError where
  | unknown (word : String)
  /-- Something that is neither a number nor a word, by its literal. -/
  | noLevel (literal : String)
  /-- A literal has too many digits. -/
  | numeral (error : Text.NumeralError)
  /-- A record has something for its level that is no whole number. -/
  | notWhole
  /-- The name of a writer is no text. -/
  | noName
  deriving DecidableEq, Repr

/-- The message shown for something that is not put down. -/
def JournalError.message : JournalError → String
  | .unknown word => "Unknown level: " ++ Text.quotedString word
  | .noLevel literal => "Level not an integer or a valid string: " ++ literal
  | .numeral error => error.message
  | .notWhole => "level must be an integer"
  | .noName => "A logger name must be a string"

namespace LogRecord

/-- The word for a level. -/
def levelName (level : Int) : String :=
  if level = 10 then "DEBUG"
  else if level = 20 then "INFO"
  else if level = 30 then "WARNING"
  else if level = 40 then "ERROR"
  else if level = 50 then "CRITICAL"
  else s!"Level {level}"

/-- The words for levels. -/
def levels : List (String × Int) :=
  [("NOTSET", 0), ("DEBUG", 10), ("INFO", 20), ("WARN", 30), ("WARNING", 30), ("ERROR", 40),
   ("FATAL", 50), ("CRITICAL", 50)]

/-- The level that a value stands for: a whole number, or one of the words for levels. -/
def levelOf : Datum → Except JournalError Int
  | .flag b => .ok (if b then 1 else 0)
  | .whole n => .ok n
  | .text word =>
    match levels.lookup word with
    | some level => .ok level
    | none => .error (.unknown word)
  | value =>
    match value.literal with
    | .ok literal => .error (.noLevel literal)
    | .error error => .error (.numeral error)

/-- The level that a record is given. The word for a large one has to be written. -/
def ownLevel : Datum → Except JournalError Int
  | .flag b => .ok (if b then 1 else 0)
  | .whole n =>
    if n < 0 then .ok n else ((Text.writeInt n).map fun _ => n).mapError .numeral
  | _ => .error .notWhole

/-- A record from its parts. What counts as no name is the root's, and any message has a display. -/
def ofParts (name level message : Datum) : Except JournalError LogRecord := do
  let name ← match name with
    | .text name => pure name
    | name => if name.isTrue then throw .noName else pure ""
  let level ← ownLevel level
  let message := (message.display.toOption).getD ""
  return { name, level, message }

/-- The form of a row, which settings can name but not use as a level. -/
def rowForm : String := "%(levelname)s:%(name)s:%(message)s"

/-- The table of all forms of rows, which settings can name but not use as a level either. -/
def formTable : String :=
  "\x7b'%': (<class 'logging.PercentStyle'>, '%(levelname)s:%(name)s:%(message)s'), " ++
    "'\x7b': (<class 'logging.StrFormatStyle'>, " ++
    "'\x7blevelname\x7d:\x7bname\x7d:\x7bmessage\x7d'), " ++
    "'$': (<class 'logging.StringTemplateStyle'>, " ++
    "'$\x7blevelname\x7d:$\x7bname\x7d:$\x7bmessage\x7d')\x7d"

/-- The level that settings name, in any case; other words stand for what is worth knowing. -/
def levelNamed (word : String) : Except JournalError Int :=
  let word := Text.capitals word
  if word == "BASIC_FORMAT" then .error (.unknown rowForm)
  else if word == "_STYLES" then .error (.noLevel formTable)
  else .ok ((levels.lookup word).getD 20)

/-- The name under which a record is shown; one without a name comes from the root. -/
def writer (record : LogRecord) : String :=
  if record.name.isEmpty then "root" else record.name

/-- The text of a record, behind its time stamp. -/
def text (record : LogRecord) : String :=
  s!"{levelName record.level} {record.writer}: {record.message}"

end LogRecord

namespace Journal

/-- The level from which on anything is recorded. -/
def debug : Int := 10

/-- The level of what is worth knowing. -/
def info : Int := 20

/-- The level of a warning. -/
def warning : Int := 30

/-- The level of an error. -/
def error : Int := 40

/-- What the names of all writers in the program start with. -/
def program : String := "event_loop_lab."

/-- The writers that record every single step. -/
def chatty : List String :=
  ["event_loop_lab.simulation.engine", "event_loop_lab.simulation.parser",
   "event_loop_lab.simulation.timers"]

/-- The level from which on a writer is for the console; none if all its records are. -/
def threshold? (name : String) : Option Int :=
  if program.toList.isPrefixOf name.toList then
    if chatty.any (·.toList.isPrefixOf name.toList) then some warning else none
  else some error

/-- Whether a record is for the console at all. -/
def forConsole (name : String) (level : Int) : Bool :=
  (threshold? name).all (· ≤ level)

/-- Whether a record with a name and a level of any shape is for the console. The word for the level
is looked up before the name is looked at. -/
def passes (name level : Datum) : Except ShapeError Bool := do
  if level matches .list _ | .record _ then throw (.noKey level.kind)
  let _ ← level.display
  match name with
  | .text name =>
    match threshold? name with
    | some least => level.reaches least
    | none => return true
  | name => throw (.noStart name.kind)

/-- The name of the journal's file. -/
def fileName : String := "event-loop-lab.log"

/-- Where the journal goes and from which levels on. -/
structure Setup where
  directory : Path
  consoleLevel : Int := info
  fileLevel : Int := debug

/-- The number of readers once the journal was set up, however often. -/
def readers (setups : Nat) : Nat :=
  if setups = 0 then 0 else 2

/-- Whether a record appears on the console. -/
def Setup.onConsole (setup : Setup) (record : LogRecord) : Bool :=
  debug ≤ record.level && setup.consoleLevel ≤ record.level &&
    forConsole record.name record.level

/-- Whether a record appears in the file. -/
def Setup.inFile (setup : Setup) (record : LogRecord) : Bool :=
  debug ≤ record.level && setup.fileLevel ≤ record.level

/-- Records as text, one after the other. -/
def textOf (records : List LogRecord) : String :=
  String.join (records.map fun record => record.text ++ "\n")

/-- What the console shows of some records. -/
def Setup.console (setup : Setup) (records : List LogRecord) : String :=
  textOf (records.filter setup.onConsole)

/-- What the console shows without a journal: what warnings and errors say. -/
def unread (records : List LogRecord) : String :=
  String.join ((records.filter fun record => warning ≤ record.level).map fun record =>
    record.message ++ "\n")

/-- The files with the given lines in a file, as far as there was room for them. -/
def put (file : Path) (lines : String) (files : Tree) : Except FileError Tree :=
  match files.write file (some lines.toUTF8) with
  | (_, .error (.file error)) => .error error
  | (files, _) => .ok files

/-- The files with the journal's file, which is empty if it was not there. -/
def begin (directory : Path) (files : Tree) : Except FileError Tree :=
  let file := directory.child fileName
  match files.read file with
  | .ok _ => .ok files
  | .error _ => put file "" files

/-- The files after the records were written; the journal's directory is created. -/
def Setup.write (setup : Setup) (records : List LogRecord) (files : Tree) :
    Except FileError Tree := do
  match files.makeDirectories setup.directory with
  | (_, .error error) => .error error
  | (files, .ok ()) =>
    put (setup.directory.child fileName) (textOf (records.filter setup.inFile)) files

end Journal

end LoopStepper
