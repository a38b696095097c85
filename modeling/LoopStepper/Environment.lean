import LoopStepper.Files.Path
import LoopStepper.Text.Case
import LoopStepper.Text.Numeral

/-!
# Environment variables

How the value of a variable is read as a text, a flag, a whole number, a list of words or a path. A
variable that is not set gives a default, and so does, except for texts and flags, one that is set
to nothing but blanks.
-/

namespace LoopStepper

open Text

/-- The variables that are set. -/
structure Environment where
  bindings : List (String × String) := []
  /-- The directory that a tilde stands for. -/
  home : String := "/"
  /-- The directories of other users by name. -/
  homes : List (String × String) := []

/-- Why a path cannot be read: it starts in the directory of someone unknown. -/
inductive HomeError where
  | unknownHome
  deriving DecidableEq, Repr

/-- The message shown for a home that is not known. -/
def HomeError.message : HomeError → String
  | .unknownHome => "Could not determine home directory."

namespace Environment

/-- The homes in the table of users of one common system, as it is installed. Other systems have
other tables, so an environment keeps its own in `homes`, and only the program itself takes this
one. -/
def systemHomes : List (String × String) :=
  [("root", "/root"), ("daemon", "/usr/sbin"), ("bin", "/bin"), ("sys", "/dev"), ("sync", "/bin"),
   ("games", "/usr/games"), ("man", "/var/cache/man"), ("lp", "/var/spool/lpd"),
   ("mail", "/var/mail"), ("news", "/var/spool/news"), ("uucp", "/var/spool/uucp"),
   ("proxy", "/bin"), ("www-data", "/var/www"), ("backup", "/var/backups"), ("list", "/var/list"),
   ("irc", "/run/ircd"), ("_apt", "/nonexistent"), ("nobody", "/nonexistent")]

/-- The value of a variable. -/
def get? (env : Environment) (name : String) : Option String :=
  env.bindings.lookup name

/-- The value of a variable that holds more than blanks. -/
def filled? (env : Environment) (name : String) : Option String :=
  (env.get? name).filter fun value => !(strip value.toList).isEmpty

/-- The value as it is. -/
def text (env : Environment) (name default : String) : String :=
  (env.get? name).getD default

/-- The words that mean yes. -/
def affirmations : List String :=
  ["1", "true", "yes", "y", "on"]

/-- Whether the value is one of the words that mean yes, in any case and between blanks. -/
def flag (env : Environment) (name : String) (default : Bool) : Bool :=
  match env.get? name with
  | none => default
  | some value => affirmations.contains (String.ofList (lower (strip value.toList)))

/-- The value as a whole number, if it is one. -/
def whole? (env : Environment) (name : String) : Option Int :=
  (env.filled? name).bind fun value => (readInt value.toList).toOption

/-- The value as a whole number, or the default if it is none. -/
def whole (env : Environment) (name : String) (default : Int) : Int :=
  (env.whole? name).getD default

/-- The words of the value, between blanks and commas. -/
def list (env : Environment) (name : String) (default : List String) : List String :=
  match env.filled? name with
  | none => default
  | some value =>
    (words (value.toList.map fun c => if c = ',' then ' ' else c)).map String.ofList

/-- A directory without slashes at its end; the root is one slash. -/
def trimmed (directory : String) : String :=
  let cs := (directory.toList.reverse.dropWhile (· = '/')).reverse
  if cs.isEmpty then "/" else String.ofList cs

/-- The directory that a first part with a tilde stands for. One that starts with a tilde itself is
not known. -/
def homeOf? (env : Environment) (part : String) : Option String :=
  let home := if part == "~" then some env.home
    else env.homes.lookup (String.ofList part.toList.tail)
  (home.map trimmed).filter fun directory => directory.toList.head? ≠ some '~'

/-- A path with a leading tilde replaced by the directory it stands for. -/
def expand (env : Environment) (path : Path) : Except HomeError Path :=
  match path.root, path.parts with
  | "", first :: rest =>
    if first.toList.head? = some '~' then
      match env.homeOf? first with
      | some home =>
        let home := Path.ofString home
        .ok { home with parts := home.parts ++ rest }
      | none => .error .unknownHome
    else .ok path
  | _, _ => .ok path

/-- The value as a path. -/
def path (env : Environment) (name : String) (default : Path) : Except HomeError Path :=
  match env.filled? name with
  | none => .ok default
  | some value => env.expand (Path.ofString value)

end Environment

end LoopStepper
