import LoopStepper.Datum
import LoopStepper.Text.Case

/-!
# Features of sample scripts

A sample script is chosen by its complexity and by six features that are on or off. Features have a
name, under which the user knows them, and a label, which says what they put into the script.
-/

namespace LoopStepper

/-- A feature of sample scripts. -/
inductive Feature where
  | log
  | timeout
  | promise
  | microtask
  | nextTick
  | setImmediate
  deriving DecidableEq, Repr

namespace Feature

/-- All features in the order in which they are listed. -/
def all : List Feature :=
  [.log, .timeout, .promise, .microtask, .nextTick, .setImmediate]

/-- The name of a feature. -/
def name : Feature → String
  | .log => "log"
  | .timeout => "timeout"
  | .promise => "promise"
  | .microtask => "microtask"
  | .nextTick => "nextTick"
  | .setImmediate => "setImmediate"

/-- What a feature puts into a script. -/
def label : Feature → String
  | .log => "Log"
  | .timeout => "setTimeout"
  | .promise => "Promise"
  | .microtask => "queueMicrotask"
  | .nextTick => "process.nextTick"
  | .setImmediate => "setImmediate"

/-- The feature with a name, in any case. -/
def ofName? (name : String) : Option Feature :=
  all.find? fun feature => Text.lowerString feature.name == Text.lowerString name

end Feature

/-- Which features are on. -/
abbrev Features := Feature → Bool

namespace Features

/-- The features a sample has if nothing is said: messages, timeouts and promises. -/
def initial : Features
  | .log | .timeout | .promise => true
  | .microtask | .nextTick | .setImmediate => false

/-- The features with one of them set. -/
def set (features : Features) (feature : Feature) (on : Bool) : Features :=
  fun other => if other = feature then on else features other

/-- Features from named flags. A feature that is not named is off, and other names are ignored; of
two flags with one name the last counts. -/
def ofFlags (flags : List (String × Bool)) : Features :=
  fun feature => (flags.reverse.lookup feature.name).getD false

/-- Features from a record of values that count as yes or no; what counts as no itself has none. -/
def ofDatum : Datum → Except ShapeError Features
  | .record fields => .ok (ofFlags (fields.map fun (name, value) => (name, value.isTrue)))
  | value => if value.isTrue then .error (.noFields value.kind) else .ok (ofFlags [])

/-- The labels of the features that are on. -/
def labels (features : Features) : List String :=
  (Feature.all.filter features).map Feature.label

end Features

/-- How sample scripts are built: callbacks side by side, or callbacks in callbacks. -/
inductive Complexity where
  | simple
  | complex
  deriving DecidableEq, Repr

namespace Complexity

/-- The name of a complexity. -/
def label : Complexity → String
  | .simple => "simple"
  | .complex => "complex"

/-- The complexity with a name, in any case. -/
def ofName? (name : String) : Option Complexity :=
  [.simple, .complex].find? fun complexity => complexity.label == Text.lowerString name

/-- The complexity with a name; `simple` if there is none. -/
def ofName (name : String) : Complexity :=
  (ofName? name).getD .simple

end Complexity

end LoopStepper
