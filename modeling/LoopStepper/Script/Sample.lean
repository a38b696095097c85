import LoopStepper.Script.Feature
import LoopStepper.Script.Line

/-!
# Sample scripts

Small scripts for a complexity and a set of features. A simple sample has one callback for each
feature; a complex one has callbacks inside callbacks. With messages on, a script starts and ends
with a message; without them the bodies hold a comment instead.
-/

namespace LoopStepper.Script

/-- The line in a body: a message, or a comment if messages are off. -/
def bodyLine (indent : String) (features : Features) (message : String) : String :=
  if features .log then s!"{indent}console.log('{message}');" else s!"{indent}// code"

/-- What closes a callback behind its brace. -/
def Callback.ending : Callback → String
  | .timeout => ", 0);"
  | _ => ");"

/-- A callback with the given body, which may be several lines or empty. -/
def Callback.block (callback : Callback) (indent body : String) : String :=
  indent ++ callback.opening ++ "(() => \x7b\n" ++ body ++ "\n" ++ indent ++ "\x7d" ++
    callback.ending

/-- The callback that a feature stands for, and its message in a simple sample. -/
def simpleBlocks : List (Feature × Callback × String) :=
  [(.nextTick, .nextTick, "Next Tick"), (.promise, .promise, "Promise"),
   (.microtask, .microtask, "Microtask"), (.timeout, .timeout, "Timeout"),
   (.setImmediate, .immediate, "Immediate")]

/-- The callbacks of a simple sample. -/
def simpleParts (features : Features) : List String :=
  simpleBlocks.filterMap fun (feature, callback, message) =>
    if features feature then some (callback.block "" (bodyLine "  " features message)) else none

/-- A callback inside another one, if its feature is on. -/
def nested (features : Features) (feature : Feature) (callback : Callback) (message : String) :
    String :=
  if features feature then callback.block "  " (bodyLine "    " features message) else ""

/-- The first line of an outer body, if messages are on. -/
def heading (features : Features) (message : String) : String :=
  if features .log then s!"  console.log('{message}');\n" else ""

/-- The body of the timeout in a complex sample. -/
def timeoutBody (features : Features) : String :=
  heading features "Timeout 1" ++
    nested features .promise .promise "Promise inside Timeout" ++
    (if features .nextTick then
      "\n" ++ nested features .nextTick .nextTick "Next Tick inside Timeout" else "")

/-- The callbacks of a complex sample. -/
def complexParts (features : Features) : List String :=
  let blocks : List (Feature × Callback × String) :=
    [(.timeout, .timeout, timeoutBody features),
     (.promise, .promise, heading features "Promise 1" ++
       nested features .timeout .timeout "Timeout inside Promise"),
     (.setImmediate, .immediate, heading features "Immediate 1" ++
       nested features .microtask .microtask "Microtask inside Immediate")]
  blocks.filterMap fun (feature, callback, body) =>
    if features feature then some (callback.block "" body) else none

/-- The sample script for a complexity and features; an empty line stands between its parts. -/
def sample (complexity : Complexity) (features : Features) : String :=
  let parts := match complexity with
    | .simple => simpleParts features
    | .complex => complexParts features
  let edge (message : String) := if features .log then [s!"console.log('{message}');"] else []
  "\n\n".intercalate (edge "Start" ++ parts ++ edge "End")

end LoopStepper.Script
