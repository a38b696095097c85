import LoopStepper.Command.Builtin

/-!
# The console

A dialogue: after each prompt the user gives a line, breaks in, or ends the input. The console is
at the command prompt, or collects the lines of a script up to one that holds a single dot, or is
closed. It is a fold over the inputs, in which a command that fails only changes the reply.
-/

namespace LoopStepper

open Text

/-- What the user gives at a prompt. -/
inductive Input where
  | line (text : String)
  | interrupt
  | endOfInput
  deriving DecidableEq, Repr

/-- Where the dialogue stands. -/
inductive Dialogue where
  | commanding
  /-- The lines of a script so far, last first. -/
  | editing (lines : List String)
  | closed
  deriving DecidableEq, Repr

namespace Console

/-- The prompt at which the user is asked, unless the dialogue is over. -/
def prompt? : Dialogue → Option String
  | .commanding => some ">>> "
  | .editing _ => some "... "
  | .closed => none

/-- A string without the blanks at its ends. -/
def stripped (text : String) : String :=
  String.ofList (strip text.toList)

/-- The words that end the dialogue, in any case. -/
def exitWords : List String :=
  ["/exit", "/quit"]

/-- Handles a command line and says the reply. -/
def command (line : String) : Act Unit := fun bench =>
  match Command.handle line true bench with
  | .ok (some reply) bench => Bench.say (.line reply) bench
  | .ok none bench =>
    Bench.say (.line
      "Not a command. Use /help to list commands or /edit to enter a script.") bench
  | .error _ bench => Bench.say (.line "Internal error while handling a command.") bench

/-- Takes over the script that was entered. -/
def accept (source : String) : Act Unit := do
  if ← Bench.attempt (Bench.reset (some source) false) then
    Bench.say (.line ("Script loaded.\n" ++ Report.listing source none))
  else Bench.say (.line "Internal error while loading the script.")

/-- A line at the command prompt. -/
def obey (line : String) : Act Dialogue := do
  if line.isEmpty then return .commanding
  else if exitWords.contains (lowerString line) then return .closed
  else if lowerString line = "/edit" then
    Bench.say (.line "Enter the script. Finish with a line containing only '.'")
    return .editing []
  else
    command line
    return .commanding

/-- What comes of one input. -/
def react : Dialogue → Input → Act Dialogue
  | .closed, _ => return .closed
  | .commanding, .line text => obey (stripped text)
  | .commanding, .interrupt => do
    Bench.say .newline
    return .closed
  | .commanding, .endOfInput => return .closed
  | .editing lines, .line text => do
    if stripped text = "." then
      accept ("\n".intercalate lines.reverse)
      return .commanding
    else return .editing (text :: lines)
  | .editing _, _ => do
    Bench.say .newline
    Bench.say (.line "Edit cancelled.")
    return .commanding

/-- Asks for one input and reacts to it; a closed dialogue asks no more. -/
def exchange (dialogue : Dialogue) (input : Input) : Act Dialogue := do
  match prompt? dialogue with
  | none => return dialogue
  | some prompt =>
    Bench.say (.prompt prompt)
    react dialogue input

/-- What the console says first. -/
def greeting : String :=
  "[CONSOLE] Use /help for commands, /edit to type a script, /exit to quit.\n"

/-- The dialogue begins: the echo listens from now on. -/
def begin : Act Dialogue := do
  Bench.say (.line greeting)
  Bench.modifySession fun session =>
    { session with simulator := session.simulator.subscribe Echo.subscription }
  return .commanding

/-- The dialogue is over: the echo listens no more. -/
def finish : Act Unit :=
  Bench.modifySession fun session =>
    { session with simulator := session.simulator.unsubscribe Echo.subscription }

/-- A whole dialogue. Behind the inputs that are given the input ends, which a script that is being
entered and then the command prompt each find out for themselves. -/
def run (inputs : List Input) : Act Unit := do
  let opening ← begin
  let _ ← (inputs ++ [Input.endOfInput, Input.endOfInput]).foldlM exchange opening
  finish

/-- Something said as it appears, with a time stamp where the console puts one. -/
def Utterance.render (stamp : String) : Utterance → String
  | .note text | .echo text | .line text => s!"[{stamp}] {text}\n"
  | .prompt text => text
  | .newline => "\n"

/-- All that was said on a bench as it appears. -/
def transcript (stamp : String) (bench : Bench) : String :=
  String.join (bench.said.reverse.map (Utterance.render stamp))

end Console

end LoopStepper
