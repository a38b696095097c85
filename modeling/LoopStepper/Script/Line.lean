import LoopStepper.Text.Blank
import LoopStepper.Text.Numeral
import LoopStepper.Task

/-!
# The lines of a script

A script is read line by line, and a line has one of three roles: it prints a message, it opens the
body of a callback, or it is inert. Which one is decided by three patterns, each tried at every
place of the line from left to right: a print call in any of three kinds of quotes, the opening of
a callback at the end of the line, and, on the line that closes a body, the delay of a timer.
-/

namespace LoopStepper.Script

open LoopStepper.Text

/-- A line of a script without the blanks at its ends. -/
abbrev Line := List Char

/-- The five ways to register a callback. -/
inductive Callback where
  | timeout
  | immediate
  | promise
  | microtask
  | nextTick
  deriving DecidableEq, Repr

/-- The text that opens a callback, up to its parenthesis. -/
def Callback.opening : Callback → String
  | .timeout => "setTimeout"
  | .immediate => "setImmediate"
  | .promise => "Promise.resolve().then"
  | .microtask => "queueMicrotask"
  | .nextTick => "process.nextTick"

/-- The content of the task that registers a callback. -/
def Callback.label : Callback → String
  | .timeout => "setTimeout"
  | .immediate => "setImmediate"
  | .promise => "Promise.then"
  | .microtask => "queueMicrotask"
  | .nextTick => "process.nextTick"

/-- The queue that a callback goes through. -/
def Callback.kind : Callback → TaskKind
  | .timeout | .immediate => .timer
  | .promise | .microtask | .nextTick => .microtask

/-- Every callback, in the order in which a line is tried against them. -/
def Callback.all : List Callback :=
  [.timeout, .immediate, .promise, .microtask, .nextTick]

/-! ## Patterns -/

/-- What follows `word` at the start of a text, if the text starts with it. -/
def after? : List Char → List Char → Option (List Char)
  | [], cs => some cs
  | _ :: _, [] => none
  | w :: word, c :: cs => if w = c then after? word cs else none

/-- The answer of a pattern at the leftmost place of a text where it has one. -/
def leftmost? {α : Type} (pattern : List Char → Option α) : List Char → Option α
  | [] => pattern []
  | c :: cs => match pattern (c :: cs) with
    | some a => some a
    | none => leftmost? pattern cs

/-- The characters in front of the first `quote` followed by a closing parenthesis. -/
def untilClose? (quote : Char) : List Char → Option (List Char)
  | [] => none
  | c :: cs =>
    if c = quote && cs.head? = some ')' then some []
    else (untilClose? quote cs).map (c :: ·)

/-- A message and the end of its print call, behind the opening quote; a message has at least one
character, whatever it is. -/
def messageBody? (quote : Char) : List Char → Option (List Char)
  | [] => none
  | c :: cs => (untilClose? quote cs).map (c :: ·)

/-- The quotes a message may stand in. -/
def isQuote (c : Char) : Bool :=
  c = '\'' || c = '"' || c = Char.ofNat 0x60

/-- The message of a print call that starts here. -/
def printCall? (cs : List Char) : Option (List Char) :=
  match after? "console.log(".toList cs with
  | some (quote :: rest) => if isQuote quote then messageBody? quote rest else none
  | _ => none

/-- Whether a callback is opened here, up to the end of the line: the text `opening`, an arrow
function without parameters, and an open brace, with blanks between the parts. -/
def opens (opening cs : List Char) : Bool :=
  let rest? := do
    let cs ← after? opening cs
    let cs ← after? ['('] cs
    let cs ← after? ['(', ')'] (dropBlanks cs)
    let cs ← after? ['=', '>'] (dropBlanks cs)
    after? ['{'] (dropBlanks cs)
  rest?.any fun rest => (dropBlanks rest).isEmpty

/-- The digits of the delay in a closing line that starts here with its brace. -/
def delayDigits? (cs : List Char) : Option (List Char) := do
  let cs ← after? ['}', ','] cs
  let cs := dropBlanks cs
  let digits := cs.takeWhile isDecimal
  let _ ← after? [')'] (dropBlanks (cs.dropWhile isDecimal))
  if digits.isEmpty then none else some digits

/-! ## Roles -/

/-- The message of the leftmost print call of a line. -/
def message? (line : Line) : Option (List Char) :=
  leftmost? printCall? line

/-- The callback that a line opens. -/
def callback? (line : Line) : Option Callback :=
  Callback.all.find? fun callback =>
    let opening := callback.opening.toList
    (leftmost? (fun cs => if opens opening cs then some () else none) line).isSome

/-- Whether a line is a comment. -/
def isComment (line : Line) : Bool :=
  (after? ['/', '/'] line).isSome

/-- What a line does. -/
inductive Role where
  | inert
  | prints (message : String)
  | opens (callback : Callback)
  deriving DecidableEq, Repr

/-- The role of a line: a comment is inert, and a print call counts before an opening. -/
def Role.of (line : Line) : Role :=
  if isComment line then .inert
  else
    match message? line with
    | some message => .prints (String.ofList message)
    | none =>
      match callback? line with
      | some callback => .opens callback
      | none => .inert

/-- The delay that a closing line gives to a timeout: zero if it has none. -/
def readDelay (line : Line) : Except NumeralError Nat :=
  match leftmost? delayDigits? line with
  | some digits => readDigits digits
  | none => .ok 0

/-- A blank line is inert. -/
@[simp] theorem Role.of_nil : Role.of [] = .inert := by
  decide

end LoopStepper.Script
