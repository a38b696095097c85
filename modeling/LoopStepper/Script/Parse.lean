import LoopStepper.Script.Body
import LoopStepper.Text.Lines

/-!
# Reading a script

A script becomes a forest of tasks. The reader walks over the lines of a range; at a line that
opens a callback it goes into the body and keeps what it needs to come back on a stack of open
bodies, so that nesting is bounded by the length of the script only. A callback gets its number
after everything in its body. Only one thing can go wrong: the delay of a timeout may have too many
digits.
-/

namespace LoopStepper.Script

open LoopStepper.Text

/-- The lines of a source text, without the blanks at their ends. -/
def linesOf (source : String) : List Line :=
  (rows source.toList).map strip

/-- The id of the task that was finished as the `n`-th, counted from zero. -/
def taskId (n : Nat) : String :=
  "task-" ++ toString n

/-- A callback whose body is being read. -/
structure OpenBody where
  callback : Callback
  /-- The index of the opening line. -/
  opened : Nat
  /-- The index of the closing line, or of the end of the range if there is none. -/
  closed : Nat
  /-- The closing line, if there is one, and the lines of the range behind it. -/
  rest : List Line
  /-- The tasks read before it in the same range, last first. -/
  before : List Task

/-- The delay of a callback: that of the closing line for a timeout, none for a microtask. -/
def OpenBody.delay (body : OpenBody) : Except NumeralError (Option Int) :=
  match body.callback, body.rest with
  | .timeout, closing :: _ => (readDelay closing).map fun n => some (n : Int)
  | .timeout, [] | .immediate, _ => .ok (some 0)
  | _, _ => .ok none

/-- The task of a callback whose body has been read. -/
def OpenBody.task (body : OpenBody) (number : Nat) (delay : Option Int) (children : List Task) :
    Task where
  id := taskId number
  kind := body.callback.kind
  content := body.callback.label
  delay := delay
  children := some children
  line := some (body.opened + 1)

/-- The task of a line that prints. -/
def printTask (number index : Nat) (message : String) : Task where
  id := taskId number
  kind := .log
  content := message
  line := some (index + 1)

/-- The steps that the open bodies still take: two for each line behind a body, one to close it. -/
def pendingSteps : List OpenBody → Nat
  | [] => 0
  | body :: bodies => 2 * body.rest.length + 1 + pendingSteps bodies

/-- Reads `lines`, the first of which has the index `index`, with `done` read before them in their
range, the bodies around the range open, and `count` tasks finished. Gives the tasks of the
outermost range and the index behind it. -/
def readLines (lines : List Line) (index : Nat) (done : List Task) (bodies : List OpenBody)
    (count : Nat) : Except NumeralError (List Task × Nat) :=
  match lines with
  | line :: rest =>
    match Role.of line with
    | .inert => readLines rest (index + 1) done bodies count
    | .prints message =>
      readLines rest (index + 1) (printTask count index message :: done) bodies (count + 1)
    | .opens callback =>
      let length := bodyLength 1 rest
      readLines (rest.take length) (index + 1) []
        ({ callback, opened := index, closed := index + 1 + length, rest := rest.drop length,
           before := done } :: bodies) count
  | [] =>
    match bodies with
    | [] => .ok (done.reverse, index)
    | body :: bodies =>
      match body.delay with
      | .error e => .error e
      | .ok delay =>
        readLines body.rest.tail (body.closed + 1)
          (body.task count delay done.reverse :: body.before) bodies (count + 1)
termination_by 2 * lines.length + pendingSteps bodies
decreasing_by
  · simp
  · simp
  · have := bodyLength_le 1 rest
    simp only [List.length_take, List.length_drop, List.length_cons, pendingSteps]; omega
  · simp only [List.length_tail, pendingSteps, List.length_nil]; omega

/-- The forest of tasks of a script. -/
def parse (source : String) : Except NumeralError (List Task) :=
  (readLines (linesOf source) 0 [] [] 0).map Prod.fst

end LoopStepper.Script
