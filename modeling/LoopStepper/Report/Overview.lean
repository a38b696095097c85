import LoopStepper.EventLoop.Snapshot
import LoopStepper.Report.Listing

/-!
# Overviews

The state of an event loop in a few lines: the call stack from the innermost frame outwards, the
timers, the queues, the output, the active line and whether the run is over.
-/

namespace LoopStepper.Report

/-- What an overview shows. -/
structure Overview where
  /-- The name of each frame and what it does next, the innermost first. -/
  frames : List (String × String) := []
  /-- The content of each waiting timer and the milliseconds it still waits, unless it is due. -/
  timers : List (String × Option String) := []
  microtasks : List String := []
  macrotasks : List String := []
  output : List String := []
  finished : Bool := false
  line : Option String := none

/-- A line, or a dash where there is none. -/
def lineText (line : Option String) : String :=
  line.getD "-"

/-- The number of a line; no line has the number zero. -/
def lineNumber? (line : Option Int) : Option String :=
  (line.filter (· ≠ 0)).map toString

/-- A waiting timer with its time, or with the word that its time is over. -/
def timerText : String × Option String → String
  | (content, some time) => s!"{content}({time}ms)"
  | (content, none) => s!"{content}(done)"

/-- The row of a frame. -/
def frameText (frame : String × String) : String :=
  "    " ++ String.ofList (padRight 18 frame.1.toList) ++ " next: " ++ frame.2

/-- A row with a title, and a remark in place of an empty list. -/
def listRow (title empty separator : String) (items : List String) : String :=
  "  " ++ title ++ ": " ++ if items.isEmpty then empty else separator.intercalate items

/-- The rows of an overview. -/
def Overview.rows (overview : Overview) : List String :=
  ["State:"] ++
    (if overview.frames.isEmpty then ["  Call stack: (empty)"]
      else "  Call stack (top first):" :: overview.frames.map frameText) ++
    [listRow "Web APIs" "(none)" ", " (overview.timers.map timerText),
     listRow "Microtasks" "(empty)" " <- " overview.microtasks,
     listRow "Macrotasks" "(empty)" " <- " overview.macrotasks,
     listRow "Output" "(nothing yet)" ", " overview.output,
     "  Line: " ++ lineText overview.line ++ "  Status: " ++
       if overview.finished then "finished" else "running"]

/-- The text of an overview. -/
def Overview.text (overview : Overview) : String :=
  "\n".intercalate overview.rows

/-- The overview of an event loop. -/
def overviewOf (loop : EventLoop) : Overview where
  frames := loop.stack.map fun frame => (frame.name, frame.currentText)
  timers := loop.pending.map fun timer =>
    (timer.task.content, if 0 < timer.remaining then some (toString timer.remaining) else none)
  microtasks := loop.microtasks.map (·.content)
  macrotasks := loop.macrotasks.map (·.content)
  output := loop.output
  finished := loop.finished
  line := lineNumber? loop.activeLine

/-- The overview of an event loop as text. -/
def overview (loop : EventLoop) : String :=
  (overviewOf loop).text

end LoopStepper.Report
