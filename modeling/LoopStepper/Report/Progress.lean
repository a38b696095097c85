import LoopStepper.Report.Overview
import LoopStepper.Text.Quoted

/-!
# Progress lines

One line for one change: the active line, the innermost frame, how much was printed and the last
message, and a remark when the run is over.
-/

namespace LoopStepper.Report

/-- What a progress line shows. -/
structure Progress where
  change : String
  line : Option String := none
  /-- The name of the innermost frame, if there is one. -/
  top : Option String := none
  /-- How much was printed. -/
  printed : Nat := 0
  /-- The last message, quoted, unless it is empty. -/
  last : Option String := none
  finished : Bool := false

/-- The text of a progress line. -/
def Progress.text (progress : Progress) : String :=
  s!"[{progress.change}] line=" ++ lineText progress.line ++ " stack=" ++
    progress.top.getD "-" ++ " out=" ++ toString progress.printed ++
    (match progress.last with
      | some last => " last=" ++ last
      | none => "") ++
    if progress.finished then " (finished)" else ""

/-- The progress of an event loop after a change. -/
def progressOf (change : String) (loop : EventLoop) : Progress where
  change := change
  line := lineNumber? loop.activeLine
  top := loop.stack.head?.map (·.name)
  printed := loop.output.length
  last := (loop.output.getLast?.filter (!·.isEmpty)).map Text.quotedString
  finished := loop.finished

/-- The progress line of an event loop after a change. -/
def progress (change : String) (loop : EventLoop) : String :=
  (progressOf change loop).text

end LoopStepper.Report
