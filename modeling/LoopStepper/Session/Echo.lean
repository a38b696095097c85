import LoopStepper.Prediction
import LoopStepper.Report.Progress
import LoopStepper.Simulator.Audience

/-!
# The echo of an automatic run

A subscriber that prints a progress line for each step of an automatic run and a report when a run
is finished. Steps made by hand print their own overview and are not echoed, except for the one that
finishes a run; a line that repeats the one before it is not printed again.
-/

namespace LoopStepper

/-- What the echo remembers: the last line it printed, and all it has printed, last first. -/
structure Echo where
  last : String := ""
  printed : List String := []

namespace Echo

/-- The name under which the echo subscribes. -/
def subscription : String := "console"

/-- The report of a finished run. -/
def report (prediction : Prediction) (output : List String) : String :=
  "Run finished. Output: " ++ ", ".intercalate output ++ "  Prediction: " ++
    (prediction.verdict output).word

/-- The echo after a notice. -/
def hear (prediction : Prediction) (notice : Notice) (echo : Echo) : Echo :=
  if notice.change = .step && (notice.running || notice.loop.finished) then
    let line := Report.progress notice.change.label notice.loop
    if line == echo.last then echo
    else
      { last := line
        printed :=
          (if notice.loop.finished then [report prediction notice.loop.output] else []) ++
            line :: echo.printed }
  else echo

/-- The echo as a subscriber; other subscribers print nothing, and nobody edits a snapshot. -/
def audience (prediction : Prediction) : Audience Echo := fun name notice echo =>
  { memory := if name == subscription then echo.hear prediction notice else echo }

end Echo

end LoopStepper
