import LoopStepper.Datum
import LoopStepper.Report.Progress

/-!
# Snapshots from elsewhere

Reports on a snapshot that is given as data, which may lack parts or have parts of any shape. A part
that is missing or empty counts as an empty list, and so does a missing content in a queue; a frame
or a timer has to have the parts that are shown.
-/

namespace LoopStepper.Report

/-- A list of a snapshot, unless it is missing or empty. -/
def listed (key : String) (snapshot : Datum) : Except ShapeError (Option Datum) := do
  return (← snapshot.field key).truth?

/-- What an overview shows of a frame. -/
def frameParts (frame : Datum) : Except ShapeError (String × String) := do
  let name ← (← frame.part "name").cell
  let current ← frame.part "current"
  return (name, ← current.display)

/-- What an overview shows of a timer. Whether it is due is asked first. -/
def timerParts (timer : Datum) : Except ShapeError (String × Option String) := do
  let remaining ← timer.part "remaining_ms"
  let waits ← remaining.isPositive
  let content ← timer.part "content"
  let shown ← content.display
  return (shown, ← if waits then remaining.display.map some else pure none)

/-- What a queue shows of an entry. -/
def entryText : Datum → Except ShapeError String
  | .record fields =>
    match fields.lookup "content" with
    | some content => content.display
    | none => .ok ""
  | entry => .error (.noFields entry.kind)

/-- The entries of a queue. -/
def queueTexts (key : String) (snapshot : Datum) : Except ShapeError (List String) := do
  match ← listed key snapshot with
  | some queue => (← queue.items).mapM entryText
  | none => return []

/-- The overview of a snapshot. -/
def overviewOfData (snapshot : Datum) : Except ShapeError Overview := do
  let frames ← match ← listed "call_stack" snapshot with
    | some stack => (← stack.backwards).mapM frameParts
    | none => pure []
  let timers ← match ← listed "web_apis" snapshot with
    | some timers => (← timers.items).mapM timerParts
    | none => pure []
  let microtasks ← queueTexts "microtask_queue" snapshot
  let macrotasks ← queueTexts "macrotask_queue" snapshot
  let output ← match ← listed "output" snapshot with
    | some output => output.texts
    | none => pure []
  let line ← snapshot.field "active_line"
  let finished ← snapshot.field "finished"
  return {
    frames, timers, microtasks, macrotasks, output
    finished := finished.isTrue
    line := ← line.trueDisplay? }

/-- The progress of a snapshot after a change. Of the frames only the innermost is looked at. -/
def progressOfData (change snapshot : Datum) : Except ShapeError Progress := do
  let top ← match ← listed "call_stack" snapshot with
    | some stack => (← stack.last).part "name"
    | none => pure (.text "-")
  let (printed, last) ← match ← listed "output" snapshot with
    | some output => do pure ((output.items?.getD []).length, (← output.last).truth?)
    | none => pure (0, none)
  let line ← snapshot.field "active_line"
  let finished ← snapshot.field "finished"
  return {
    change := ← change.display
    line := ← line.trueDisplay?
    top := some (← top.display)
    printed
    last := ← match last with
      | some last => (last.literal.map some).mapError .numeral
      | none => pure none
    finished := finished.isTrue }

/-- The text of the overview of a snapshot. -/
def overviewText (snapshot : Datum) : Except ShapeError String :=
  (overviewOfData snapshot).map Overview.text

/-- The text of the progress line of a snapshot. -/
def progressText (change snapshot : Datum) : Except ShapeError String :=
  (progressOfData change snapshot).map Progress.text

end LoopStepper.Report
