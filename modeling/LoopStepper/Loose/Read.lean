import LoopStepper.Loose.Basic

/-!
# Reading loose event loops

A loose event loop from data. Of a task, a frame and a timer the parts that say what it is have to
be there; the others have defaults. Amounts of time may be written as numerals.
-/

namespace LoopStepper

/-- The kind of task that a value names. -/
def TaskKind.ofDatum (value : Datum) : Except ShapeError TaskKind :=
  match value with
  | .text "log" => .ok .log
  | .text "timer" => .ok .timer
  | .text "microtask" => .ok .microtask
  | .text "main" => .ok .main
  | value =>
    match value.literal with
    | .ok literal => .error (.noTaskKind literal)
    | .error error => .error (.numeral error)

namespace LooseTask

mutual

/-- A task from data. -/
def ofDatum : Datum → Except ShapeError LooseTask
  | .record fields => do
    let id ← (Datum.record fields).part "id"
    let kind ← TaskKind.ofDatum (← (Datum.record fields).part "kind")
    let content ← (Datum.record fields).part "content"
    let delay ← ((fields.lookup "delay").getD .nothing).numeric
    let children ← childrenIn fields
    return { id, kind, content, delay, children, line := (fields.lookup "line").getD .nothing }
  | value => (value.part "id").map fun _ => default

/-- The body among the fields of a task. -/
def childrenIn : List (String × Datum) → Except ShapeError (Option (List LooseTask))
  | [] => .ok none
  | (key, value) :: fields => if key == "children" then bodyOf value else childrenIn fields

/-- A body from data. The items of a text and of a record are texts, which are no tasks. -/
def bodyOf : Datum → Except ShapeError (Option (List LooseTask))
  | .nothing => .ok none
  | .list items => (ofItems items).map some
  | .text s => if s.isEmpty then .ok (some []) else .error .textKey
  | .record fields => if fields.isEmpty then .ok (some []) else .error .textKey
  | value => .error (.noItems value.kind)

/-- Tasks from a list of data. -/
def ofItems : List Datum → Except ShapeError (List LooseTask)
  | [] => .ok []
  | item :: items => do
    let task ← ofDatum item
    return task :: (← ofItems items)

end

/-- Tasks from data. -/
def forestOf (value : Datum) : Except ShapeError (List LooseTask) := do
  ofItems (← value.items)

end LooseTask

/-- A frame from data. -/
def LooseFrame.ofDatum (value : Datum) : Except ShapeError LooseFrame := do
  return {
    id := ← value.part "id"
    name := ← value.part "name"
    kind := ← TaskKind.ofDatum (← value.part "kind")
    instructions := ← LooseTask.forestOf (← value.part "instructions")
    cursor := ← value.fieldD "cursor" (.whole 0)
    line := ← value.field "highlight_line" }

/-- A waiting timer from data. -/
def LooseTimer.ofDatum (value : Datum) : Except ShapeError LooseTimer := do
  return {
    task := ← LooseTask.ofDatum (← value.part "task")
    createdAt := ← (← value.part "created_at").numeric
    remaining := ← (← value.part "remaining").numeric }

/-- A loose event loop from data. The frames come from the outermost to the innermost. -/
def LooseLoop.ofDatum (value : Datum) : Except ShapeError LooseLoop := do
  let items (key : String) : Except ShapeError Datum := value.fieldD key (.list [])
  let _ ← LooseTask.forestOf (← items "program")
  return {
    stack := (← (← (← items "stack").items).mapM LooseFrame.ofDatum).reverse
    pending := ← (← (← items "pending").items).mapM LooseTimer.ofDatum
    microtasks := ← LooseTask.forestOf (← items "microtasks")
    macrotasks := ← LooseTask.forestOf (← items "macrotasks")
    output := ← (← items "output").items
    finished := ← value.fieldD "finished" (.flag false)
    activeLine := ← value.field "active_line"
    clock := ← (← value.fieldD "clock_ms" (.whole 0)).numeric
    queued := ← (← value.fieldD "seq" (.whole 0)).numeric }

end LoopStepper
