import LoopStepper.Datum
import LoopStepper.Task

/-!
# Loose event loops

An event loop that comes from elsewhere. Only its build is known: which tasks, frames and timers
there are and of what kind. Its texts and numbers are values of any shape, so a cursor may count
from the end, a timer may wait for a fraction of a millisecond, and a clock may be missing. A value
that does not fit is an error only once it is needed.
-/

namespace LoopStepper

/-- A task whose texts and numbers are values of any shape. -/
structure LooseTask where
  id : Datum
  kind : TaskKind
  content : Datum
  delay : Datum := .nothing
  children : Option (List LooseTask) := none
  line : Datum := .nothing

instance : Inhabited LooseTask := ⟨{ id := .nothing, kind := .main, content := .nothing }⟩

/-- The body of a task, empty if it has none. -/
def LooseTask.body (task : LooseTask) : List LooseTask :=
  task.children.getD []

/-- A frame whose cursor is a value of any shape. -/
structure LooseFrame where
  id : Datum
  name : Datum
  kind : TaskKind
  instructions : List LooseTask
  cursor : Datum := .whole 0
  line : Datum := .nothing

/-- A waiting timer whose times are values of any shape. -/
structure LooseTimer where
  task : LooseTask
  createdAt : Datum
  remaining : Datum

/-- The state of a loose event loop. The innermost frame and the next entry of a queue come
first. -/
structure LooseLoop where
  stack : List LooseFrame := []
  pending : List LooseTimer := []
  microtasks : List LooseTask := []
  macrotasks : List LooseTask := []
  output : List Datum := []
  finished : Datum := .flag false
  activeLine : Datum := .nothing
  clock : Datum := .whole 0
  queued : Datum := .whole 0

mutual

/-- The messages of a task and its body, its own first. -/
def LooseTask.messages : LooseTask → List Datum
  | ⟨_, kind, content, _, children, _⟩ =>
    (if kind = .log then [content] else []) ++ looseBodyMessages children

/-- The messages of a body that may be missing. -/
def looseBodyMessages : Option (List LooseTask) → List Datum
  | none => []
  | some tasks => looseMessages tasks

/-- The messages of a forest in the order in which it is written. -/
def looseMessages : List LooseTask → List Datum
  | [] => []
  | task :: tasks => task.messages ++ looseMessages tasks

end

end LoopStepper
