/-!
# Tasks

A script is a forest of tasks. A task prints a message, or registers a callback whose body is
again a list of tasks. The same type serves for the entries of the queues, which are the callbacks
waiting to run.
-/

namespace LoopStepper

/-- What a task does. A timer stands for every callback that goes through the timer table; `main`
is the kind of the frame around the whole script and does nothing as an instruction. -/
inductive TaskKind where
  | log
  | timer
  | microtask
  | main
  deriving DecidableEq, Repr

/-- The name under which a kind is shown. -/
def TaskKind.label : TaskKind → String
  | .log => "log"
  | .timer => "timer"
  | .microtask => "microtask"
  | .main => "main"

/-- One instruction of a script, or one entry of a queue. A task that prints has its message as
content and no body; a callback has a label as content. Lines are numbered from one. -/
structure Task where
  id : String
  kind : TaskKind
  content : String
  delay : Option Int := none
  children : Option (List Task) := none
  line : Option Int := none

instance : Inhabited Task := ⟨{ id := "", kind := .main, content := "" }⟩

/-- The body of a task, empty if it has none. -/
def Task.body (task : Task) : List Task :=
  task.children.getD []

end LoopStepper
