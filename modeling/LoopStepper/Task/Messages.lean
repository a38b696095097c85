import LoopStepper.Task

/-!
# Messages of a forest

The messages a script would print if every callback ran where it is written: all printing tasks,
each before its own body, in the order of the script. `forestMessages` says so by recursion on the
forest. `gatherMessages` computes the same with an explicit stack of forests still to visit, so
that the depth of nesting does not matter.
-/

namespace LoopStepper

/-- The message that a task prints itself. -/
def Task.ownMessage (task : Task) : List String :=
  if task.kind = .log then [task.content] else []

mutual

/-- The messages of a task and its body, its own first. -/
def Task.messages : Task → List String
  | ⟨_, kind, content, _, children, _⟩ =>
    (if kind = .log then [content] else []) ++ bodyMessages children

/-- The messages of a body that may be missing. -/
def bodyMessages : Option (List Task) → List String
  | none => []
  | some tasks => forestMessages tasks

/-- The messages of a forest in the order of the script. -/
def forestMessages : List Task → List String
  | [] => []
  | task :: tasks => task.messages ++ forestMessages tasks

end

mutual

/-- Two visits for a task, to see it and to leave its body, and those of its body. -/
def Task.visits : Task → Nat
  | ⟨_, _, _, _, children, _⟩ => bodyVisits children + 2

/-- The visits a body takes. -/
def bodyVisits : Option (List Task) → Nat
  | none => 0
  | some tasks => forestVisits tasks

/-- The visits a forest takes. -/
def forestVisits : List Task → Nat
  | [] => 0
  | task :: tasks => task.visits + forestVisits tasks

end

/-- The visits that a stack of forests takes, with one more to drop each forest. -/
def stackVisits : List (List Task) → Nat
  | [] => 0
  | tasks :: stack => forestVisits tasks + 1 + stackVisits stack

theorem Task.visits_eq (task : Task) : task.visits = forestVisits task.body + 2 := by
  obtain ⟨_, _, _, _, children, _⟩ := task
  cases children <;> simp [Task.visits, bodyVisits, Task.body, forestVisits]

/-- The messages of a stack of forests, the top one first, behind those already gathered, which
come last first. -/
def gather (gathered : List String) : List (List Task) → List String
  | [] => gathered.reverse
  | [] :: stack => gather gathered stack
  | (task :: tasks) :: stack =>
    gather (task.ownMessage.reverse ++ gathered) (task.body :: tasks :: stack)
termination_by stack => stackVisits stack
decreasing_by
  · simp [stackVisits, forestVisits]
  · simp [stackVisits, forestVisits, Task.visits_eq]; omega

/-- The messages of a forest in the order of the script, gathered with an explicit stack. -/
def gatherMessages (tasks : List Task) : List String :=
  gather [] [tasks]

end LoopStepper
