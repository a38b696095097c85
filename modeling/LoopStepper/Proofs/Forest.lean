import LoopStepper.Task.Messages

/-!
# The tasks of a forest

`forestTasks` lists every task of a forest, at every depth, each before its own body: the forest
read from the top of the script to its end. What is said of a whole forest is said of this list:
the messages of a script are those of its tasks (`gatherMessages_eq`), and a task that runs or
waits is counted by the tasks in its body.
-/

namespace LoopStepper

mutual

/-- A task and every task inside it, itself first. -/
def Task.tasks : Task → List Task
  | ⟨id, kind, content, delay, children, line⟩ =>
    ⟨id, kind, content, delay, children, line⟩ :: bodyTasks children

/-- Every task inside a body that may be missing. -/
def bodyTasks : Option (List Task) → List Task
  | none => []
  | some tasks => forestTasks tasks

/-- Every task of a forest in the order of the script. -/
def forestTasks : List Task → List Task
  | [] => []
  | task :: tasks => task.tasks ++ forestTasks tasks

end

theorem Task.tasks_eq (task : Task) : task.tasks = task :: forestTasks task.body := by
  obtain ⟨_, _, _, _, children, _⟩ := task
  cases children <;> simp [Task.tasks, bodyTasks, Task.body, forestTasks]

@[simp] theorem forestTasks_nil : forestTasks [] = [] := by
  rw [forestTasks]

@[simp] theorem forestTasks_cons (task : Task) (tasks : List Task) :
    forestTasks (task :: tasks) = task :: (forestTasks task.body ++ forestTasks tasks) := by
  rw [forestTasks, Task.tasks_eq, List.cons_append]

theorem forestTasks_eq_flatMap (tasks : List Task) :
    forestTasks tasks = tasks.flatMap Task.tasks := by
  induction tasks with
  | nil => rw [forestTasks, List.flatMap_nil]
  | cons task tasks ih => rw [forestTasks, List.flatMap_cons, ih]

/-- Induction over a forest: its first task is taken off, and the body of that task is a forest
again. -/
@[elab_as_elim]
theorem forest_induction {motive : List Task → Prop} (nil : motive [])
    (cons : ∀ task tasks, motive task.body → motive tasks → motive (task :: tasks)) :
    ∀ tasks, motive tasks
  | [] => nil
  | task :: tasks =>
    cons task tasks (forest_induction nil cons task.body) (forest_induction nil cons tasks)
termination_by tasks => forestVisits tasks
decreasing_by
  · rw [forestVisits, Task.visits_eq]; omega
  · rw [forestVisits, Task.visits_eq]; omega

/-- A forest read backwards has the same tasks. -/
theorem forestTasks_reverse_perm (tasks : List Task) :
    (forestTasks tasks.reverse).Perm (forestTasks tasks) := by
  simp only [forestTasks_eq_flatMap]
  exact (List.reverse_perm tasks).flatMap_right Task.tasks

/-! ## Messages -/

/-- The messages of a stack of forests are those of its tasks, the top forest first. -/
theorem gather_eq (gathered : List String) (stack : List (List Task)) :
    gather gathered stack =
      gathered.reverse ++ (stack.flatMap forestTasks).flatMap Task.ownMessage := by
  fun_induction gather gathered stack with
  | case1 gathered => simp
  | case2 gathered stack ih => simpa using ih
  | case3 gathered task tasks stack ih => simpa using ih

/-- **The gathered messages are those of the listed tasks**, in the order of the script. -/
theorem gatherMessages_eq (tasks : List Task) :
    gatherMessages tasks = (forestTasks tasks).flatMap Task.ownMessage := by
  rw [gatherMessages, gather_eq]
  simp

end LoopStepper
