import LoopStepper.Proofs.Places

/-!
# Messages in pre-order

A task of a forest, at whatever depth, is found by a path: its place in the forest, or the place of
the callback that it is inside, and then its path in the body of that callback (`taskAt?`). Paths
are compared as words in a dictionary. So a task comes before everything in its body, which comes
before everything behind the task: the paths to all tasks of a forest, in this order, visit it in
pre-order (`forestPaths`), each task once.

The walk with a stack of forests half visited gathers the messages that stand on these paths, and
so does the recursion on the forest. In a forest that was read the walk goes down the lines of the
script.

Headline:
* **`messages_in_preorder`**: the messages of any forest, by the paths to its printing tasks and by
  recursion, and the lines of these tasks in a script.
-/

namespace LoopStepper

/-! ## Paths -/

/-- The task that a path leads to: a place in the forest, then a place in the body of the task
there, and so on. -/
def taskAt? (tasks : List Task) : List Nat → Option Task
  | [] => none
  | [place] => tasks[place]?
  | place :: next :: path => tasks[place]?.bind fun task => taskAt? task.body (next :: path)

/-- The path to the same task when one more task stands in front of the forest. -/
def shifted : List Nat → List Nat
  | [] => []
  | place :: path => (place + 1) :: path

/-- The paths to all tasks of a forest, each in front of those into the body of its task. -/
def forestPaths : List Task → List (List Nat)
  | [] => []
  | task :: tasks =>
    [0] :: ((forestPaths task.body).map (0 :: ·) ++ (forestPaths tasks).map shifted)
termination_by tasks => forestVisits tasks
decreasing_by
  · rw [forestVisits, Task.visits_eq]; omega
  · rw [forestVisits, Task.visits_eq]; omega

section Path

variable (task : Task) (tasks : List Task)

theorem taskAt?_nil (path : List Nat) : taskAt? [] path = none := by
  match path with
  | [] => rfl
  | [_] => rfl
  | _ :: _ :: _ => rfl

@[simp] theorem taskAt?_first : taskAt? (task :: tasks) [0] = some task := rfl

theorem taskAt?_body {path : List Nat} (h : path ≠ []) :
    taskAt? (task :: tasks) (0 :: path) = taskAt? task.body path := by
  obtain ⟨place, path, rfl⟩ := List.exists_cons_of_ne_nil h
  rfl

@[simp] theorem taskAt?_shifted (path : List Nat) :
    taskAt? (task :: tasks) (shifted path) = taskAt? tasks path := by
  match path with
  | [] => rfl
  | [_] => rfl
  | _ :: _ :: _ => rfl

end Path

/-- A path leads somewhere only if it takes a step. -/
theorem ne_nil_of_taskAt? {tasks : List Task} {path : List Nat}
    (h : (taskAt? tasks path).isSome) : path ≠ [] := by
  rintro rfl
  cases h

/-- **The paths are those that lead somewhere.** -/
theorem mem_forestPaths {tasks : List Task} {path : List Nat} :
    path ∈ forestPaths tasks ↔ (taskAt? tasks path).isSome := by
  fun_induction forestPaths tasks generalizing path with
  | case1 => simp [taskAt?_nil]
  | case2 task tasks ihbody ihtasks =>
    simp only [List.mem_cons, List.mem_append, List.mem_map]
    constructor
    · rintro (rfl | ⟨inner, hinner, rfl⟩ | ⟨other, hother, rfl⟩)
      · rfl
      · have hleads := ihbody.mp hinner
        rwa [taskAt?_body _ _ (ne_nil_of_taskAt? hleads)]
      · rw [taskAt?_shifted]
        exact ihtasks.mp hother
    · intro hleads
      match path with
      | [] => cases hleads
      | (place + 1) :: path =>
        rw [← shifted, taskAt?_shifted] at hleads
        exact .inr (.inr ⟨place :: path, ihtasks.mpr hleads, rfl⟩)
      | 0 :: path =>
        by_cases hpath : path = []
        · exact .inl (by rw [hpath])
        · rw [taskAt?_body _ _ hpath] at hleads
          exact .inr (.inl ⟨path, ihbody.mpr hleads, rfl⟩)

theorem ne_nil_of_mem_forestPaths {tasks : List Task} {path : List Nat}
    (h : path ∈ forestPaths tasks) : path ≠ [] :=
  ne_nil_of_taskAt? (mem_forestPaths.mp h)

/-- **The paths are in the order of a dictionary**, so none is there twice. -/
theorem forestPaths_pairwise (tasks : List Task) : (forestPaths tasks).Pairwise (· < ·) := by
  fun_induction forestPaths tasks with
  | case1 => exact .nil
  | case2 task tasks ihbody ihtasks =>
    -- All paths behind the first task begin with a greater place than those to it and into it.
    have hbehind (inner : List Nat) : ∀ path ∈ (forestPaths tasks).map shifted,
        0 :: inner < path := by
      intro path hmem
      obtain ⟨other, hother, rfl⟩ := List.mem_map.mp hmem
      obtain ⟨place, rest, rfl⟩ :=
        List.exists_cons_of_ne_nil (ne_nil_of_mem_forestPaths hother)
      exact List.cons_lt_cons_iff.mpr (.inl (Nat.succ_pos place))
    refine List.pairwise_cons.mpr ⟨fun path hmem => ?_, List.pairwise_append.mpr ⟨?_, ?_, ?_⟩⟩
    · rcases List.mem_append.mp hmem with hmem | hmem
      · obtain ⟨inner, hinner, rfl⟩ := List.mem_map.mp hmem
        obtain ⟨place, rest, rfl⟩ :=
          List.exists_cons_of_ne_nil (ne_nil_of_mem_forestPaths hinner)
        exact List.cons_lt_cons_iff.mpr (.inr ⟨rfl, List.nil_lt_cons place rest⟩)
      · exact hbehind [] path hmem
    · exact List.pairwise_map.mpr
        (ihbody.imp fun hlt => List.cons_lt_cons_iff.mpr (.inr ⟨rfl, hlt⟩))
    · refine List.pairwise_map.mpr (ihtasks.imp_of_mem fun {path other} hpath hother hlt => ?_)
      obtain ⟨place, rest, rfl⟩ :=
        List.exists_cons_of_ne_nil (ne_nil_of_mem_forestPaths hpath)
      obtain ⟨later, last, rfl⟩ :=
        List.exists_cons_of_ne_nil (ne_nil_of_mem_forestPaths hother)
      rw [shifted, shifted, List.cons_lt_cons_iff, Nat.succ_lt_succ_iff, Nat.succ_inj]
      exact List.cons_lt_cons_iff.mp hlt
    · intro path hmem other hother
      obtain ⟨inner, -, rfl⟩ := List.mem_map.mp hmem
      exact hbehind inner other hother

/-- The tasks on these paths are those of the forest in the order of the script. -/
theorem map_taskAt?_forestPaths (tasks : List Task) :
    (forestPaths tasks).map (taskAt? tasks) = (forestTasks tasks).map some := by
  fun_induction forestPaths tasks with
  | case1 => rw [forestTasks_nil, List.map_nil, List.map_nil]
  | case2 task tasks ihbody ihtasks =>
    have hbody : (forestPaths task.body).map (taskAt? (task :: tasks) ∘ (0 :: ·)) =
        (forestPaths task.body).map (taskAt? task.body) :=
      List.map_congr_left fun path hmem =>
        taskAt?_body task tasks (ne_nil_of_mem_forestPaths hmem)
    have hlater : taskAt? (task :: tasks) ∘ shifted = taskAt? tasks :=
      funext (taskAt?_shifted task tasks)
    rw [forestTasks_cons, List.map_cons, List.map_cons, List.map_append, List.map_append,
      List.map_map, List.map_map, hbody, hlater, ihbody, ihtasks, taskAt?_first]

/-! ## Printing tasks -/

/-- Whether a task prints. -/
def Task.prints (task : Task) : Bool :=
  task.kind = .log

/-- The paths to the printing tasks of a forest: in the order of a dictionary, and no path to such a
task is missing. -/
structure PrintingPaths (tasks : List Task) (paths : List (List Nat)) : Prop where
  ordered : paths.Pairwise (· < ·)
  complete : ∀ path, path ∈ paths ↔ ∃ task, taskAt? tasks path = some task ∧ task.kind = .log

/-- The messages of some tasks are the contents of those that print. -/
theorem flatMap_ownMessage (tasks : List Task) :
    tasks.flatMap Task.ownMessage = (tasks.filter Task.prints).map Task.content := by
  induction tasks with
  | nil => rfl
  | cons task tasks ih =>
    rw [List.flatMap_cons, ih]
    by_cases h : task.kind = .log <;> simp [Task.ownMessage, Task.prints, h]

/-- The recursion on the forest gives the messages of the listed tasks as well. -/
theorem forestMessages_eq (tasks : List Task) :
    forestMessages tasks = (forestTasks tasks).flatMap Task.ownMessage := by
  induction tasks using forest_induction with
  | nil => rw [forestMessages, forestTasks_nil, List.flatMap_nil]
  | cons task tasks ihbody ihtasks =>
    have hown : task.messages = task.ownMessage ++ forestMessages task.body := by
      obtain ⟨_, _, _, _, children, _⟩ := task
      cases children <;> simp [Task.messages, Task.ownMessage, bodyMessages, Task.body,
        forestMessages]
    rw [forestMessages, hown, ihbody, ihtasks, forestTasks_cons, List.flatMap_cons,
      List.flatMap_append, List.append_assoc]

/-- The paths to the printing tasks, and these tasks on them. -/
theorem exists_printingPaths (tasks : List Task) :
    ∃ paths, PrintingPaths tasks paths ∧
      paths.map (taskAt? tasks) = ((forestTasks tasks).filter Task.prints).map some := by
  refine ⟨(forestPaths tasks).filter fun path => (taskAt? tasks path).any Task.prints,
    ⟨(forestPaths_pairwise tasks).filter _, fun path => ?_⟩, ?_⟩
  · rw [List.mem_filter, mem_forestPaths]
    cases taskAt? tasks path <;> simp [Task.prints]
  · have hfilter := congrArg (List.filter (Option.any Task.prints))
      (map_taskAt?_forestPaths tasks)
    rw [List.filter_map, List.filter_map] at hfilter
    exact hfilter

/-- The lines of a script on which its printing tasks stand go down. -/
theorem exists_lines_of_parse {source : String} {program : List Task}
    (h : Script.parse source = .ok program) :
    ∃ numbers : List Int,
      ((forestTasks program).filter Task.prints).map Task.line = numbers.map some ∧
        numbers.Pairwise (· < ·) := by
  have hlaid := Script.laid_of_parse h
  refine ⟨((forestTasks program).filter Task.prints).map fun task => (task.place : Int) + 1,
    ?_, ?_⟩
  · rw [List.map_map]
    exact List.map_congr_left fun task hmem =>
      (hlaid.stands task (List.mem_of_mem_filter hmem)).line
  · refine List.pairwise_map.mpr ((hlaid.ascending.filter _).imp fun hlt => ?_)
    omega

/-- **The messages of a forest are gathered in pre-order, each once.** They are the contents of its
printing tasks, in the order of the paths to them, and what the recursion on the forest gives. If
the forest is that of a script, these tasks stand on lines further and further down. -/
theorem messages_in_preorder (tasks : List Task) :
    ∃ paths, PrintingPaths tasks paths ∧
      (gatherMessages tasks).map some =
        paths.map (fun path => (taskAt? tasks path).map Task.content) ∧
      gatherMessages tasks = forestMessages tasks ∧
      ∀ source, Script.parse source = .ok tasks →
        ∃ numbers : List Int,
          paths.map (fun path => (taskAt? tasks path).bind Task.line) = numbers.map some ∧
            numbers.Pairwise (· < ·) := by
  obtain ⟨paths, hpaths, htasks⟩ := exists_printingPaths tasks
  have hread {α : Type} (read : Option Task → α) :
      paths.map (fun path => read (taskAt? tasks path)) =
        ((forestTasks tasks).filter Task.prints).map fun task => read (some task) := by
    have hmap := congrArg (List.map read) htasks
    rwa [List.map_map, List.map_map] at hmap
  refine ⟨paths, hpaths, ?_, ?_, fun source h => ?_⟩
  · rw [gatherMessages_eq, flatMap_ownMessage, List.map_map]
    exact (hread (Option.map Task.content)).symm
  · rw [gatherMessages_eq, forestMessages_eq]
  · obtain ⟨numbers, hlines, hdown⟩ := exists_lines_of_parse h
    exact ⟨numbers, (hread (Option.bind · Task.line)).trans hlines, hdown⟩

/-- In a script with callbacks inside a callback. -/
theorem messages_in_preorder_nested :
    Script.parse Script.nestedScript = .ok Script.nestedForest ∧
      ∃ paths, PrintingPaths Script.nestedForest paths ∧
        ["one", "two", "three", "four", "five"].map some =
          paths.map (fun path => (taskAt? Script.nestedForest path).map Task.content) ∧
        ∃ numbers : List Int,
          paths.map (fun path => (taskAt? Script.nestedForest path).bind Task.line) =
            numbers.map some ∧ numbers.Pairwise (· < ·) := by
  obtain ⟨paths, hpaths, hmessages, hrecursion, hlines⟩ :=
    messages_in_preorder Script.nestedForest
  rw [hrecursion] at hmessages
  exact ⟨Script.parse_nestedScript, paths, hpaths, hmessages,
    hlines _ Script.parse_nestedScript⟩

end LoopStepper
