import LoopStepper.Proofs.Queues

/-!
# Output by depth

Where all callbacks of a script go through the same queue, the run is breadth first: a body is run
after all those that are enclosed by fewer callbacks, and the bodies enclosed by equally many are
run in the order of the script. So the output is known from the script alone. Take its messages in
order, each with the number of callbacks around it (`placedMessages`), and sort them by that number,
the order of equals unchanged.

The interpreter with queues and the sorted list are compared by way of `levels`, the messages of a
forest level by level. A queue of bodies prints the messages of one level, and leaves the bodies of
the next one in the queue (`drainOne_append`); and sorting puts those messages in front that have
the least number, and leaves the others to be sorted (`mergeSort_of_least`).

Headline:
* **`output_by_depth`**: with callbacks of one kind, and one delay if they are timers, every run
  that is finished has printed the messages of the script, stably sorted by depth.
-/

namespace LoopStepper

open Script

/-! ## Messages with their depth -/

/-- The tasks in the bodies of a forest, one callback deeper. -/
def innerTasks (tasks : List Task) : List Task :=
  tasks.flatMap Task.body

@[simp] theorem innerTasks_nil : innerTasks [] = [] := rfl

@[simp] theorem innerTasks_cons (task : Task) (tasks : List Task) :
    innerTasks (task :: tasks) = task.body ++ innerTasks tasks :=
  List.flatMap_cons

/-- The messages of a forest in the order of the script, each with the number of callbacks around
it, where the forest is inside `depth` callbacks. -/
def placedMessages (depth : Nat) : List Task → List (Nat × String)
  | [] => []
  | task :: tasks =>
    task.ownMessage.map (depth, ·) ++
      (placedMessages (depth + 1) task.body ++ placedMessages depth tasks)
termination_by tasks => forestVisits tasks
decreasing_by
  · rw [forestVisits, Task.visits_eq]; omega
  · rw [forestVisits, Task.visits_eq]; omega

/-- Without their depth they are the messages of the script. -/
theorem placedMessages_snd (depth : Nat) (tasks : List Task) :
    (placedMessages depth tasks).map Prod.snd = gatherMessages tasks := by
  rw [gatherMessages_eq]
  fun_induction placedMessages depth tasks with
  | case1 depth => rfl
  | case2 depth task tasks ihbody ihtasks =>
    rw [List.map_append, List.map_append, ihbody, ihtasks, forestTasks_cons, List.flatMap_cons,
      List.flatMap_append, List.map_map]
    exact congrArg (· ++ _) (List.map_id _)

/-- No message of a forest is less deep than the forest. -/
theorem le_of_mem_placedMessages {depth : Nat} {tasks : List Task} {placed : Nat × String}
    (h : placed ∈ placedMessages depth tasks) : depth ≤ placed.1 := by
  fun_induction placedMessages depth tasks with
  | case1 depth => exact absurd h List.not_mem_nil
  | case2 depth task tasks ihbody ihtasks =>
    rcases List.mem_append.mp h with h | h
    · obtain ⟨message, -, rfl⟩ := List.mem_map.mp h
      exact le_rfl
    · rcases List.mem_append.mp h with h | h
      · exact Nat.le_of_succ_le (ihbody h)
      · exact ihtasks h

theorem placedMessages_append (depth : Nat) (tasks others : List Task) :
    placedMessages depth (tasks ++ others) =
      placedMessages depth tasks ++ placedMessages depth others := by
  induction tasks with
  | nil => rw [placedMessages, List.nil_append, List.nil_append]
  | cons task tasks ih =>
    rw [List.cons_append, placedMessages, placedMessages, ih, List.append_assoc, List.append_assoc]

/-- The messages of the least depth are those that the forest prints itself. -/
theorem placedMessages_filter_eq (depth : Nat) (tasks : List Task) :
    (placedMessages depth tasks).filter (·.1 = depth) =
      (ownMessages tasks).map (depth, ·) := by
  induction tasks with
  | nil => simp [placedMessages, ownMessages]
  | cons task tasks ih =>
    have hown : (task.ownMessage.map (depth, ·)).filter (·.1 = depth) =
        task.ownMessage.map (depth, ·) :=
      List.filter_eq_self.mpr fun placed hmem => by
        obtain ⟨message, -, rfl⟩ := List.mem_map.mp hmem
        exact decide_eq_true rfl
    have hbody : (placedMessages (depth + 1) task.body).filter (·.1 = depth) = [] :=
      List.filter_eq_nil_iff.mpr fun placed hmem heq => by
        have := le_of_mem_placedMessages hmem
        have := of_decide_eq_true heq
        omega
    rw [placedMessages, List.filter_append, List.filter_append, hown, hbody, ih, ownMessages,
      ownMessages, List.flatMap_cons, List.map_append, List.nil_append]

/-- The others are those of the bodies, one callback deeper. -/
theorem placedMessages_filter_ne (depth : Nat) (tasks : List Task) :
    (placedMessages depth tasks).filter (·.1 ≠ depth) =
      placedMessages (depth + 1) (innerTasks tasks) := by
  induction tasks with
  | nil => simp [placedMessages]
  | cons task tasks ih =>
    have hown : (task.ownMessage.map (depth, ·)).filter (·.1 ≠ depth) = [] :=
      List.filter_eq_nil_iff.mpr fun placed hmem => by
        obtain ⟨message, -, rfl⟩ := List.mem_map.mp hmem
        simp
    have hbody : (placedMessages (depth + 1) task.body).filter (·.1 ≠ depth) =
        placedMessages (depth + 1) task.body :=
      List.filter_eq_self.mpr fun placed hmem => by
        have := le_of_mem_placedMessages hmem
        exact decide_eq_true (by omega)
    rw [placedMessages, List.filter_append, List.filter_append, hown, hbody, ih, List.nil_append,
      innerTasks_cons, placedMessages_append]

/-! ## Sorting by a number -/

section Sorting

variable {α : Type}

/-- The order of numbered things by their numbers. -/
def byNumber (a b : Nat × α) : Bool :=
  a.1 ≤ b.1

theorem byNumber_trans (a b c : Nat × α) (hab : byNumber a b = true) (hbc : byNumber b c = true) :
    byNumber a c = true :=
  decide_eq_true ((of_decide_eq_true hab).trans (of_decide_eq_true hbc))

theorem byNumber_total (a b : Nat × α) : (byNumber a b || byNumber b a) = true := by
  simp [byNumber, Nat.le_total]

theorem pairwise_mergeSort (l : List (Nat × α)) :
    (l.mergeSort byNumber).Pairwise fun a b => byNumber a b = true :=
  List.pairwise_mergeSort byNumber_trans byNumber_total l

/-- Things with one number are in order. -/
theorem pairwise_filter_eq (l : List (Nat × α)) (n : Nat) :
    (l.filter (·.1 = n)).Pairwise fun a b => byNumber a b = true := by
  refine List.pairwise_of_forall_mem_list fun a ha b hb => decide_eq_true ?_
  have := of_decide_eq_true (List.mem_filter.mp ha).2
  have := of_decide_eq_true (List.mem_filter.mp hb).2
  omega

/-- Sorting leaves the order of those with one number as it is. -/
theorem filter_mergeSort (l : List (Nat × α)) (n : Nat) :
    (l.mergeSort byNumber).filter (·.1 = n) = l.filter (·.1 = n) := by
  have hkept : (l.filter (·.1 = n)).Sublist (l.mergeSort byNumber) :=
    List.sublist_mergeSort byNumber_trans byNumber_total (pairwise_filter_eq l n)
      List.filter_sublist
  have hsub := hkept.filter (·.1 = n)
  simp only [List.filter_filter, Bool.and_self] at hsub
  have hlength := ((List.mergeSort_perm l byNumber).filter (·.1 = n)).length_eq
  exact (hsub.eq_of_length hlength.symm).symm

/-- Lists that agree on those with each number have the same elements. -/
theorem mem_iff_of_filter_eq {l others : List (Nat × α)}
    (h : ∀ n, l.filter (·.1 = n) = others.filter (·.1 = n)) (a : Nat × α) :
    a ∈ l ↔ a ∈ others := by
  have ha := congrArg (a ∈ ·) (h a.1)
  simpa [List.mem_filter] using ha

/-- The first element of a list in order has the least number. -/
theorem le_of_mem_cons {a b : Nat × α} {l : List (Nat × α)}
    (h : (a :: l).Pairwise fun a b => byNumber a b = true) (hb : b ∈ a :: l) : a.1 ≤ b.1 := by
  rcases List.mem_cons.mp hb with rfl | hb
  · exact le_rfl
  · exact of_decide_eq_true ((List.pairwise_cons.mp h).1 b hb)

/-- Two lists in order are the same if they agree on those with each number. -/
theorem eq_of_filter_eq {l others : List (Nat × α)}
    (hl : l.Pairwise fun a b => byNumber a b = true)
    (hothers : others.Pairwise fun a b => byNumber a b = true)
    (h : ∀ n, l.filter (·.1 = n) = others.filter (·.1 = n)) : l = others := by
  induction l generalizing others with
  | nil =>
    refine (List.eq_nil_iff_forall_not_mem.mpr fun a ha => ?_).symm
    exact List.not_mem_nil ((mem_iff_of_filter_eq h a).mpr ha)
  | cons a l ih =>
    cases others with
    | nil => exact absurd ((mem_iff_of_filter_eq h a).mp List.mem_cons_self) List.not_mem_nil
    | cons b others =>
      have hle := le_of_mem_cons hl ((mem_iff_of_filter_eq h b).mpr List.mem_cons_self)
      have hge := le_of_mem_cons hothers ((mem_iff_of_filter_eq h a).mp List.mem_cons_self)
      have heq : a.1 = b.1 := Nat.le_antisymm hle hge
      have hfirst := h b.1
      simp only [List.filter_cons, heq, decide_true, if_true] at hfirst
      obtain ⟨rfl, -⟩ := List.cons.inj hfirst
      have hrest : ∀ n, l.filter (·.1 = n) = others.filter (·.1 = n) := fun n => by
        have hn := h n
        by_cases ha : a.1 = n
        · simpa [ha] using hn
        · simpa [ha] using hn
      rw [ih (List.pairwise_cons.mp hl).2 (List.pairwise_cons.mp hothers).2 hrest]

/-- Those with the least number come first, in their order. -/
theorem mergeSort_of_least {l : List (Nat × α)} {n : Nat} (h : ∀ a ∈ l, n ≤ a.1) :
    l.mergeSort byNumber =
      l.filter (·.1 = n) ++ (l.filter (·.1 ≠ n)).mergeSort byNumber := by
  refine eq_of_filter_eq (pairwise_mergeSort l) ?_ fun m => ?_
  · refine List.pairwise_append.mpr ⟨pairwise_filter_eq l n, pairwise_mergeSort _, ?_⟩
    intro a ha b hb
    have hleast := h b (List.mem_filter.mp (List.mem_mergeSort.mp hb)).1
    exact decide_eq_true (of_decide_eq_true (List.mem_filter.mp ha).2 ▸ hleast)
  · rw [List.filter_append, filter_mergeSort, filter_mergeSort, List.filter_filter,
      List.filter_filter]
    by_cases hm : m = n
    · simp [hm]
    · have hnone : l.filter (fun a => a.1 = m && a.1 = n) = [] :=
        List.filter_eq_nil_iff.mpr fun a _ ha => by simp at ha; omega
      rw [hnone, List.nil_append]
      refine List.filter_congr fun a _ => ?_
      by_cases ha : a.1 = m <;> simp [ha, hm]

end Sorting

/-! ## Level by level -/

theorem forestVisits_append (tasks others : List Task) :
    forestVisits (tasks ++ others) = forestVisits tasks + forestVisits others := by
  induction tasks with
  | nil => simp [forestVisits]
  | cons task tasks ih => rw [List.cons_append, forestVisits, forestVisits, ih]; omega

/-- The bodies of a forest take fewer visits than the forest. -/
theorem forestVisits_innerTasks (tasks : List Task) :
    forestVisits (innerTasks tasks) + 2 * tasks.length = forestVisits tasks := by
  induction tasks with
  | nil => rfl
  | cons task tasks ih =>
    rw [innerTasks_cons, forestVisits_append, List.length_cons, forestVisits, Task.visits_eq]
    omega

/-- The messages of a forest level by level: its own, those of the bodies of its tasks, and so
on. -/
def levels : List Task → List String
  | [] => []
  | task :: tasks => ownMessages (task :: tasks) ++ levels (innerTasks (task :: tasks))
termination_by tasks => forestVisits tasks
decreasing_by
  have := forestVisits_innerTasks (task :: tasks)
  rw [List.length_cons] at this
  omega

/-- **Sorted by depth, messages come level by level.** -/
theorem mergeSort_placedMessages (depth : Nat) (tasks : List Task) :
    ((placedMessages depth tasks).mergeSort byNumber).map Prod.snd = levels tasks := by
  fun_induction levels tasks generalizing depth with
  | case1 => simp [placedMessages]
  | case2 task tasks ih =>
    rw [mergeSort_of_least fun _ => le_of_mem_placedMessages, placedMessages_filter_eq,
      placedMessages_filter_ne, List.map_append, ih, List.map_map]
    exact congrArg (· ++ _) (List.map_id _)

/-! ## One queue -/

/-- Every task of a forest prints, and has no body, or goes through the queue of the given kind. -/
def GoesThrough (kind : TaskKind) (tasks : List Task) : Prop :=
  ∀ task ∈ forestTasks tasks, task.kind = kind ∨ task.kind = .log ∧ task.body = []

/-- The interpreter where only the queue of the given kind is used. -/
def drainOne (kind : TaskKind) (queue : List (List Task)) : List String :=
  if kind = .microtask then drain queue [] else drain [] queue

section GoesThrough

variable {kind : TaskKind}

theorem goesThrough_cons {task : Task} {tasks : List Task} :
    GoesThrough kind (task :: tasks) ↔
      (task.kind = kind ∨ task.kind = .log ∧ task.body = []) ∧
        GoesThrough kind task.body ∧ GoesThrough kind tasks := by
  simp only [GoesThrough, forestTasks_cons, List.mem_cons, List.mem_append, or_imp, forall_and,
    forall_eq]

theorem goesThrough_append {tasks others : List Task} :
    GoesThrough kind (tasks ++ others) ↔ GoesThrough kind tasks ∧ GoesThrough kind others := by
  simp only [GoesThrough, forestTasks_eq_flatMap, List.flatMap_append, List.mem_append, or_imp,
    forall_and]

theorem GoesThrough.inner {tasks : List Task} (h : GoesThrough kind tasks) :
    GoesThrough kind (innerTasks tasks) := by
  induction tasks with
  | nil => exact h
  | cons task tasks ih =>
    obtain ⟨-, hbody, htasks⟩ := goesThrough_cons.mp h
    exact goesThrough_append.mpr ⟨hbody, ih htasks⟩

/-- All bodies are registered under the kind. -/
theorem GoesThrough.flatten_registered {tasks : List Task} (hkind : kind ≠ .log)
    (h : GoesThrough kind tasks) : (registeredBodies kind tasks).flatten = innerTasks tasks := by
  induction tasks with
  | nil => rfl
  | cons task tasks ih =>
    obtain ⟨htask, -, htasks⟩ := goesThrough_cons.mp h
    unfold registeredBodies at ih ⊢
    rcases htask with hsame | ⟨hlog, hbody⟩
    · simp [hsame, ih htasks]
    · simp [hlog, hkind.symm, hbody, ih htasks]

/-- No body is registered under another kind of callback. -/
theorem GoesThrough.registered_other {tasks : List Task} {other : TaskKind} (hother : other ≠ kind)
    (hlog : other ≠ .log) (h : GoesThrough kind tasks) : registeredBodies other tasks = [] := by
  unfold registeredBodies
  rw [List.map_eq_nil_iff, List.filter_eq_nil_iff]
  intro task hmem heq
  have htask : task ∈ forestTasks tasks := by
    rw [forestTasks_eq_flatMap]
    exact List.mem_flatMap.mpr ⟨task, hmem, by rw [Task.tasks_eq]; exact List.mem_cons_self⟩
  have hkind := of_decide_eq_true heq
  rcases h task htask with hsame | ⟨hprints, -⟩
  · exact hother (hkind.symm.trans hsame)
  · exact hlog (hkind.symm.trans hprints)

/-- The interpreter takes the first body of the queue, and puts the bodies that it registers at the
end. -/
theorem drainOne_cons (hkind : kind = .microtask ∨ kind = .timer) {body : List Task}
    (h : GoesThrough kind body) (queue : List (List Task)) :
    drainOne kind (body :: queue) =
      ownMessages body ++ drainOne kind (queue ++ registeredBodies kind body) := by
  rcases hkind with rfl | rfl
  · simp [drainOne, drain, h.registered_other]
  · simp [drainOne, drain, h.registered_other]

theorem registeredBodies_append (body others : List Task) :
    registeredBodies kind (body ++ others) =
      registeredBodies kind body ++ registeredBodies kind others := by
  simp [registeredBodies]

/-- A queue prints the messages of its bodies, in order, and leaves the bodies that they register
behind those that stood after it. -/
theorem drainOne_append (hkind : kind = .microtask ∨ kind = .timer) {queue : List (List Task)}
    (h : GoesThrough kind queue.flatten) (later : List (List Task)) :
    drainOne kind (queue ++ later) = ownMessages queue.flatten ++
      drainOne kind (later ++ registeredBodies kind queue.flatten) := by
  induction queue generalizing later with
  | nil => simp [ownMessages, registeredBodies]
  | cons body queue ih =>
    obtain ⟨hbody, hqueue⟩ := goesThrough_append.mp h
    rw [List.cons_append, drainOne_cons hkind hbody, List.append_assoc, ih hqueue,
      List.flatten_cons, registeredBodies_append, ownMessages, ownMessages, ownMessages,
      List.flatMap_append, List.append_assoc, List.append_assoc]

/-- The bodies of a level are run before those that they register. -/
theorem drainOne_level (hkind : kind = .microtask ∨ kind = .timer) {queue : List (List Task)}
    {tasks : List Task} (htasks : queue.flatten = tasks) (h : GoesThrough kind tasks) :
    drainOne kind queue = ownMessages tasks ++ drainOne kind (registeredBodies kind tasks) := by
  subst htasks
  have hlevel := drainOne_append hkind h []
  rwa [List.append_nil, List.nil_append] at hlevel

/-- **A single queue is emptied level by level.** -/
theorem drainOne_eq_levels (hkind : kind = .microtask ∨ kind = .timer) {queue : List (List Task)}
    {tasks : List Task} (htasks : queue.flatten = tasks) (h : GoesThrough kind tasks) :
    drainOne kind queue = levels tasks := by
  have hlog : kind ≠ .log := by rcases hkind with rfl | rfl <;> nofun
  fun_induction levels tasks generalizing queue with
  | case1 =>
    rw [drainOne_level hkind htasks h]
    simp [ownMessages, registeredBodies, drainOne, drain]
  | case2 task tasks ih =>
    rw [drainOne_level hkind htasks h, ih (h.flatten_registered hlog) h.inner]

/-- The interpreter prints the messages of a script level by level. -/
theorem queueOutput_eq_levels (hkind : kind = .microtask ∨ kind = .timer) {program : List Task}
    (h : GoesThrough kind program) : queueOutput program = levels program := by
  have hone : queueOutput program = drainOne kind [program] := by
    rw [drainOne_cons hkind h, List.nil_append, queueOutput]
    rcases hkind with rfl | rfl <;> simp [drainOne, h.registered_other]
  rw [hone, drainOne_eq_levels hkind (List.flatten_singleton) h]

end GoesThrough

namespace EventLoop

section Scripts

variable {source : String} {program : List Task} {delay : Int} {events : List Event}

/-- A script whose callbacks are all of one kind goes through one queue. -/
theorem goesThrough_of_parse (h : parse source = .ok program) {kind : TaskKind}
    (hkind : ∀ task ∈ forestTasks program,
      task.kind = .microtask ∨ task.kind = .timer → task.kind = kind) :
    GoesThrough kind program := by
  intro task hmem
  have hread := wellRead_of_parse h task hmem
  cases htask : task.kind with
  | log => exact .inr ⟨rfl, hread.leaf htask⟩
  | main => exact absurd htask hread.not_main
  | microtask => exact .inl (htask ▸ hkind task hmem (.inl htask))
  | timer => exact .inl (htask ▸ hkind task hmem (.inr htask))

/-- Where all timers have one delay, the output of a run that is finished is that of the
interpreter. -/
theorem output_eq_queueOutput (h : parse source = .ok program)
    (hdelay : ∀ task ∈ forestTasks program, task.kind = .timer → task.delay = some delay)
    (hfin : ((start program).replay events).finished = true) :
    ((start program).replay events).output = queueOutput program := by
  have hall := replay_toCome h hdelay events
  rwa [(replay_settled program events hfin).toCome, List.append_nil] at hall

/-- **The output is sorted by depth** where all callbacks of a script are microtasks, or all are
timers with one delay: a run that is finished has printed the messages of the script in the order of
the number of callbacks around them, and those with the same number in the order of the script. -/
theorem output_by_depth (h : parse source = .ok program)
    (hone : (∀ task ∈ forestTasks program, task.kind ≠ .timer) ∨
      ∀ task ∈ forestTasks program, task.kind ≠ .microtask ∧
        (task.kind = .timer → task.delay = some delay))
    (hfin : ((start program).replay events).finished = true) :
    ((start program).replay events).output =
        ((placedMessages 0 program).mergeSort byNumber).map Prod.snd ∧
      (placedMessages 0 program).map Prod.snd = gatherMessages program := by
  have hlevels : queueOutput program = levels program := by
    rcases hone with hnone | hsame
    · refine queueOutput_eq_levels (.inl rfl) (goesThrough_of_parse h fun task hmem hkind => ?_)
      exact hkind.resolve_right (hnone task hmem)
    · refine queueOutput_eq_levels (.inr rfl) (goesThrough_of_parse h fun task hmem hkind => ?_)
      exact hkind.resolve_left (hsame task hmem).1
  have hdelay : ∀ task ∈ forestTasks program, task.kind = .timer → task.delay = some delay := by
    intro task hmem htimer
    rcases hone with hnone | hsame
    · exact absurd htimer (hnone task hmem)
    · exact (hsame task hmem).2 htimer
  refine ⟨?_, placedMessages_snd 0 program⟩
  rw [output_eq_queueOutput h hdelay hfin, hlevels, mergeSort_placedMessages]

/-- A script in which messages that are less deep come later. -/
def deepScript : String :=
  "\n".intercalate [
    "queueMicrotask(() => \x7b",
    "  process.nextTick(() => \x7b",
    "    console.log('two deep')",
    "  \x7d)",
    "  console.log('one deep')",
    "\x7d)",
    "console.log('not deep')"]

/-- The forest of `deepScript`. -/
def deepForest : List Task :=
  [{ id := "task-3", kind := .microtask, content := "queueMicrotask", line := some 1,
     children := some
      [{ id := "task-1", kind := .microtask, content := "process.nextTick", line := some 2,
         children := some
          [{ id := "task-0", kind := .log, content := "two deep", line := some 3 }] },
       { id := "task-2", kind := .log, content := "one deep", line := some 5 }] },
   { id := "task-4", kind := .log, content := "not deep", line := some 7 }]

set_option maxRecDepth 4000 in
theorem parse_deepScript : parse deepScript = .ok deepForest := by
  rw [parse, linesOf, deepScript, String.toList_intercalate]
  with_unfolding_all rfl

/-- A run of `deepForest` with a tick in the middle of each callback. -/
def deepRun : List Event :=
  [.step, .step, .step, .step, .tick 3, .step, .step, .step, .step, .tick (-1), .step, .step, .step]

theorem output_by_depth_deep :
    (∀ task ∈ forestTasks deepForest, task.kind ≠ .timer) ∧
      ((start deepForest).replay deepRun).finished = true ∧
      ((start deepForest).replay deepRun).output = ["not deep", "one deep", "two deep"] ∧
      ((start deepForest).replay deepRun).output =
        ((placedMessages 0 deepForest).mergeSort byNumber).map Prod.snd ∧
      (placedMessages 0 deepForest).map Prod.snd = gatherMessages deepForest :=
  have hnone : ∀ task ∈ forestTasks deepForest, task.kind ≠ .timer := by
    simp [deepForest, Task.body]
  have hfin : ((start deepForest).replay deepRun).finished = true := by
    decide +kernel
  ⟨hnone, hfin, rfl, @output_by_depth _ _ 0 _ parse_deepScript (.inl hnone) hfin⟩

end Scripts

end EventLoop

end LoopStepper
