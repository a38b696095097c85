import LoopStepper.Proofs.Forest
import LoopStepper.Script.Parse
import Mathlib.Data.List.Nodup

/-!
# What the reader guarantees

Every task of a script comes from one of two places of the reader: a line that prints, or the end
of a body. So what holds of the tasks made there holds of every task of the forest, at every depth
(`parse_forall`). The first things to follow are that printing tasks have no body, that the kind
`main` does not occur, and that every timer has a delay (`wellRead_of_parse`).

The numbers of the tasks are those of the counter, each once, so no two tasks of a script have the
same id (`parse_ids_nodup`).
-/

namespace LoopStepper.Script

/-! ## Every task at once -/

/-- What holds of each task at its making, and of all tasks made before, holds of every task of
the forest that is read. -/
theorem readLines_forall {motive : Task → Prop}
    (hprint : ∀ number index message, motive (printTask number index message))
    (hbody : ∀ (body : OpenBody) number delay children, body.delay = .ok delay →
      motive (body.task number delay children))
    {lines : List Line} {index : Nat} {done : List Task} {bodies : List OpenBody} {count : Nat}
    {tasks : List Task} {stop : Nat}
    (h : readLines lines index done bodies count = .ok (tasks, stop))
    (hdone : ∀ task ∈ forestTasks done, motive task)
    (hopen : ∀ body ∈ bodies, ∀ task ∈ forestTasks body.before, motive task) :
    ∀ task ∈ forestTasks tasks, motive task := by
  fun_induction readLines lines index done bodies count with
  | case1 index done bodies count line rest hrole ih => exact ih h hdone hopen
  | case2 index done bodies count line rest message hrole ih =>
    refine ih h ?_ hopen
    simp only [forestTasks_cons, List.mem_cons, List.mem_append]
    rintro task (rfl | hin | hin)
    · exact hprint _ _ _
    · exact absurd hin (by simp [printTask, Task.body])
    · exact hdone task hin
  | case3 index done bodies count line rest callback hrole length ih =>
    refine ih h (by simp) ?_
    intro body hmem
    rcases List.mem_cons.mp hmem with rfl | hmem
    · exact hdone
    · exact hopen body hmem
  | case4 index done count =>
    obtain ⟨rfl, -⟩ := Prod.mk.inj (Except.ok.inj h)
    intro task hin
    exact hdone task ((forestTasks_reverse_perm done).mem_iff.mp hin)
  | case5 index done count body bodies error herror => exact absurd h (by simp)
  | case6 index done count body bodies delay hdelay ih =>
    simp only [List.unattach_reverse, List.unattach_attach] at ih
    refine ih h ?_ fun body hmem => hopen body (List.mem_cons_of_mem _ hmem)
    simp only [forestTasks_cons, List.mem_cons, List.mem_append]
    rintro task (rfl | hin | hin)
    · exact hbody body _ delay _ hdelay
    · exact hdone task ((forestTasks_reverse_perm done).mem_iff.mp hin)
    · exact hopen body List.mem_cons_self task hin

/-- The tasks of a script that is read, as the reader leaves them. -/
theorem readLines_of_parse {source : String} {program : List Task}
    (h : parse source = .ok program) :
    ∃ stop, readLines (linesOf source) 0 [] [] 0 = .ok (program, stop) := by
  unfold parse at h
  cases hread : readLines (linesOf source) 0 [] [] 0 with
  | error error => rw [hread] at h; exact absurd h (by simp [Except.map])
  | ok result =>
    rw [hread] at h
    obtain ⟨tasks, stop⟩ := result
    have htasks : tasks = program := Except.ok.inj h
    exact ⟨stop, by rw [htasks]⟩

/-- **What holds of each task at its making holds of every task of a script.** -/
theorem parse_forall {motive : Task → Prop}
    (hprint : ∀ number index message, motive (printTask number index message))
    (hbody : ∀ (body : OpenBody) number delay children, body.delay = .ok delay →
      motive (body.task number delay children))
    {source : String} {program : List Task} (h : parse source = .ok program) :
    ∀ task ∈ forestTasks program, motive task := by
  obtain ⟨stop, hread⟩ := readLines_of_parse h
  exact readLines_forall hprint hbody hread (by simp) (by simp)

/-! ## Shape -/

/-- The shape of a task that was read. -/
structure WellRead (task : Task) : Prop where
  /-- A task that prints has no body. -/
  leaf : task.kind = .log → task.body = []
  not_main : task.kind ≠ .main
  /-- A timer has a delay, which is not negative. -/
  timed : task.kind = .timer → ∃ n : Nat, task.delay = some (n : Int)

theorem printTask_wellRead (number index : Nat) (message : String) :
    WellRead (printTask number index message) where
  leaf _ := rfl
  not_main := by simp [printTask]
  timed h := absurd h (by simp [printTask])

/-- The delay of a body that goes through the timer table. -/
theorem OpenBody.delay_timer {body : OpenBody} (hkind : body.callback.kind = .timer)
    {delay : Option Int} (h : body.delay = .ok delay) : ∃ n : Nat, delay = some (n : Int) := by
  obtain ⟨callback, _, _, rest, _⟩ := body
  cases callback with
  | timeout =>
    cases rest with
    | nil => exact ⟨0, (Except.ok.inj h).symm⟩
    | cons closing rest =>
      simp only [OpenBody.delay] at h
      cases hread : readDelay closing with
      | error error =>
        rw [hread] at h
        exact nomatch h
      | ok n =>
        rw [hread] at h
        exact ⟨n, (Except.ok.inj h).symm⟩
  | immediate => exact ⟨0, (Except.ok.inj h).symm⟩
  | promise | microtask | nextTick => exact absurd hkind (by simp [Callback.kind])

theorem OpenBody.task_wellRead (body : OpenBody) (number : Nat) {delay : Option Int}
    (children : List Task) (h : body.delay = .ok delay) :
    WellRead (body.task number delay children) where
  leaf hkind := by
    change body.callback.kind = .log at hkind
    cases hcb : body.callback <;> simp [hcb, Callback.kind] at hkind
  not_main := by
    change body.callback.kind ≠ .main
    cases body.callback <;> simp [Callback.kind]
  timed hkind := body.delay_timer hkind h

/-- Every task of a script is well read. -/
theorem wellRead_of_parse {source : String} {program : List Task} (h : parse source = .ok program) :
    ∀ task ∈ forestTasks program, WellRead task :=
  parse_forall printTask_wellRead
    (fun body number _ children hdelay => body.task_wellRead number children hdelay) h

/-! ## Numbers -/

/-- The ids of a forest in the order of the script. -/
def forestIds (tasks : List Task) : List String :=
  (forestTasks tasks).map Task.id

/-- The ids given out before the bodies were opened. -/
def openIds (bodies : List OpenBody) : List String :=
  bodies.flatMap fun body => forestIds body.before

/-- The first `count` ids. -/
def firstIds (count : Nat) : List String :=
  (List.range count).map taskId

theorem firstIds_succ (count : Nat) : firstIds (count + 1) = firstIds count ++ [taskId count] := by
  simp [firstIds, List.range_succ]

theorem forestIds_reverse_perm (tasks : List Task) :
    (forestIds tasks.reverse).Perm (forestIds tasks) :=
  (forestTasks_reverse_perm tasks).map Task.id

/-- One more task, the next id: the ids in use are the first ones again. -/
theorem perm_firstIds_succ {ids : List String} {count : Nat} (h : ids.Perm (firstIds count)) :
    (taskId count :: ids).Perm (firstIds (count + 1)) := by
  rw [firstIds_succ]
  exact (h.cons _).trans (List.perm_append_singleton _ _).symm

/-- **The counter runs through the ids**: where those in use are the first ones, those of the
forest that is read are the first ones as well. -/
theorem readLines_ids {lines : List Line} {index : Nat} {done : List Task}
    {bodies : List OpenBody} {count : Nat} {tasks : List Task} {stop : Nat}
    (h : readLines lines index done bodies count = .ok (tasks, stop))
    (hids : (forestIds done ++ openIds bodies).Perm (firstIds count)) :
    ∃ total, (forestIds tasks).Perm (firstIds total) := by
  fun_induction readLines lines index done bodies count with
  | case1 index done bodies count line rest hrole ih => exact ih h hids
  | case2 index done bodies count line rest message hrole ih =>
    refine ih h ?_
    have hprint : forestIds (printTask count index message :: done) =
        taskId count :: forestIds done := by
      simp [forestIds, printTask, Task.body]
    rw [hprint, List.cons_append]
    exact perm_firstIds_succ hids
  | case3 index done bodies count line rest callback hrole length ih =>
    refine ih h ?_
    simpa [openIds, forestIds] using hids
  | case4 index done count =>
    obtain ⟨rfl, -⟩ := Prod.mk.inj (Except.ok.inj h)
    refine ⟨count, (forestIds_reverse_perm done).trans ?_⟩
    simpa [openIds] using hids
  | case5 index done count body bodies error herror => exact absurd h (by simp)
  | case6 index done count body bodies delay hdelay ih =>
    simp only [List.unattach_reverse, List.unattach_attach] at ih
    refine ih h ?_
    have hclose : forestIds (body.task count delay done.reverse :: body.before) =
        taskId count :: (forestIds done.reverse ++ forestIds body.before) := by
      simp [forestIds, OpenBody.task, Task.body]
    have hopen : openIds (body :: bodies) = forestIds body.before ++ openIds bodies := by
      simp [openIds]
    rw [hopen] at hids
    rw [hclose, List.cons_append, List.append_assoc]
    exact perm_firstIds_succ (((forestIds_reverse_perm done).append_right _).trans hids)

/-- The decimal digits of a number determine it. -/
theorem toString_injective : Function.Injective (toString : Nat → String) := by
  intro m n h
  have hdigits : Nat.toDigits 10 m = Nat.toDigits 10 n := by
    rw [Nat.toString_eq_ofList_toDigits, Nat.toString_eq_ofList_toDigits] at h
    exact String.ofList_injective h
  calc m = Nat.ofDigitChars 10 (Nat.toDigits 10 m) 0 := Nat.ofDigitChars_ten_toDigits.symm
    _ = Nat.ofDigitChars 10 (Nat.toDigits 10 n) 0 := by rw [hdigits]
    _ = n := Nat.ofDigitChars_ten_toDigits

theorem taskId_injective : Function.Injective taskId := by
  intro m n h
  exact toString_injective ((String.append_right_inj "task-").mp h)

theorem firstIds_nodup (count : Nat) : (firstIds count).Nodup :=
  List.nodup_range.map taskId_injective

/-- **No two tasks of a script have the same id.** -/
theorem parse_ids_nodup {source : String} {program : List Task} (h : parse source = .ok program) :
    (forestIds program).Nodup := by
  obtain ⟨stop, hread⟩ := readLines_of_parse h
  obtain ⟨total, hperm⟩ := readLines_ids hread (by simp [forestIds, openIds, firstIds])
  exact hperm.nodup_iff.mpr (firstIds_nodup total)

/-! ## A script to run -/

/-- A script with a microtask and a timer inside a timer; all timers have one delay. -/
def nestedScript : String :=
  "\n".intercalate [
    "console.log('one')",
    "setTimeout(() => \x7b",
    "  console.log('two')",
    "  queueMicrotask(() => \x7b",
    "    console.log('three')",
    "  \x7d)",
    "  setTimeout(() => \x7b",
    "    console.log('four')",
    "  \x7d, 5)",
    "\x7d, 5)",
    "setTimeout(() => \x7b",
    "  console.log('five')",
    "\x7d, 5)"]

/-- The forest of `nestedScript`. -/
def nestedForest : List Task :=
  [{ id := "task-0", kind := .log, content := "one", line := some 1 },
   { id := "task-6", kind := .timer, content := "setTimeout", delay := some 5, line := some 2,
     children := some
       [{ id := "task-1", kind := .log, content := "two", line := some 3 },
        { id := "task-3", kind := .microtask, content := "queueMicrotask", line := some 4,
          children := some
            [{ id := "task-2", kind := .log, content := "three", line := some 5 }] },
        { id := "task-5", kind := .timer, content := "setTimeout", delay := some 5, line := some 7,
          children := some
            [{ id := "task-4", kind := .log, content := "four", line := some 8 }] }] },
   { id := "task-8", kind := .timer, content := "setTimeout", delay := some 5, line := some 11,
     children := some
       [{ id := "task-7", kind := .log, content := "five", line := some 12 }] }]

set_option maxRecDepth 4000 in
theorem parse_nestedScript : parse nestedScript = .ok nestedForest := by
  rw [parse, linesOf, nestedScript, String.toList_intercalate]
  -- The reader goes on by a measure, and is not unfolded otherwise.
  with_unfolding_all rfl

end LoopStepper.Script
