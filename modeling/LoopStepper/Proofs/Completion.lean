import LoopStepper.Proofs.Places

/-!
# Ids follow completion

A task is complete when its line is read, if it prints, and when its body is, if it is a callback.
So the order of completion is the forest read bottom up: every task behind the tasks of its body
(`forestPostorder`). Ids are drawn from one counter, at the two places where a task is completed,
and nothing else draws from it. Hence the ids of a forest, in this order, go on where the counter
stood, one after the other, and the counter stands behind the last of them
(`readForest_completes`).

Headline:
* **`ids_by_completion`**: the ids of a script, by completion, are those of its number of tasks,
  from zero on, without a gap.
-/

namespace LoopStepper

/-! ## The order of completion -/

mutual

/-- A task and every task inside it, itself last. -/
def Task.postorder : Task → List Task
  | ⟨id, kind, content, delay, children, line⟩ =>
    bodyPostorder children ++ [⟨id, kind, content, delay, children, line⟩]

/-- Every task inside a body that may be missing, each behind its own body. -/
def bodyPostorder : Option (List Task) → List Task
  | none => []
  | some tasks => forestPostorder tasks

/-- Every task of a forest, each behind its own body. -/
def forestPostorder : List Task → List Task
  | [] => []
  | task :: tasks => task.postorder ++ forestPostorder tasks

end

theorem Task.postorder_eq (task : Task) : task.postorder = forestPostorder task.body ++ [task] := by
  obtain ⟨_, _, _, _, children, _⟩ := task
  cases children <;> simp [Task.postorder, bodyPostorder, Task.body, forestPostorder]

@[simp] theorem forestPostorder_nil : forestPostorder [] = [] := by
  rw [forestPostorder]

@[simp] theorem forestPostorder_cons (task : Task) (tasks : List Task) :
    forestPostorder (task :: tasks) =
      forestPostorder task.body ++ task :: forestPostorder tasks := by
  rw [forestPostorder, Task.postorder_eq, List.append_assoc, List.singleton_append]

/-- The order of completion lists the same tasks, each as often. -/
theorem forestPostorder_perm (tasks : List Task) :
    (forestPostorder tasks).Perm (forestTasks tasks) := by
  induction tasks using forest_induction with
  | nil => rw [forestPostorder_nil, forestTasks_nil]
  | cons task tasks ihbody ihtasks =>
    rw [forestPostorder_cons, forestTasks_cons]
    exact List.perm_middle.trans ((ihbody.append ihtasks).cons task)

namespace Script

/-! ## The counter -/

/-- The ids of `n` tasks that are completed one after the other, `count` tasks being complete before
the first of them. -/
def idsFrom (count n : Nat) : List String :=
  (List.range' count n).map taskId

theorem idsFrom_append (count m n : Nat) :
    idsFrom count m ++ idsFrom (count + m) n = idsFrom count (m + n) := by
  rw [idsFrom, idsFrom, idsFrom, ← List.map_append, List.range'_append_1]

theorem idsFrom_one (count : Nat) : idsFrom count 1 = [taskId count] := rfl

/-- The tasks of a reading draw their ids from the counter, which stood at `count`, each when it is
completed, and leave it behind the last. -/
structure Reading.Completes (count : Nat) (reading : Reading) : Prop where
  ids : (forestPostorder reading.tasks).map Task.id =
    idsFrom count (forestTasks reading.tasks).length
  count : reading.count = count + (forestTasks reading.tasks).length

/-- One more task in front: it is completed behind the tasks of its body and before all others. -/
theorem Reading.Completes.push {count : Nat} {task : Task} {body later : Reading}
    (hbody : body.Completes count) (hinside : task.body = body.tasks)
    (hid : task.id = taskId body.count) (hlater : later.Completes (body.count + 1)) :
    (later.push task).Completes count := by
  have hlength : (forestTasks (later.push task).tasks).length =
      (forestTasks body.tasks).length + (1 + (forestTasks later.tasks).length) := by
    simp only [Reading.push, forestTasks_cons, List.length_cons, List.length_append, hinside]
    omega
  refine ⟨?_, ?_⟩
  · have hone := idsFrom_one body.count
    have hnext := hlater.ids
    rw [hbody.count] at hone hnext hid
    rw [hlength, ← idsFrom_append, ← idsFrom_append, hone, ← hnext, ← hbody.ids]
    simp only [Reading.push, forestPostorder_cons, List.map_append, List.map_cons, hinside, hid,
      List.singleton_append]
  · have hnext := hlater.count
    rw [hbody.count] at hnext
    rw [hlength]
    exact hnext.trans (by omega)

/-- **Reading draws ids by completion.** -/
theorem readForest_completes (lines : List Line) (index count : Nat) :
    ∀ reading, readForest lines index count = .ok reading → reading.Completes count := by
  fun_induction readForest lines index count with
  | case1 index count =>
    intro reading h
    obtain rfl := Except.ok.inj h
    exact ⟨rfl, rfl⟩
  | case2 index count line rest hrole ih => exact ih
  | case3 index count line rest message hrole ih =>
    intro reading h
    obtain ⟨later, hlater, h⟩ := bind_eq_ok.mp h
    obtain rfl := Except.ok.inj h
    have hnone : Reading.Completes count { tasks := [], next := index, count } := ⟨rfl, rfl⟩
    exact hnone.push rfl rfl (ih later hlater)
  | case4 index count line rest callback hrole length ihbody ihlater =>
    intro reading h
    obtain ⟨body, hbody, h⟩ := bind_eq_ok.mp h
    obtain ⟨delay, hdelay, h⟩ := bind_eq_ok.mp h
    obtain ⟨later, hlater, h⟩ := bind_eq_ok.mp h
    obtain rfl := Except.ok.inj h
    exact (ihbody body hbody).push rfl rfl (ihlater body later hlater)

/-! ## Scripts -/

/-- A script is read in full, with ids by completion. -/
theorem completes_of_parse {source : String} {program : List Task}
    (h : parse source = .ok program) :
    ∃ reading, readForest (linesOf source) 0 0 = .ok reading ∧ reading.tasks = program ∧
      reading.Completes 0 := by
  rw [parse_eq_readForest] at h
  cases hread : readForest (linesOf source) 0 0 with
  | error error =>
    rw [hread] at h
    cases h
  | ok reading =>
    rw [hread] at h
    exact ⟨reading, rfl, Except.ok.inj h, readForest_completes _ _ _ reading hread⟩

/-- **Ids follow completion without gaps.** The tasks of a script, each behind those in its body,
have the ids from zero on up to their number, one after the other. So no two of them have the same
id, and no line that makes no task takes one. -/
theorem ids_by_completion {source : String} {program : List Task} (h : parse source = .ok program) :
    (forestPostorder program).map Task.id =
        (List.range (forestTasks program).length).map (fun number => "task-" ++ toString number) ∧
      (forestPostorder program).Perm (forestTasks program) ∧
      ((forestTasks program).map Task.id).Nodup := by
  obtain ⟨reading, -, rfl, hcompletes⟩ := completes_of_parse h
  have hids := hcompletes.ids
  rw [idsFrom, ← List.range_eq_range'] at hids
  refine ⟨hids, forestPostorder_perm _, ?_⟩
  have hperm := (forestPostorder_perm reading.tasks).map Task.id
  rw [hids] at hperm
  exact hperm.nodup_iff.mp (List.nodup_range.map taskId_injective)

/-- In a script whose inner body is cut off by the end of the outer one. -/
theorem ids_by_completion_crowded :
    parse crowdedScript = .ok crowdedForest ∧
      (forestPostorder crowdedForest).map Task.line = [some 4, some 3, some 1] ∧
      (forestPostorder crowdedForest).map Task.id = ["task-0", "task-1", "task-2"] :=
  ⟨parse_crowdedScript, rfl, (ids_by_completion parse_crowdedScript).1⟩

end Script

end LoopStepper
