import LoopStepper.EventLoop.Snapshot
import LoopStepper.Proofs.Checkpoints

/-!
# Ids

What a loop shows is told apart by ids. They have three sources: the frame of the script has an id
of its own, a timer keeps the id of its task on the way from the timer table to its frame, and a
microtask gets a number when it is queued. An id is given once along a run (`givenIds_nodup`),
because no task is executed twice. And whatever has an id got it at one of these places and hands it
on when it moves, so the ids in use at any moment are some of those given so far, none of them twice
(`replay_shownIds`).

Headline:
* **`ids_unique`**: in every state of every run of a script the ids shown are distinct, and no task
  of the script registers its callback twice.
-/

namespace LoopStepper

open Script

/-! ## What a snapshot shows -/

namespace Datum

/-- The ids of the things listed in a part of a value. -/
def idsIn (view : Datum) (key : String) : Except ShapeError (List Datum) := do
  (← (← view.part key).items).mapM (part "id")

/-- The ids of the frames, the timers that wait and the entries of both queues in a snapshot. -/
def shownIds (view : Datum) : Except ShapeError (List Datum) := do
  return (← view.idsIn "call_stack") ++ (← view.idsIn "web_apis") ++
    (← view.idsIn "microtask_queue") ++ (← view.idsIn "macrotask_queue")

end Datum

namespace EventLoop

/-- The ids of the frames, of the timers that wait and of the entries of both queues. -/
def shownIds (loop : EventLoop) : List String :=
  loop.stack.map Frame.id ++ loop.pending.map (·.task.id) ++ loop.microtasks.map Task.id ++
    loop.macrotasks.map Task.id

/-- Things that show an id each are listed with these ids. -/
theorem mapM_part_id {α : Type} {view : α → Datum} {id : α → String}
    (h : ∀ a, (view a).part "id" = .ok (.text (id a))) (things : List α) :
    (things.map view).mapM (Datum.part "id") = .ok ((things.map id).map .text) := by
  induction things with
  | nil => rfl
  | cons a things ih =>
    simp only [List.map_cons, List.mapM_cons, h, ih, bind, Except.bind, pure, Except.pure]

/-- **A snapshot shows the ids of its loop.** -/
theorem snapshot_shownIds (loop : EventLoop) : ∃ ids,
    loop.snapshot.shownIds = .ok ids ∧ ids.Perm (loop.shownIds.map .text) := by
  have hframes : loop.snapshot.idsIn "call_stack" =
      .ok ((loop.stack.reverse.map Frame.id).map .text) := mapM_part_id (fun _ => rfl) _
  have htimers : loop.snapshot.idsIn "web_apis" =
      .ok ((loop.pending.map (·.task.id)).map .text) := mapM_part_id (fun _ => rfl) _
  have hmicros : loop.snapshot.idsIn "microtask_queue" =
      .ok ((loop.microtasks.map Task.id).map .text) := mapM_part_id (fun _ => rfl) _
  have hmacros : loop.snapshot.idsIn "macrotask_queue" =
      .ok ((loop.macrotasks.map Task.id).map .text) := mapM_part_id (fun _ => rfl) _
  refine ⟨_, by rw [Datum.shownIds, hframes, htimers, hmicros, hmacros]; rfl, ?_⟩
  simp only [shownIds, List.map_append, List.map_reverse]
  exact ((((List.reverse_perm _).append_right _).append_right _).append_right _)

/-! ## Ids that are in use -/

/-- The ids in use as a multiset, place by place. -/
theorem coe_shownIds (loop : EventLoop) : (loop.shownIds : Multiset String) =
    ↑(loop.stack.map Frame.id) + ↑(loop.pending.map (·.task.id)) + ↑(loop.microtasks.map Task.id) +
      ↑(loop.macrotasks.map Task.id) := by
  simp only [shownIds, ← Multiset.coe_add]

/-- What a step leaves in use was in use before, or belongs to the timer or the microtask that is
registered now. -/
theorem Stepped.shownIds_subperm {loop next : EventLoop} {ran : List Task}
    (h : Stepped loop ran next) :
    next.shownIds.Subperm (loop.shownIds ++ ((ran.flatMap loop.timersOf).map (·.task.id) ++
      (ran.flatMap loop.entriesOf).map Task.id)) := by
  cases h with
  | rest | finish | wait => exact (List.sublist_append_left _ _).subperm
  | @leave top below hlive hstack hend =>
    have hbelow : (below.map Frame.id).Sublist (loop.stack.map Frame.id) :=
      hstack ▸ (List.sublist_cons_self top below).map Frame.id
    simp only [shownIds, List.flatMap_nil, List.map_nil, List.append_nil, List.append_assoc]
    exact (hbelow.append_right _).subperm
  | @execute top below task hlive hstack hnext =>
    refine List.Perm.subperm (Multiset.coe_eq_coe.mp ?_)
    simp only [← Multiset.coe_add, coe_shownIds, perform_stack, perform_pending, perform_microtasks,
      perform_macrotasks, timersOf_frames, entriesOf_frames, hstack, List.map_append,
      List.flatMap_singleton, List.map_cons]
    abel
  | @microtask entry later hlive hstack hmicros =>
    refine List.Perm.subperm (Multiset.coe_eq_coe.mp ?_)
    simp only [← Multiset.coe_add, coe_shownIds, enter, Frame.ofEntry, hstack, hmicros,
      List.flatMap_nil, List.map_cons, List.map_nil, ← Multiset.cons_coe, ← Multiset.singleton_add,
      Multiset.coe_nil]
    abel
  | @macrotask entry later hlive hstack hmicros hmacros =>
    refine List.Perm.subperm (Multiset.coe_eq_coe.mp ?_)
    simp only [← Multiset.coe_add, coe_shownIds, enter, Frame.ofEntry, hstack, hmacros,
      List.flatMap_nil, List.map_cons, List.map_nil, ← Multiset.cons_coe, ← Multiset.singleton_add,
      Multiset.coe_nil]
    abel

/-- A tick keeps the ids in use. -/
theorem shownIds_advance (loop : EventLoop) (ms : Int) :
    (loop.advance ms).shownIds.Perm loop.shownIds := by
  have hsift := (List.filter_append_perm (·.isDue) loop.pending).map (·.task.id)
  rw [List.map_append, ← Multiset.coe_eq_coe, ← Multiset.coe_add] at hsift
  have hpending : (loop.advance ms).pending.map (·.task.id) =
      (loop.pending.filter (!·.isDue)).map (·.task.id) := by
    simp [advance, Function.comp_def]
  have hmacros : (loop.advance ms).macrotasks.map Task.id =
      loop.macrotasks.map Task.id ++ (loop.pending.filter (·.isDue)).map (·.task.id) := by
    simp [advance, Function.comp_def, PendingTimer.promoted]
  rw [← Multiset.coe_eq_coe, coe_shownIds, coe_shownIds, hpending, hmacros, ← hsift,
    ← Multiset.coe_add]
  change (loop.stack.map Frame.id : Multiset String) + _ + (loop.microtasks.map Task.id) + _ = _
  abel

/-! ## Ids that are given -/

/-- The ids given along a run of a forest: to the frame of the script, to the timers registered and
to the microtasks queued. -/
def givenIds (program : List Task) (events : List Event) : List String :=
  "main" :: ((registered program events).map (·.task.id) ++ (entries program events).map Task.id)

/-- **What is in use was given.** -/
theorem replay_shownIds (program : List Task) (events : List Event) :
    ((start program).replay events).shownIds.Subperm (givenIds program events) := by
  induction events using run_induction with
  | init => exact .refl _
  | step events ih =>
    rw [replay_step]
    refine ((stepped _).shownIds_subperm.trans ((List.subperm_append_right _).mpr ih)).trans ?_
    rw [givenIds, givenIds, registered_step, entries_step, List.map_append, List.map_append]
    refine List.Perm.subperm (Multiset.coe_eq_coe.mp ?_)
    simp only [← Multiset.coe_add, ← Multiset.cons_coe, ← Multiset.singleton_add]
    abel
  | tick events ms ih =>
    rw [replay_tick, givenIds, registered_tick, entries_tick]
    exact (shownIds_advance _ ms).subperm.trans ih

/-! ## Registrations -/

/-- The entries that an event puts behind those in the microtask queue. -/
def enqueuedBy (loop : EventLoop) (event : Event) : List Task :=
  (loop.apply event).microtasks.drop loop.microtasks.length

/-- The entries put into the microtask queue along a run of a forest. -/
def enqueued (program : List Task) (events : List Event) : List Task :=
  trace enqueuedBy (start program) events

/-- A step puts the entry of its instruction into the microtask queue. -/
theorem enqueuedBy_step (loop : EventLoop) :
    loop.enqueuedBy .step = (loop.executedBy .step).flatMap loop.entriesOf := by
  unfold enqueuedBy
  rw [apply]
  have h := loop.stepped
  generalize loop.executedBy .step = ran at h ⊢
  generalize loop.step = next at h ⊢
  cases h with
  | execute hlive hstack hnext => simp
  | microtask hlive hstack hmicros => simp [enter, hmicros]
  | rest | leave | macrotask | finish | wait => exact List.drop_length

/-- **What is put into the microtask queue are the numbered entries of the registrations.** -/
theorem enqueued_eq (program : List Task) (events : List Event) :
    enqueued program events = entries program events := by
  unfold enqueued
  induction events using run_induction with
  | init => rfl
  | step events ih => rw [trace_concat, ih, enqueuedBy_step, entries_step]
  | tick events ms ih =>
    rw [trace_concat, ih, entries_tick, enqueuedBy, apply, advance, List.drop_length,
      List.append_nil]

/-! ## Scripts -/

/-- The ids along a run. -/
structure Identified (program : List Task) (events : List Event) : Prop where
  /-- A snapshot shows the ids of the frames, the timers and the entries of both queues. -/
  snapshot : ∃ ids, ((start program).replay events).snapshot.shownIds = .ok ids ∧
    ids.Perm (((start program).replay events).shownIds.map .text)
  /-- No id is shown twice. -/
  shown : ((start program).replay events).shownIds.Nodup
  /-- No two tasks of the script have the same id. -/
  tasks : (forestIds program).Nodup
  /-- The timers that come into the timer table are those of timer tasks of the script, none of
  which registers its timer twice. -/
  timers : (∀ timer ∈ registered program events,
      timer.task ∈ forestTasks program ∧ timer.task.kind = .timer) ∧
    ((registered program events).map (·.task.id)).Nodup
  /-- The entries that come into the microtask queue are those of microtask tasks of the script,
  none of which registers its entry twice. -/
  microtasks : enqueued program events = (registrations program events).mapIdx numberedEntry ∧
    (∀ task ∈ registrations program events, task ∈ forestTasks program ∧ task.kind = .microtask) ∧
    ((registrations program events).map Task.id).Nodup

section Scripts

variable {source : String} {program : List Task}

/-- The ids of the tasks of a script are numbered. -/
theorem exists_taskId (h : parse source = .ok program) :
    ∀ task ∈ forestTasks program, ∃ number, task.id = taskId number :=
  parse_forall (fun number _ _ => ⟨number, rfl⟩) (fun _ number _ _ _ => ⟨number, rfl⟩) h

theorem microId_ne_taskId (number other : Nat) : "micro-" ++ toString number ≠ taskId other := by
  intro h
  have hletters := congrArg String.toList h
  simp [taskId, String.toList_append] at hletters

/-- **Along a run of a script no id is given twice.** -/
theorem givenIds_nodup (h : parse source = .ok program) (events : List Event) :
    (givenIds program events).Nodup := by
  have htimer : ∀ id ∈ (registered program events).map (·.task.id),
      ∃ number, id = taskId number := by
    intro id hmem
    obtain ⟨timer, htimer, rfl⟩ := List.mem_map.mp hmem
    exact exists_taskId h timer.task (registered_task h htimer).1
  have hentry : ∀ id ∈ (entries program events).map Task.id,
      ∃ number : Nat, id = "micro-" ++ toString number := by
    intro id hmem
    rw [id_entries] at hmem
    obtain ⟨number, -, rfl⟩ := List.mem_map.mp hmem
    exact ⟨number, rfl⟩
  refine List.nodup_cons.mpr ⟨fun hmem => ?_, List.nodup_append.mpr ⟨?_, ?_, ?_⟩⟩
  · rcases List.mem_append.mp hmem with hmem | hmem
    · obtain ⟨number, hid⟩ := htimer _ hmem
      simpa [taskId, String.toList_append] using congrArg String.toList hid
    · obtain ⟨number, hid⟩ := hentry _ hmem
      simpa [String.toList_append] using congrArg String.toList hid
  · exact registered_ids_nodup h events
  · rw [id_entries]
    refine List.nodup_range.map fun m n heq => ?_
    exact toString_injective ((String.append_right_inj _).mp heq)
  · intro id hid other hother heq
    obtain ⟨number, rfl⟩ := htimer id hid
    obtain ⟨count, rfl⟩ := hentry other hother
    exact microId_ne_taskId count number heq.symm

/-- **Ids are unique.** In every state that a run of a script reaches, the ids shown are distinct;
and along the run no task registers its timer or its microtask twice. -/
theorem ids_unique (h : parse source = .ok program) (events : List Event) :
    Identified program events := by
  have hmicros : (registrations program events).Sublist (executed program events) :=
    List.filter_sublist
  refine ⟨snapshot_shownIds _, ?_, parse_ids_nodup h,
    ⟨fun timer hmem => registered_task h hmem, registered_ids_nodup h events⟩,
    enqueued_eq program events, fun task hmem => ?_, ?_⟩
  · obtain ⟨ids, hperm, hsub⟩ := replay_shownIds program events
    exact hperm.nodup_iff.mp ((givenIds_nodup h events).sublist hsub)
  · exact ⟨executed_subset h events (hmicros.subset hmem),
      of_decide_eq_true (List.mem_filter.mp hmem).2⟩
  · exact (executed_ids_nodup h events).sublist (hmicros.map Task.id)

theorem ids_unique_nested :
    parse nestedScript = .ok nestedForest ∧
      ((start nestedForest).replay halfRun).shownIds = ["task-6", "task-8", "micro-0"] ∧
      Identified nestedForest halfRun :=
  ⟨parse_nestedScript, rfl, ids_unique parse_nestedScript halfRun⟩

end Scripts

end EventLoop

end LoopStepper
