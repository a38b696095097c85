import LoopStepper.Proofs.Parsed
import LoopStepper.Proofs.Steps
import Mathlib.Algebra.Order.Group.Multiset
import Mathlib.Tactic.Abel

/-!
# Conservation of work

A body travels: it is part of the forest, then of a frame, then it waits in the timer table or in a
queue, and at last it is a frame itself. `tasksAhead` lists every task in all of these places, and
what a step executes leaves that list (`Stepped.ahead_perm`), while a tick only moves bodies
around in it (`advance_ahead_perm`). So at every moment of every run the tasks executed and the
tasks ahead are together those of the script (`replay_ahead_perm`).

The one premise is that the tasks that register nothing have nothing inside them (`Leafy`): a
printing task with a body would be executed and its body would never run. Every forest that was read
meets it.

Headline:
* **`messages_conserved`**: the messages printed and the messages ahead are, up to order, the
  messages of the script; when the run is finished, the printed ones alone are.
-/

namespace LoopStepper

open Script

namespace EventLoop

/-- Every task that is still to be executed: in the rest of a frame, in the body of a timer that
waits, or in the body of a queue entry. -/
def tasksAhead (loop : EventLoop) : List Task :=
  loop.stack.flatMap (fun frame => forestTasks frame.ahead) ++
    loop.pending.flatMap (fun timer => forestTasks timer.task.body) ++
    loop.microtasks.flatMap (fun entry => forestTasks entry.body) ++
    loop.macrotasks.flatMap (fun entry => forestTasks entry.body)

/-- The messages that are still to be printed, place by place. -/
def messagesAhead (loop : EventLoop) : List String :=
  loop.stack.flatMap (fun frame => gatherMessages frame.ahead) ++
    loop.pending.flatMap (fun timer => gatherMessages timer.task.body) ++
    loop.microtasks.flatMap (fun entry => gatherMessages entry.body) ++
    loop.macrotasks.flatMap (fun entry => gatherMessages entry.body)

/-- The messages ahead are those of the tasks ahead. -/
theorem messagesAhead_eq (loop : EventLoop) :
    loop.messagesAhead = loop.tasksAhead.flatMap Task.ownMessage := by
  simp only [messagesAhead, tasksAhead, gatherMessages_eq, List.flatMap_append,
    List.flatMap_assoc]

theorem tasksAhead_start (program : List Task) :
    (start program).tasksAhead = forestTasks program := by
  simp [tasksAhead, start, mainFrame, Frame.ahead]

/-- A settled loop has nothing ahead. -/
theorem Settled.messagesAhead {loop : EventLoop} (h : loop.Settled) : loop.messagesAhead = [] := by
  simp [EventLoop.messagesAhead, h.stack, h.pending, h.microtasks, h.macrotasks]

/-! ## One event -/

/-- A task that registers no callback has no body. -/
def Leafy (task : Task) : Prop :=
  task.kind = .log ∨ task.kind = .main → task.body = []

theorem leafy_of_wellRead {task : Task} (h : WellRead task) : Leafy task := by
  rintro (hlog | hmain)
  · exact h.leaf hlog
  · exact absurd hmain h.not_main

/-- The body of an instruction goes into the timer table or into the microtask queue, whole. -/
theorem body_handed_on (loop : EventLoop) {task : Task} (h : Leafy task) :
    forestTasks task.body =
      (loop.timersOf task).flatMap (fun timer => forestTasks timer.task.body) ++
        (loop.entriesOf task).flatMap (fun entry => forestTasks entry.body) := by
  unfold Leafy at h
  unfold timersOf entriesOf
  cases hkind : task.kind with
  | log => simp [h (.inl hkind)]
  | main => simp [h (.inr hkind)]
  | timer => simp
  | microtask => simp [microtaskEntry, Task.body]

/-- A loop that enters an entry has the body of the entry ahead, besides what it had before. -/
theorem enter_ahead_perm (loop : EventLoop) (hstack : loop.stack = []) (entry : Task)
    (name : String) (kind : TaskKind) :
    (loop.enter entry name kind).tasksAhead.Perm (forestTasks entry.body ++ loop.tasksAhead) := by
  rw [tasksAhead, tasksAhead, hstack]
  simp [enter, Frame.ofEntry, Frame.ahead]

/-- **What a step executes is no longer ahead, all else still is.** -/
theorem Stepped.ahead_perm {loop next : EventLoop} {ran : List Task} (h : Stepped loop ran next)
    (hleafy : ∀ task ∈ ran, Leafy task) : (ran ++ next.tasksAhead).Perm loop.tasksAhead := by
  cases h with
  | rest hfin => exact .refl _
  | leave hlive hstack hend =>
    rw [List.nil_append, tasksAhead, tasksAhead, hstack]
    simp [Frame.ahead_eq_nil hend]
  | @execute top below task hlive hstack hnext =>
    -- the body of the task leaves the frame and is found again where it was handed on to
    have hbody := body_handed_on loop (hleafy task List.mem_cons_self)
    rw [tasksAhead, tasksAhead, hstack, List.flatMap_cons, Frame.ahead_eq_cons hnext,
      forestTasks_cons, hbody]
    simp only [perform_stack, perform_pending, perform_microtasks, perform_macrotasks,
      timersOf_frames, entriesOf_frames, List.flatMap_cons, List.flatMap_append]
    rw [← Multiset.coe_eq_coe]
    simp only [← Multiset.coe_add, ← Multiset.cons_coe, ← Multiset.singleton_add, Multiset.coe_nil]
    abel
  | @microtask entry later hlive hstack hmicros =>
    refine (enter_ahead_perm { loop with microtasks := later } hstack entry _ _).trans ?_
    rw [tasksAhead, tasksAhead, hmicros, List.flatMap_cons, ← Multiset.coe_eq_coe]
    simp only [← Multiset.coe_add]
    abel
  | @macrotask entry later hlive hstack hmicros hmacros =>
    refine (enter_ahead_perm { loop with macrotasks := later } hstack entry _ _).trans ?_
    rw [tasksAhead, tasksAhead, hmacros, List.flatMap_cons, ← Multiset.coe_eq_coe]
    simp only [← Multiset.coe_add]
    abel
  | finish hlive hstack hmicros hmacros hpending => exact .refl _
  | wait hlive hstack hmicros hmacros hpending => exact .refl _

/-- What a step executes was ahead. -/
theorem Stepped.ran_subset {loop next : EventLoop} {ran : List Task} (h : Stepped loop ran next) :
    ran ⊆ loop.tasksAhead := by
  cases h with
  | @execute top below task hlive hstack hnext =>
    simp [tasksAhead, hstack, Frame.ahead_eq_cons hnext]
  | rest | leave | microtask | macrotask | finish | wait => exact List.nil_subset _

/-- A tick leaves the same tasks ahead. -/
theorem advance_ahead_perm (loop : EventLoop) (ms : Int) :
    (loop.advance ms).tasksAhead.Perm loop.tasksAhead := by
  have hsift := (List.filter_append_perm (·.isDue) loop.pending).flatMap_right
    fun timer => forestTasks timer.task.body
  rw [List.flatMap_append, ← Multiset.coe_eq_coe, ← Multiset.coe_add] at hsift
  rw [tasksAhead, tasksAhead, ← Multiset.coe_eq_coe]
  simp only [advance, List.flatMap_append, List.flatMap_map, PendingTimer.wait_task,
    PendingTimer.promoted_body, ← Multiset.coe_add]
  rw [← hsift]
  abel

/-! ## A run -/

/-- The instructions executed along a run of a forest. -/
def executed (program : List Task) (events : List Event) : List Task :=
  trace executedBy (start program) events

/-- **The tasks executed and the tasks ahead are those of the script.** -/
theorem replay_ahead_perm {program : List Task} (hleafy : ∀ task ∈ forestTasks program, Leafy task)
    (events : List Event) :
    (executed program events ++ ((start program).replay events).tasksAhead).Perm
      (forestTasks program) := by
  unfold executed
  induction events using run_induction with
  | init => rw [trace, replay_nil, List.nil_append, tasksAhead_start]
  | step events ih =>
    rw [trace_concat, replay_step, List.append_assoc]
    refine .trans (.append_left _ ?_) ih
    generalize (start program).replay events = loop at ih ⊢
    refine loop.stepped.ahead_perm fun task hran => hleafy task (ih.mem_iff.mp ?_)
    exact List.mem_append_right _ (loop.stepped.ran_subset hran)
  | tick events ms ih =>
    rw [trace_concat, replay_tick, executedBy, List.append_nil]
    exact ((advance_ahead_perm _ ms).append_left _).trans ih

/-- The output of a run is what its instructions print, in order. -/
theorem replay_output (program : List Task) (events : List Event) :
    ((start program).replay events).output =
      (executed program events).flatMap Task.ownMessage := by
  unfold executed
  induction events using run_induction with
  | init => rfl
  | step events ih =>
    rw [trace_concat, replay_step, List.flatMap_append, ← ih]
    exact (stepped _).output
  | tick events ms ih =>
    rw [trace_concat, replay_tick, executedBy, List.append_nil, ← ih]
    rfl

/-! ## Scripts -/

section Scripts

variable {source : String} {program : List Task}

theorem leafy_of_parse (h : parse source = .ok program) :
    ∀ task ∈ forestTasks program, Leafy task :=
  fun task hmem => leafy_of_wellRead (wellRead_of_parse h task hmem)

/-- What a run of a script executes is part of the script. -/
theorem executed_subset (h : parse source = .ok program) (events : List Event) :
    executed program events ⊆ forestTasks program := by
  intro task hmem
  exact (replay_ahead_perm (leafy_of_parse h) events).mem_iff.mp (List.mem_append_left _ hmem)

/-- No task of a script is executed twice. -/
theorem executed_ids_nodup (h : parse source = .ok program) (events : List Event) :
    ((executed program events).map Task.id).Nodup := by
  have hperm := (replay_ahead_perm (leafy_of_parse h) events).map Task.id
  have hnodup := hperm.nodup_iff.mpr (parse_ids_nodup h)
  rw [List.map_append] at hnodup
  exact hnodup.of_append_left

/-- **Conservation of work.** After any events, the messages printed and the messages ahead are
together those of the script, each as often; and the printed ones are all when the run is
finished. -/
theorem messages_conserved (h : parse source = .ok program) (events : List Event) :
    let loop := (start program).replay events
    (loop.output ++ loop.messagesAhead).Perm (gatherMessages program) ∧
      (loop.finished = true → loop.output.Perm (gatherMessages program)) := by
  have hperm : (((start program).replay events).output ++
      ((start program).replay events).messagesAhead).Perm (gatherMessages program) := by
    rw [replay_output, messagesAhead_eq, gatherMessages_eq, ← List.flatMap_append]
    exact (replay_ahead_perm (leafy_of_parse h) events).flatMap_right Task.ownMessage
  refine ⟨hperm, fun hfin => ?_⟩
  rwa [(replay_settled program events hfin).messagesAhead, List.append_nil] at hperm

/-- A run of `nestedForest` up to a moment at which a callback runs, a microtask is queued and a
timer waits. -/
def halfRun : List Event :=
  [.step, .step, .tick 3, .step, .step, .tick 4, .tick 1, .step, .step, .step]

/-- The rest of that run. -/
def restOfRun : List Event :=
  [.tick 7, .step, .step, .tick (-2), .step, .step, .step, .step, .step, .step, .step, .tick 40,
    .tick 1, .step, .step, .step, .step]

theorem messages_conserved_nested :
    parse nestedScript = .ok nestedForest ∧
      (((start nestedForest).replay halfRun).output ++
        ((start nestedForest).replay halfRun).messagesAhead).Perm (gatherMessages nestedForest) ∧
      ((start nestedForest).replay (halfRun ++ restOfRun)).output.Perm
        (gatherMessages nestedForest) :=
  ⟨parse_nestedScript, (messages_conserved parse_nestedScript halfRun).1,
    (messages_conserved parse_nestedScript (halfRun ++ restOfRun)).2 rfl⟩

end Scripts

end EventLoop

end LoopStepper
