import LoopStepper.EventLoop.Run
import LoopStepper.Task.Messages
import Mathlib.Data.List.Induction

/-!
# What a step can do

`Stepped loop ran next` lists the seven things that a step can be: nothing in a finished loop, the
return of a frame, the execution of one instruction, the start of a microtask or a macrotask, the
end of the run, and waiting for a timer. `stepped` says that a step is one of them; what is kept by
every step is proved by cases on it.

An instruction changes the loop in three places at most: what it prints (`Task.ownMessage`), the
timer it registers (`timersOf`) and the microtask it queues (`entriesOf`), each at the end of its
list.

A run is followed by `trace`: what one event shows, put together over a sequence of events. What is
seen of an event is read off the states before and after it (`registeredBy`, `promotedBy`,
`begunBy`), or off the instruction that it executes (`executedBy`).

The first thing that holds throughout every run is `replay_settled`: a finished loop has nothing
left to do.
-/

namespace LoopStepper

/-- What a frame has ahead starts with the instruction it executes next. -/
theorem Frame.ahead_eq_cons {frame : Frame} {task : Task} (h : frame.current? = some task) :
    frame.ahead = task :: { frame with cursor := frame.cursor + 1 }.ahead := by
  obtain ⟨hlt, hget⟩ := List.getElem?_eq_some_iff.mp h
  unfold Frame.ahead
  rw [List.drop_eq_getElem_cons hlt, hget]

/-- A frame without a next instruction has nothing ahead. -/
theorem Frame.ahead_eq_nil {frame : Frame} (h : frame.current? = none) : frame.ahead = [] :=
  List.drop_eq_nil_iff.mpr (List.getElem?_eq_none_iff.mp h)

@[simp] theorem PendingTimer.wait_task (timer : PendingTimer) (elapsed : Int) :
    (timer.wait elapsed).task = timer.task := rfl

@[simp] theorem PendingTimer.promoted_body (timer : PendingTimer) :
    timer.promoted.body = timer.task.body := rfl

namespace EventLoop

/-! ## Instructions -/

/-- The timer that an instruction registers, if it registers one. -/
def timersOf (loop : EventLoop) (task : Task) : List PendingTimer :=
  if task.kind = .timer then
    [{ task, createdAt := loop.clock, remaining := task.delay.getD 0 }]
  else []

/-- The microtask entry that an instruction queues, if it queues one. -/
def entriesOf (loop : EventLoop) (task : Task) : List Task :=
  if task.kind = .microtask then [loop.microtaskEntry task] else []

section Perform

variable (loop : EventLoop) (task : Task)

@[simp] theorem perform_stack : (loop.perform task).stack = loop.stack := by
  unfold perform; cases task.kind <;> rfl

@[simp] theorem perform_macrotasks : (loop.perform task).macrotasks = loop.macrotasks := by
  unfold perform; cases task.kind <;> rfl

@[simp] theorem perform_clock : (loop.perform task).clock = loop.clock := by
  unfold perform; cases task.kind <;> rfl

@[simp] theorem perform_finished : (loop.perform task).finished = loop.finished := by
  unfold perform; cases task.kind <;> rfl

@[simp] theorem perform_activeLine : (loop.perform task).activeLine = loop.activeLine := by
  unfold perform; cases task.kind <;> rfl

@[simp] theorem perform_output :
    (loop.perform task).output = loop.output ++ task.ownMessage := by
  unfold perform Task.ownMessage; cases task.kind <;> simp

@[simp] theorem perform_pending :
    (loop.perform task).pending = loop.pending ++ loop.timersOf task := by
  unfold perform timersOf; cases task.kind <;> simp

@[simp] theorem perform_microtasks :
    (loop.perform task).microtasks = loop.microtasks ++ loop.entriesOf task := by
  unfold perform entriesOf; cases task.kind <;> simp

/-- The timer that is registered does not depend on the call stack. -/
@[simp] theorem timersOf_frames (stack : List Frame) (line : Option Int) :
    timersOf { loop with stack := stack, activeLine := line } task = loop.timersOf task := rfl

/-- Nor does the microtask entry. -/
@[simp] theorem entriesOf_frames (stack : List Frame) (line : Option Int) :
    entriesOf { loop with stack := stack, activeLine := line } task = loop.entriesOf task := rfl

end Perform

/-! ## Steps -/

/-- The frame that runs an entry of the macrotask queue. -/
def timerFrame (entry : Task) : Frame :=
  .ofEntry entry (macrotaskFrameName entry.content) .timer

/-- The instruction that an event executes, if it executes one. -/
def executedBy (loop : EventLoop) : Event → List Task
  | .step => if loop.finished then [] else (loop.stack.head?.bind Frame.current?).toList
  | .tick _ => []

/-- What a step can make of a loop, and the instruction that it executes, if any. -/
inductive Stepped (loop : EventLoop) : List Task → EventLoop → Prop
  | rest (hfin : loop.finished = true) : Stepped loop [] loop
  | leave {top : Frame} {below : List Frame} (hlive : loop.finished = false)
      (hstack : loop.stack = top :: below) (hend : top.current? = none) :
      Stepped loop [] { loop with stack := below, activeLine := none }
  | execute {top : Frame} {below : List Frame} {task : Task} (hlive : loop.finished = false)
      (hstack : loop.stack = top :: below) (hnext : top.current? = some task) :
      Stepped loop [task] ({ loop with
        stack := { top with cursor := top.cursor + 1 } :: below
        activeLine := task.shownLine.or loop.activeLine }.perform task)
  | microtask {entry : Task} {later : List Task} (hlive : loop.finished = false)
      (hstack : loop.stack = []) (hmicros : loop.microtasks = entry :: later) :
      Stepped loop [] ({ loop with microtasks := later }.enter entry entry.content .microtask)
  | macrotask {entry : Task} {later : List Task} (hlive : loop.finished = false)
      (hstack : loop.stack = []) (hmicros : loop.microtasks = [])
      (hmacros : loop.macrotasks = entry :: later) :
      Stepped loop [] ({ loop with macrotasks := later }.enter entry
        (macrotaskFrameName entry.content) .timer)
  | finish (hlive : loop.finished = false) (hstack : loop.stack = [])
      (hmicros : loop.microtasks = []) (hmacros : loop.macrotasks = [])
      (hpending : loop.pending = []) :
      Stepped loop [] { loop with finished := true, activeLine := none }
  | wait (hlive : loop.finished = false) (hstack : loop.stack = [])
      (hmicros : loop.microtasks = []) (hmacros : loop.macrotasks = [])
      (hpending : loop.pending ≠ []) : Stepped loop [] loop

theorem step_of_finished {loop : EventLoop} (h : loop.finished = true) : loop.step = loop :=
  if_pos h

/-- **A step is one of the seven.** -/
theorem stepped (loop : EventLoop) : Stepped loop (loop.executedBy .step) loop.step := by
  obtain ⟨program, stack, pending, microtasks, macrotasks, output, finished, line, clock, queued⟩ :=
    loop
  cases finished with
  | true => exact .rest rfl
  | false =>
    cases stack with
    | cons top below =>
      change Stepped _ (Option.toList top.current?) (runTop _ top below)
      unfold runTop
      cases hnext : top.current? with
      | none => exact .leave rfl rfl hnext
      | some task => exact .execute rfl rfl hnext
    | nil =>
      cases microtasks with
      | cons entry later => exact .microtask rfl rfl rfl
      | nil =>
        cases macrotasks with
        | cons entry later => exact .macrotask rfl rfl rfl rfl
        | nil =>
          cases pending with
          | nil => exact .finish rfl rfl rfl rfl rfl
          | cons timer timers => exact .wait rfl rfl rfl rfl (List.cons_ne_nil _ _)

/-! ### What a step leaves behind -/

section Stepped

variable {loop next : EventLoop} {ran : List Task}

/-- A step prints what its instruction prints. -/
theorem Stepped.output (h : Stepped loop ran next) :
    next.output = loop.output ++ ran.flatMap Task.ownMessage := by
  cases h <;> simp [enter]

/-- A step keeps the timers that wait and puts a new one behind them. -/
theorem Stepped.pending (h : Stepped loop ran next) :
    next.pending = loop.pending ++ ran.flatMap loop.timersOf := by
  cases h <;> simp [enter]

/-- A step does not move the clock. -/
theorem Stepped.clock (h : Stepped loop ran next) : next.clock = loop.clock := by
  cases h <;> simp [enter]

/-- A step takes one entry off the macrotask queue or none, and puts none in. -/
theorem Stepped.macrotasks (h : Stepped loop ran next) : next.macrotasks <:+ loop.macrotasks := by
  cases h with
  | macrotask hlive hstack hmicros hmacros =>
    rw [hmacros]
    exact List.suffix_cons _ _
  | execute hlive hstack hnext => exact ⟨[], by rw [perform_macrotasks, List.nil_append]⟩
  | rest | leave | microtask | finish | wait => exact List.suffix_rfl

end Stepped

/-! ## Runs -/

@[simp] theorem replay_nil (loop : EventLoop) : loop.replay [] = loop := rfl

theorem replay_step (loop : EventLoop) (events : List Event) :
    loop.replay (events ++ [.step]) = (loop.replay events).step := by
  unfold replay
  rw [List.foldl_append, List.foldl_cons, List.foldl_nil, apply]

theorem replay_tick (loop : EventLoop) (events : List Event) (ms : Int) :
    loop.replay (events ++ [.tick ms]) = (loop.replay events).advance ms := by
  unfold replay
  rw [List.foldl_append, List.foldl_cons, List.foldl_nil, apply]

/-- Induction over a run by its last event. -/
@[elab_as_elim]
theorem run_induction {motive : List Event → Prop} (init : motive [])
    (step : ∀ events, motive events → motive (events ++ [.step]))
    (tick : ∀ events ms, motive events → motive (events ++ [.tick ms])) (events : List Event) :
    motive events := by
  induction events using List.reverseRecOn with
  | nil => exact init
  | append_singleton events event ih =>
    cases event with
    | step => exact step events ih
    | tick ms => exact tick events ms ih

/-- What is kept by every step and every tick is kept by every run. -/
theorem replay_invariant {motive : EventLoop → Prop}
    (hstep : ∀ loop, motive loop → motive loop.step)
    (htick : ∀ loop ms, motive loop → motive (loop.advance ms))
    {loop : EventLoop} (hstart : motive loop) (events : List Event) :
    motive (loop.replay events) := by
  induction events using run_induction with
  | init => exact hstart
  | step events ih =>
    rw [replay_step]
    exact hstep _ ih
  | tick events ms ih =>
    rw [replay_tick]
    exact htick _ ms ih

/-- What is seen along a sequence of events, event by event. -/
def trace {α : Type} (seen : EventLoop → Event → List α) (loop : EventLoop) :
    List Event → List α
  | [] => []
  | event :: events => seen loop event ++ trace seen (loop.apply event) events

theorem trace_append {α : Type} (seen : EventLoop → Event → List α) (loop : EventLoop)
    (events later : List Event) :
    trace seen loop (events ++ later) =
      trace seen loop events ++ trace seen (loop.replay events) later := by
  induction events generalizing loop with
  | nil => rfl
  | cons event events ih =>
    rw [List.cons_append, trace, trace, ih, List.append_assoc]
    rfl

theorem trace_concat {α : Type} (seen : EventLoop → Event → List α) (loop : EventLoop)
    (events : List Event) (event : Event) :
    trace seen loop (events ++ [event]) =
      trace seen loop events ++ seen (loop.replay events) event := by
  rw [trace_append, trace, trace, List.append_nil]

/-! ## What an event shows -/

/-- The timers that an event puts behind those that wait. -/
def registeredBy (loop : EventLoop) (event : Event) : List PendingTimer :=
  (loop.apply event).pending.drop loop.pending.length

/-- The entries that an event puts behind those in the macrotask queue. -/
def promotedBy (loop : EventLoop) (event : Event) : List Task :=
  (loop.apply event).macrotasks.drop loop.macrotasks.length

/-- The frames that an event pushes onto the call stack. -/
def begunBy (loop : EventLoop) (event : Event) : List Frame :=
  (loop.apply event).stack.take ((loop.apply event).stack.length - loop.stack.length)

/-! ## The end of a run -/

/-- Nothing runs, waits or is queued. -/
structure Settled (loop : EventLoop) : Prop where
  stack : loop.stack = []
  pending : loop.pending = []
  microtasks : loop.microtasks = []
  macrotasks : loop.macrotasks = []

/-- A tick of a settled loop leaves it settled. -/
theorem Settled.advance {loop : EventLoop} (h : loop.Settled) (ms : Int) :
    (loop.advance ms).Settled where
  stack := h.stack
  pending := by simp [EventLoop.advance, h.pending]
  microtasks := h.microtasks
  macrotasks := by simp [EventLoop.advance, h.pending, h.macrotasks]

/-- A step finishes a loop only if it is settled. -/
theorem Stepped.settled {loop next : EventLoop} {ran : List Task} (h : Stepped loop ran next)
    (hloop : loop.finished = true → loop.Settled) (hnext : next.finished = true) :
    next.Settled := by
  cases h with
  | rest hfin => exact hloop hfin
  | leave hlive hstack hend => exact absurd (hlive ▸ hnext) (by simp)
  | execute hlive hstack hnow =>
    rw [perform_finished] at hnext
    exact absurd (hlive ▸ hnext) (by simp)
  | microtask hlive hstack hmicros => exact absurd (hlive ▸ hnext) (by simp)
  | macrotask hlive hstack hmicros hmacros => exact absurd (hlive ▸ hnext) (by simp)
  | finish hlive hstack hmicros hmacros hpending => exact ⟨hstack, hpending, hmicros, hmacros⟩
  | wait hlive hstack hmicros hmacros hpending => exact absurd (hlive ▸ hnext) (by simp)

/-- **A finished run has nothing left to do.** -/
theorem replay_settled (program : List Task) (events : List Event)
    (h : ((start program).replay events).finished = true) :
    ((start program).replay events).Settled := by
  refine replay_invariant (motive := fun loop => loop.finished = true → loop.Settled)
    (fun loop ih => loop.stepped.settled ih) (fun loop ms ih hfin => (ih hfin).advance ms)
    (fun hfin => absurd hfin (by simp [start])) events h

end EventLoop

end LoopStepper
