import LoopStepper.Proofs.Conservation

/-!
# The countdown of a timer

Three numbers belong to a timer that waits, and they are written at different times: the clock moves
with every tick, the stamp is taken at the registration, and the countdown is reduced by the ticks
that find it positive. `Timed` ties them together, and it holds throughout every run of every
forest: what is left of a delay is the delay less the time since the registration. So the test of a
tick, whether anything is left, asks whether the deadline of the timer has passed
(`Timed.isDue_iff`), and the tick itself can be said with deadlines and no countdown
(`Timed.advance_macrotasks`, `Timed.advance_pending`).

The timers that wait are compared with those registered so far, `registered`: they are some of
them, in the same order (`pending_sublist`).

Headline:
* **`timers_exact`**: all of this, for the timers of a script (`ExactTimers`).
-/

namespace LoopStepper

open Script

namespace PendingTimer

/-- The delay of a timer: none counts as no time. -/
def delay (timer : PendingTimer) : Int := timer.task.delay.getD 0

/-- The clock at which the delay of a timer has passed. -/
def deadline (timer : PendingTimer) : Int := timer.createdAt + timer.delay

/-- The timer as it was at its registration, its whole delay ahead. -/
def fresh (timer : PendingTimer) : PendingTimer := { timer with remaining := timer.delay }

@[simp] theorem fresh_deadline (timer : PendingTimer) : timer.fresh.deadline = timer.deadline := rfl

end PendingTimer

namespace EventLoop

/-! ## Registrations -/

/-- A timer that is registered now has its stamp from the clock and its whole delay ahead. -/
theorem mem_timersOf {loop : EventLoop} {ran : List Task} {timer : PendingTimer}
    (h : timer ∈ ran.flatMap loop.timersOf) :
    timer.createdAt = loop.clock ∧ timer.remaining = timer.delay := by
  obtain ⟨task, -, hmem⟩ := List.mem_flatMap.mp h
  unfold timersOf at hmem
  split at hmem
  · rw [List.mem_singleton.mp hmem]
    exact ⟨rfl, rfl⟩
  · exact absurd hmem List.not_mem_nil

/-- A step registers the timer of its instruction. -/
theorem registeredBy_step (loop : EventLoop) :
    loop.registeredBy .step = (loop.executedBy .step).flatMap loop.timersOf := by
  unfold registeredBy
  rw [apply, loop.stepped.pending, List.drop_left]

/-- A tick registers nothing. -/
theorem registeredBy_tick (loop : EventLoop) (ms : Int) : loop.registeredBy (.tick ms) = [] := by
  unfold registeredBy
  apply List.drop_eq_nil_of_le
  simp only [apply, advance, List.length_map]
  exact List.length_filter_le _ _

/-- The timers registered along a run of a forest. -/
def registered (program : List Task) (events : List Event) : List PendingTimer :=
  trace registeredBy (start program) events

theorem registered_step (program : List Task) (events : List Event) :
    registered program (events ++ [.step]) = registered program events ++
      (((start program).replay events).executedBy .step).flatMap
        ((start program).replay events).timersOf := by
  rw [registered, trace_concat, registeredBy_step]
  rfl

theorem registered_tick (program : List Task) (events : List Event) (ms : Int) :
    registered program (events ++ [.tick ms]) = registered program events := by
  rw [registered, trace_concat, registeredBy_tick, List.append_nil]
  rfl

/-- Instructions register a timer for each timer task among them. -/
theorem timersOf_tasks (loop : EventLoop) (ran : List Task) :
    (ran.flatMap loop.timersOf).map PendingTimer.task =
      ran.filter fun task => task.kind = .timer := by
  induction ran with
  | nil => rfl
  | cons task ran ih =>
    rw [List.flatMap_cons, List.map_append, ih, List.filter_cons, timersOf]
    by_cases hkind : task.kind = .timer <;> simp [hkind]

/-- The timers registered are the timer tasks executed, in order. -/
theorem registered_tasks (program : List Task) (events : List Event) :
    (registered program events).map PendingTimer.task =
      (executed program events).filter fun task => task.kind = .timer := by
  unfold registered executed
  induction events using run_induction with
  | init => rfl
  | step events ih =>
    rw [trace_concat, trace_concat, List.map_append, List.filter_append, ih, registeredBy_step,
      timersOf_tasks]
  | tick events ms ih =>
    rw [trace_concat, trace_concat, registeredBy_tick, executedBy, List.append_nil,
      List.append_nil, ih]

/-- The timers that wait, as they were registered. -/
def waiting (loop : EventLoop) : List PendingTimer :=
  loop.pending.map PendingTimer.fresh

theorem waiting_step (loop : EventLoop) :
    loop.step.waiting = loop.waiting ++ loop.registeredBy .step := by
  have hnew : (loop.registeredBy .step).map PendingTimer.fresh = loop.registeredBy .step := by
    rw [registeredBy_step]
    refine (List.map_congr_left fun timer hmem => ?_).trans (List.map_id _)
    rw [PendingTimer.fresh, ← (mem_timersOf hmem).2]
    rfl
  unfold waiting
  rw [loop.stepped.pending, List.map_append, ← registeredBy_step, hnew]

theorem waiting_advance (loop : EventLoop) (ms : Int) :
    (loop.advance ms).waiting = (loop.pending.filter (!·.isDue)).map PendingTimer.fresh := by
  unfold waiting
  rw [advance, List.map_map]
  rfl

/-- **The timers that wait are registered ones in the order of registration.** -/
theorem pending_sublist (program : List Task) (events : List Event) :
    ((start program).replay events).waiting.Sublist (registered program events) := by
  unfold registered
  induction events using run_induction with
  | init => exact .refl _
  | step events ih =>
    rw [trace_concat, replay_step, waiting_step]
    exact ih.append (.refl _)
  | tick events ms ih =>
    rw [trace_concat, replay_tick, waiting_advance, registeredBy_tick, List.append_nil]
    exact (List.filter_sublist.map PendingTimer.fresh).trans ih

/-! ## The invariant -/

/-- Clock, stamps and countdowns agree. -/
structure Timed (loop : EventLoop) : Prop where
  /-- What is left of a delay is the delay less the time since the registration. -/
  countdown : ∀ timer ∈ loop.pending,
    timer.remaining = timer.delay - (loop.clock - timer.createdAt)
  /-- No timer was registered in the future. -/
  stamped : ∀ timer ∈ loop.pending, timer.createdAt ≤ loop.clock
  /-- The timers stand in the order of their stamps. -/
  stamps : loop.pending.Pairwise fun earlier later => earlier.createdAt ≤ later.createdAt

theorem timed_start (program : List Task) : Timed (start program) where
  countdown := by simp [start]
  stamped := by simp [start]
  stamps := by simp [start]

/-- A step keeps clock, stamps and countdowns in agreement. -/
theorem Stepped.timed {loop next : EventLoop} {ran : List Task} (h : Stepped loop ran next)
    (hloop : Timed loop) : Timed next := by
  have hnew := fun timer => @mem_timersOf loop ran timer
  refine ⟨?_, ?_, ?_⟩
  · rw [h.pending, h.clock]
    intro timer hmem
    rcases List.mem_append.mp hmem with hmem | hmem
    · exact hloop.countdown timer hmem
    · obtain ⟨hstamp, hrem⟩ := hnew timer hmem
      omega
  · rw [h.pending, h.clock]
    intro timer hmem
    rcases List.mem_append.mp hmem with hmem | hmem
    · exact hloop.stamped timer hmem
    · exact le_of_eq (hnew timer hmem).1
  · rw [h.pending, List.pairwise_append]
    refine ⟨hloop.stamps, ?_, ?_⟩
    · refine List.pairwise_of_forall_mem_list fun earlier hearlier later hlater => ?_
      exact le_of_eq ((hnew earlier hearlier).1.trans (hnew later hlater).1.symm)
    · intro earlier hearlier later hlater
      rw [(hnew later hlater).1]
      exact hloop.stamped earlier hearlier

/-- A tick keeps clock, stamps and countdowns in agreement: what is taken off a countdown is what
the clock gains. -/
theorem Timed.advance {loop : EventLoop} (h : Timed loop) (ms : Int) : Timed (loop.advance ms) := by
  have hkept : ∀ timer ∈ (loop.advance ms).pending,
      ∃ before ∈ loop.pending, before.wait (max 0 ms) = timer := by
    intro timer hmem
    obtain ⟨before, hbefore, heq⟩ := List.mem_map.mp hmem
    exact ⟨before, (List.mem_filter.mp hbefore).1, heq⟩
  have hclock : (loop.advance ms).clock = loop.clock + max 0 ms := rfl
  refine ⟨?_, ?_, ?_⟩
  · intro timer hmem
    obtain ⟨before, hbefore, rfl⟩ := hkept timer hmem
    have hcount := h.countdown before hbefore
    have hdelay : (before.wait (max 0 ms)).delay = before.delay := rfl
    rw [hclock, hdelay]
    simp only [PendingTimer.wait]
    omega
  · intro timer hmem
    obtain ⟨before, hbefore, rfl⟩ := hkept timer hmem
    have hstamp := h.stamped before hbefore
    rw [hclock]
    simp only [PendingTimer.wait]
    omega
  · exact List.pairwise_map.mpr (h.stamps.sublist List.filter_sublist)

/-- **Clock, stamps and countdowns agree throughout every run.** -/
theorem replay_timed (program : List Task) (events : List Event) :
    Timed ((start program).replay events) :=
  replay_invariant (fun loop h => loop.stepped.timed h) (fun _ ms h => h.advance ms)
    (timed_start program) events

/-! ## Ticks and deadlines -/

section Deadlines

variable {loop : EventLoop}

/-- A timer is due when its deadline has come. -/
theorem Timed.isDue_iff (h : Timed loop) {timer : PendingTimer} (hmem : timer ∈ loop.pending) :
    timer.isDue = true ↔ timer.deadline ≤ loop.clock := by
  have hcount := h.countdown timer hmem
  unfold PendingTimer.isDue PendingTimer.deadline
  rw [decide_eq_true_iff]
  omega

/-- The timers that are due are those whose deadline has come. -/
theorem Timed.filter_isDue (h : Timed loop) :
    loop.pending.filter (·.isDue) =
      loop.pending.filter fun timer => timer.deadline ≤ loop.clock := by
  refine List.filter_congr fun timer hmem => ?_
  rw [Bool.eq_iff_iff, h.isDue_iff hmem, decide_eq_true_iff]

/-- The timers that are not due are those whose deadline is still to come. -/
theorem Timed.filter_not_isDue (h : Timed loop) :
    loop.pending.filter (!·.isDue) =
      loop.pending.filter fun timer => loop.clock < timer.deadline := by
  refine List.filter_congr fun timer hmem => ?_
  rw [Bool.eq_iff_iff, Bool.not_eq_true', ← Bool.not_eq_true, h.isDue_iff hmem,
    decide_eq_true_iff]
  omega

/-- A tick queues the timers whose deadline has come, in the order in which they stand. -/
theorem Timed.advance_macrotasks (h : Timed loop) (ms : Int) :
    (loop.advance ms).macrotasks = loop.macrotasks ++
      (loop.pending.filter fun timer => timer.deadline ≤ loop.clock).map (·.promoted) := by
  rw [← h.filter_isDue]
  rfl

/-- The other timers wait on. -/
theorem Timed.advance_pending (h : Timed loop) (ms : Int) :
    (loop.advance ms).pending =
      (loop.pending.filter fun timer => loop.clock < timer.deadline).map (·.wait (max 0 ms)) := by
  rw [← h.filter_not_isDue]
  rfl

end Deadlines

/-! ## Scripts -/

/-- Every timer that is registered in a run of a script is one of the script. -/
theorem registered_task {source : String} {program : List Task} (h : parse source = .ok program)
    {events : List Event} {timer : PendingTimer} (hmem : timer ∈ registered program events) :
    timer.task ∈ forestTasks program ∧ timer.task.kind = .timer := by
  have htask : timer.task ∈ (registered program events).map PendingTimer.task :=
    List.mem_map_of_mem hmem
  rw [registered_tasks, List.mem_filter, decide_eq_true_iff] at htask
  exact ⟨executed_subset h events htask.1, htask.2⟩

/-- Every timer that waits in a run of a script was registered by a timer of the script. -/
theorem pending_task {source : String} {program : List Task} (h : parse source = .ok program)
    (events : List Event) {timer : PendingTimer}
    (hmem : timer ∈ ((start program).replay events).pending) :
    timer.task ∈ forestTasks program ∧ timer.task.kind = .timer := by
  have hfresh := registered_task h ((pending_sublist program events).subset
    (List.mem_map_of_mem hmem))
  exact hfresh

/-- The timer table of a loop is exact, where `before` are the timers registered so far. -/
structure ExactTimers (before : List PendingTimer) (loop : EventLoop) : Prop where
  /-- What is left of a delay is the delay less the time since the registration. -/
  countdown : ∀ timer ∈ loop.pending, ∃ delay : Nat,
    timer.task.delay = some (delay : Int) ∧
      timer.remaining = delay - (loop.clock - timer.createdAt)
  /-- The timers that wait are some of those registered, in the order of registration. -/
  order : loop.waiting.Sublist before
  /-- Their stamps do not decrease. -/
  stamps : loop.pending.Pairwise fun earlier later => earlier.createdAt ≤ later.createdAt
  /-- A tick queues the timers whose deadline has come when it begins, in their order. -/
  moved : ∀ ms, (loop.advance ms).macrotasks = loop.macrotasks ++
    (loop.pending.filter fun timer => timer.deadline ≤ loop.clock).map (·.promoted)
  /-- The others wait on, for as much less as the clock gains. -/
  kept : ∀ ms, (loop.advance ms).pending =
    (loop.pending.filter fun timer => loop.clock < timer.deadline).map (·.wait (max 0 ms))
  /-- The entry of a timer has the id, the body and the line of its task. -/
  entry : ∀ timer ∈ loop.pending, timer.promoted.id = timer.task.id ∧
    timer.promoted.children = timer.task.children ∧ timer.promoted.line = timer.task.line
  /-- A step keeps every timer as it is. -/
  step : loop.pending <+: loop.step.pending
  /-- A step queues no timer: at most it takes an entry off the queue. -/
  unqueued : loop.step.macrotasks <:+ loop.macrotasks

/-- **The timer table of a script is exact** after any events. -/
theorem timers_exact {source : String} {program : List Task} (h : parse source = .ok program)
    (events : List Event) :
    ExactTimers (registered program events) ((start program).replay events) := by
  have htimed := replay_timed program events
  refine ⟨?_, pending_sublist program events, htimed.stamps, htimed.advance_macrotasks,
    htimed.advance_pending, fun _ _ => ⟨rfl, rfl, rfl⟩, ?_, (stepped _).macrotasks⟩
  · intro timer hmem
    obtain ⟨htask, hkind⟩ := pending_task h events hmem
    obtain ⟨delay, hdelay⟩ := (wellRead_of_parse h timer.task htask).timed hkind
    have hcount := htimed.countdown timer hmem
    rw [PendingTimer.delay, hdelay, Option.getD_some] at hcount
    exact ⟨delay, hdelay, hcount⟩
  · rw [(stepped _).pending]
    exact List.prefix_append _ _

theorem timers_exact_nested :
    parse nestedScript = .ok nestedForest ∧
      ((start nestedForest).replay halfRun).pending.map (·.remaining) = [0] ∧
      ExactTimers (registered nestedForest halfRun) ((start nestedForest).replay halfRun) :=
  ⟨parse_nestedScript, rfl, timers_exact parse_nestedScript halfRun⟩

end EventLoop

end LoopStepper
