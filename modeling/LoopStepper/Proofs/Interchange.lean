import LoopStepper.Loose.Step
import LoopStepper.Proofs.Descent
import LoopStepper.Proofs.Standstill

/-!
# Steps and ticks that change places

Steps and ticks come from two sides that know nothing of each other, so the same events may come in
another order or in other portions. A tick touches the clock, the timer table and the end of the
macrotask queue. A step reads none of these, for two reasons at most: it stamps a timer that it
registers with the clock, and where nothing can run it begins with what the tick has put into the
empty queue (`AwaitsDue`). In all other states the two may change places, whatever is on the call
stack and in the queues.

That is said twice. For an event loop it is an equivalence (`step_advance_iff`): in the two cases
the order shows in the result, except that a tick which takes no time passes by a timer that has to
wait. For a loose loop, whose cursors may count from the end and whose steps may be refused, both
orders come to the same state or to the same refusal (`LooseLoop.step_advance`).

Two ticks may be taken for one as long as no timer runs out in the first of them: such a timer is
moved by the second tick, and a single tick leaves it waiting.

Headlines:
* **`step_advance_comm`**: when a step and a tick may change places.
* **`advance_advance_iff`**: when two ticks are one.
-/

namespace LoopStepper

namespace EventLoop

section Interchange

variable (loop : EventLoop) (ms : Int)

/-! ## A step and a tick -/

/-- The instruction that the innermost frame executes next, if there is one. -/
def next? : Option Task :=
  loop.stack.head?.bind Frame.current?

/-- Nothing can run, and the next tick moves a timer to the queue. -/
def AwaitsDue : Prop :=
  loop.idle = true ∧ ∃ timer ∈ loop.pending, timer.remaining ≤ 0

/-- A tick that finds no timer due lets all of them wait for less. -/
theorem advance_of_none_due (h : loop.pending.filter (·.isDue) = []) :
    loop.advance ms = { loop with
      pending := loop.pending.map (·.wait (max 0 ms))
      clock := loop.clock + max 0 ms } := by
  have hkept : loop.pending.filter (!·.isDue) = loop.pending := by
    simpa [List.filter_eq_self, List.filter_eq_nil_iff] using h
  rw [advance, h, hkept, List.map_nil, List.append_nil]

/-- An instruction that registers no timer has nothing to do with a tick. -/
theorem perform_advance {task : Task} (h : task.kind ≠ .timer) :
    (loop.perform task).advance ms = (loop.advance ms).perform task := by
  unfold perform
  cases hkind : task.kind with
  | timer => exact absurd hkind h
  | log | microtask | main => rfl

/-- A timer that is registered before a tick or after it is the same if it has to wait and the tick
takes no time. -/
theorem register_advance_iff {task : Task} (h : task.kind = .timer) :
    (loop.perform task).advance ms = (loop.advance ms).perform task ↔
      ms ≤ 0 ∧ 0 < task.delay.getD 0 := by
  have hbefore : (loop.perform task).advance ms = { loop.advance ms with
      pending := (loop.advance ms).pending ++ if task.delay.getD 0 ≤ 0 then [] else
        [{ task, createdAt := loop.clock, remaining := task.delay.getD 0 - max 0 ms }]
      macrotasks := (loop.advance ms).macrotasks ++ if task.delay.getD 0 ≤ 0 then
        [{ task with content := promotedContent task.content }] else [] } := by
    by_cases hdue : task.delay.getD 0 ≤ 0 <;>
      simp [perform, h, advance, PendingTimer.isDue, PendingTimer.wait, PendingTimer.promoted, hdue]
  have hafter : (loop.advance ms).perform task = { loop.advance ms with
      pending := (loop.advance ms).pending ++
        [{ task, createdAt := loop.clock + max 0 ms, remaining := task.delay.getD 0 }] } := by
    simp [perform, h, advance]
  rw [hafter, hbefore]
  by_cases hdue : task.delay.getD 0 ≤ 0
  · -- the tick behind it has moved it already
    simp [hdue]
  · simp only [hdue, if_false, List.append_nil, mk.injEq, List.append_cancel_left_eq,
      List.cons.injEq, PendingTimer.mk.injEq, true_and, and_true]
    omega

/-- Of all instructions only those that register a timer see the tick. -/
theorem perform_advance_iff (task : Task) :
    (loop.perform task).advance ms = (loop.advance ms).perform task ↔
      (task.kind = .timer → ms ≤ 0 ∧ 0 < task.delay.getD 0) := by
  by_cases hkind : task.kind = .timer
  · rw [register_advance_iff loop ms hkind, forall_prop_of_true hkind]
  · exact iff_of_true (perform_advance loop ms hkind) fun h => absurd h hkind

theorem runTop_advance_iff (top : Frame) (below : List Frame) :
    (loop.runTop top below).advance ms = (loop.advance ms).runTop top below ↔
      ∀ task ∈ top.current?, task.kind = .timer → ms ≤ 0 ∧ 0 < task.delay.getD 0 := by
  unfold runTop
  cases top.current? with
  | none => simp [advance]
  | some task =>
    simp only [Option.mem_some_iff, forall_eq']
    exact perform_advance_iff { loop with
      stack := { top with cursor := top.cursor + 1 } :: below
      activeLine := task.shownLine.or loop.activeLine } ms task

/-- Where nothing can run, the step sees the tick if that moves a timer, and begins to run it. -/
theorem idle_advance_iff (hlive : loop.finished = false) (hstack : loop.stack = [])
    (hmicros : loop.microtasks = []) (hmacros : loop.macrotasks = []) :
    loop.step.advance ms = (loop.advance ms).step ↔
      ∀ timer ∈ loop.pending, ¬ timer.remaining ≤ 0 := by
  have hdue : (∀ timer ∈ loop.pending, ¬ timer.remaining ≤ 0) ↔
      loop.pending.filter (·.isDue) = [] := by
    simp [List.filter_eq_nil_iff, PendingTimer.isDue]
  rw [hdue]
  cases hpending : loop.pending with
  | nil => simp [step, advance, hlive, hstack, hmicros, hmacros, hpending]
  | cons timer timers =>
    have hwaits : loop.Waits := ⟨hstack, hmicros, hmacros, hpending ▸ List.cons_ne_nil _ _⟩
    rw [hwaits.step_eq, ← hpending, eq_comm, step_eq_self_iff]
    constructor
    · rintro (hfin | hafter)
      · exact absurd (hlive.symm.trans hfin) Bool.false_ne_true
      · simpa [advance, hmacros] using hafter.macrotasks
    · intro hnone
      rw [advance_of_none_due loop ms hnone]
      exact .inr ⟨hstack, hmicros, hmacros, mt List.map_eq_nil_iff.mp hwaits.pending⟩

/-- **Whether the order of a step and a tick shows**, case by case. -/
theorem step_advance_iff :
    loop.step.advance ms = (loop.advance ms).step ↔
      (loop.finished = false → ¬ loop.AwaitsDue ∧
        ∀ task ∈ loop.next?, task.kind = .timer → ms ≤ 0 ∧ 0 < task.delay.getD 0) := by
  cases hfin : loop.finished with
  | true =>
    have hover : (loop.advance ms).step = loop.advance ms := step_of_finished hfin
    simp [step_of_finished hfin, hover]
  | false =>
    cases hstack : loop.stack with
    | cons top below =>
      have hbefore : loop.step = loop.runTop top below := by
        simp [step, hfin, hstack]
      have hafter : (loop.advance ms).step = (loop.advance ms).runTop top below := by
        simp [step, advance, hfin, hstack]
      rw [hbefore, hafter, runTop_advance_iff]
      simp [AwaitsDue, idle, next?, hstack]
    | nil =>
      cases hmicros : loop.microtasks with
      | cons entry later =>
        simp [step, advance, enter, hfin, hstack, hmicros, AwaitsDue, idle, next?]
      | nil =>
        cases hmacros : loop.macrotasks with
        | cons entry later =>
          -- what the tick queues stands behind the entry that is taken
          simp [step, advance, enter, hfin, hstack, hmicros, hmacros, AwaitsDue, idle, next?]
        | nil =>
          rw [idle_advance_iff loop ms hfin hstack hmicros hmacros]
          simp [AwaitsDue, idle, next?, hstack, hmicros, hmacros]

end Interchange

end EventLoop

/-! ## A step and a tick of a loose loop -/

namespace LooseLoop

/-- Clock and timers of a loose loop count whole milliseconds. -/
structure Clocked (loop : LooseLoop) : Prop where
  clock : ∃ n, loop.clock = .whole n
  remaining : ∀ timer ∈ loop.pending, ∃ n, timer.remaining = .whole n

/-- The next instruction of the innermost frame registers a timer. -/
def RegistersTimer (loop : LooseLoop) : Prop :=
  ∃ top below task, loop.stack = top :: below ∧ top.current? = .ok (some task) ∧ task.kind = .timer

/-- Nothing can run, and the next tick moves a timer to the queue. -/
def AwaitsDue (loop : LooseLoop) : Prop :=
  loop.stack = [] ∧ loop.microtasks = [] ∧ loop.macrotasks = [] ∧
    ∃ timer ∈ loop.pending, timer.isDue = .ok true

/-- A loop with what a tick makes of its clock and its timers, and with the entries of those that
were due. -/
def ticked (loop : LooseLoop) (clock : Datum) (pending : List LooseTimer) (due : List LooseTask) :
    LooseLoop :=
  { loop with pending, macrotasks := loop.macrotasks ++ due, clock }

/-- Timers that wait for whole milliseconds can be told from those that are due. -/
theorem sift_of_whole {pending : List LooseTimer} (elapsed : Int)
    (h : ∀ timer ∈ pending, ∃ n, timer.remaining = .whole n) :
    ∃ waiting due, sift elapsed pending = .ok (waiting, due) := by
  induction pending with
  | nil => exact ⟨[], [], rfl⟩
  | cons timer timers ih =>
    obtain ⟨n, hn⟩ := h timer List.mem_cons_self
    obtain ⟨waiting, due, hsift⟩ := ih fun later hlater => h later (List.mem_cons_of_mem _ hlater)
    have hdue : timer.isDue = .ok (decide (n ≤ 0)) := by rw [LooseTimer.isDue, hn]; rfl
    have hwait : timer.wait elapsed = .ok { timer with remaining := .whole (n - elapsed) } := by
      rw [LooseTimer.wait, hn]; rfl
    rw [sift, hdue, hwait, hsift]
    cases decide (n ≤ 0)
    · exact ⟨_, _, rfl⟩
    · exact ⟨_, _, rfl⟩

/-- Where no timer is due, all of them wait on. -/
theorem sift_of_none_due {pending waiting : List LooseTimer} {due : List LooseTask} {elapsed : Int}
    (h : sift elapsed pending = .ok (waiting, due))
    (hnone : ∀ timer ∈ pending, timer.isDue ≠ .ok true) :
    due = [] ∧ (waiting = [] ↔ pending = []) := by
  induction pending generalizing waiting due with
  | nil =>
    cases h
    exact ⟨rfl, Iff.rfl⟩
  | cons timer timers ih =>
    rw [sift] at h
    obtain ⟨isDue, hdue, h⟩ := bind_eq_ok.mp h
    cases isDue with
    | true => exact absurd hdue (hnone timer List.mem_cons_self)
    | false =>
      obtain ⟨later, -, h⟩ := bind_eq_ok.mp h
      obtain ⟨⟨rest, moved⟩, hrest, h⟩ := bind_eq_ok.mp h
      cases h
      have hnext := ih hrest fun other hother => hnone other (List.mem_cons_of_mem _ hother)
      exact ⟨hnext.1, iff_of_false (List.cons_ne_nil _ _) (List.cons_ne_nil _ _)⟩

section Ticked

variable {loop : LooseLoop} {ms : Int} {clock : Datum} {pending : List LooseTimer}
  {due : List LooseTask}

/-- A tick looks at nothing but the clock and the timers. -/
theorem advance_eq_ticked (hclock : loop.clock.plus (max 0 ms) = .ok clock)
    (hsift : sift (max 0 ms) loop.pending = .ok (pending, due)) :
    loop.advance ms = .ok (loop.ticked clock pending due) := by
  rw [advance, hclock]
  simp only [bind, Except.bind, hsift]
  rfl

/-- An instruction that registers no timer has nothing to do with a tick. -/
theorem perform_ticked (hclock : loop.clock.plus (max 0 ms) = .ok clock)
    (hsift : sift (max 0 ms) loop.pending = .ok (pending, due)) {task : LooseTask}
    (hkind : task.kind ≠ .timer) :
    (loop.perform task >>= fun next => next.advance ms) =
      (loop.ticked clock pending due).perform task := by
  unfold perform
  cases htask : task.kind with
  | timer => exact absurd htask hkind
  | log | main => exact advance_eq_ticked hclock hsift
  | microtask =>
    -- the entry is numbered and counted alike
    change (loop.microtaskEntry task >>= _) >>= _ = loop.microtaskEntry task >>= _
    cases loop.microtaskEntry task with
    | error e => rfl
    | ok entry =>
      change (loop.queued.plus 1 >>= _) >>= _ = loop.queued.plus 1 >>= _
      cases loop.queued.plus 1 with
      | error e => rfl
      | ok queued => exact advance_eq_ticked hclock hsift

/-- Nor has the return of a frame, or a frame that is refused. -/
theorem runTop_ticked (hclock : loop.clock.plus (max 0 ms) = .ok clock)
    (hsift : sift (max 0 ms) loop.pending = .ok (pending, due)) {top : LooseFrame}
    (below : List LooseFrame)
    (hkind : ∀ task, top.current? = .ok (some task) → task.kind ≠ .timer) :
    (loop.runTop top below >>= fun next => next.advance ms) =
      (loop.ticked clock pending due).runTop top below := by
  unfold runTop
  cases hcurrent : top.current? with
  | error e => rfl
  | ok current =>
    cases current with
    | none => exact advance_eq_ticked hclock hsift
    | some task =>
      simp only [bind, Except.bind]
      cases top.cursor.plus 1 with
      | error e => rfl
      | ok cursor =>
        have hperform := @perform_ticked { loop with
          stack := { top with cursor } :: below
          activeLine := task.line.truth?.getD loop.activeLine }
        exact hperform hclock hsift (hkind task hcurrent)

/-- A step comes to the same before a tick and after it, unless it registers a timer or begins with
the one that the tick has moved. -/
theorem step_ticked (hclock : loop.clock.plus (max 0 ms) = .ok clock)
    (hsift : sift (max 0 ms) loop.pending = .ok (pending, due))
    (h : loop.finished.isTrue = false → ¬ loop.RegistersTimer ∧ ¬ loop.AwaitsDue) :
    (loop.step >>= fun next => next.advance ms) = (loop.ticked clock pending due).step := by
  obtain ⟨stack, timers, micros, macros, output, finished, line, now, queued⟩ := loop
  unfold step
  cases hfin : finished.isTrue with
  | true =>
    simp only [ticked, hfin, if_true]
    exact advance_eq_ticked hclock hsift
  | false =>
    obtain ⟨hregisters, hawaits⟩ := h hfin
    simp only [ticked, hfin, Bool.false_eq_true, if_false]
    cases stack with
    | cons top below =>
      refine runTop_ticked hclock hsift below fun task hcurrent hkind => ?_
      exact hregisters ⟨top, below, task, rfl, hcurrent, hkind⟩
    | nil =>
      cases micros with
      | cons entry later => exact advance_eq_ticked hclock hsift
      | nil =>
        cases macros with
        | cons entry later => exact advance_eq_ticked hclock hsift
        | nil =>
          obtain ⟨rfl, hempty⟩ := sift_of_none_due hsift fun timer hmem hdue =>
            hawaits ⟨rfl, rfl, rfl, timer, hmem, hdue⟩
          cases timers with
          | nil =>
            obtain rfl := hempty.mpr rfl
            exact advance_eq_ticked hclock hsift
          | cons timer timers =>
            have hwaits := mt hempty.mp (List.cons_ne_nil timer timers)
            obtain ⟨later, rest, rfl⟩ := List.exists_cons_of_ne_nil hwaits
            exact advance_eq_ticked hclock hsift

end Ticked

/-- **A step and a tick of a loose loop may change places**: both orders come to the same state, or
the step is refused in both for the same reason. -/
theorem step_advance {loop : LooseLoop} (hloop : loop.Clocked) (ms : Int)
    (h : loop.finished.isTrue = false → ¬ loop.RegistersTimer ∧ ¬ loop.AwaitsDue) :
    (loop.step >>= fun next => next.advance ms) = (loop.advance ms >>= fun next => next.step) := by
  obtain ⟨n, hn⟩ := hloop.clock
  have hclock : loop.clock.plus (max 0 ms) = .ok (.whole (n + max 0 ms)) := by rw [hn]; rfl
  obtain ⟨pending, due, hsift⟩ := sift_of_whole (max 0 ms) hloop.remaining
  rw [step_ticked hclock hsift h, advance_eq_ticked hclock hsift]
  rfl

end LooseLoop

/-- **When a step and a tick may change places.** In a loop that is finished they may. In one that
is not, the order shows exactly if nothing can run and some timer is due, or if the next
instruction registers a timer that is due at once or the tick takes any time; in all other states
the result is the same. So it is in a loose loop that counts whole milliseconds, unless the next instruction
registers a timer or nothing can run and some timer is due. -/
theorem step_advance_comm :
    (∀ (loop : EventLoop) (ms : Int), loop.step.advance ms = (loop.advance ms).step ↔
      (loop.finished = false → ¬ loop.AwaitsDue ∧
        ∀ task ∈ loop.next?, task.kind = .timer → ms ≤ 0 ∧ 0 < task.delay.getD 0)) ∧
    ∀ (loop : LooseLoop) (ms : Int), loop.Clocked →
      (loop.finished.isTrue = false → ¬ loop.RegistersTimer ∧ ¬ loop.AwaitsDue) →
      (loop.step >>= fun next => next.advance ms) =
        (loop.advance ms >>= fun next => next.step) :=
  ⟨EventLoop.step_advance_iff, fun _ ms hloop h => LooseLoop.step_advance hloop ms h⟩

/-- A loose loop with two frames and something in every queue. The cursor of the inner frame counts
from the end, and one of the two timers is due. -/
def crowdedLoop : LooseLoop where
  stack := [
    { id := .text "task-1", name := .text "setTimeout", kind := .timer, cursor := .whole (-1)
      instructions := [
        { id := .text "task-0", kind := .microtask, content := .text "queueMicrotask" }] },
    { id := .text "main", name := .text "main()", kind := .main, instructions := [] }]
  pending := [
    { task := { id := .text "task-2", kind := .timer, content := .text "setImmediate" }
      createdAt := .whole 3, remaining := .whole 0 },
    { task := { id := .text "task-3", kind := .timer, content := .text "setTimeout" }
      createdAt := .whole 3, remaining := .whole 7 }]
  microtasks := [{ id := .text "micro-0", kind := .microtask, content := .text "queueMicrotask" }]
  macrotasks := [{ id := .text "task-4", kind := .timer, content := .text "Timeout Callback" }]
  clock := .whole 3
  queued := .whole 1

theorem step_advance_comm_crowded :
    crowdedLoop.Clocked ∧ ¬ crowdedLoop.RegistersTimer ∧ ¬ crowdedLoop.AwaitsDue ∧
      (crowdedLoop.step >>= fun next => next.advance 5) =
        (crowdedLoop.advance 5 >>= fun next => next.step) :=
  have hclocked : crowdedLoop.Clocked := ⟨⟨3, rfl⟩, by simp [crowdedLoop]⟩
  have hregisters : ¬ crowdedLoop.RegistersTimer := by
    rintro ⟨top, below, task, hstack, hcurrent, hkind⟩
    cases hstack
    cases hcurrent
    cases hkind
  have hawaits : ¬ crowdedLoop.AwaitsDue := fun h => nomatch h.1
  ⟨hclocked, hregisters, hawaits,
    step_advance_comm.2 crowdedLoop 5 hclocked fun _ => ⟨hregisters, hawaits⟩⟩

/-! ## Two ticks -/

namespace EventLoop

/-- **When two ticks are one**: exactly if no timer that waits runs out in the first of them. -/
theorem advance_advance_iff (loop : EventLoop) (a b : Nat) :
    (loop.advance a).advance b = loop.advance (a + b) ↔
      ∀ timer ∈ loop.pending, ¬ (0 < timer.remaining ∧ timer.remaining ≤ a) := by
  have hout : (∀ timer ∈ loop.pending, ¬ (0 < timer.remaining ∧ timer.remaining ≤ a)) ↔
      (loop.advance a).pending.filter (·.isDue) = [] := by
    rw [List.filter_eq_nil_iff, advance, List.forall_mem_map, List.forall_mem_filter]
    simp [PendingTimer.isDue, PendingTimer.wait]
  rw [hout]
  constructor
  · intro heq
    have hqueue := congrArg EventLoop.macrotasks heq
    simpa [advance] using hqueue
  · intro hnone
    rw [advance_of_none_due _ _ hnone]
    have hsum : max 0 (a : Int) + max 0 (b : Int) = max 0 ((a : Int) + b) := by omega
    simp [advance, PendingTimer.wait, Function.comp_def, ← hsum, Int.add_assoc, Int.sub_sub]

end EventLoop

end LoopStepper
