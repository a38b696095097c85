import LoopStepper.Proofs.Overtaking
import Mathlib.Algebra.Order.Floor.Div
import Mathlib.Algebra.Order.Ring.Int
import Mathlib.Algebra.Ring.Divisibility.Basic
import Mathlib.Tactic.Positivity

/-!
# Timers at a fixed cadence

Where all ticks of a run have one size, the clock stands on a grid, and so do the stamps of the
timers. A delay counts in whole ticks then: it has passed on the first point of the grid that is not
before the deadline, the slot of the timer (`PendingTimer.slot`). The tick that begins there moves
the timer, and no other one does, since a timer that waits never has its slot behind it
(`Paced.isDue_iff`).

So the slots give the order of the macrotask queue, also of timers that never wait at the same time:
what an earlier tick moved has an earlier slot, and what one tick moves has one slot and stands in
the order of registration.

Headline:
* **`timers_by_slot`**: the timers of a script enter the macrotask queue and leave it in the order
  of their slots, and with one slot in the order of their registration.
-/

namespace LoopStepper

open Script

/-! ## Slots -/

namespace PendingTimer

/-- The clock on which a timer is moved if all ticks have one size: its stamp and its delay in whole
ticks, rounded up. -/
def slot (tick : Nat) (timer : PendingTimer) : Int :=
  timer.createdAt + tick * (timer.delay.toNat ⌈/⌉ tick : Nat)

variable {tick : Nat}

@[simp] theorem fresh_slot (timer : PendingTimer) : timer.fresh.slot tick = timer.slot tick := rfl

@[simp] theorem wait_slot (timer : PendingTimer) (elapsed : Int) :
    (timer.wait elapsed).slot tick = timer.slot tick := rfl

theorem createdAt_le_slot (timer : PendingTimer) : timer.createdAt ≤ timer.slot tick :=
  le_add_of_nonneg_right (by positivity)

/-- A slot is on the grid of its stamp. -/
theorem dvd_slot {timer : PendingTimer} (h : (tick : Int) ∣ timer.createdAt) :
    (tick : Int) ∣ timer.slot tick :=
  dvd_add h (dvd_mul_right _ _)

/-- On the grid of a timer its slot has come when its deadline has. -/
theorem slot_le_iff (htick : 0 < tick) {timer : PendingTimer} {clock : Int}
    (hgrid : (tick : Int) ∣ clock - timer.createdAt) (hstamp : timer.createdAt ≤ clock) :
    timer.slot tick ≤ clock ↔ timer.deadline ≤ clock := by
  obtain ⟨m, hm⟩ := hgrid
  have hpos : (0 : Int) < tick := Int.natCast_pos.mpr htick
  have hpassed : 0 ≤ m := nonneg_of_mul_nonneg_right (hm ▸ sub_nonneg.mpr hstamp) hpos
  lift m to Nat using hpassed
  calc timer.slot tick ≤ clock
      ↔ (tick * (timer.delay.toNat ⌈/⌉ tick : Nat) : Int) ≤ tick * m := by
        rw [slot, ← hm, le_sub_iff_add_le']
    _ ↔ timer.delay.toNat ⌈/⌉ tick ≤ m := by
        rw [Int.mul_le_mul_left hpos, Int.ofNat_le]
    _ ↔ timer.delay ≤ tick * m := by
        rw [ceilDiv_le_iff_le_mul htick, Int.toNat_le, Int.natCast_mul]
    _ ↔ timer.deadline ≤ clock := by
        rw [deadline, ← hm, le_sub_iff_add_le']

end PendingTimer

/-- Of two timers the first one has the earlier slot, or both have one slot and it was registered
first. -/
def Precedes (tick : Nat) (registered : List PendingTimer) (a b : PendingTimer) : Prop :=
  a.slot tick < b.slot tick ∨ a.slot tick = b.slot tick ∧ [a, b].Sublist registered

/-- Timers that are registered later do not disturb the order of those before. -/
theorem Precedes.append {tick : Nat} {registered : List PendingTimer} {a b : PendingTimer}
    (h : Precedes tick registered a b) (later : List PendingTimer) :
    Precedes tick (registered ++ later) a b :=
  h.imp_right fun ⟨heq, horder⟩ => ⟨heq, horder.trans (List.sublist_append_left _ _)⟩

namespace EventLoop

/-! ## The grid -/

theorem clock_advance (loop : EventLoop) (tick : Nat) :
    (loop.advance tick).clock = loop.clock + tick := by
  simp [advance]

/-- Clock and stamps stand on the grid of a tick size, and no timer that waits has its slot behind
it. -/
structure Paced (tick : Nat) (loop : EventLoop) : Prop where
  clock : (tick : Int) ∣ loop.clock
  stamps : ∀ timer ∈ loop.pending, (tick : Int) ∣ timer.createdAt
  slots : ∀ timer ∈ loop.pending, loop.clock ≤ timer.slot tick

section Paced

variable {tick : Nat} {loop : EventLoop}

theorem paced_start (tick : Nat) (program : List Task) : (start program).Paced tick where
  clock := dvd_zero _
  stamps := List.forall_mem_nil _
  slots := List.forall_mem_nil _

/-- A timer that waits is due exactly if its slot is now. -/
theorem Paced.isDue_iff (h : loop.Paced tick) (htick : 0 < tick) (htimed : Timed loop)
    {timer : PendingTimer} (hmem : timer ∈ loop.pending) :
    timer.isDue = true ↔ timer.slot tick = loop.clock := by
  have hgrid := dvd_sub h.clock (h.stamps timer hmem)
  rw [htimed.isDue_iff hmem, ← PendingTimer.slot_le_iff htick hgrid (htimed.stamped timer hmem)]
  exact ⟨fun hle => hle.antisymm (h.slots timer hmem), fun heq => heq.le⟩

/-- A step stamps its timer with a clock that is on the grid. -/
theorem Paced.step (h : loop.Paced tick) : loop.step.Paced tick := by
  have hnew : ∀ timer ∈ loop.step.pending, timer ∈ loop.pending ∨ timer.createdAt = loop.clock := by
    intro timer hmem
    rw [loop.stepped.pending, List.mem_append] at hmem
    exact hmem.imp_right fun hmem => (mem_timersOf hmem).1
  refine ⟨loop.stepped.clock ▸ h.clock, fun timer hmem => ?_, fun timer hmem => ?_⟩
  · rcases hnew timer hmem with hmem | hstamp
    · exact h.stamps timer hmem
    · exact hstamp ▸ h.clock
  · rw [loop.stepped.clock]
    rcases hnew timer hmem with hmem | hstamp
    · exact h.slots timer hmem
    · exact hstamp ▸ timer.createdAt_le_slot

/-- A tick of the size of the grid leaves no timer behind its slot. -/
theorem Paced.advance (h : loop.Paced tick) (htick : 0 < tick) (htimed : Timed loop) :
    (loop.advance tick).Paced tick := by
  refine ⟨?_, ?_, ?_⟩
  · rw [clock_advance]
    exact dvd_add h.clock (dvd_refl _)
  · intro timer hmem
    obtain ⟨before, hin, rfl⟩ := List.mem_map.mp hmem
    exact h.stamps before (List.mem_of_mem_filter hin)
  · intro timer hmem
    obtain ⟨before, hin, rfl⟩ := List.mem_map.mp hmem
    obtain ⟨hpending, hwaits⟩ := List.mem_filter.mp hin
    have hlate : loop.clock ≠ before.slot tick := fun heq => by
      rw [(h.isDue_iff htick htimed hpending).mpr heq.symm] at hwaits
      cases hwaits
    -- both are on the grid, so there is at least a tick between them
    have hahead := (h.slots before hpending).lt_of_ne hlate
    have hstep := Int.le_of_dvd (sub_pos.mpr hahead)
      (dvd_sub (PendingTimer.dvd_slot (h.stamps before hpending)) h.clock)
    rw [clock_advance, PendingTimer.wait_slot]
    omega

end Paced

/-! ## Runs -/

/-- All ticks of a run have one size. -/
def AtCadence (tick : Nat) (events : List Event) : Prop :=
  ∀ ms, Event.tick ms ∈ events → ms = tick

section Runs

variable {tick : Nat} {program : List Task} {events : List Event}

theorem AtCadence.of_append {later : List Event} (h : AtCadence tick (events ++ later)) :
    AtCadence tick events :=
  fun ms hmem => h ms (List.mem_append_left _ hmem)

theorem AtCadence.last {ms : Int} (h : AtCadence tick (events ++ [.tick ms])) : ms = tick :=
  h ms (List.mem_append_right _ List.mem_cons_self)

/-- **At a fixed cadence the clock and the timers stay on the grid.** -/
theorem replay_paced (htick : 0 < tick) (h : AtCadence tick events) :
    ((start program).replay events).Paced tick := by
  induction events using run_induction with
  | init => exact paced_start tick program
  | step events ih =>
    rw [replay_step]
    exact (ih h.of_append).step
  | tick events ms ih =>
    rw [replay_tick, h.last]
    exact (ih h.of_append).advance htick (replay_timed program events)

/-- The timers that a tick moves have the clock as their slot, and stand in the order of their
registration. -/
theorem movedBy_tick (program : List Task) (htick : 0 < tick) (h : AtCadence tick events)
    (ms : Int) :
    (∀ timer ∈ ((start program).replay events).movedBy (.tick ms),
        timer.slot tick = ((start program).replay events).clock) ∧
      (((start program).replay events).movedBy (.tick ms)).Sublist (registered program events) := by
  have hpaced : ((start program).replay events).Paced tick := replay_paced htick h
  have htimed := replay_timed program events
  constructor
  · intro timer hmem
    obtain ⟨before, hin, rfl⟩ := List.mem_map.mp hmem
    obtain ⟨hpending, hdue⟩ := List.mem_filter.mp hin
    rw [PendingTimer.fresh_slot]
    exact (hpaced.isDue_iff htick htimed hpending).mp hdue
  · exact (List.filter_sublist.map _).trans (pending_sublist program events)

/-- A timer that was moved has its slot behind it. -/
theorem slot_lt_of_moved (htick : 0 < tick) (h : AtCadence tick events) :
    ∀ timer ∈ moved program events, timer.slot tick < ((start program).replay events).clock := by
  unfold moved
  induction events using run_induction with
  | init => exact List.forall_mem_nil _
  | step events ih =>
    rw [trace_concat, movedBy, List.append_nil, replay_step, (stepped _).clock]
    exact ih h.of_append
  | tick events ms ih =>
    rw [trace_concat, replay_tick, h.last, clock_advance, List.forall_mem_append]
    have hpos : (0 : Int) < tick := Int.natCast_pos.mpr htick
    refine ⟨fun timer hmem => (ih h.of_append timer hmem).trans (lt_add_of_pos_right _ hpos),
      fun timer hmem => ?_⟩
    rw [(movedBy_tick program htick h.of_append tick).1 timer hmem]
    exact lt_add_of_pos_right _ hpos

/-- **Moved by slot**: the timers are moved in the order of their slots, and with one slot in the
order of their registration. -/
theorem moved_by_slot (htick : 0 < tick) (h : AtCadence tick events) :
    (moved program events).Pairwise (Precedes tick (registered program events)) := by
  induction events using run_induction with
  | init => exact .nil
  | step events ih =>
    rw [moved, trace_concat, movedBy, List.append_nil, registered_step]
    exact (ih h.of_append).imp fun hab => hab.append _
  | tick events ms ih =>
    rw [moved, trace_concat, registered_tick, List.pairwise_append]
    obtain ⟨hslot, horder⟩ := movedBy_tick program htick h.of_append ms
    refine ⟨ih h.of_append, ?_, ?_⟩
    · refine List.pairwise_iff_forall_sublist.mpr fun {a b} hab => .inr ⟨?_, hab.trans horder⟩
      rw [hslot a (hab.subset (by simp)), hslot b (hab.subset (by simp))]
    · intro a ha b hb
      rw [Precedes, hslot b hb]
      exact .inl (slot_lt_of_moved htick h.of_append a ha)

end Runs

/-! ## Scripts -/

/-- The timers of a run on their way through the macrotask queue, where all ticks have one size. -/
structure BySlot (tick : Nat) (program : List Task) (events : List Event) : Prop where
  /-- The timers registered are those that were moved and those that wait. -/
  all : (moved program events ++ ((start program).replay events).waiting).Perm
    (registered program events)
  /-- No two of them have the same id. -/
  ids : ((registered program events).map (·.task.id)).Nodup
  /-- Their delays are natural numbers. -/
  delays : ∀ timer ∈ registered program events, ∃ n : Nat, timer.task.delay = some (n : Int)
  /-- A timer was moved exactly if the clock is past its slot. -/
  passed : ∀ timer ∈ registered program events,
    timer ∈ moved program events ↔ timer.slot tick < ((start program).replay events).clock
  /-- The entries put into the queue are those of the timers moved, one after the other. -/
  entered : promoted program events = (moved program events).map (·.promoted)
  /-- The frames pushed for the entries taken off it are those of the first ones, in the same
  order. -/
  left : (begun program events).filter (fun frame => frame.kind = .timer) <+:
    (moved program events).map fun timer => timerFrame timer.promoted
  /-- The order is that of the slots, and with one slot that of the registrations. -/
  order : (moved program events).Pairwise (Precedes tick (registered program events))

section Scripts

variable {source : String} {program : List Task}

/-- **At a fixed cadence the timers go by slot.** Let all ticks of a run have one size. Then the
timers of the script enter the macrotask queue in the order of their slots, and those with one slot
in the order of their registration; and in this order they leave it. -/
theorem timers_by_slot (h : parse source = .ok program) {tick : Nat} (htick : 0 < tick)
    {events : List Event} (hcadence : AtCadence tick events) : BySlot tick program events := by
  have hall := moved_waiting_perm program events
  refine ⟨hall, registered_ids_nodup h events, fun timer hmem => ?_, fun timer hmem => ?_,
    promoted_eq program events, ?_, moved_by_slot htick hcadence⟩
  · obtain ⟨htask, hkind⟩ := registered_task h hmem
    exact (wellRead_of_parse h timer.task htask).timed hkind
  · refine ⟨slot_lt_of_moved htick hcadence timer, fun hslot => ?_⟩
    rcases List.mem_append.mp (hall.mem_iff.mpr hmem) with hmoved | hwaits
    · exact hmoved
    · obtain ⟨before, hpending, rfl⟩ := List.mem_map.mp hwaits
      rw [PendingTimer.fresh_slot] at hslot
      exact absurd hslot ((replay_paced htick hcadence).slots before hpending).not_gt
  · have hframes := promoted_frames program events
    rw [promoted_eq, List.map_map] at hframes
    exact ⟨_, hframes.symm⟩

/-- A run of `nestedForest` with ticks of three milliseconds, of which five are no multiple. The
first two timers are registered on one clock and share a slot, the third one comes to a later
slot. -/
def pacedRun : List Event :=
  [.step, .step, .step, .tick 3, .tick 3, .tick 3, .step, .step, .step, .step, .step, .tick 3,
    .tick 3, .tick 3, .step, .step, .step, .step, .step, .step, .step, .step]

theorem timers_by_slot_nested :
    parse nestedScript = .ok nestedForest ∧ 0 < 3 ∧ AtCadence 3 pacedRun ∧
      (registered nestedForest pacedRun).map (·.slot 3) = [6, 6, 15] ∧
      (promoted nestedForest pacedRun).map Task.id = ["task-6", "task-8", "task-5"] ∧
      BySlot 3 nestedForest pacedRun :=
  have hcadence : AtCadence 3 pacedRun := by
    unfold AtCadence pacedRun
    simp
  ⟨parse_nestedScript, by decide, hcadence, rfl, rfl,
    timers_by_slot parse_nestedScript (by decide) hcadence⟩

end Scripts

end EventLoop

end LoopStepper
