import LoopStepper.EventLoop.Bound
import LoopStepper.Proofs.Parsed
import LoopStepper.Proofs.Steps
import Mathlib.Algebra.Order.Floor.Div
import Mathlib.GroupTheory.GroupAction.Ring

/-!
# How long a run takes at most

A round is some steps and a tick. `remaining` counts the rounds that a loop may still need, place by
place: what is ahead in a frame and its return, the body of a queue entry with its start and its
return, and for a timer the ticks until it is moved as well. Whatever a step does costs at least one
of these rounds (`Stepped.remaining`), except for a step that finds nothing to do; then some timer
waits, and a tick brings every timer that waits one tick nearer (`remaining_advance`). So every
round of a loop that is not finished leaves fewer (`remaining_round`), and a loop that has none left
is finished.

At the start these are the rounds that the tasks take by themselves (`remaining_start`), and their
sum can be told from the numbers of tasks and callbacks and the delays (`enoughRounds_eq`).

Headline:
* **`run_finished`**: any forest is finished within that many rounds, and further rounds change
  nothing.
-/

namespace LoopStepper

open Script

/-! ## The rounds of a forest -/

theorem delayTicks_eq_ceilDiv (tick : Nat) (delay : Int) :
    delayTicks tick delay = delay.toNat ⌈/⌉ tick := by
  rw [delayTicks, Nat.ceilDiv_eq_add_pred_div]

/-- A delay that has passed takes no tick. -/
theorem delayTicks_of_nonpos (tick : Nat) {delay : Int} (h : delay ≤ 0) :
    delayTicks tick delay = 0 := by
  rw [delayTicks_eq_ceilDiv, Int.toNat_of_nonpos h, zero_ceilDiv]

/-- A tick takes one tick off what is left of a delay. -/
theorem delayTicks_sub_tick {tick : Nat} (htick : 0 < tick) {delay : Int} (h : 0 < delay) :
    delayTicks tick (delay - tick) + 1 = delayTicks tick delay := by
  unfold delayTicks
  by_cases hlast : delay ≤ tick
  · have hpassed : (delay - tick).toNat = 0 := by omega
    have hone : delay.toNat + tick - 1 = delay.toNat - 1 + tick := by omega
    rw [hpassed, hone, Nat.add_div_right _ htick, Nat.div_eq_of_lt (by omega),
      Nat.div_eq_of_lt (by omega)]
  · have hmore : delay.toNat + tick - 1 = (delay - tick).toNat + tick - 1 + tick := by omega
    rw [hmore, Nat.add_div_right _ htick]

theorem Task.rounds_eq (tick : Nat) (task : Task) :
    task.rounds tick = task.ownRounds tick + forestRounds tick task.body := by
  obtain ⟨_, _, _, _, children, _⟩ := task
  cases children <;> rfl

@[simp] theorem forestRounds_nil (tick : Nat) : forestRounds tick [] = 0 := rfl

@[simp] theorem forestRounds_cons (tick : Nat) (task : Task) (tasks : List Task) :
    forestRounds tick (task :: tasks) =
      task.ownRounds tick + forestRounds tick task.body + forestRounds tick tasks := by
  rw [forestRounds, Task.rounds_eq]

/-- The rounds of a forest are those of its tasks. -/
theorem forestRounds_eq_sum (tick : Nat) (tasks : List Task) :
    forestRounds tick tasks = ((forestTasks tasks).map (Task.ownRounds tick)).sum := by
  induction tasks using forest_induction with
  | nil => rfl
  | cons task tasks ihbody ihtasks =>
    rw [forestRounds_cons, forestTasks_cons, List.map_cons, List.map_append, List.sum_cons,
      List.sum_append, ihbody, ihtasks, Nat.add_assoc]

/-- A number of rounds told from the tasks of a script: one for each task, two more for each
callback, two for the script itself, and for each timer the ticks that its delay takes and one. -/
def countedRounds (tick : Nat) (program : List Task) : Nat :=
  let tasks := forestTasks program
  tasks.length + 2 * tasks.countP (fun task => task.kind = .timer ∨ task.kind = .microtask) + 2 +
    ((tasks.filter (·.kind = .timer)).map fun task =>
      (task.delay.getD 0).toNat ⌈/⌉ tick + 1).sum

theorem sum_ownRounds (tick : Nat) (tasks : List Task) :
    (tasks.map (Task.ownRounds tick)).sum =
      tasks.length + 2 * tasks.countP (fun task => task.kind = .timer ∨ task.kind = .microtask) +
        ((tasks.filter (·.kind = .timer)).map fun task =>
          (task.delay.getD 0).toNat ⌈/⌉ tick + 1).sum := by
  induction tasks with
  | nil => rfl
  | cons task tasks ih =>
    rw [List.map_cons, List.sum_cons, ih, List.length_cons, List.countP_cons, List.filter_cons]
    cases hkind : task.kind <;> simp [Task.ownRounds, hkind, delayTicks_eq_ceilDiv] <;> omega

/-- The rounds that are enough are those that are counted. -/
theorem enoughRounds_eq (tick : Nat) (program : List Task) :
    enoughRounds tick program = countedRounds tick program := by
  rw [enoughRounds, forestRounds_eq_sum, sum_ownRounds, countedRounds]
  omega

/-! ## The rounds of a loop -/

/-- The rounds that a frame may still need: what is ahead, and its return. -/
def Frame.remaining (tick : Nat) (frame : Frame) : Nat :=
  forestRounds tick frame.ahead + 1

/-- The rounds that a queue entry needs: its start, its body and its return. -/
def Task.remaining (tick : Nat) (entry : Task) : Nat :=
  forestRounds tick entry.body + 2

/-- The rounds that a timer needs: the ticks until it is moved, and those of its queue entry. -/
def PendingTimer.remainingRounds (tick : Nat) (timer : PendingTimer) : Nat :=
  delayTicks tick timer.remaining + 1 + timer.task.remaining tick

namespace EventLoop

/-- The rounds that a loop may still need; the last one finds that all is done. -/
def remaining (tick : Nat) (loop : EventLoop) : Nat :=
  if loop.finished then 0
  else (loop.stack.map (Frame.remaining tick)).sum +
    (loop.pending.map (PendingTimer.remainingRounds tick)).sum +
    (loop.microtasks.map (Task.remaining tick)).sum +
    (loop.macrotasks.map (Task.remaining tick)).sum + 1

section Rounds

variable {tick : Nat} {loop next : EventLoop} {ran : List Task}

theorem remaining_of_live (tick : Nat) (h : loop.finished = false) :
    loop.remaining tick = (loop.stack.map (Frame.remaining tick)).sum +
      (loop.pending.map (PendingTimer.remainingRounds tick)).sum +
      (loop.microtasks.map (Task.remaining tick)).sum +
      (loop.macrotasks.map (Task.remaining tick)).sum + 1 := by
  rw [remaining, h]
  rfl

/-- A loop that needs no more rounds is finished. -/
theorem finished_of_remaining (h : loop.remaining tick = 0) : loop.finished = true := by
  by_contra hlive
  rw [remaining_of_live tick (Bool.eq_false_of_not_eq_true hlive)] at h
  omega

theorem remaining_start (tick : Nat) (program : List Task) :
    (start program).remaining tick = enoughRounds tick program := by
  rw [remaining_of_live tick rfl]
  simp [start, mainFrame, Frame.remaining, Frame.ahead, enoughRounds]

/-- An instruction hands its body on: what it registers and one round more is at most what it
takes. -/
theorem remaining_registered (tick : Nat) (loop : EventLoop) (task : Task) :
    ((loop.timersOf task).map (PendingTimer.remainingRounds tick)).sum +
        ((loop.entriesOf task).map (Task.remaining tick)).sum + 1 ≤
      task.ownRounds tick + forestRounds tick task.body := by
  unfold timersOf entriesOf Task.ownRounds
  cases hkind : task.kind with
  | log | main => simp
  | timer => simp [PendingTimer.remainingRounds, Task.remaining]; omega
  | microtask => simp [Task.remaining, microtaskEntry, Task.body]; omega

/-- **Whatever a step does costs a round**; a step that does nothing is one of a finished loop, or
waits for a timer. -/
theorem Stepped.remaining (h : Stepped loop ran next) (tick : Nat)
    (hlive : loop.finished = false) :
    next.remaining tick < loop.remaining tick ∨ next = loop ∧ loop.pending ≠ [] := by
  cases h with
  | rest hfin => exact absurd (hlive ▸ hfin) (by simp)
  | leave _ hstack hend =>
    refine .inl ?_
    simp only [EventLoop.remaining, hlive, hstack, List.map_cons, List.sum_cons, Frame.remaining,
      Bool.false_eq_true, if_false]
    omega
  | @execute top below task _ hstack hnext =>
    refine .inl ?_
    have hcost := remaining_registered tick loop task
    have hahead := congrArg (forestRounds tick) (Frame.ahead_eq_cons hnext)
    rw [forestRounds_cons] at hahead
    simp only [EventLoop.remaining, perform_finished, perform_stack, perform_pending,
      perform_microtasks, perform_macrotasks, timersOf_frames, entriesOf_frames, List.map_append,
      List.sum_append]
    simp only [hlive, hstack, List.map_cons, List.sum_cons, Frame.remaining, hahead,
      Bool.false_eq_true, if_false]
    omega
  | microtask _ hstack hmicros =>
    refine .inl ?_
    simp only [EventLoop.remaining, enter, hlive, hstack, hmicros, List.map_cons, List.map_nil,
      List.sum_cons, List.sum_nil, Frame.remaining, Frame.ofEntry, Frame.ahead, List.drop_zero,
      Task.remaining, Bool.false_eq_true, if_false]
    omega
  | macrotask _ hstack hmicros hmacros =>
    refine .inl ?_
    simp only [EventLoop.remaining, enter, hlive, hstack, hmacros, List.map_cons, List.map_nil,
      List.sum_cons, List.sum_nil, Frame.remaining, Frame.ofEntry, Frame.ahead, List.drop_zero,
      Task.remaining, Bool.false_eq_true, if_false]
    omega
  | finish =>
    refine .inl ?_
    simp only [EventLoop.remaining, hlive, if_true, Bool.false_eq_true, if_false]
    omega
  | wait _ _ _ _ hpending => exact .inr ⟨rfl, hpending⟩

/-- A tick brings every timer that waits one tick nearer to its queue entry. -/
theorem sum_remainingRounds_advance (htick : 0 < tick) (pending : List PendingTimer) :
    (((pending.filter (!·.isDue)).map (·.wait tick)).map
          (PendingTimer.remainingRounds tick)).sum +
        (((pending.filter (·.isDue)).map (·.promoted)).map (Task.remaining tick)).sum +
        pending.length =
      (pending.map (PendingTimer.remainingRounds tick)).sum := by
  induction pending with
  | nil => rfl
  | cons timer pending ih =>
    by_cases hdue : timer.remaining ≤ 0
    · have hticks := delayTicks_of_nonpos tick hdue
      have hpromoted : timer.promoted.remaining tick = timer.task.remaining tick := rfl
      simp [PendingTimer.isDue, hdue, PendingTimer.remainingRounds, hticks, hpromoted] at ih ⊢
      omega
    · have hticks := delayTicks_sub_tick htick (not_le.mp hdue)
      simp [PendingTimer.isDue, hdue, PendingTimer.remainingRounds, PendingTimer.wait] at ih ⊢
      omega

/-- A tick of a loop that is not finished saves a round for each timer that waits. -/
theorem remaining_advance (htick : 0 < tick) (hlive : loop.finished = false) :
    (loop.advance tick).remaining tick + loop.pending.length = loop.remaining tick := by
  have helapsed : max 0 (tick : Int) = tick := max_eq_right (Int.natCast_nonneg tick)
  have hsum := sum_remainingRounds_advance htick loop.pending
  rw [remaining_of_live tick hlive, remaining_of_live tick (by exact hlive)]
  simp only [advance, helapsed, List.map_append, List.sum_append] at hsum ⊢
  omega

theorem remaining_advance_le (htick : 0 < tick) :
    (loop.advance tick).remaining tick ≤ loop.remaining tick := by
  cases hfin : loop.finished with
  | true =>
    rw [remaining, if_pos (by exact hfin)]
    exact Nat.zero_le _
  | false =>
    have := remaining_advance htick hfin
    omega

/-- Steps cost no rounds that were not counted. -/
theorem remaining_steps_le (tick n : Nat) (loop : EventLoop) :
    (loop.steps n).remaining tick ≤ loop.remaining tick := by
  induction n generalizing loop with
  | zero => exact le_rfl
  | succ n ih =>
    refine (ih loop.step).trans ?_
    cases hfin : loop.finished with
    | true => rw [step, if_pos hfin]
    | false =>
      rcases loop.stepped.remaining tick hfin with hless | ⟨hsame, -⟩
      · exact hless.le
      · rw [hsame]

/-- Where a step does nothing, so do all that follow. -/
theorem steps_of_step_eq (h : loop.step = loop) (n : Nat) : loop.steps n = loop := by
  induction n with
  | zero => rfl
  | succ n ih => rw [steps, h, ih]

/-- **A round of a loop that is not finished leaves fewer rounds.** -/
theorem remaining_round (htick : 0 < tick) {perRound : Nat} (hper : 0 < perRound)
    (hlive : loop.finished = false) :
    ((loop.steps perRound).advance tick).remaining tick < loop.remaining tick := by
  obtain ⟨n, rfl⟩ := Nat.exists_eq_succ_of_ne_zero hper.ne'
  rcases loop.stepped.remaining tick hlive with hless | ⟨hsame, hpending⟩
  · calc ((loop.steps (n + 1)).advance tick).remaining tick
        ≤ (loop.step.steps n).remaining tick := remaining_advance_le htick
      _ ≤ loop.step.remaining tick := remaining_steps_le tick n loop.step
      _ < loop.remaining tick := hless
  · rw [steps_of_step_eq hsame]
    have hnearer := remaining_advance htick hlive
    have := List.length_pos_of_ne_nil hpending
    omega

/-- A finished loop has no more rounds. -/
theorem runRounds_of_finished (h : loop.finished = true) (ms : Int) (perRound rounds : Nat) :
    runRounds ms perRound loop rounds = loop := by
  cases rounds with
  | zero => rfl
  | succ rounds => rw [runRounds, if_pos h]

/-- **As many rounds as a loop may need finish it**, and with more of them it ends in the same
state. -/
theorem runRounds_of_remaining_le (htick : 0 < tick) {perRound : Nat} (hper : 0 < perRound)
    {rounds more : Nat} (h : loop.remaining tick ≤ rounds) (hmore : rounds ≤ more) :
    (runRounds tick perRound loop rounds).finished = true ∧
      runRounds tick perRound loop more = runRounds tick perRound loop rounds := by
  induction rounds generalizing loop more with
  | zero =>
    have hfin := finished_of_remaining (Nat.le_zero.mp h)
    exact ⟨hfin, runRounds_of_finished hfin _ _ more⟩
  | succ rounds ih =>
    cases hfin : loop.finished with
    | true =>
      rw [runRounds_of_finished hfin, runRounds_of_finished hfin]
      exact ⟨hfin, rfl⟩
    | false =>
      obtain ⟨more, rfl⟩ := Nat.exists_eq_add_of_le hmore
      have hround := remaining_round htick hper hfin
      rw [Nat.add_right_comm, runRounds, runRounds, hfin, if_neg Bool.false_ne_true,
        if_neg Bool.false_ne_true]
      exact ih (by omega) (Nat.le_add_right rounds more)

/-! ## Runs -/

/-- A run of a loop that is not finished is made of its rounds. -/
theorem run_eq_runRounds {perRound rounds : Quantity} {per limit : Int}
    (hper : perRound.toInt = .ok per) (hrounds : rounds.toInt = .ok limit) (hlimit : 0 < limit)
    (hlive : loop.finished = false) :
    run loop (.whole tick) perRound rounds =
      .ok (runRounds tick (max 1 per).toNat loop limit.toNat) := by
  unfold run
  rw [hper, hrounds]
  simp [hlive, not_le.mpr hlimit, bind, Except.bind, pure, Except.pure]

end Rounds

/-- **Every forest is finished within the rounds that are counted for it**, however many steps there
are in a round, and more rounds end in the same state. -/
theorem run_finished (program : List Task) {tick : Nat} (htick : 1 ≤ tick) {perRound : Quantity}
    {per : Int} (hper : perRound.toInt = .ok per) :
    ∃ last : EventLoop, last.finished = true ∧ ∀ (rounds : Quantity) (limit : Int),
      rounds.toInt = .ok limit → (countedRounds tick program : Int) ≤ limit →
        run (start program) (.whole tick) perRound rounds = .ok last := by
  have henough : (start program).remaining tick = countedRounds tick program := by
    rw [remaining_start, enoughRounds_eq]
  have hsteps : 0 < (max 1 per).toNat := by omega
  have hlimit : 0 < countedRounds tick program := by rw [countedRounds]; omega
  refine ⟨runRounds tick (max 1 per).toNat (start program) (countedRounds tick program),
    (runRounds_of_remaining_le htick hsteps henough.le le_rfl).1, ?_⟩
  intro rounds limit hrounds hle
  rw [run_eq_runRounds hper hrounds (by omega) rfl]
  exact congrArg Except.ok (runRounds_of_remaining_le htick hsteps henough.le (by omega)).2

/-- A run of a script of nine tasks, four of them callbacks; a number of steps below one counts as
one. -/
theorem run_finished_nested :
    countedRounds 2 nestedForest = 31 ∧ 1 ≤ 2 ∧ (Quantity.whole (-4)).toInt = .ok (-4) ∧
      ∃ last : EventLoop, last.finished = true ∧ ∀ (rounds : Quantity) (limit : Int),
        rounds.toInt = .ok limit → (countedRounds 2 nestedForest : Int) ≤ limit →
          run (start nestedForest) (.whole (2 : Nat)) (.whole (-4)) rounds = .ok last :=
  ⟨rfl, by decide, rfl, run_finished nestedForest (by decide) rfl⟩

end EventLoop

end LoopStepper
