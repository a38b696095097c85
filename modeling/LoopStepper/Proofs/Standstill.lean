import LoopStepper.Proofs.Steps

/-!
# When a loop stands still

A step that does nothing is no accident: either the run is finished, or nothing can run and a timer
waits (`step_eq_self_iff`). Every other step moves a cursor on, drops a frame, takes an entry off a
queue, or finishes the run. So a loop is never stuck: as long as there is a frame or an entry, steps
go on; where only timers are left, ticks bring them into the queue; and where nothing is left, one
step finishes the run.

A finished run stays as it is, and of all that is in it only the clock goes on
(`replay_of_finished`), by the milliseconds of the ticks. That it has nothing left to do, and no
line active, is kept by every event (`Tidy`), together with the bound on the call stack: a callback
begins only when the stack is empty.

Headline:
* **`never_stuck`**: all of this, in every state that a run of any forest reaches.
-/

namespace LoopStepper

/-- The milliseconds by which an event moves the clock. -/
def Event.elapsed : Event → Int
  | .step => 0
  | .tick ms => max 0 ms

namespace EventLoop

variable {loop next : EventLoop} {ran : List Task}

/-! ## Steps that do nothing -/

/-- Nothing can run, and some timer waits. -/
structure Waits (loop : EventLoop) : Prop where
  stack : loop.stack = []
  microtasks : loop.microtasks = []
  macrotasks : loop.macrotasks = []
  pending : loop.pending ≠ []

theorem Waits.step_eq (h : loop.Waits) : loop.step = loop := by
  simp [step, h.stack, h.microtasks, h.macrotasks, h.pending]

/-- **A step that changes nothing rests or waits**: all others leave a trace of their own. -/
theorem Stepped.rests_or_waits (h : Stepped loop ran next) (heq : next = loop) :
    loop.finished = true ∨ loop.Waits := by
  cases h with
  | rest hfin => exact .inl hfin
  | wait hlive hstack hmicros hmacros hpending =>
    exact .inr ⟨hstack, hmicros, hmacros, hpending⟩
  | leave hlive hstack hend =>
    have hbelow := (congrArg (·.stack) heq).trans hstack
    exact absurd hbelow.symm (List.cons_ne_self _ _)
  | execute hlive hstack hnow =>
    have htop := (congrArg (·.stack) heq).trans hstack
    rw [perform_stack] at htop
    have hcursor := congrArg Frame.cursor (List.cons.inj htop).1
    exact absurd hcursor (Nat.succ_ne_self _)
  | microtask hlive hstack hmicros =>
    have hlater := (congrArg (·.microtasks) heq).trans hmicros
    exact absurd hlater.symm (List.cons_ne_self _ _)
  | macrotask hlive hstack hmicros hmacros =>
    have hlater := (congrArg (·.macrotasks) heq).trans hmacros
    exact absurd hlater.symm (List.cons_ne_self _ _)
  | finish => exact .inl (congrArg (·.finished) heq).symm

theorem step_eq_self_iff (loop : EventLoop) :
    loop.step = loop ↔ loop.finished = true ∨ loop.Waits :=
  ⟨loop.stepped.rests_or_waits, Or.rec step_of_finished Waits.step_eq⟩

/-- Where nothing is left to do, a step finishes the run. -/
theorem Stepped.finishes (h : Stepped loop ran next) (hlive : loop.finished = false)
    (hsettled : loop.Settled) : next = { loop with finished := true, activeLine := none } := by
  cases h with
  | finish => rfl
  | rest hfin => exact absurd (hlive.symm.trans hfin) Bool.false_ne_true
  | leave _ hstack | execute _ hstack =>
    exact absurd (hstack.symm.trans hsettled.stack) (List.cons_ne_nil _ _)
  | microtask _ _ hmicros =>
    exact absurd (hmicros.symm.trans hsettled.microtasks) (List.cons_ne_nil _ _)
  | macrotask _ _ _ hmacros =>
    exact absurd (hmacros.symm.trans hsettled.macrotasks) (List.cons_ne_nil _ _)
  | wait _ _ _ _ hpending => exact absurd hsettled.pending hpending

/-! ## What every event keeps -/

/-- At most one frame is on the stack, and a finished run has left nothing behind. -/
structure Tidy (loop : EventLoop) : Prop where
  frames : loop.stack.length ≤ 1
  settled : loop.finished = true → loop.Settled
  line : loop.finished = true → loop.activeLine = none

theorem tidy_start (program : List Task) : (start program).Tidy where
  frames := Nat.le_refl 1
  settled := nofun
  line := nofun

theorem Tidy.advance (h : loop.Tidy) (ms : Int) : (loop.advance ms).Tidy where
  frames := h.frames
  settled hfin := (h.settled hfin).advance ms
  line := h.line

/-- A callback begins on an empty stack, and an instruction stays in its frame. -/
theorem Stepped.frames (h : Stepped loop ran next) (hloop : loop.stack.length ≤ 1) :
    next.stack.length ≤ 1 := by
  cases h with
  | rest | finish | wait => exact hloop
  | leave hlive hstack =>
    rw [hstack, List.length_cons] at hloop
    exact Nat.le_of_succ_le hloop
  | execute hlive hstack =>
    rw [hstack, List.length_cons] at hloop
    rwa [perform_stack, List.length_cons]
  | microtask | macrotask => exact Nat.le_refl 1

/-- A step that finishes the run leaves no line active. -/
theorem Stepped.line (h : Stepped loop ran next)
    (hloop : loop.finished = true → loop.activeLine = none) (hfin : next.finished = true) :
    next.activeLine = none := by
  cases h with
  | rest | wait => exact hloop hfin
  | leave | finish => rfl
  | execute hlive =>
    rw [perform_finished] at hfin
    exact absurd (hlive.symm.trans hfin) Bool.false_ne_true
  | microtask hlive | macrotask hlive =>
    exact absurd (hlive.symm.trans hfin) Bool.false_ne_true

theorem Tidy.step (h : loop.Tidy) : loop.step.Tidy where
  frames := loop.stepped.frames h.frames
  settled := loop.stepped.settled h.settled
  line := loop.stepped.line h.line

/-- **Every run keeps its loop tidy.** -/
theorem replay_tidy (program : List Task) (events : List Event) :
    ((start program).replay events).Tidy :=
  replay_invariant (fun _ h => h.step) (fun _ ms h => h.advance ms) (tidy_start program) events

/-! ## After the end -/

/-- The milliseconds by which some events move the clock. -/
def elapsed (events : List Event) : Int :=
  events.foldl (fun total event => total + event.elapsed) 0

theorem elapsed_concat (events : List Event) (event : Event) :
    elapsed (events ++ [event]) = elapsed events + event.elapsed := by
  rw [elapsed, List.foldl_append]
  rfl

/-- A tick finds no timer in a settled loop. -/
theorem Settled.advance_eq (h : loop.Settled) (ms : Int) :
    loop.advance ms = { loop with clock := loop.clock + max 0 ms } := by
  simp [EventLoop.advance, h.pending]

/-- **After the end only the clock goes on.** -/
theorem replay_of_finished (hfin : loop.finished = true) (hsettled : loop.Settled)
    (later : List Event) :
    loop.replay later = { loop with clock := loop.clock + elapsed later } := by
  induction later using run_induction with
  | init => simp [elapsed]
  | step events ih =>
    have hover : (loop.replay events).finished = true := by rw [ih]; exact hfin
    rw [replay_step, step_of_finished hover, ih, elapsed_concat, Event.elapsed, Int.add_zero]
  | tick events ms ih =>
    have hleft : (loop.replay events).Settled := by rw [ih]; exact { hsettled with }
    rw [replay_tick, hleft.advance_eq, ih, elapsed_concat, Event.elapsed, Int.add_assoc]

/-- A loop goes on as long as there is something to do, and stays as it is when there is not. -/
structure Progresses (loop : EventLoop) : Prop where
  /-- There is at most one frame. -/
  frames : loop.stack.length ≤ 1
  /-- A step does nothing exactly if the run is finished or only timers are left. -/
  still : loop.step = loop ↔ loop.finished = true ∨ loop.Waits
  /-- A finished run has nothing left to do. -/
  settled : loop.finished = true → loop.Settled
  /-- Nor is any of its lines active. -/
  line : loop.finished = true → loop.activeLine = none
  /-- Whatever happens later, only the clock goes on. -/
  final : loop.finished = true →
    ∀ later, loop.replay later = { loop with clock := loop.clock + elapsed later }
  /-- Where nothing is left to do, one step finishes the run. -/
  finishes : loop.Settled → loop.step = { loop with finished := true, activeLine := none }

/-- **A loop is never stuck, and a finished one is done.** -/
theorem never_stuck (program : List Task) (events : List Event) :
    ((start program).replay events).Progresses := by
  have htidy := replay_tidy program events
  generalize (start program).replay events = loop at htidy ⊢
  refine ⟨htidy.frames, step_eq_self_iff loop, htidy.settled, htidy.line,
    fun hfin => replay_of_finished hfin (htidy.settled hfin), fun hsettled => ?_⟩
  cases hfin : loop.finished with
  | false => exact loop.stepped.finishes hfin hsettled
  | true =>
    rw [step_of_finished hfin, ← hfin, ← htidy.line hfin]

end EventLoop

end LoopStepper
