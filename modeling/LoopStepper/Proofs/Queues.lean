import LoopStepper.Proofs.Countdown

/-!
# What a schedule cannot change

Where all timers of a script carry the same delay, ticks decide when a callback runs but not in
which order. The order is that of an interpreter with two queues of bodies and no clock: run the
script, then the bodies of the microtask queue until none is left, then the body of the timer that
was registered first, then the microtask queue again, and so on (`drain`, `queueOutput`).

The run of an event loop is compared with it by what is still to come: `toCome` runs the
interpreter on what is left in a loop, the macrotask queue in front of the timers that wait. A step
prints what it takes off (`Stepped.toCome`), in any loop. A tick moves timers from the front of the
timer table to the end of the macrotask queue, which is no change of their order as long as the
timers that are due are the first ones (`advance_toCome`); with one delay for all they are, since
the stamps do not decrease (`sorted_of_delay`).

Headline:
* **`output_of_finished`**: with one delay for all timers, whatever the schedule, a run that is
  finished has printed the output of the interpreter; so two such runs have the same output.
-/

namespace LoopStepper

open Script

/-! ## The interpreter -/

/-- The messages that a body prints itself. -/
def ownMessages (body : List Task) : List String :=
  body.flatMap Task.ownMessage

/-- The bodies that a body registers under a kind, in order. -/
def registeredBodies (kind : TaskKind) (body : List Task) : List (List Task) :=
  (body.filter fun task => task.kind = kind).map Task.body

/-- The bodies that a body registers under two different kinds are visited with the body. -/
theorem registeredBodies_visits (body : List Task) :
    stackVisits (registeredBodies .microtask body) + stackVisits (registeredBodies .timer body) ≤
      forestVisits body := by
  induction body with
  | nil => simp [registeredBodies, stackVisits, forestVisits]
  | cons task body ih =>
    unfold registeredBodies at ih ⊢
    rw [forestVisits, Task.visits_eq, List.filter_cons, List.filter_cons]
    cases hkind : task.kind <;> simp [stackVisits] <;> omega

theorem stackVisits_append (stack others : List (List Task)) :
    stackVisits (stack ++ others) = stackVisits stack + stackVisits others := by
  induction stack with
  | nil => simp [stackVisits]
  | cons body stack ih => rw [List.cons_append, stackVisits, stackVisits, ih]; omega

/-- What the bodies in the two queues print when they are run: the microtask queue first, until it
is empty, then the first of the timers. Each body puts the bodies that it registers at the ends of
the queues. -/
def drain : (microtasks timers : List (List Task)) → List String
  | body :: microtasks, timers =>
    ownMessages body ++
      drain (microtasks ++ registeredBodies .microtask body)
        (timers ++ registeredBodies .timer body)
  | [], body :: timers =>
    ownMessages body ++
      drain (registeredBodies .microtask body) (timers ++ registeredBodies .timer body)
  | [], [] => []
termination_by microtasks timers => stackVisits microtasks + stackVisits timers
decreasing_by
  · have := registeredBodies_visits body
    simp only [stackVisits_append, stackVisits]
    omega
  · have := registeredBodies_visits body
    simp only [stackVisits_append, stackVisits]
    omega

/-- The output of a script that is run with queues and without a clock. -/
def queueOutput (program : List Task) : List String :=
  ownMessages program ++
    drain (registeredBodies .microtask program) (registeredBodies .timer program)

namespace EventLoop

/-! ## What is still to come -/

/-- The instructions that the frames on the call stack have ahead, the innermost first. -/
def stackAhead (loop : EventLoop) : List Task :=
  loop.stack.flatMap Frame.ahead

/-- What the interpreter prints if it goes on where a loop stands: first what the call stack has
ahead, then the queues, with the timers that wait behind the macrotask queue. -/
def toCome (loop : EventLoop) : List String :=
  ownMessages loop.stackAhead ++
    drain (loop.microtasks.map Task.body ++ registeredBodies .microtask loop.stackAhead)
      (loop.macrotasks.map Task.body ++ loop.pending.map (·.task.body) ++
        registeredBodies .timer loop.stackAhead)

theorem toCome_start (program : List Task) : (start program).toCome = queueOutput program := by
  simp [toCome, queueOutput, stackAhead, start, mainFrame, Frame.ahead]

/-- A settled loop has nothing to come. -/
theorem Settled.toCome {loop : EventLoop} (h : loop.Settled) : loop.toCome = [] := by
  simp [EventLoop.toCome, stackAhead, h.stack, h.pending, h.microtasks, h.macrotasks,
    ownMessages, registeredBodies, drain]

/-- An instruction hands its body on to the queue of its kind. -/
theorem registeredBodies_cons (loop : EventLoop) (task : Task) (later : List Task) :
    registeredBodies .timer (task :: later) =
        (loop.timersOf task).map (·.task.body) ++ registeredBodies .timer later ∧
      registeredBodies .microtask (task :: later) =
        (loop.entriesOf task).map Task.body ++ registeredBodies .microtask later := by
  unfold registeredBodies timersOf entriesOf
  cases hkind : task.kind <;> simp [hkind, microtaskEntry, Task.body]

/-- **A step prints what was to come next.** -/
theorem Stepped.toCome {loop next : EventLoop} {ran : List Task} (h : Stepped loop ran next) :
    next.output ++ next.toCome = loop.output ++ loop.toCome := by
  rw [h.output]
  cases h with
  | rest hfin => simp
  | leave hlive hstack hend =>
    simp [EventLoop.toCome, stackAhead, hstack, Frame.ahead_eq_nil hend]
  | @execute top below task hlive hstack hnext =>
    -- the frames go on behind the task, and its body is at the end of its queue on both sides
    have hahead : loop.stackAhead = task ::
        ({ top with cursor := top.cursor + 1 } :: below).flatMap Frame.ahead := by
      rw [stackAhead, hstack, List.flatMap_cons, Frame.ahead_eq_cons hnext, List.flatMap_cons,
        List.cons_append]
    obtain ⟨htimer, hmicros⟩ := registeredBodies_cons loop task
      (({ top with cursor := top.cursor + 1 } :: below).flatMap Frame.ahead)
    rw [EventLoop.toCome, EventLoop.toCome, hahead, htimer, hmicros]
    simp only [stackAhead, perform_stack, perform_pending, perform_microtasks, perform_macrotasks,
      timersOf_frames, entriesOf_frames, ownMessages, List.flatMap_cons, List.flatMap_nil,
      List.map_append, List.append_assoc, List.append_nil]
  | @microtask entry later hlive hstack hmicros =>
    simp [EventLoop.toCome, stackAhead, hstack, hmicros, enter, Frame.ofEntry, Frame.ahead,
      ownMessages, registeredBodies, drain]
  | @macrotask entry later hlive hstack hmicros hmacros =>
    simp [EventLoop.toCome, stackAhead, hstack, hmicros, hmacros, enter, Frame.ofEntry, Frame.ahead,
      ownMessages, registeredBodies, drain]
  | finish hlive hstack hmicros hmacros hpending => simp [EventLoop.toCome, stackAhead]
  | wait hlive hstack hmicros hmacros hpending => simp

/-- A tick that takes its timers from the front of the timer table changes nothing of what is to
come. -/
theorem advance_toCome {loop : EventLoop} (ms : Int)
    (hfront : loop.pending.filter (·.isDue) ++ loop.pending.filter (!·.isDue) = loop.pending) :
    (loop.advance ms).toCome = loop.toCome := by
  have hsplit : loop.pending.map (·.task.body) =
      (loop.pending.filter (·.isDue)).map (·.task.body) ++
        (loop.pending.filter (!·.isDue)).map (·.task.body) := by
    rw [← List.map_append, hfront]
  have hbodies : (loop.advance ms).macrotasks.map Task.body ++
      (loop.advance ms).pending.map (·.task.body) =
        loop.macrotasks.map Task.body ++ loop.pending.map (·.task.body) := by
    rw [hsplit, ← List.append_assoc]
    simp only [advance, List.map_append, List.map_map]
    rfl
  rw [EventLoop.toCome, EventLoop.toCome, hbodies]
  rfl

/-! ## One delay for all -/

/-- Where the timers that wait have the same delay, less is left of those that wait longer. -/
theorem sorted_of_delay {loop : EventLoop} (htimed : Timed loop) {delay : Int}
    (hdelay : ∀ timer ∈ loop.pending, timer.delay = delay) :
    loop.pending.Pairwise fun earlier later => earlier.remaining ≤ later.remaining := by
  refine htimed.stamps.imp_of_mem fun {earlier later} hearlier hlater hstamp => ?_
  rw [htimed.countdown earlier hearlier, htimed.countdown later hlater, hdelay earlier hearlier,
    hdelay later hlater]
  omega

/-- The timers that are due are the first ones if what is left does not decrease. -/
theorem due_first {pending : List PendingTimer}
    (h : pending.Pairwise fun earlier later => earlier.remaining ≤ later.remaining) :
    pending.filter (·.isDue) ++ pending.filter (!·.isDue) = pending := by
  induction pending with
  | nil => rfl
  | cons timer pending ih =>
    obtain ⟨hfirst, hrest⟩ := List.pairwise_cons.mp h
    cases hdue : timer.isDue with
    | true =>
      rw [List.filter_cons_of_pos hdue, List.filter_cons_of_neg (by simp [hdue]),
        List.cons_append, ih hrest]
    | false =>
      -- nothing is due behind a timer that is not
      have hnone : pending.filter (·.isDue) = [] := by
        refine List.filter_eq_nil_iff.mpr fun later hlater hlate => ?_
        have hle := hfirst later hlater
        simp only [PendingTimer.isDue, decide_eq_true_eq, decide_eq_false_iff_not] at hdue hlate
        omega
      have hih := ih hrest
      rw [hnone, List.nil_append] at hih
      rw [List.filter_cons_of_neg (by simp [hdue]), List.filter_cons_of_pos (by simp [hdue]),
        hnone, hih, List.nil_append]

section Scripts

variable {source : String} {program : List Task} {delay : Int}

/-- The timers that wait in a run have the delay that all timers of the script have. -/
theorem pending_delay (h : parse source = .ok program)
    (hdelay : ∀ task ∈ forestTasks program, task.kind = .timer → task.delay = some delay)
    (events : List Event) :
    ∀ timer ∈ ((start program).replay events).pending, timer.delay = delay := by
  intro timer hmem
  obtain ⟨htask, hkind⟩ := pending_task h events hmem
  rw [PendingTimer.delay, hdelay timer.task htask hkind, Option.getD_some]

/-- **Printed and to come**: along a run, what was printed and what is to come are together the
output of the interpreter. -/
theorem replay_toCome (h : parse source = .ok program)
    (hdelay : ∀ task ∈ forestTasks program, task.kind = .timer → task.delay = some delay)
    (events : List Event) :
    ((start program).replay events).output ++ ((start program).replay events).toCome =
      queueOutput program := by
  induction events using run_induction with
  | init => rw [replay_nil, toCome_start]; rfl
  | step events ih =>
    rw [replay_step, ← ih]
    exact (stepped _).toCome
  | tick events ms ih =>
    have hsorted := sorted_of_delay (replay_timed program events) (pending_delay h hdelay events)
    rw [replay_tick, advance_toCome ms (due_first hsorted), ← ih]
    rfl

/-- **The schedule does not matter** where all timers of a script carry the same delay: every run
that is finished has printed the output of the interpreter. -/
theorem output_of_finished (h : parse source = .ok program)
    (hdelay : ∀ task ∈ forestTasks program, task.kind = .timer → task.delay = some delay)
    {events others : List Event} (hevents : ((start program).replay events).finished = true)
    (hothers : ((start program).replay others).finished = true) :
    ((start program).replay events).output = ((start program).replay others).output ∧
      ((start program).replay events).output = queueOutput program := by
  have hone := replay_toCome h hdelay events
  have htwo := replay_toCome h hdelay others
  rw [(replay_settled program events hevents).toCome, List.append_nil] at hone
  rw [(replay_settled program others hothers).toCome, List.append_nil] at htwo
  exact ⟨hone.trans htwo.symm, hone⟩

/-- A run of `nestedForest` in which the clock moves only when nothing else is left to do. -/
def patientRun : List Event :=
  [.step, .step, .step, .step, .tick 5, .tick 0, .step, .step, .step, .step, .step, .step, .step,
    .step, .step, .step, .step, .tick 5, .tick 0, .step, .step, .step, .step]

theorem output_of_finished_nested :
    (∀ task ∈ forestTasks nestedForest, task.kind = .timer → task.delay = some 5) ∧
      ((start nestedForest).replay (halfRun ++ restOfRun)).finished = true ∧
      ((start nestedForest).replay patientRun).finished = true ∧
      ((start nestedForest).replay (halfRun ++ restOfRun)).output =
        ((start nestedForest).replay patientRun).output ∧
      ((start nestedForest).replay (halfRun ++ restOfRun)).output = queueOutput nestedForest :=
  have hdelay : ∀ task ∈ forestTasks nestedForest, task.kind = .timer → task.delay = some 5 := by
    simp [nestedForest, Task.body]
  have hone : ((start nestedForest).replay (halfRun ++ restOfRun)).finished = true := by
    decide +kernel
  have htwo : ((start nestedForest).replay patientRun).finished = true := by
    decide +kernel
  ⟨hdelay, hone, htwo, output_of_finished parse_nestedScript hdelay hone htwo⟩

end Scripts

end EventLoop

end LoopStepper
