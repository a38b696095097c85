import LoopStepper.Proofs.Overtaking
import LoopStepper.Proofs.Queues

/-!
# Microtask checkpoints

The microtasks of a run are followed from their registration to their frames. The entry of a
registration has the number of the registrations before it (`numberedEntry`), and the queue is first
in, first out: at every moment the entries that were taken off it and those that it holds are
together those of all registrations, in their order, and the microtask frames pushed are the frames
of the ones taken off (`entries_taken`). So the queue is known from two numbers, the registrations
and the frames so far.

A frame that was pushed goes on to its end before anything else begins. What was executed, followed
by what the call stack has ahead, is the script and then the bodies of the frames pushed, one after
the other (`executed_stackAhead`). A macrotask leaves its queue only when the stack is empty and no
entry waits in the microtask queue (`Stepped.checkpoint`); then nothing that was begun is left
unfinished, and nothing that was registered is left to begin.

Headline:
* **`microtasks_checkpointed`**: all of this, at every moment of every run (`Checkpointed`).
-/

namespace LoopStepper

/-- The entry of a registration with a number. -/
def numberedEntry (number : Nat) (task : Task) : Task where
  id := "micro-" ++ toString number
  kind := .microtask
  content := microtaskLabel task.content
  children := some task.body
  line := task.line

/-- The frame that runs an entry of the microtask queue. -/
def microtaskFrame (entry : Task) : Frame :=
  .ofEntry entry entry.content .microtask

namespace EventLoop

/-! ## Registrations -/

/-- The tasks that registered a microtask along a run of a forest. -/
def registrations (program : List Task) (events : List Event) : List Task :=
  (executed program events).filter fun task => task.kind = .microtask

/-- The entries of the registrations along a run of a forest, numbered from zero. -/
def entries (program : List Task) (events : List Event) : List Task :=
  (registrations program events).mapIdx numberedEntry

/-- The frames pushed for microtasks along a run of a forest. -/
def microtasksBegun (program : List Task) (events : List Event) : List Frame :=
  (begun program events).filter fun frame => frame.kind = .microtask

theorem registrations_step (program : List Task) (events : List Event) :
    registrations program (events ++ [.step]) = registrations program events ++
      (((start program).replay events).executedBy .step).filter fun task =>
        task.kind = .microtask := by
  rw [registrations, executed, trace_concat, List.filter_append]
  rfl

theorem registrations_tick (program : List Task) (events : List Event) (ms : Int) :
    registrations program (events ++ [.tick ms]) = registrations program events := by
  rw [registrations, executed, trace_concat, executedBy, List.append_nil]
  rfl

@[simp] theorem perform_queued (loop : EventLoop) (task : Task) :
    (loop.perform task).queued = loop.queued + (loop.entriesOf task).length := by
  unfold perform entriesOf
  cases task.kind <;> simp

/-- A task that registers nothing has no entry. -/
theorem flatMap_entriesOf (loop : EventLoop) (ran : List Task) :
    ran.flatMap loop.entriesOf =
      (ran.filter fun task => task.kind = .microtask).map loop.microtaskEntry := by
  induction ran with
  | nil => rfl
  | cons task ran ih =>
    rw [List.flatMap_cons, ih, List.filter_cons, entriesOf]
    by_cases hkind : task.kind = .microtask <;> simp [hkind]

/-- The counter gives an entry its number. -/
theorem microtaskEntry_eq {loop : EventLoop} {number : Nat} (h : loop.queued = number)
    (task : Task) : loop.microtaskEntry task = numberedEntry number task := by
  rw [microtaskEntry, numberedEntry, h]
  rfl

/-- A step counts the microtask that its instruction registers. -/
theorem Stepped.queued {loop next : EventLoop} {ran : List Task} (h : Stepped loop ran next) :
    next.queued = loop.queued + (ran.flatMap loop.entriesOf).length := by
  cases h <;> simp [enter]

/-- A step executes one instruction at most. -/
theorem Stepped.length_le {loop next : EventLoop} {ran : List Task} (h : Stepped loop ran next) :
    ran.length ≤ 1 := by
  cases h <;> simp

/-- **The counter counts the registrations.** -/
theorem queued_eq (program : List Task) (events : List Event) :
    ((start program).replay events).queued = (registrations program events).length := by
  induction events using run_induction with
  | init => rfl
  | step events ih =>
    rw [replay_step, registrations_step, (stepped _).queued, ih, flatMap_entriesOf,
      List.length_append, List.length_map, Int.natCast_add]
  | tick events ms ih =>
    rw [replay_tick, registrations_tick, ← ih]
    rfl

/-- What a step registers becomes the entries behind those so far. -/
theorem entries_step (program : List Task) (events : List Event) :
    entries program (events ++ [.step]) = entries program events ++
      (((start program).replay events).executedBy .step).flatMap
        ((start program).replay events).entriesOf := by
  have hqueued := queued_eq program events
  have hlength := (((start program).replay events).stepped).length_le
  rw [entries, registrations_step, List.mapIdx_append, ← entries, flatMap_entriesOf]
  congr 1
  generalize ((start program).replay events).executedBy .step = ran at hlength ⊢
  -- there is one registration at most, so its number is the counter
  obtain _ | ⟨task, _ | ⟨other, ran⟩⟩ := ran
  · rfl
  · by_cases hkind : task.kind = .microtask
    · simp [hkind, microtaskEntry_eq hqueued]
    · simp [hkind]
  · simp at hlength

theorem entries_tick (program : List Task) (events : List Event) (ms : Int) :
    entries program (events ++ [.tick ms]) = entries program events := by
  rw [entries, registrations_tick, ← entries]

theorem length_entries (program : List Task) (events : List Event) :
    (entries program events).length = (registrations program events).length :=
  List.length_mapIdx

/-! ## From the queue to the call stack -/

/-- A step takes an entry off the front of the microtask queue and pushes its frame, or takes none,
and puts the entry of its instruction behind the others. -/
theorem microtasks_step (loop : EventLoop) : ∃ taken : List Task,
    loop.microtasks ++ (loop.executedBy .step).flatMap loop.entriesOf =
        taken ++ loop.step.microtasks ∧
      (loop.begunBy .step).filter (fun frame => frame.kind = .microtask) =
        taken.map microtaskFrame := by
  unfold begunBy
  rw [apply]
  have h := loop.stepped
  generalize loop.executedBy .step = ran at h ⊢
  generalize loop.step = next at h ⊢
  cases h with
  | @microtask entry later hlive hstack hmicros =>
    refine ⟨[entry], by simp [enter, hmicros], ?_⟩
    simp [enter, microtaskFrame, Frame.ofEntry, hstack]
  | rest | finish | wait => exact ⟨[], by simp, by simp⟩
  | leave hlive hstack hend => exact ⟨[], by simp, by simp [hstack]⟩
  | execute hlive hstack hnext => exact ⟨[], by simp, by simp [hstack]⟩
  | macrotask hlive hstack hmicros hmacros =>
    exact ⟨[], by simp [enter], by simp [enter, Frame.ofEntry, hstack]⟩

/-- **First in, first out**: the entries of all registrations are those that were taken off the
queue, whose frames were pushed, and those that it holds. -/
theorem entries_taken (program : List Task) (events : List Event) : ∃ taken : List Task,
    entries program events = taken ++ ((start program).replay events).microtasks ∧
      microtasksBegun program events = taken.map microtaskFrame := by
  unfold microtasksBegun begun
  induction events using run_induction with
  | init => exact ⟨[], rfl, rfl⟩
  | step events ih =>
    obtain ⟨before, hentries, hframes⟩ := ih
    obtain ⟨now, hqueue, hpushed⟩ := ((start program).replay events).microtasks_step
    refine ⟨before ++ now, ?_, ?_⟩
    · rw [entries_step, hentries, replay_step, List.append_assoc, hqueue, List.append_assoc]
    · rw [trace_concat, List.filter_append, hframes, hpushed, List.map_append]
  | tick events ms ih =>
    rw [entries_tick, trace_concat, begunBy_tick, List.append_nil, replay_tick]
    exact ih

/-! ## From the call stack to its end -/

/-- What is begun by a step stands ahead, and what it executes stood ahead. -/
theorem stackAhead_step (loop : EventLoop) :
    loop.executedBy .step ++ loop.step.stackAhead =
      loop.stackAhead ++ (loop.begunBy .step).flatMap Frame.instructions := by
  unfold begunBy
  rw [apply]
  have h := loop.stepped
  generalize loop.executedBy .step = ran at h ⊢
  generalize loop.step = next at h ⊢
  cases h with
  | rest | finish | wait => simp [stackAhead]
  | leave hlive hstack hend => simp [stackAhead, hstack, Frame.ahead_eq_nil hend]
  | execute hlive hstack hnext => simp [stackAhead, hstack, Frame.ahead_eq_cons hnext]
  | microtask hlive hstack hmicros =>
    simp [stackAhead, enter, Frame.ofEntry, Frame.ahead, hstack]
  | macrotask hlive hstack hmicros hmacros =>
    simp [stackAhead, enter, Frame.ofEntry, Frame.ahead, hstack]

/-- **Everything runs to its end**: what was executed, followed by what the call stack has ahead, is
the script and then the bodies of the frames that were pushed, one after the other. -/
theorem executed_stackAhead (program : List Task) (events : List Event) :
    executed program events ++ ((start program).replay events).stackAhead =
      program ++ (begun program events).flatMap Frame.instructions := by
  unfold executed begun
  induction events using run_induction with
  | init => simp [trace, stackAhead, start, mainFrame, Frame.ahead]
  | step events ih =>
    rw [trace_concat, trace_concat, replay_step, List.append_assoc, stackAhead_step,
      ← List.append_assoc, ih, List.flatMap_append, List.append_assoc]
  | tick events ms ih =>
    rw [trace_concat, trace_concat, replay_tick, executedBy, begunBy_tick, List.append_nil,
      List.append_nil, ← ih]
    rfl

/-- **A macrotask leaves its queue at a checkpoint**: the call stack is empty, and so is the
microtask queue. Other steps leave the queue as it is. -/
theorem Stepped.checkpoint {loop next : EventLoop} {ran : List Task} (h : Stepped loop ran next) :
    next.macrotasks = loop.macrotasks ∨ loop.stack = [] ∧ loop.microtasks = [] := by
  cases h with
  | macrotask hlive hstack hmicros hmacros => exact .inr ⟨hstack, hmicros⟩
  | execute => exact .inl (perform_macrotasks _ _)
  | rest | leave | microtask | finish | wait => exact .inl rfl

/-- The microtasks of a run, up to some moment. -/
structure Checkpointed (program : List Task) (events : List Event) : Prop where
  /-- Every registration is counted. -/
  counter : ((start program).replay events).queued = (entries program events).length
  /-- The queue holds the entries that no frame was pushed for, in the order of registration. -/
  queue : ((start program).replay events).microtasks =
    (entries program events).drop (microtasksBegun program events).length
  /-- Their numbers go from that of the next frame up to the counter. -/
  ids : ((start program).replay events).microtasks.map Task.id =
    (List.range' (microtasksBegun program events).length
      ((entries program events).length - (microtasksBegun program events).length)).map
        fun number => "micro-" ++ toString number
  /-- The frames pushed are those of the entries before them, each once. -/
  frames : microtasksBegun program events =
    ((entries program events).take (microtasksBegun program events).length).map microtaskFrame
  /-- When all is done a frame was pushed for every entry. -/
  all : ((start program).replay events).finished = true →
    microtasksBegun program events = (entries program events).map microtaskFrame
  /-- A macrotask leaves its queue only by a step with nothing on the call stack, when as many
  frames were pushed as registrations counted, one for every entry, and every frame has come to its
  end. -/
  checkpoint : ∀ event, ((start program).replay events).macrotasks <+:
      (((start program).replay events).apply event).macrotasks ∨
    event = .step ∧ ((start program).replay events).stack = [] ∧
      ((start program).replay events).queued = (microtasksBegun program events).length ∧
      microtasksBegun program events = (entries program events).map microtaskFrame ∧
      executed program events = program ++ (begun program events).flatMap Frame.instructions
  /-- Ticks change nothing of this. -/
  tick : ∀ ms, (((start program).replay events).advance ms).microtasks =
      ((start program).replay events).microtasks ∧
    entries program (events ++ [.tick ms]) = entries program events ∧
    begun program (events ++ [.tick ms]) = begun program events

/-- With no entry in the queue, a frame was pushed for every entry. -/
theorem microtasksBegun_of_empty {program : List Task} {events : List Event}
    (h : ((start program).replay events).microtasks = []) :
    microtasksBegun program events = (entries program events).map microtaskFrame := by
  obtain ⟨taken, hentries, hframes⟩ := entries_taken program events
  rw [h, List.append_nil] at hentries
  rw [hframes, hentries]

theorem id_entries (program : List Task) (events : List Event) :
    (entries program events).map Task.id =
      (List.range (entries program events).length).map
        fun number => "micro-" ++ toString number := by
  refine List.ext_getElem (by simp) fun place h _ => ?_
  simp [entries, numberedEntry]

/-- **Microtasks run in the order of their registration, each once, and before any macrotask.** -/
theorem microtasks_checkpointed (program : List Task) (events : List Event) :
    Checkpointed program events := by
  obtain ⟨taken, hentries, hframes⟩ := entries_taken program events
  have hlength : (microtasksBegun program events).length = taken.length := by
    rw [hframes, List.length_map]
  have hqueue : ((start program).replay events).microtasks =
      (entries program events).drop (microtasksBegun program events).length := by
    rw [hentries, hlength, List.drop_left]
  have hcounter : ((start program).replay events).queued = (entries program events).length := by
    rw [queued_eq, length_entries]
  refine ⟨hcounter, hqueue, ?_, ?_, ?_, ?_, ?_⟩
  · rw [hqueue, List.map_drop, id_entries, ← List.map_drop, List.range_eq_range', List.drop_range']
    simp
  · rw [hlength, hframes, hentries, List.take_left]
  · exact fun hfin => microtasksBegun_of_empty (replay_settled program events hfin).microtasks
  · intro event
    cases event with
    | tick ms => exact .inl (List.prefix_append _ _)
    | step =>
      rcases (((start program).replay events).stepped).checkpoint with hkept | ⟨hstack, hmicros⟩
      · exact .inl (hkept ▸ List.prefix_rfl)
      · have hended := executed_stackAhead program events
        rw [stackAhead, hstack, List.flatMap_nil, List.append_nil] at hended
        have hbegun := microtasksBegun_of_empty hmicros
        refine .inr ⟨rfl, hstack, ?_, hbegun, hended⟩
        rw [hcounter, hbegun, List.length_map]
  · intro ms
    refine ⟨rfl, entries_tick program events ms, ?_⟩
    rw [begun, trace_concat, begunBy_tick, List.append_nil]
    rfl

end EventLoop

end LoopStepper
