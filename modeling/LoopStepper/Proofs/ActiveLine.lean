import LoopStepper.Proofs.Checkpoints
import LoopStepper.Proofs.Highlight
import LoopStepper.Proofs.Listings

/-!
# The active line

One line of a script is shown as active while a frame is on the call stack: that of the instruction
executed last, or, as long as the frame has executed none, the line on which its callback was
registered. What an instruction writes there is its own line, because every task of a script has
one; a frame that ends leaves no line active, and nothing else begins before a frame is pushed. So
the active line is a matter of the frame alone (`Pointed`), which steps and ticks keep.

The registration of a frame is found by following it back through its queue. A microtask entry has
the number of its registration, and the macrotask queue holds the last of the timers moved there
(`macrotasks_suffix`); an entry becomes a frame as a whole. So every frame is that of the script or
that of one registration, but for the cursor (`Rooted`).

Headline:
* **`active_line_exact`**: the active line is exact in every state of every run of a script, and the
  listing of the script marks one row for it.
-/

namespace LoopStepper

open Script Text

/-- The line that a frame points at: that of the instruction it has executed last, or else the line
of its registration. -/
def Frame.pointedLine (frame : Frame) : Option Int :=
  match frame.cursor with
  | 0 => frame.line
  | last + 1 => frame.instructions[last]?.bind Task.line

namespace EventLoop

/-! ## The frame and the active line -/

/-- The frame on the call stack points at the active line, and its cursor stands at one of its
instructions or behind the last. -/
structure Pointed (loop : EventLoop) : Prop where
  line : loop.activeLine = loop.stack.head?.bind Frame.pointedLine
  cursor : ∀ frame ∈ loop.stack, frame.cursor ≤ frame.instructions.length

theorem pointed_start (program : List Task) : (start program).Pointed where
  line := rfl
  cursor := List.forall_mem_singleton.mpr (Nat.zero_le _)

theorem Pointed.advance {loop : EventLoop} (h : loop.Pointed) (ms : Int) :
    (loop.advance ms).Pointed where
  line := h.line
  cursor := h.cursor

theorem pointed_enter (loop : EventLoop) (entry : Task) (name : String) (kind : TaskKind) :
    (loop.enter entry name kind).Pointed where
  line := rfl
  cursor := List.forall_mem_singleton.mpr (Nat.zero_le _)

/-- The line that an instruction of an ordered loop makes active is its own. -/
theorem Ordered.shownLine {loop : EventLoop} (h : loop.Ordered) {top : Frame} {below : List Frame}
    {task : Task} (hstack : loop.stack = top :: below) (hnext : top.current? = some task) :
    task.shownLine.or loop.activeLine = task.line := by
  obtain ⟨n, -, -, htask, -⟩ := h.next hstack hnext
  cases htask with
  | cons hline hpos hbody hlater => rw [shownLine_of_numbered hline hpos, hline, Option.some_or]

/-- **A step keeps the frame pointing at the active line.** -/
theorem Pointed.step {loop : EventLoop} (h : loop.Pointed) (hordered : loop.Ordered) :
    loop.step.Pointed := by
  have hstep := loop.stepped
  generalize loop.executedBy .step = ran at hstep
  generalize loop.step = next at hstep ⊢
  cases hstep with
  | rest | wait => exact h
  | leave hlive hstack hend =>
    obtain ⟨rfl, -⟩ := hordered.top hstack
    exact ⟨rfl, List.forall_mem_nil _⟩
  | @execute top below task hlive hstack hnext =>
    obtain ⟨rfl, -⟩ := hordered.top hstack
    have hlt : top.cursor < top.instructions.length := (List.getElem?_eq_some_iff.mp hnext).1
    refine ⟨?_, ?_⟩
    · rw [perform_activeLine, perform_stack]
      refine (hordered.shownLine hstack hnext).trans ?_
      change task.line = top.current?.bind Task.line
      rw [hnext, Option.bind_some]
    · rw [perform_stack]
      exact List.forall_mem_singleton.mpr hlt
  | microtask | macrotask => exact pointed_enter _ _ _ _
  | finish hlive hstack => exact ⟨by rw [hstack]; rfl, h.cursor⟩

/-- **In every state of a run of a numbered forest** the frame points at the active line. -/
theorem replay_pointed {program : List Task} (h : Numbered 0 program) (events : List Event) :
    ((start program).replay events).Pointed ∧ ((start program).replay events).Ordered :=
  replay_invariant (motive := fun loop => loop.Pointed ∧ loop.Ordered)
    (fun _ ih => ⟨ih.1.step ih.2, ih.2.step⟩) (fun _ ms ih => ⟨ih.1.advance ms, ih.2.advance ms⟩)
    ⟨pointed_start program, ordered_start h⟩ events

/-! ## The registration of a frame -/

/-- The macrotask queue holds the last of the entries that were put into it. -/
theorem macrotasks_suffix (program : List Task) (events : List Event) :
    ((start program).replay events).macrotasks <:+ promoted program events := by
  induction events using run_induction with
  | init => exact List.suffix_rfl
  | step events ih =>
    rw [promoted, trace_concat, promotedBy_eq, movedBy, List.map_nil, List.append_nil, replay_step]
    exact (stepped _).macrotasks.trans ih
  | tick events ms ih =>
    obtain ⟨taken, heq⟩ := ih
    refine ⟨taken, ?_⟩
    rw [promoted, trace_concat, ← promoted, ← heq, promotedBy, replay_tick, apply, advance,
      List.drop_left, List.append_assoc]

/-- Where a frame comes from, up to some moment of a run. -/
inductive Rooted (program : List Task) (events : List Event) (frame : Frame) : Prop
  /-- It is the frame of the script, for which no line is shown. -/
  | script (heq : frame = { mainFrame program with cursor := frame.cursor })
      (hline : frame.line = none)
  /-- It runs the microtask that was registered with a number, and shows the line of its
  registration. -/
  | microtask {number : Nat} {task : Task}
      (hregistered : (registrations program events)[number]? = some task)
      (heq : frame = { microtaskFrame (numberedEntry number task) with cursor := frame.cursor })
      (hline : frame.line = task.line)
  /-- It runs a timer that was registered, and shows the line of its registration. -/
  | timer {timer : PendingTimer} (hregistered : timer ∈ registered program events)
      (heq : frame = { timerFrame timer.promoted with cursor := frame.cursor })
      (hline : frame.line = timer.task.line)

section Rooted

variable {program : List Task} {events : List Event} {frame : Frame}

/-- The cursor of a frame says nothing of where it comes from. -/
theorem Rooted.atCursor (h : Rooted program events frame) (cursor : Nat) :
    Rooted program events { frame with cursor } := by
  cases h with
  | script heq hline => exact .script (congrArg (fun frame => { frame with cursor }) heq) hline
  | microtask hregistered heq hline =>
    exact .microtask hregistered (congrArg (fun frame => { frame with cursor }) heq) hline
  | timer hregistered heq hline =>
    exact .timer hregistered (congrArg (fun frame => { frame with cursor }) heq) hline

/-- A frame comes from where it came from before. -/
theorem Rooted.step (h : Rooted program events frame) :
    Rooted program (events ++ [.step]) frame := by
  cases h with
  | script heq hline => exact .script heq hline
  | @microtask number task hregistered heq hline =>
    have hlt : number < (registrations program events).length :=
      (List.getElem?_eq_some_iff.mp hregistered).1
    have hlater : (registrations program (events ++ [.step]))[number]? = some task := by
      rw [registrations_step, List.getElem?_append_left hlt]
      exact hregistered
    exact .microtask hlater heq hline
  | timer hregistered heq hline =>
    refine .timer ?_ heq hline
    rw [registered_step]
    exact List.mem_append_left _ hregistered

theorem Rooted.tick (h : Rooted program events frame) (ms : Int) :
    Rooted program (events ++ [.tick ms]) frame := by
  cases h with
  | script heq hline => exact .script heq hline
  | microtask hregistered heq hline =>
    exact .microtask (by rwa [registrations_tick]) heq hline
  | timer hregistered heq hline => exact .timer (by rwa [registered_tick]) heq hline

/-- The frame of an entry that waits in the microtask queue is that of its registration. -/
theorem rooted_microtask {entry : Task}
    (hmem : entry ∈ ((start program).replay events).microtasks) :
    Rooted program events (microtaskFrame entry) := by
  obtain ⟨taken, hentries, -⟩ := entries_taken program events
  have hentry : entry ∈ entries program events := hentries ▸ List.mem_append_right taken hmem
  obtain ⟨number, hlt, rfl⟩ := List.mem_mapIdx.mp hentry
  exact .microtask (List.getElem?_eq_getElem hlt) rfl rfl

/-- The frame of an entry that waits in the macrotask queue is that of its timer. -/
theorem rooted_timer {entry : Task} (hmem : entry ∈ ((start program).replay events).macrotasks) :
    Rooted program events (timerFrame entry) := by
  have hentry := (macrotasks_suffix program events).subset hmem
  rw [promoted_eq] at hentry
  obtain ⟨timer, hmoved, rfl⟩ := List.mem_map.mp hentry
  have hregistered : timer ∈ registered program events :=
    (moved_waiting_perm program events).subset (List.mem_append_left _ hmoved)
  exact .timer hregistered rfl rfl

end Rooted

/-- **Every frame of a run** is that of the script or that of one registration. -/
theorem replay_rooted (program : List Task) (events : List Event) :
    ∀ frame ∈ ((start program).replay events).stack, Rooted program events frame := by
  induction events using run_induction with
  | init => exact List.forall_mem_singleton.mpr (.script rfl rfl)
  | tick events ms ih =>
    rw [replay_tick]
    exact fun frame hmem => (ih frame hmem).tick ms
  | step events ih =>
    have hmicro := fun entry => @rooted_microtask program events entry
    have htimer := fun entry => @rooted_timer program events entry
    rw [replay_step]
    generalize (start program).replay events = loop at ih hmicro htimer ⊢
    have hstep := loop.stepped
    generalize loop.executedBy .step = ran at hstep
    generalize loop.step = next at hstep ⊢
    cases hstep with
    | rest | finish | wait => exact fun frame hmem => (ih frame hmem).step
    | leave hlive hstack hend =>
      exact fun frame hmem => (ih frame (hstack ▸ List.mem_cons_of_mem _ hmem)).step
    | execute hlive hstack hnext =>
      rw [hstack, List.forall_mem_cons] at ih
      rw [perform_stack, List.forall_mem_cons]
      exact ⟨(ih.1.atCursor _).step, fun frame hmem => (ih.2 frame hmem).step⟩
    | microtask hlive hstack hmicros =>
      exact List.forall_mem_singleton.mpr (hmicro _ (hmicros ▸ List.mem_cons_self)).step
    | macrotask hlive hstack hmicros hmacros =>
      exact List.forall_mem_singleton.mpr (htimer _ (hmacros ▸ List.mem_cons_self)).step

/-! ## The line in the text -/

/-- A task of a forest is among its tasks at every depth. -/
theorem subset_forestTasks (tasks : List Task) : tasks ⊆ forestTasks tasks := by
  intro task hmem
  rw [forestTasks_eq_flatMap]
  exact List.mem_flatMap.mpr ⟨task, hmem, task.tasks_eq ▸ List.mem_cons_self⟩

/-- So are the tasks in its body. -/
theorem body_subset_forestTasks {tasks : List Task} {task : Task} (h : task ∈ forestTasks tasks) :
    task.body ⊆ forestTasks tasks := by
  induction tasks using forest_induction with
  | nil => exact absurd h (by simp)
  | cons first tasks ihbody ihtasks =>
    rw [forestTasks_cons, List.mem_cons, List.mem_append] at h
    intro inner hinner
    rw [forestTasks_cons, List.mem_cons, List.mem_append]
    rcases h with rfl | h | h
    · exact .inr (.inl (subset_forestTasks _ hinner))
    · exact .inr (.inl (ihbody h hinner))
    · exact .inr (.inr (ihtasks h hinner))

section Scripts

variable {source : String} {program : List Task} {events : List Event} {frame : Frame}

/-- The instructions of a frame are tasks of the script, and so is the task whose line it shows. -/
theorem Rooted.tasks (h : Rooted program events frame) (hparse : parse source = .ok program) :
    frame.instructions ⊆ forestTasks program ∧
      ∀ n ∈ frame.line, ∃ task ∈ forestTasks program, task.line = some n := by
  have hbody : ∀ task ∈ forestTasks program, frame.instructions = task.body →
      frame.line = task.line → frame.instructions ⊆ forestTasks program ∧
        ∀ n ∈ frame.line, ∃ task ∈ forestTasks program, task.line = some n := by
    intro task htask hinstructions hline
    exact ⟨hinstructions ▸ body_subset_forestTasks htask,
      fun n hn => ⟨task, htask, hline.symm.trans hn⟩⟩
  cases h with
  | script heq hline =>
    refine ⟨?_, by rw [hline]; nofun⟩
    rw [heq]
    exact subset_forestTasks program
  | @microtask number task hregistered heq hline =>
    have hmem : task ∈ registrations program events := List.mem_of_getElem? hregistered
    have htask : task ∈ forestTasks program :=
      executed_subset hparse events (List.filter_sublist.subset hmem)
    exact hbody task htask (by rw [heq]; rfl) hline
  | @timer timer hregistered heq hline =>
    exact hbody timer.task (registered_task hparse hregistered).1 (by rw [heq]; rfl) hline

/-- The line that a frame points at is that of a task of the script. -/
theorem Rooted.pointed (h : Rooted program events frame) (hparse : parse source = .ok program)
    {n : Int} (hn : frame.pointedLine = some n) :
    ∃ task ∈ forestTasks program, task.line = some n := by
  obtain ⟨hinstructions, hline⟩ := h.tasks hparse
  unfold Frame.pointedLine at hn
  split at hn
  · exact hline n hn
  · obtain ⟨task, htask, hn⟩ := Option.bind_eq_some_iff.mp hn
    exact ⟨task, hinstructions (List.mem_of_getElem? htask), hn⟩

/-- A number is that of a line of a text that holds a print call or opens a callback. -/
def HoldsTask (source : String) (n : Int) : Prop :=
  ∃ (index : Nat) (row : List Char), (rows source.toList)[index]? = some row ∧
    n = (index : Int) + 1 ∧ ((message? (strip row)).isSome ∨ (callback? (strip row)).isSome)

/-- A task of a script stands on such a line. -/
theorem holdsTask_of_mem (h : parse source = .ok program) {task : Task}
    (hmem : task ∈ forestTasks program) : ∃ n, task.line = some n ∧ HoldsTask source n := by
  have hlaid := laid_of_parse h
  have hlt := (hlaid.bounds hmem).2
  obtain ⟨hline, hrole⟩ := hlaid.stands task hmem
  refine ⟨_, hline, task.place, _, List.getElem?_eq_getElem hlt, rfl, ?_⟩
  rw [← List.getElem_eq_getD (h := hlt)] at hrole
  by_contra hnone
  rw [not_or, Option.not_isSome_iff_eq_none, Option.not_isSome_iff_eq_none] at hnone
  rw [(inert_iff _).mp (.inr (.inr hnone))] at hrole
  exact hrole

/-- Where a loop stands after some events, by its active line. -/
structure LineExact (source : String) (program : List Task) (events : List Event)
    (loop : EventLoop) : Prop where
  /-- Without a frame on the call stack, no line is active. -/
  idle : loop.stack = [] → loop.activeLine = none
  /-- As long as a frame has executed nothing, the line that it shows is active. -/
  fresh : ∀ frame ∈ loop.stack, frame.cursor = 0 → loop.activeLine = frame.line
  /-- The frame is that of the script, which shows no line, or that of a registration, whose line it
  shows. -/
  root : ∀ frame ∈ loop.stack, Rooted program events frame
  /-- Later on the line of the instruction right before the cursor is active. -/
  executed : ∀ frame ∈ loop.stack, ∀ last, frame.cursor = last + 1 →
    ∃ task n, frame.instructions[last]? = some task ∧ task.line = some n ∧ loop.activeLine = some n
  /-- The cursor does not leave the instructions. -/
  cursor : ∀ frame ∈ loop.stack, frame.cursor ≤ frame.instructions.length
  /-- An active line is the number of a line of the text that holds a print call or opens a
  callback. -/
  text : ∀ n ∈ loop.activeLine, HoldsTask source n
  /-- The listing of the text marks the row of the active line. -/
  listing : ∀ (index : Nat) (row : List Char),
    (rows (Report.listing source loop.activeLine).toList)[index]? = some row →
      (Report.isMarked row = true ↔ loop.activeLine = some ((index : Int) + 1))
  /-- It marks one row if a line is active, and else none. -/
  marked : (rows (Report.listing source loop.activeLine).toList).countP Report.isMarked =
    if loop.activeLine.isSome then 1 else 0

/-- **The active line is exact.** In every state that a run of a script reaches, the active line is
that of the instruction executed last by the frame on the call stack, or of its registration, and
the listing of the script marks just that line. -/
theorem active_line_exact (h : parse source = .ok program) (events : List Event) :
    LineExact source program events ((start program).replay events) := by
  obtain ⟨hpointed, hordered⟩ := replay_pointed (numbered_of_parse h) events
  have hrooted := replay_rooted program events
  generalize (start program).replay events = loop at hpointed hordered hrooted ⊢
  have hactive : ∀ frame ∈ loop.stack, loop.activeLine = frame.pointedLine := by
    intro frame hmem
    obtain ⟨top, below, hstack⟩ := List.exists_cons_of_ne_nil (List.ne_nil_of_mem hmem)
    obtain ⟨rfl, -⟩ := hordered.top hstack
    rw [hstack, List.mem_singleton] at hmem
    rw [hpointed.line, hstack, hmem]
    rfl
  have hexecuted : ∀ frame ∈ loop.stack, ∀ last, frame.cursor = last + 1 → ∃ task n,
      frame.instructions[last]? = some task ∧ task.line = some n ∧ loop.activeLine = some n := by
    intro frame hmem last hcursor
    have hlt := hpointed.cursor frame hmem
    rw [hcursor] at hlt
    have htask := ((hrooted frame hmem).tasks h).1 (List.getElem_mem hlt)
    obtain ⟨n, hline, -⟩ := holdsTask_of_mem h htask
    refine ⟨_, _, List.getElem?_eq_getElem hlt, hline, ?_⟩
    rw [hactive frame hmem, Frame.pointedLine, hcursor]
    exact (congrArg (·.bind Task.line) (List.getElem?_eq_getElem hlt)).trans hline
  have htext : ∀ n ∈ loop.activeLine, HoldsTask source n := by
    intro n hn
    obtain ⟨frame, hframe, hpoints⟩ := Option.bind_eq_some_iff.mp (hpointed.line.symm.trans hn)
    have hroot := hrooted frame (List.mem_of_mem_head? hframe)
    obtain ⟨task, hmem, hline⟩ := hroot.pointed h hpoints
    obtain ⟨other, hother, hholds⟩ := holdsTask_of_mem h hmem
    rwa [Option.some.inj (hline.symm.trans hother)]
  refine ⟨fun hstack => ?_, fun frame hmem hcursor => ?_, hrooted, hexecuted, hpointed.cursor,
    htext, fun index row => Report.isMarked_listing, Report.countP_isMarked_listing fun n hn => ?_⟩
  · rw [hpointed.line, hstack]
    rfl
  · rw [hactive frame hmem, Frame.pointedLine, hcursor]
  · obtain ⟨index, row, hrow, hline, -⟩ := htext n hn
    exact ⟨index, (List.getElem?_eq_some_iff.mp hrow).1, hline⟩

/-- In the body of the first timer of a script, where a microtask has been registered. -/
theorem active_line_exact_nested :
    parse nestedScript = .ok nestedForest ∧
      ((start nestedForest).replay halfRun).activeLine = some 4 ∧
      LineExact nestedScript nestedForest halfRun ((start nestedForest).replay halfRun) :=
  ⟨parse_nestedScript, rfl, active_line_exact parse_nestedScript halfRun⟩

end Scripts

end EventLoop

end LoopStepper
