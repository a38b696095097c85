import LoopStepper.Proofs.Places
import LoopStepper.Proofs.Reports
import LoopStepper.Proofs.Steps

/-!
# What a step shows

A progress line shows little of an event loop: the active line, the name of the innermost frame, how
much was printed and the last message, and whether the run is over. Two loops that have nothing to
do with each other may well show the same. But a step of a script either changes nothing or shows:
an instruction stands on a line below the active one, a frame that begins or ends has a name, and
the end of the run is said.

That an instruction stands further down is a matter of how scripts are read. `Numbered` says it of a
forest, and `Ordered` of a loop: what the frame has ahead stands below the active line, and whatever
waits is numbered in itself. A script that is read is numbered (`numbered_of_parse`), and steps and
ticks keep loops ordered.

Headline:
* **`progress_step_eq_iff`**: the progress line of an ordered loop stays the same in a step exactly
  if the loop does.
-/

namespace LoopStepper

open Script

/-! ## Forests whose lines are in order -/

/-- The tasks of a forest stand below a line, each above its body and above the tasks behind it. -/
inductive Numbered : Int → List Task → Prop
  | nil (line : Int) : Numbered line []
  | cons {line n : Int} {task : Task} {tasks : List Task} (hline : task.line = some n)
      (hlt : line < n) (hbody : Numbered n task.body) (hlater : Numbered n tasks) :
      Numbered line (task :: tasks)

/-- A task that stands on the same line and has the same body is as numbered as the other. -/
theorem Numbered.congr {line : Int} {task other : Task} (h : Numbered line [task])
    (hline : other.line = task.line) (hbody : other.body = task.body) : Numbered line [other] := by
  cases h with
  | cons htask hlt hin hlater => exact .cons (hline.trans htask) hlt (hbody ▸ hin) hlater

/-- A numbered forest is one below every line further up. -/
theorem Numbered.mono {line above : Int} {tasks : List Task} (h : Numbered line tasks)
    (hle : above ≤ line) : Numbered above tasks := by
  cases h with
  | nil => exact .nil _
  | cons hline hlt hbody hlater => exact .cons hline (hle.trans_lt hlt) hbody hlater

/-- A task of a numbered forest is numbered by itself. -/
theorem Numbered.head {line : Int} {task : Task} {tasks : List Task}
    (h : Numbered line (task :: tasks)) : Numbered line [task] := by
  cases h with
  | cons hline hlt hbody hlater => exact .cons hline hlt hbody (.nil _)

/-- What is laid in a range is numbered. -/
theorem Script.Laid.numbered {lines : List (List Char)} {start stop : Nat} {tasks : List Task}
    (h : Laid lines start stop tasks) : Numbered start tasks := by
  induction h with
  | done => exact .nil _
  | inert hlt hrole hlater ih => exact ih.mono (by simp)
  | prints hlt hrole hlater ih => exact .cons (line_printTask _ _ _) (by simp) (.nil _) ih
  | @opens start stop number callback delay body tasks hlt hrole hbody hlater ihbody ihlater =>
    have hclose := closingIndex_bounds lines hlt
    refine .cons (line_callbackTask _ _ _ _ _) (by simp) ihbody (ihlater.mono ?_)
    push_cast
    omega

/-- **A script that is read is numbered.** -/
theorem numbered_of_parse {source : String} {program : List Task}
    (h : parse source = .ok program) : Numbered 0 program :=
  (laid_of_parse h).numbered

/-! ## Loops whose lines are in order -/

/-- The names of frames. -/
def frameNames : List String :=
  ["main()", "process.nextTick", "queueMicrotask", "Promise Callback", "setTimeout", "setImmediate"]

theorem microtaskLabel_mem (content : String) : microtaskLabel content ∈ frameNames := by
  unfold microtaskLabel
  split
  · next h =>
    rcases (Bool.or_eq_true _ _).mp h with h | h
    · rw [of_decide_eq_true h]; decide
    · rw [of_decide_eq_true h]; decide
  · decide

theorem macrotaskFrameName_mem (content : String) : macrotaskFrameName content ∈ frameNames := by
  unfold macrotaskFrameName
  split <;> decide

/-- A frame has its name, and what it has ahead stands below a line. -/
structure Frame.Ordered (line : Int) (frame : Frame) : Prop where
  name : frame.name ∈ frameNames
  ahead : Numbered line frame.ahead

namespace EventLoop

/-- What lies ahead of a loop is in the order of the lines. -/
structure Ordered (loop : EventLoop) : Prop where
  line : 0 ≤ loop.activeLine.getD 0
  /-- There is at most one frame. -/
  stack : loop.stack = [] ∨
    ∃ top, loop.stack = [top] ∧ top.Ordered (loop.activeLine.getD 0)
  pending : ∀ timer ∈ loop.pending, Numbered 0 [timer.task]
  microtasks : ∀ entry ∈ loop.microtasks, Numbered 0 [entry] ∧ entry.content ∈ frameNames
  macrotasks : ∀ entry ∈ loop.macrotasks, Numbered 0 [entry]

theorem ordered_start {program : List Task} (h : Numbered 0 program) : (start program).Ordered where
  line := le_rfl
  stack := .inr ⟨mainFrame program, rfl, List.mem_cons_self, h⟩
  pending := List.forall_mem_nil _
  microtasks := List.forall_mem_nil _
  macrotasks := List.forall_mem_nil _

theorem Ordered.advance {loop : EventLoop} (h : loop.Ordered) (ms : Int) :
    (loop.advance ms).Ordered where
  line := h.line
  stack := h.stack
  pending := by
    intro timer hmem
    obtain ⟨earlier, hin, rfl⟩ := List.mem_map.mp hmem
    exact h.pending earlier (List.mem_of_mem_filter hin)
  microtasks := h.microtasks
  macrotasks := by
    intro entry hmem
    rcases List.mem_append.mp hmem with hmem | hmem
    · exact h.macrotasks entry hmem
    · obtain ⟨timer, hin, rfl⟩ := List.mem_map.mp hmem
      exact (h.pending timer (List.mem_of_mem_filter hin)).congr rfl rfl

/-- The line of a numbered task is shown. -/
theorem shownLine_of_numbered {task : Task} {n : Int} (hline : task.line = some n) (hpos : 0 < n) :
    task.shownLine = some n := by
  simp [Task.shownLine, hline, Option.filter, hpos.ne']

/-- A loop that begins to run a numbered entry. -/
theorem Ordered.enter {loop : EventLoop} (h : loop.Ordered) {entry : Task}
    (hentry : Numbered 0 [entry]) {name : String} (hname : name ∈ frameNames) (kind : TaskKind) :
    (loop.enter entry name kind).Ordered := by
  cases hentry with
  | @cons _ n _ _ hline hlt hbody hlater =>
    have hactive : (loop.enter entry name kind).activeLine = some n := hline
    refine ⟨?_, .inr ⟨Frame.ofEntry entry name kind, rfl, hname, ?_⟩, h.pending, h.microtasks,
      h.macrotasks⟩
    · rw [hactive]
      exact hlt.le
    · rw [hactive]
      exact hbody

/-- An ordered loop after the instruction that stands next, on the line `n`. -/
theorem Ordered.execute {loop : EventLoop} (h : loop.Ordered) {top : Frame} {task : Task} {n : Int}
    (hname : top.name ∈ frameNames) (hactive : task.shownLine.or loop.activeLine = some n)
    (hpos : 0 < n) (htask : Numbered 0 [task])
    (hahead : Numbered n { top with cursor := top.cursor + 1 }.ahead) :
    ({ loop with
      stack := [{ top with cursor := top.cursor + 1 }]
      activeLine := task.shownLine.or loop.activeLine }.perform task).Ordered where
  line := by
    rw [perform_activeLine, hactive]
    exact hpos.le
  stack := by
    rw [perform_activeLine, perform_stack, hactive]
    exact .inr ⟨_, rfl, hname, hahead⟩
  pending := by
    intro timer hmem
    rw [perform_pending, timersOf_frames, List.mem_append] at hmem
    rcases hmem with hmem | hmem
    · exact h.pending timer hmem
    · unfold timersOf at hmem
      split at hmem
      · rw [List.mem_singleton.mp hmem]
        exact htask
      · exact absurd hmem List.not_mem_nil
  microtasks := by
    intro entry hmem
    rw [perform_microtasks, entriesOf_frames, List.mem_append] at hmem
    rcases hmem with hmem | hmem
    · exact h.microtasks entry hmem
    · unfold entriesOf at hmem
      split at hmem
      · rw [List.mem_singleton.mp hmem]
        exact ⟨htask.congr rfl rfl, microtaskLabel_mem _⟩
      · exact absurd hmem List.not_mem_nil
  macrotasks := by
    rw [perform_macrotasks]
    exact h.macrotasks

/-- The frame on top of an ordered loop is the only one. -/
theorem Ordered.top {loop : EventLoop} (h : loop.Ordered) {top : Frame} {below : List Frame}
    (hstack : loop.stack = top :: below) :
    below = [] ∧ top.Ordered (loop.activeLine.getD 0) := by
  obtain hnone | ⟨frame, hone, hframe⟩ := h.stack
  · cases hnone.symm.trans hstack
  · cases hone.symm.trans hstack
    exact ⟨rfl, hframe⟩

/-- The instruction that stands next in an ordered loop is on a line below the active one. -/
theorem Ordered.next {loop : EventLoop} (h : loop.Ordered) {top : Frame} {below : List Frame}
    {task : Task} (hstack : loop.stack = top :: below) (hnext : top.current? = some task) :
    ∃ n, loop.activeLine.getD 0 < n ∧ task.shownLine.or loop.activeLine = some n ∧
      Numbered 0 [task] ∧ Numbered n { top with cursor := top.cursor + 1 }.ahead := by
  have hahead := (h.top hstack).2.ahead
  rw [Frame.ahead_eq_cons hnext] at hahead
  have htask : Numbered 0 [task] := hahead.head.mono h.line
  cases hahead with
  | @cons _ n _ _ hline hlt hbody hlater =>
    refine ⟨n, hlt, ?_, htask, hlater⟩
    rw [shownLine_of_numbered hline (h.line.trans_lt hlt)]
    rfl

/-- **A step keeps a loop ordered.** -/
theorem Ordered.step {loop : EventLoop} (h : loop.Ordered) : loop.step.Ordered := by
  have hstep := loop.stepped
  generalize loop.executedBy .step = ran at hstep
  generalize loop.step = next at hstep ⊢
  cases hstep with
  | rest | wait => exact h
  | leave hlive hstack hend =>
    obtain ⟨rfl, -⟩ := h.top hstack
    exact ⟨le_rfl, .inl rfl, h.pending, h.microtasks, h.macrotasks⟩
  | execute hlive hstack hnext =>
    obtain ⟨rfl, hframe⟩ := h.top hstack
    obtain ⟨n, hlt, hactive, htask, hahead⟩ := h.next hstack hnext
    exact h.execute hframe.name hactive (h.line.trans_lt hlt) htask hahead
  | @microtask entry later hlive hstack hmicros =>
    have hentry := h.microtasks entry (by simp [hmicros])
    have hrest : { loop with microtasks := later }.Ordered :=
      { h with microtasks := fun other hmem => h.microtasks other (by simp [hmicros, hmem]) }
    exact hrest.enter hentry.1 hentry.2 _
  | @macrotask entry later hlive hstack hmicros hmacros =>
    have hentry := h.macrotasks entry (by simp [hmacros])
    have hrest : { loop with macrotasks := later }.Ordered :=
      { h with macrotasks := fun other hmem => h.macrotasks other (by simp [hmacros, hmem]) }
    exact hrest.enter hentry (macrotaskFrameName_mem _) _
  | finish hlive hstack hmicros hmacros hpending =>
    exact ⟨le_rfl, .inl hstack, h.pending, h.microtasks, h.macrotasks⟩

end EventLoop

/-! ## What a progress line shows -/

namespace Report

/-- The name that stands for the innermost frame, or for none. -/
def topName (loop : EventLoop) : String :=
  (loop.stack.head?.map Frame.name).getD "-"

/-- A progress line begins with the change, the line and the name, with a blank behind each. -/
theorem toList_progress (change : String) (loop : EventLoop) :
    ∃ later, (progress change loop).toList =
      ("[" ++ change ++ "] line=").toList ++
        ((lineText (lineNumber? loop.activeLine)).toList ++
          ' ' :: ("stack=".toList ++ ((topName loop).toList ++ ' ' :: later))) := by
  simp only [progress, Progress.text, progressOf, topName, String.toList_append, List.append_assoc]
  exact ⟨_, rfl⟩

/-- A line with a number is shown as its digits, and no line as a dash. -/
theorem lineText_lineNumber? {line : Option Int} {n : Nat} (h : line.getD 0 = n) :
    lineText (lineNumber? line) = if n = 0 then "-" else toString n := by
  cases line with
  | none =>
    have hn : n = 0 := Int.ofNat.inj h.symm
    rw [if_pos hn]
    rfl
  | some m =>
    obtain rfl : m = n := h
    by_cases hn : n = 0 <;> simp [lineNumber?, lineText, Option.filter, hn]
    rfl

theorem notMem_lineText (line : Option Int) (h : 0 ≤ line.getD 0) :
    ' ' ∉ (lineText (lineNumber? line)).toList := by
  obtain ⟨n, hn⟩ := Int.eq_ofNat_of_zero_le h
  rw [lineText_lineNumber? hn]
  split
  · decide
  · exact fun hmem => absurd (isDigit_of_mem_toString hmem) (by decide)

theorem lineText_inj {line other : Option Int} (hline : 0 ≤ line.getD 0) (hother : 0 ≤ other.getD 0)
    (h : lineText (lineNumber? line) = lineText (lineNumber? other)) :
    line.getD 0 = other.getD 0 := by
  obtain ⟨m, hm⟩ := Int.eq_ofNat_of_zero_le hline
  obtain ⟨n, hn⟩ := Int.eq_ofNat_of_zero_le hother
  have hdash (k : Nat) : toString k ≠ "-" := by
    intro heq
    have hmem : '-' ∈ (toString k).toList := by rw [heq]; decide
    exact absurd (isDigit_of_mem_toString hmem) (by decide)
  rw [lineText_lineNumber? hm, lineText_lineNumber? hn] at h
  rw [hm, hn]
  split at h <;> split at h
  · next hzero hnone => rw [hzero, hnone]
  · exact absurd h.symm (hdash n)
  · exact absurd h (hdash m)
  · exact congrArg _ (toString_injective h)

/-- The name of a frame does not begin with a dash. -/
theorem head_of_mem_frameNames {name : String} (h : name ∈ frameNames) :
    ∃ c cs, name.toList = c :: cs ∧ c ≠ '-' := by
  simp only [frameNames, List.mem_cons, List.not_mem_nil, or_false] at h
  rcases h with rfl | rfl | rfl | rfl | rfl | rfl <;> exact ⟨_, _, rfl, by decide⟩

/-- A word ends at the first blank. -/
theorem append_blank_inj {word other later last : List Char} (hword : ' ' ∉ word)
    (hother : ' ' ∉ other) (h : word ++ ' ' :: later = other ++ ' ' :: last) :
    word = other ∧ later = last := by
  have htake : ∀ word rest : List Char, ' ' ∉ word →
      (word ++ ' ' :: rest).takeWhile (· ≠ ' ') = word := by
    intro word rest hnot
    have hall : ∀ c ∈ word, decide (c ≠ ' ') = true :=
      fun c hc => decide_eq_true fun heq => hnot (heq ▸ hc)
    rw [List.takeWhile_append_of_pos hall, List.takeWhile_cons_of_neg (by simp), List.append_nil]
  obtain rfl : word = other := by rw [← htake word later hword, h, htake other last hother]
  exact ⟨rfl, (List.cons.inj (List.append_cancel_left h)).2⟩

section Eq

variable {change : String} {loop other : EventLoop}

/-- Where the rest of a progress line begins, the names of the frames begin. -/
theorem progress_split (hloop : 0 ≤ loop.activeLine.getD 0) (hother : 0 ≤ other.activeLine.getD 0)
    (h : progress change loop = progress change other) :
    loop.activeLine.getD 0 = other.activeLine.getD 0 ∧
      ∃ later last,
        (topName loop).toList ++ ' ' :: later = (topName other).toList ++ ' ' :: last := by
  obtain ⟨later, hlater⟩ := toList_progress change loop
  obtain ⟨last, hlast⟩ := toList_progress change other
  rw [h, hlast] at hlater
  obtain ⟨hline, htop⟩ := append_blank_inj (notMem_lineText _ hloop) (notMem_lineText _ hother)
    (List.append_cancel_left hlater).symm
  exact ⟨lineText_inj hloop hother (String.toList_inj.mp hline), later, last,
    List.append_cancel_left htop⟩

/-- The dash for no frame is told from the name of a frame. -/
theorem topName_of_progress_eq (hloop : 0 ≤ loop.activeLine.getD 0)
    (hother : 0 ≤ other.activeLine.getD 0) (h : progress change loop = progress change other)
    (hnone : topName loop = "-") : topName other ∉ frameNames := by
  intro hname
  obtain ⟨-, later, last, heq⟩ := progress_split hloop hother h
  obtain ⟨c, cs, hcs, hdash⟩ := head_of_mem_frameNames hname
  rw [hnone, hcs] at heq
  exact hdash (List.cons.inj heq).1.symm

end Eq

/-- **A step shows exactly if it does something**: the progress line of an ordered loop stays the
same in a step exactly if the loop does. -/
theorem progress_step_eq_iff {loop : EventLoop} (h : loop.Ordered) (change : String) :
    progress change loop.step = progress change loop ↔ loop.step = loop := by
  refine ⟨fun heq => ?_, fun heq => by rw [heq]⟩
  have hline := h.step.line
  have hstep := loop.stepped
  generalize loop.executedBy .step = ran at hstep
  generalize loop.step = next at hstep heq hline ⊢
  cases hstep with
  | rest | wait => rfl
  | @leave top below hlive hstack hend =>
    obtain ⟨rfl, hframe⟩ := h.top hstack
    refine absurd ?_ (topName_of_progress_eq hline h.line heq rfl)
    rw [topName, hstack]
    exact hframe.name
  | execute hlive hstack hnext =>
    obtain ⟨n, hlt, hactive, -⟩ := h.next hstack hnext
    have hsame := (progress_split hline h.line heq).1
    rw [EventLoop.perform_activeLine, hactive] at hsame
    exact absurd hsame hlt.ne'
  | @microtask entry later hlive hstack hmicros =>
    have hnone : topName loop = "-" := by rw [topName, hstack]; rfl
    exact absurd (h.microtasks entry (by simp [hmicros])).2
      (topName_of_progress_eq h.line hline heq.symm hnone)
  | @macrotask entry later hlive hstack hmicros hmacros =>
    have hnone : topName loop = "-" := by rw [topName, hstack]; rfl
    exact absurd (macrotaskFrameName_mem _) (topName_of_progress_eq h.line hline heq.symm hnone)
  | finish hlive hstack hmicros hmacros hpending =>
    have hdone := finished_eq_of_progress_eq heq
    rw [hlive] at hdone
    cases hdone

end Report

end LoopStepper
