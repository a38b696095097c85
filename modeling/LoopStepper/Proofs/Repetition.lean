import LoopStepper.Proofs.Highlight
import LoopStepper.Proofs.Oversized
import LoopStepper.Report.Sparse

/-!
# Lines that are repeated

Ticks move timers and the clock, and a progress line shows neither. So whatever ticks there are
between two steps of a run, the line of the second step is compared with what was shown before the
ticks: it is the same exactly if the step did nothing.

A progress line is taken from the state itself or from its snapshot. It is the same line
(`progressText_snapshot`), as long as the number of the active line can be written.

Headline:
* **`repeated_line_iff`**: of two steps that follow each other in the run of a script, with any
  ticks between them, the lines are the same exactly if the second changed nothing.
-/

namespace LoopStepper.Report

open EventLoop Script Text

/-! ## Lines and snapshots -/

section Snapshot

theorem truth?_list (items : List Datum) :
    Datum.truth? (.list items) = if items = [] then none else some (.list items) := by
  cases items <;> rfl

theorem truth?_text (s : String) :
    Datum.truth? (.text s) = if s.isEmpty then none else some (.text s) := by
  cases h : s.isEmpty <;> simp [Datum.truth?, Datum.isTrue, h]

theorem last_concat (items : List Datum) (item : Datum) :
    Datum.last (.list (items ++ [item])) = .ok item := by
  simp [Datum.last, Datum.items?]

theorem part_name_view (frame : Frame) : frame.view.part "name" = .ok (.text frame.name) := rfl

theorem display_text (s : String) : Datum.display (.text s) = .ok s := rfl

theorem literal_text (s : String) : Datum.literal (.text s) = .ok (quotedString s) := by
  rw [Datum.literal]

/-- The active line of a snapshot is shown like that of a state, if its number can be written. -/
theorem trueDisplay?_ofInt? {line : Option Int} (h : ¬ Oversized (line.getD 0)) :
    (Datum.ofInt? line).trueDisplay? = .ok (lineNumber? line) := by
  cases line with
  | none => rfl
  | some n =>
    have hwritten : writeInt n = .ok (toString n) := if_neg h
    by_cases hn : n = 0
    · rw [hn]
      rfl
    · simp [Datum.ofInt?, Datum.trueDisplay?, Datum.isTrue, Datum.display, Datum.literal,
        lineNumber?, Option.filter, hn, hwritten, Except.map, Except.mapError]

/-- **The progress line of a snapshot is that of the state.** -/
theorem progressText_snapshot (change : String) {loop : EventLoop}
    (h : ¬ Oversized (loop.activeLine.getD 0)) :
    progressText (.text change) loop.snapshot = .ok (progress change loop) := by
  have hstack : listed "call_stack" loop.snapshot =
      .ok (Datum.truth? (.list (loop.stack.reverse.map (·.view)))) := rfl
  have houtput : listed "output" loop.snapshot =
      .ok (Datum.truth? (.list (loop.output.map .text))) := rfl
  have hline : loop.snapshot.field "active_line" = .ok (.ofInt? loop.activeLine) := rfl
  have hfinished : loop.snapshot.field "finished" = .ok (.flag loop.finished) := rfl
  have hbind {α β : Type} (a : α) (f : α → Except ShapeError β) : (Except.ok a >>= f) = f a := rfl
  unfold progressText progressOfData progress progressOf
  rw [hstack, houtput, hline, hfinished, truth?_list, truth?_list]
  simp only [hbind, trueDisplay?_ofInt? h, display_text]
  -- The innermost frame and the last message stand at the ends of their lists.
  rcases List.eq_nil_or_concat loop.output with hnone | ⟨front, last, hsome⟩
  · cases hframes : loop.stack with
    | nil =>
      simp [hnone, display_text, Datum.isTrue]
      rfl
    | cons top below =>
      simp [hnone, hbind, display_text, last_concat, part_name_view, Datum.isTrue]
      rfl
  · rw [hsome]
    cases hframes : loop.stack with
    | nil =>
      by_cases hempty : last.isEmpty <;>
      · simp [hbind, display_text, last_concat, Datum.isTrue, hempty, truth?_text,
          literal_text, Option.filter, Except.map, Except.mapError, Datum.items?]
        rfl
    | cons top below =>
      by_cases hempty : last.isEmpty <;>
      simp [hbind, display_text, last_concat, part_name_view, Datum.isTrue, hempty, truth?_text,
        literal_text, Option.filter, Except.map, Except.mapError, Datum.items?]

end Snapshot

/-! ## Lines in the course of a run -/

/-- A progress line shows neither the clock nor a timer. -/
theorem progress_advance (change : String) (loop : EventLoop) (ms : Int) :
    progress change (loop.advance ms) = progress change loop := rfl

theorem progress_ticks (change : String) (loop : EventLoop) (ticks : List Int) :
    progress change (loop.replay (ticks.map .tick)) = progress change loop := by
  induction ticks generalizing loop with
  | nil => rfl
  | cons ms ticks ih => exact (ih (loop.advance ms)).trans (progress_advance change loop ms)

/-- What lies ahead stays in the order of the lines throughout a run. -/
theorem ordered_replay {loop : EventLoop} (h : loop.Ordered) (events : List Event) :
    (loop.replay events).Ordered :=
  replay_invariant (fun _ h => h.step) (fun _ ms h => h.advance ms) h events

/-- **A line is repeated exactly if nothing happened**: of two steps that follow each other in the
run of a script, with any ticks between them, the second shows the same line as the first exactly if
it leaves the state as the ticks did. The lines are the same if they are taken from snapshots. -/
theorem repeated_line_iff {source : String} {program : List Task}
    (h : parse source = .ok program) (events : List Event) (ticks : List Int) (change : String) :
    let first := (start program).replay (events ++ [.step])
    let later := first.replay (ticks.map .tick)
    (progress change later.step = progress change first ↔ later.step = later) ∧
      ∀ loop ∈ [first, later.step], ¬ Oversized (loop.activeLine.getD 0) →
        progressText (.text change) loop.snapshot = .ok (progress change loop) := by
  intro first later
  have hfirst : first.Ordered := ordered_replay (ordered_start (numbered_of_parse h)) _
  have hlater : later.Ordered := ordered_replay hfirst _
  refine ⟨?_, fun loop _ hsmall => progressText_snapshot change hsmall⟩
  rw [← progress_ticks change first ticks]
  exact progress_step_eq_iff hlater change

/-- When the main program of `nestedForest` has ended, a step that comes too early for the timers
shows the line once more, and one that comes later shows another line. -/
theorem repeated_line_iff_nested :
    parse nestedScript = .ok nestedForest ∧
      (let first := (start nestedForest).replay (halfRun.take 4 ++ [.step])
      progressText (.text "step") first.snapshot = .ok (progress "step" first) ∧
        progress "step" (first.replay [.tick 1]).step = progress "step" first ∧
        progress "step" (first.replay [.tick 7, .tick 1]).step ≠ progress "step" first) := by
  have hearly := repeated_line_iff parse_nestedScript (halfRun.take 4) [1] "step"
  have hlate := repeated_line_iff parse_nestedScript (halfRun.take 4) [7, 1] "step"
  refine ⟨parse_nestedScript, ?_, hearly.1.mpr rfl, fun hsame => ?_⟩
  · exact hearly.2 _ List.mem_cons_self (not_oversized.mpr (ten_pow_pos maxDigits))
  · have hline := congrArg EventLoop.activeLine (hlate.1.mp hsame)
    exact absurd hline (by decide)

end LoopStepper.Report
