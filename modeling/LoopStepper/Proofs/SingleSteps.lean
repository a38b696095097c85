import LoopStepper.Proofs.Refusals
import LoopStepper.Proofs.Reports
import LoopStepper.Proofs.Rounds
import Mathlib.Data.List.TakeWhile
import Mathlib.Tactic.IntervalCases

/-!
# Several steps at once

The command for steps pauses the run and makes one step after the other, until it has made as many
as were asked for or the script is finished. To stop early makes no difference to the state, since a
finished loop stays as it is (`steps_stepsMade`); it shows in the number of steps that are made,
which is the smaller of what was asked for and what it takes to finish (`stepsMade_of_isLeast`).

`Walked` says what becomes of a bench by steps, and two walks are one (`Walked.trans`). So the loop
of the command is a walk by induction on the steps that are left (`makeSteps_walks`): one step is a
walk (`walked_notedStep`), and the rest is one from there.

Headline:
* **`handle_steps`**: on every bench that a session comes to, the command makes the steps it is
  asked for, and two such commands do to the session what one does that asks for as many steps as
  they together.
-/

namespace LoopStepper

open Text Script

namespace EventLoop

variable {loop : EventLoop}

/-! ## Steps that are made -/

theorem steps_add (loop : EventLoop) (n m : Nat) : loop.steps (n + m) = (loop.steps n).steps m := by
  induction n generalizing loop with
  | zero => rw [Nat.zero_add, steps]
  | succ n ih => rw [Nat.succ_add, steps, steps, ih]

/-- How many of `n` steps are made: there are no more once the script is finished. -/
def stepsMade (loop : EventLoop) : (n : Nat) → Nat
  | 0 => 0
  | n + 1 => if loop.finished then 0 else loop.step.stepsMade n + 1

theorem stepsMade_of_finished (h : loop.finished = true) (n : Nat) : loop.stepsMade n = 0 := by
  cases n with
  | zero => rfl
  | succ n => rw [stepsMade, if_pos h]

theorem steps_of_finished (h : loop.finished = true) (n : Nat) : loop.steps n = loop :=
  steps_of_step_eq (step_of_finished h) n

/-- **To stop at the end of a script changes nothing.** -/
theorem steps_stepsMade (loop : EventLoop) (n : Nat) :
    loop.steps (loop.stepsMade n) = loop.steps n := by
  by_cases hfin : loop.finished = true
  · rw [stepsMade_of_finished hfin, steps_of_finished hfin, steps_of_finished hfin]
  · induction n generalizing loop with
    | zero => rfl
    | succ n ih =>
      rw [stepsMade, if_neg hfin, steps, steps]
      by_cases hend : loop.step.finished = true
      · rw [stepsMade_of_finished hend, steps_of_finished hend, steps_of_finished hend]
      · exact ih loop.step hend

theorem stepsMade_add (loop : EventLoop) (n m : Nat) :
    loop.stepsMade (n + m) = loop.stepsMade n + (loop.steps n).stepsMade m := by
  induction n generalizing loop with
  | zero => rw [Nat.zero_add, stepsMade, Nat.zero_add, steps]
  | succ n ih =>
    by_cases hfin : loop.finished = true
    · rw [steps_of_finished hfin, stepsMade_of_finished hfin, stepsMade_of_finished hfin,
        stepsMade_of_finished hfin]
    · rw [Nat.succ_add, stepsMade, stepsMade, if_neg hfin, if_neg hfin, steps, ih, Nat.succ_add]

/-- If some number of steps is the least that finishes a script, no more than these are made. -/
theorem stepsMade_of_isLeast {least : Nat}
    (h : IsLeast {k | (loop.steps k).finished = true} least) (n : Nat) :
    loop.stepsMade n = min n least := by
  induction n generalizing loop least with
  | zero => rw [stepsMade, Nat.zero_min]
  | succ n ih =>
    obtain ⟨hfinal, hleast⟩ := h
    by_cases hfin : loop.finished = true
    · have hnone : least = 0 := Nat.le_zero.mp (hleast hfin)
      rw [stepsMade_of_finished hfin, hnone, Nat.min_zero]
    · cases least with
      | zero => exact absurd hfinal hfin
      | succ least =>
        have hlater : IsLeast {k | (loop.step.steps k).finished = true} least :=
          ⟨hfinal, fun k hk => Nat.le_of_succ_le_succ (hleast (a := k + 1) hk)⟩
        rw [stepsMade, if_neg hfin, ih hlater, Nat.succ_min_succ]

/-- If no number of steps finishes a script, all are made. -/
theorem stepsMade_of_unfinished (h : ∀ k, (loop.steps k).finished = false) (n : Nat) :
    loop.stepsMade n = n := by
  induction n generalizing loop with
  | zero => rfl
  | succ n ih =>
    have hlive : loop.finished = false := h 0
    rw [stepsMade, if_neg (ne_true_of_eq_false hlive), ih fun k => h (k + 1)]

/-- The lines that note the first `n` steps. -/
def stepNotes (loop : EventLoop) (n : Nat) : List String :=
  (List.range n).map fun k => Report.progress "step" (loop.steps (k + 1))

theorem stepNotes_add (loop : EventLoop) (n m : Nat) :
    loop.stepNotes (n + m) = loop.stepNotes n ++ (loop.steps n).stepNotes m := by
  simp only [stepNotes, List.range_add, List.map_append, List.map_map]
  congr 1
  refine List.map_congr_left fun k _ => ?_
  rw [Function.comp_apply, Nat.add_assoc, steps_add]

end EventLoop

/-! ## Numbers that are written and read -/

namespace Text

theorem wellSeparated_of_isDigit {cs : List Char} (h : ∀ c ∈ cs, c.isDigit = true) :
    wellSeparated true cs = true := by
  induction cs with
  | nil => rfl
  | cons c cs ih =>
    have hc : c ≠ '_' := by
      rintro rfl
      exact absurd (h _ List.mem_cons_self) (by decide)
    rw [wellSeparated, if_neg hc]
    exact ih fun d hd => h d (List.mem_cons_of_mem c hd)

/-- Digits without a sign are read as the number that they stand for. -/
theorem readInt_digits {digits : List Char} (hne : digits ≠ [])
    (h : ∀ c ∈ digits, c.isDigit = true) :
    readInt digits = (readDigits digits).map Int.ofNat := by
  have hdrop {cs : List Char} (hcs : ∀ c ∈ cs, c.isDigit = true) :
      cs.dropWhile isNumeralBlank = cs := by
    refine List.dropWhile_eq_self_iff.mpr fun hlength => ?_
    rw [isNumeralBlank, isBlank_of_isDigit (hcs _ (List.getElem_mem hlength)), Bool.false_and]
    exact Bool.false_ne_true
  have hbare : ((digits.dropWhile isNumeralBlank).reverse.dropWhile isNumeralBlank).reverse =
      digits := by
    rw [hdrop h, hdrop fun c hc => h c (List.mem_reverse.mp hc), List.reverse_reverse]
  have hsign : splitSign digits = (false, digits) := by
    unfold splitSign
    split
    · exact absurd (h '-' List.mem_cons_self) (by decide)
    · exact absurd (h '+' List.mem_cons_self) (by decide)
    · rfl
  have hrun : digits.takeWhile isNumeralChar = digits := by
    refine List.takeWhile_eq_self_iff.mpr fun c hc => ?_
    rw [isNumeralChar, isDecimal_of_isDigit (h c hc), Bool.true_or]
  have hseparated : wellSeparated false digits = true := by
    obtain ⟨c, cs, rfl⟩ := List.exists_cons_of_ne_nil hne
    have hc : c ≠ '_' := by
      rintro rfl
      exact absurd (h _ List.mem_cons_self) (by decide)
    rw [wellSeparated, if_neg hc]
    exact wellSeparated_of_isDigit fun d hd => h d (List.mem_cons_of_mem c hd)
  have hfilter : digits.filter isDecimal = digits :=
    List.filter_eq_self.mpr fun c hc => isDecimal_of_isDigit (h c hc)
  simp only [readInt, hbare, hsign, hrun, hseparated, hfilter, Bool.not_true, Bool.false_eq_true,
    if_false, Nat.lt_irrefl]
  cases readDigits digits <;> rfl

theorem toString_ne_nil (n : Nat) : (toString n).toList ≠ [] := by
  rw [toList_toString]
  exact Nat.toDigits_ne_nil

/-- A number that is written is read as itself. -/
theorem readInt_toString {n : Nat} (h : (toString n).toList.length ≤ maxDigits) :
    readInt (toString n).toList = .ok n := by
  rw [readInt_digits (toString_ne_nil n) fun c hc => isDigit_of_mem_toString hc, readDigits,
    if_neg (Nat.not_lt.mpr h), digitsValue_toString]
  rfl

end Text

/-! ## What is noted -/

/-- The text of a note. -/
def Utterance.noted? : Utterance → Option String
  | .note text => some text
  | .echo _ | .line _ | .prompt _ | .newline => none

namespace Bench

variable {bench before middle after : Bench} {noted : Bool} {n m : Nat}

/-- The notes on a bench, in the order in which they were said. -/
def notes (bench : Bench) : List String :=
  (bench.said.filterMap Utterance.noted?).reverse

/-- What the echo prints is no note. -/
theorem notes_deliver (bench : Bench) (notices : List Notice) :
    (bench.deliver notices).notes = bench.notes := by
  have hechoes (texts : List String) :
      (texts.map Utterance.echo).filterMap Utterance.noted? = [] := by
    rw [List.filterMap_map]
    exact List.filterMap_eq_nil_iff.mpr fun _ _ => rfl
  unfold deliver notes
  dsimp only
  rw [List.filterMap_append, hechoes, List.nil_append]

/-! ## Walks -/

/-- A session after steps by hand: the run is paused, at the state that the steps lead to. -/
def pausedAfter (session : Session) (n : Nat) : Session :=
  { session with
    simulator := { session.simulator with
      running := false
      loop := session.simulator.loop.steps n } }

theorem pausedAfter_add (session : Session) (n m : Nat) :
    pausedAfter session (n + m) = pausedAfter (pausedAfter session n) m := by
  simp only [pausedAfter, EventLoop.steps_add]

theorem pausedAfter_zero {session : Session} (hpaused : session.simulator.running = false) :
    pausedAfter session 0 = session := by
  unfold pausedAfter
  rw [← hpaused]
  rfl

/-- What becomes of a bench by `n` steps by hand: of the session nothing else changes, the files
stay, and the steps that are made are noted one by one, or none is. -/
structure Walked (before : Bench) (n : Nat) (noted : Bool) (after : Bench) : Prop where
  session : after.session = pausedAfter before.session n
  files : after.files = before.files
  notes : after.notes =
    before.notes ++ if noted then before.loop.stepNotes (before.loop.stepsMade n) else []

namespace Walked

theorem paused (h : before.Walked n noted after) : after.session.simulator.running = false :=
  congrArg (·.simulator.running) h.session

theorem loop_eq (h : before.Walked n noted after) : after.loop = before.loop.steps n :=
  congrArg (·.simulator.loop) h.session

theorem faultless (h : before.Walked n noted after) (hfree : before.Faultless) :
    after.Faultless := by
  rw [Faultless, h.session]
  exact hfree

/-- Nothing becomes of a bench that is paused if no step is made. -/
theorem stay (hpaused : bench.session.simulator.running = false)
    (hnone : bench.loop.stepsMade n = 0) : bench.Walked n noted bench := by
  constructor
  case session =>
    have hsame : bench.loop.steps n = bench.loop := by
      rw [← EventLoop.steps_stepsMade, hnone, EventLoop.steps]
    have hstill : pausedAfter bench.session n = pausedAfter bench.session 0 := by
      simp only [pausedAfter, EventLoop.steps]
      rw [← loop, hsame]
    rw [hstill, pausedAfter_zero hpaused]
  case files => rfl
  case notes => simp [hnone, EventLoop.stepNotes]

/-- To pause a run is a walk of no steps. -/
theorem of_pause (hsession : after.session = pausedAfter before.session 0)
    (hfiles : after.files = before.files) (hnotes : after.notes = before.notes) :
    before.Walked 0 noted after := by
  refine ⟨hsession, hfiles, ?_⟩
  rw [hnotes, EventLoop.stepsMade, EventLoop.stepNotes]
  simp

/-- **Two walks are one.** -/
theorem trans (first : before.Walked n noted middle) (second : middle.Walked m noted after) :
    before.Walked (n + m) noted after := by
  constructor
  case session => rw [second.session, first.session, pausedAfter_add]
  case files => rw [second.files, first.files]
  case notes =>
    rw [second.notes, first.notes, first.loop_eq]
    cases noted with
    | false => simp
    | true =>
      simp only [if_true, List.append_assoc]
      rw [EventLoop.stepsMade_add, EventLoop.stepNotes_add, EventLoop.steps_stepsMade]

end Walked

/-- A bench after a step, which is noted or not. -/
def notedStep (bench : Bench) (noted : Bool) : Bench :=
  let stepped := bench.afterStep
  if noted then
    { stepped.deliver [] with
      said := .note (Report.progress "step" stepped.loop) :: (stepped.deliver []).said }
  else stepped

/-- **One step is a walk**, if the run is paused and not finished. -/
theorem walked_notedStep (hpaused : bench.session.simulator.running = false)
    (hlive : bench.loop.finished = false) : bench.Walked 1 noted (bench.notedStep noted) := by
  have hmade : bench.loop.stepsMade 1 = 1 := by
    rw [EventLoop.stepsMade, if_neg (ne_true_of_eq_false hlive), EventLoop.stepsMade]
  have hsession : bench.afterStep.session = pausedAfter bench.session 1 := by
    change { bench.session with simulator := bench.session.simulator.stepped } = _
    unfold Simulator.stepped
    rw [hpaused, Bool.false_and]
    rfl
  have hnotes : bench.afterStep.notes = bench.notes := notes_deliver _ _
  cases noted with
  | false =>
    refine ⟨hsession, rfl, ?_⟩
    rw [if_neg Bool.false_ne_true, List.append_nil]
    exact hnotes
  | true =>
    refine ⟨hsession, rfl, ?_⟩
    have hquiet := notes_deliver bench.afterStep []
    rw [if_pos rfl, hmade]
    rw [hnotes] at hquiet
    rw [← hquiet, notes, notes, notedStep]
    simp only [if_true, List.filterMap_cons, Utterance.noted?, List.reverse_cons]
    rfl

end Bench

namespace Command

open Bench

variable {bench : Bench} {noted : Bool}

/-! ## The command -/

theorem operate_step (hfree : bench.Faultless) :
    operate Simulator.step bench = .ok () bench.afterStep := by
  rw [operate, step_of_faultless hfree]
  rfl

theorem simulator_run (bench : Bench) :
    simulator bench = .ok bench.session.simulator bench := rfl

/-- The loop makes a step and goes on. -/
theorem makeSteps_succ (hfree : bench.Faultless) (hlive : bench.loop.finished = false)
    (made left : Nat) :
    makeSteps noted made (left + 1) bench =
      makeSteps noted (made + 1) left (bench.notedStep noted) := by
  have hon : bench.session.simulator.loop.finished = false := hlive
  have hview : operate Simulator.view bench.afterStep =
      .ok bench.afterStep.session.simulator.loop (bench.afterStep.deliver []) :=
    operate_view hfree
  rw [makeSteps]
  cases noted with
  | false =>
    simp only [bind, EStateM.bind, simulator_run, pure, hon, operate_step hfree,
      Bool.false_eq_true, if_false]
    rfl
  | true =>
    simp only [bind, EStateM.bind, simulator_run, pure, hon, operate_step hfree, hview,
      Bool.false_eq_true, if_false, if_true]
    rfl

/-- **The loop of the command is a walk**: by the steps that are left. -/
theorem makeSteps_walks (made left : Nat) (hfree : bench.Faultless)
    (hpaused : bench.session.simulator.running = false) :
    ∃ after, makeSteps noted made left bench = .ok (made + bench.loop.stepsMade left) after ∧
      bench.Walked left noted after := by
  induction left generalizing bench made with
  | zero => exact ⟨bench, rfl, .stay hpaused rfl⟩
  | succ left ih =>
    by_cases hfin : bench.loop.finished = true
    · have hnone := EventLoop.stepsMade_of_finished hfin (left + 1)
      have hend : bench.session.simulator.loop.finished = true := hfin
      refine ⟨bench, ?_, .stay hpaused hnone⟩
      rw [hnone, makeSteps]
      simp only [bind, EStateM.bind, simulator_run, pure, EStateM.pure, hend, if_true]
      rfl
    · have hlive := Bool.of_not_eq_true hfin
      have hfirst : bench.Walked 1 noted (bench.notedStep noted) := walked_notedStep hpaused hlive
      obtain ⟨after, hmake, hwalk⟩ := ih (made + 1) (hfirst.faultless hfree) hfirst.paused
      refine ⟨after, ?_, Nat.add_comm left 1 ▸ hfirst.trans hwalk⟩
      rw [makeSteps_succ hfree hlive, hmake, hfirst.loop_eq, EventLoop.stepsMade, if_neg hfin,
        Nat.add_right_comm, Nat.add_assoc]
      rfl

/-- A bench whose run is paused, with nothing to tell. -/
def halted (bench : Bench) : Bench :=
  { bench with session := pausedAfter bench.session 0 }.deliver []

theorem operate_pause (hfree : bench.Faultless) :
    operate Simulator.pause bench = .ok () (halted bench) := by
  rw [operate, Simulator.pause, Simulator.guarded_of_faultless hfree]
  rfl

/-- **The reply of the command, and what becomes of the bench.** -/
theorem runStep_walks (arguments : List String) (listened : Bool) (hfree : bench.Faultless) :
    ∃ after, runStep arguments listened bench =
        .ok (s!"Stepped {bench.loop.stepsMade (stepCount arguments)}x.\n" ++
          Report.overview (bench.loop.steps (stepCount arguments))) after ∧
      bench.Walked (stepCount arguments) (listened && 1 < stepCount arguments) after := by
  have hpause : bench.Walked 0 (listened && 1 < stepCount arguments) (halted bench) :=
    .of_pause rfl rfl (notes_deliver _ _)
  obtain ⟨walked, hmake, hwalk⟩ := makeSteps_walks 0 (stepCount arguments)
    (hpause.faultless hfree) hpause.paused
  have hboth := hpause.trans hwalk
  rw [Nat.zero_add] at hboth
  have hlook : walked.Walked 0 (listened && 1 < stepCount arguments) (walked.deliver []) :=
    .of_pause (pausedAfter_zero hboth.paused).symm rfl (notes_deliver _ _)
  refine ⟨walked.deliver [], ?_, hboth.trans hlook⟩
  have hloop : walked.session.simulator.loop = bench.loop.steps (stepCount arguments) :=
    hboth.loop_eq
  simp only [runStep, overview, bind, EStateM.bind, operate_pause hfree, hmake,
    operate_view (hboth.faultless hfree), hloop, Nat.zero_add]
  rfl

/-! ## Lines that ask for steps -/

/-- The number of steps that arguments ask for: what the first one is read as, or one. -/
inductive Asked : List String → Int → Prop
  | number {text : String} {rest : List String} {n : Int} (h : readInt text.toList = .ok n) :
      Asked (text :: rest) n
  | unread {text : String} {rest : List String} {error : NumeralError}
      (h : readInt text.toList = .error error) : Asked (text :: rest) 1
  | missing : Asked [] 1

/-- The number is forced between one and the most steps of a command. -/
theorem stepCount_of_asked {arguments : List String} {n : Int} (h : Asked arguments n) :
    stepCount arguments = (min 10000 (max 1 n)).toNat := by
  cases h with
  | number hread | unread hread =>
    simp only [stepCount, List.head?_cons, Option.map_some, Option.getD_some, readIntD, hread,
      maxSteps]
  | missing => rfl

/-- The line that asks for a number of steps. -/
def stepLine (n : Nat) : String :=
  "/step " ++ toString n

theorem read_stepLine (n : Nat) : registry.read (stepLine n) = .call .step [toString n] := by
  have hline : (stepLine n).toList = '/' :: (['s', 't', 'e', 'p'] ++ ' ' :: (toString n).toList) :=
    String.toList_append
  have hread : registry.read (stepLine n) = .call .step [String.ofList (toString n).toList] :=
    read_pair (by decide) (toString_ne_nil n) (by simp [isBlank])
      (fun c hc => isBlank_of_isDigit (isDigit_of_mem_toString hc)) (by decide) hline
  rwa [String.ofList_toList] at hread

theorem stepCount_toString {n : Nat} (hpos : 1 ≤ n) (hle : n ≤ 10000) :
    stepCount [toString n] = n := by
  have hfew : (toString n).toList.length ≤ 5 := by
    rw [toList_toString]
    exact (Nat.length_toDigits_le_iff (by decide) (by decide)).mpr (by omega)
  rw [stepCount_of_asked (.number (readInt_toString (hfew.trans (by decide))))]
  omega

/-- **A line that asks for steps is answered by what its steps lead to.** -/
theorem handle_walks {line : String} {arguments : List String}
    (hread : registry.read line = .call .step arguments) (listened : Bool)
    (hfree : bench.Faultless) :
    ∃ after, handle line listened bench =
        .ok (some (s!"Stepped {bench.loop.stepsMade (stepCount arguments)}x.\n" ++
          Report.overview (bench.loop.steps (stepCount arguments)))) after ∧
      bench.Walked (stepCount arguments) (listened && 1 < stepCount arguments) after := by
  obtain ⟨walked, hrun, hwalk⟩ := runStep_walks arguments listened hfree
  refine ⟨walked, ?_, hwalk⟩
  unfold handle
  rw [hread]
  simp only [perform, bind, EStateM.bind, hrun]
  rfl

/-- The session after a line that asks for a number of steps. -/
theorem session_after_stepLine {n : Nat} (hpos : 1 ≤ n) (hle : n ≤ 10000) (listened : Bool)
    (hfree : bench.Faultless) :
    (after (handle (stepLine n) listened) bench).session = pausedAfter bench.session n := by
  obtain ⟨walked, hrun, hwalk⟩ := handle_walks (read_stepLine n) listened hfree
  rw [after, hrun, ← stepCount_toString hpos hle]
  exact hwalk.session

/-- **A line for several steps is as many single steps.** Whatever command lines, entries and
requests a session has seen, as long as nothing was told to fail: a line that asks for steps is
answered, with the number of steps that it made, which is the smaller of what it asked for and the
least number that finishes the script, and with the state after as many steps as it asked for. This
is the state that the session is left in, paused; nothing else in it changes. If it asked for more
than one and someone listens, each step that was made is noted, by the line of the state after it.
And a line for `a` steps with one for `b` behind it leaves the session that one for `a + b` does. -/
theorem handle_steps {options : Options} {source : Option String} {files : Tree} {bench : Bench}
    {turns : List Turn} (hbegins : Session.Begins options source files bench.session)
    (hturns : ∀ request, .ask request ∈ turns → request.isSabotage = false) :
    let reached := bench.playAll turns
    let loop := reached.session.simulator.loop
    (∀ line arguments asked listened, registry.read line = .call .step arguments →
      Asked arguments asked → ∃ made after,
        let n := (min 10000 (max 1 asked)).toNat
        handle line listened reached =
          .ok (some (s!"Stepped {made}x.\n" ++ Report.overview (loop.steps n))) after ∧
        (∀ least, IsLeast {k | (loop.steps k).finished = true} least → made = min n least) ∧
        ((∀ k, (loop.steps k).finished = false) → made = n) ∧
        after.session = { reached.session with
          simulator := { reached.session.simulator with
            running := false
            loop := loop.steps n } } ∧
        after.files = reached.files ∧
        after.notes = reached.notes ++ if listened && 1 < n then
          (List.range made).map fun k => Report.progress "step" (loop.steps (k + 1)) else []) ∧
    ∀ a b : Nat, 1 ≤ a → 1 ≤ b → a + b ≤ 10000 → ∀ listened,
      let middle := after (handle (stepLine a) listened) reached
      (after (handle (stepLine b) listened) middle).session =
        (after (handle (stepLine (a + b)) listened) reached).session := by
  intro reached loop
  have hworking : bench.Working := hbegins.working
  have hfree : reached.Faultless := (hworking.playAll hturns).faultless
  constructor
  · intro line arguments asked listened hread hasked
    obtain ⟨after, hhandle, hwalk⟩ := handle_walks hread listened hfree
    rw [stepCount_of_asked hasked] at hhandle hwalk
    refine ⟨_, after, hhandle, fun least hleast => ?_, fun hlive => ?_, hwalk.session, hwalk.files,
      hwalk.notes⟩
    · exact EventLoop.stepsMade_of_isLeast hleast _
    · exact EventLoop.stepsMade_of_unfinished hlive _
  · intro a b ha hb hboth listened middle
    have hfirst : middle.session = pausedAfter reached.session a :=
      session_after_stepLine ha (by omega) listened hfree
    have hstill : middle.Faultless := by
      rw [Faultless, hfirst]
      exact hfree
    rw [session_after_stepLine hb (by omega) listened hstill, hfirst, ← pausedAfter_add,
      session_after_stepLine (by omega) hboth listened hfree]

/-- Five steps are asked for during an automatic run that is finished by three. -/
theorem handle_steps_printer :
    let reached := Bench.playAll { session := Session.printerSession } [.ask .play]
    let loop := reached.session.simulator.loop
    Session.Begins Session.plainOptions (some "console.log('A');") {} Session.printerSession ∧
    (∀ request, .ask request ∈ [Turn.ask .play] → request.isSabotage = false) ∧
    reached.session.simulator.running = true ∧
    ∃ after, handle "/N +5" true reached =
        .ok (some ("Stepped 3x.\n" ++ Report.overview (loop.steps 5))) after ∧
      after.session.simulator.running = false ∧
      after.notes =
        ["[step] line=1 stack=main() out=1 last='A'", "[step] line=- stack=- out=1 last='A'",
          "[step] line=- stack=- out=1 last='A' (finished)"] := by
  intro reached loop
  have hturns : ∀ request, .ask request ∈ [Turn.ask .play] → request.isSabotage = false := by
    intro request hmem
    cases List.mem_singleton.mp hmem
    rfl
  have hleast : IsLeast {k | (loop.steps k).finished = true} 3 := by
    refine ⟨by decide, fun k hk => Nat.le_of_not_lt fun hlt => ?_⟩
    interval_cases k <;> exact absurd hk (by decide)
  have hbegins : Session.Begins Session.plainOptions (some "console.log('A');") {}
      (Bench.session { session := Session.printerSession }) := Session.begins_printer
  obtain ⟨made, after, hreply, hmade, -, hsession, -, hnotes⟩ :=
    (handle_steps hbegins hturns).1 "/N +5" ["+5"] 5 true rfl (.number rfl)
  obtain rfl : made = 3 := hmade 3 hleast
  refine ⟨Session.begins_printer, hturns, rfl, after, hreply, ?_, hnotes.trans (by decide +kernel)⟩
  rw [hsession]

end Command

end LoopStepper
