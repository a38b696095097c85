import LoopStepper.Proofs.Deeds
import LoopStepper.Proofs.Opening
import LoopStepper.Proofs.Steps

/-!
# The reports of finished runs

The echo reports a run at the step that finishes it, unless the line of that step is the last one it
has printed. It remembers that line across fresh starts, and a step made by hand neither prints a
line nor changes what is remembered. So a run that ends like the one before it, with nothing printed
in between, is not reported (`run_unreported`); every other one is, once.

What is remembered is the line that was printed last (`Printed`), and the line of a finished loop is
none of an unfinished one (`finished_eq_of_progress_eq`). So if the line of a finishing step is the
one remembered, it was printed together with a report. In a finished loop the line is remembered
already, and further steps say nothing (`Listening.caught_up`).

Headline:
* **`reports_of_turns`**: what each thing that happens to a session adds to the reports.
-/

namespace LoopStepper

/-! ## Texts -/

namespace Report

theorem getLast?_append_ne {front back : List Char} {c : Char} (hne : back ≠ [])
    (h : back.getLast? ≠ some c) : (front ++ back).getLast? ≠ some c := by
  rwa [List.getLast?_append, List.getLast?_eq_some_getLast hne, Option.some_or,
    ← List.getLast?_eq_some_getLast hne]

/-- A quoted text ends in its quote. -/
theorem getLast?_quotedString (s : String) :
    (Text.quotedString s).toList.getLast? ≠ some ')' := by
  rw [Text.quotedString, String.toList_ofList, Text.quoted, List.getLast?_concat, Text.quoteMark]
  split <;> decide

/-- A number ends in a digit. -/
theorem getLast?_toString (n : Nat) : (toString n).toList.getLast? ≠ some ')' := by
  intro h
  exact absurd (Script.isDigit_of_mem_toString (List.mem_of_getLast? h)) (by decide)

/-- **A progress line ends in a parenthesis exactly if the run is over.** -/
theorem getLast?_progress (change : String) (loop : EventLoop) :
    (progress change loop).toList.getLast? = some ')' ↔ loop.finished = true := by
  unfold progress Progress.text progressOf
  dsimp only
  cases loop.finished with
  | true =>
    rw [String.toList_append, List.getLast?_append]
    simp
  | false =>
    simp only [Bool.false_eq_true, if_false, iff_false, String.append_empty]
    cases loop.output.getLast?.filter (!·.isEmpty) with
    | none =>
      simp only [Option.map_none, String.append_empty, String.toList_append]
      refine getLast?_append_ne ?_ (getLast?_toString _)
      rw [Script.toList_toString]
      exact Nat.toDigits_ne_nil
    | some last =>
      simp only [Option.map_some, String.toList_append]
      rw [← List.append_assoc]
      refine getLast?_append_ne ?_ (getLast?_quotedString _)
      rw [Text.quotedString, String.toList_ofList, Text.quoted]
      exact List.cons_ne_nil _ _

theorem finished_eq_of_progress_eq {change label : String} {loop other : EventLoop}
    (h : progress change loop = progress label other) : loop.finished = other.finished := by
  rw [Bool.eq_iff_iff, ← getLast?_progress change, h, getLast?_progress]

theorem head?_progress (change : String) (loop : EventLoop) :
    (progress change loop).toList.head? = some '[' := by
  simp only [progress, Progress.text, String.toList_append, List.append_assoc, List.head?_append]
  rfl

end Report

namespace Echo

/-- How the report of a finished run begins. -/
def reportStart : String := "Run finished. Output: "

/-- Whether a text is the report of a finished run. -/
def isReport (text : String) : Bool :=
  reportStart.toList.isPrefixOf text.toList

theorem isReport_report (prediction : Prediction) (output : List String) :
    isReport (report prediction output) = true := by
  unfold isReport report
  simp only [String.toList_append, List.append_assoc, List.isPrefixOf_iff_prefix]
  exact List.prefix_append _ _

theorem isReport_progress (change : String) (loop : EventLoop) :
    isReport (Report.progress change loop) = false := by
  have hhead := Report.head?_progress change loop
  unfold isReport
  cases hline : (Report.progress change loop).toList with
  | nil => rfl
  | cons c cs =>
    rw [hline] at hhead
    cases hhead
    rfl

/-! ## What the echo hears -/

/-- The line for a loop after a step. -/
def stepLine (loop : EventLoop) : String :=
  Report.progress Change.step.label loop

section Hear

variable {prediction : Prediction} {notice : Notice} {echo : Echo}

/-- A line that repeats the last one is not printed. -/
theorem hear_repeated (h : stepLine notice.loop = echo.last) :
    echo.hear prediction notice = echo := by
  unfold hear
  split
  · next hstep =>
    obtain ⟨hchange, -⟩ := (Bool.and_eq_true _ _).mp hstep
    rw [of_decide_eq_true hchange]
    exact if_pos (beq_iff_eq.mpr h)
  · rfl

/-- Only steps are echoed, and by hand only the one that finishes a run. -/
theorem hear_unechoed
    (h : notice.change ≠ .step ∨ notice.running = false ∧ notice.loop.finished = false) :
    echo.hear prediction notice = echo := by
  refine if_neg fun hstep => ?_
  obtain ⟨hchange, hechoed⟩ := (Bool.and_eq_true _ _).mp hstep
  rcases h with h | ⟨hrun, hlive⟩
  · exact h (of_decide_eq_true hchange)
  · rw [hrun, hlive] at hechoed
    cases hechoed

/-- A line that is new is printed, with the report if the run is over. -/
theorem hear_new (hchange : notice.change = .step)
    (hechoed : (notice.running || notice.loop.finished) = true)
    (hnew : stepLine notice.loop ≠ echo.last) :
    echo.hear prediction notice =
      { last := stepLine notice.loop
        printed := (if notice.loop.finished then [report prediction notice.loop.output] else []) ++
          stepLine notice.loop :: echo.printed } := by
  unfold hear
  rw [if_pos (by rw [hchange, hechoed]; rfl), hchange]
  exact if_neg fun heq => hnew (beq_iff_eq.mp heq)

theorem hear_line (hchange : notice.change = .step) (hrun : notice.running = true)
    (hlive : notice.loop.finished = false) (hnew : stepLine notice.loop ≠ echo.last) :
    echo.hear prediction notice =
      ⟨stepLine notice.loop, stepLine notice.loop :: echo.printed⟩ := by
  rw [hear_new hchange (Bool.or_eq_true_iff.mpr (.inl hrun)) hnew, hlive]
  rfl

theorem hear_end (hchange : notice.change = .step) (hfin : notice.loop.finished = true)
    (hnew : stepLine notice.loop ≠ echo.last) :
    echo.hear prediction notice =
      ⟨stepLine notice.loop,
        report prediction notice.loop.output :: stepLine notice.loop :: echo.printed⟩ := by
  rw [hear_new hchange (Bool.or_eq_true_iff.mpr (.inr hfin)) hnew, hfin]
  rfl

/-- A notice that is heard again says nothing new. -/
theorem hear_hear :
    (echo.hear prediction notice).hear prediction notice = echo.hear prediction notice := by
  by_cases hrepeated : stepLine notice.loop = echo.last
  · rw [hear_repeated hrepeated, hear_repeated hrepeated]
  · by_cases hstep : notice.change = .step ∧ (notice.running || notice.loop.finished) = true
    · rw [hear_new hstep.1 hstep.2 hrepeated]
      exact hear_repeated rfl
    · have hunechoed : notice.change ≠ .step ∨
          notice.running = false ∧ notice.loop.finished = false := by
        rw [← Bool.or_eq_false_iff, ← Bool.not_eq_true]
        exact Classical.not_and_iff_not_or_not.mp hstep
      rw [hear_unechoed hunechoed, hear_unechoed hunechoed]

/-- However often the echo has subscribed, and whoever else has, it hears a notice once. -/
theorem serve_audience (prediction : Prediction) (notice : Notice) (names : List String)
    (echo : Echo) :
    ((audience prediction).serve notice names echo).memory =
      if subscription ∈ names then echo.hear prediction notice else echo := by
  induction names generalizing echo with
  | nil => rfl
  | cons name names ih =>
    rw [Audience.serve_cons_memory, audience, Notice.edit, Option.getD_none, ih]
    by_cases hname : name = subscription
    · simp [hname, hear_hear]
    · have hother : ¬ subscription = name := fun heq => hname heq.symm
      simp [hname, hother]

end Hear

end Echo

/-! ## Benches -/

/-- The text of an utterance of the echo. -/
def Utterance.echoed? : Utterance → Option String
  | .echo text => some text
  | _ => none

namespace Request

/-- A request that does not keep the echo from hearing. -/
def isAudible : Request → Bool
  | .unsubscribe name => name ≠ Echo.subscription
  | .failNext .announce => false
  | _ => true

theorem isAudible_of_isOrdinary {request : Request} (h : request.isOrdinary = true) :
    request.isAudible = true := by
  cases request with
  | unsubscribe | failNext => cases h
  | step | tick | reset | play | pause | toggle | setSpeed | autoplayStep | subscribe => rfl

end Request

/-- A deed that does not keep the echo from hearing, and is no utterance of its own. -/
def Deed.Audible : Deed → Prop
  | .say utterance => utterance.isEcho = false
  | .ask request => request.isAudible = true
  | _ => True

theorem Deed.Usual.audible {deed : Deed} (h : deed.Usual) : deed.Audible := by
  cases deed with
  | ask request => exact Request.isAudible_of_isOrdinary h.1
  | say => exact h
  | look | restart | save | choose | enable | move => trivial

namespace Simulator

open Echo

/-- The echo would hear nothing of what the simulator has become, and goes on listening. -/
structure Unheard (sim after : Simulator) : Prop where
  subscribed : subscription ∈ sim.subscribers → subscription ∈ after.subscribers
  told : .announce ∉ sim.faults → .announce ∉ after.faults
  /-- No run is finished by it, and a finished one looks the same. -/
  finished : after.loop.finished = true →
    sim.loop.finished = true ∧ stepLine after.loop = stepLine sim.loop

/-- There was no step, and so the line for the loop stays the same, unless it starts over. -/
structure Stepless (sim after : Simulator) : Prop extends Unheard sim after where
  line : after.generation = sim.generation → stepLine after.loop = stepLine sim.loop

variable {sim after : Simulator} {request : Request} {reply : Reply} {change : Option Change}
  {outcome : Outcome Reply}

/-- A fresh start. -/
theorem stepless_restarted (source : String) (program : List Task) (autoplay : Bool) :
    Stepless sim (sim.restarted source program autoplay) :=
  ⟨⟨id, id, fun hfin => nomatch hfin⟩, fun hsame => absurd hsame (Nat.succ_ne_self _)⟩

/-- Whatever leaves the event loop alone. -/
theorem stepless_of_eq (hsubscribed : after.subscribers = sim.subscribers)
    (hfaults : after.faults ⊆ sim.faults) (hloop : after.loop = sim.loop) : Stepless sim after :=
  ⟨⟨fun h => hsubscribed ▸ h, fun h hmem => h (hfaults hmem), fun h => hloop ▸ ⟨hloop ▸ h, rfl⟩⟩,
    fun _ => congrArg stepLine hloop⟩

/-- An effect is a step, or nothing that the echo would hear of. -/
theorem Effect.heard (effect : Effect sim request reply change after)
    (h : request.isAudible = true) :
    request.isReset = false ∧ change = some .step ∧ after = sim.stepped ∨
      change ≠ some .step ∧ Stepless sim after := by
  cases effect with
  | step | autoplay => exact .inl ⟨rfl, rfl, rfl⟩
  | tick => exact .inr ⟨nofun, ⟨id, id, fun hfin => ⟨hfin, rfl⟩⟩, fun _ => rfl⟩
  | reset | replay => exact .inr ⟨nofun, stepless_restarted _ _ _⟩
  | pausing | playing | play | pause | setSpeed | dropped =>
    exact .inr ⟨nofun, stepless_of_eq rfl (List.Subset.refl _) rfl⟩
  | subscribe =>
    exact .inr ⟨nofun, ⟨fun hmem => List.mem_append_left _ hmem, id, fun hfin => ⟨hfin, rfl⟩⟩,
      fun _ => rfl⟩
  | unsubscribe =>
    have hother : subscription ≠ _ := (of_decide_eq_true h).symm
    exact .inr ⟨nofun, ⟨fun hmem => (List.mem_erase_of_ne hother).mpr hmem, id,
      fun hfin => ⟨hfin, rfl⟩⟩, fun _ => rfl⟩
  | @failNext operation =>
    refine .inr ⟨nofun, ⟨id, fun htold hmem => ?_, fun hfin => ⟨hfin, rfl⟩⟩, fun _ => rfl⟩
    rcases List.mem_insert_iff.mp hmem with rfl | hmem
    · cases h
    · exact htold hmem

/-- What the echo may hear of a call. -/
theorem Called.heard (hcalled : Called sim request outcome) (haudible : request.isAudible = true)
    (htold : .announce ∉ sim.faults) :
    request.isReset = false ∧ outcome.simulator = sim.stepped ∧
        outcome.notices = [sim.stepped.notice .step] ∨
      (∀ notice ∈ outcome.notices, notice.change ≠ .step) ∧ Stepless sim outcome.simulator := by
  cases hcalled with
  | quiet effect =>
    rcases effect.heard haudible with ⟨_, hchange, _⟩ | ⟨_, hstepless⟩
    · cases hchange
    · exact .inr ⟨List.forall_mem_nil _, hstepless⟩
  | told effect =>
    rcases effect.heard haudible with ⟨hreset, hchange, hafter⟩ | ⟨hchange, hstepless⟩
    · exact .inl ⟨hreset, hafter, hafter ▸ Option.some.inj hchange ▸ rfl⟩
    · refine .inr ⟨fun notice hmem => ?_, hstepless⟩
      rw [List.mem_singleton.mp hmem]
      exact fun heq => hchange (congrArg some heq)
  | untold _ hmuted => exact absurd hmuted htold
  | injected => exact .inr ⟨List.forall_mem_nil _, stepless_of_eq rfl List.erase_subset rfl⟩
  | unread | unreplayed | sizeless | speedless =>
    exact .inr ⟨List.forall_mem_nil _, stepless_of_eq rfl (List.Subset.refl _) rfl⟩

/-- The echo hears nothing of a reset, whether it succeeds or fails. -/
theorem stepless_reset (source : Option String) (autoplay : Bool) (htold : .announce ∉ sim.faults) :
    (∀ notice ∈ (sim.reset source autoplay).notices, notice.change ≠ .step) ∧
      Stepless sim (sim.reset source autoplay).simulator := by
  rcases (called sim (.reset source autoplay)).heard rfl htold with ⟨hreset, _⟩ | hstepless
  · cases hreset
  · exact hstepless

theorem stepless_view (sim : Simulator) :
    (∀ notice ∈ sim.view.notices, notice.change ≠ .step) ∧ Stepless sim sim.view.simulator := by
  unfold view guarded
  split
  · exact ⟨List.forall_mem_nil _, stepless_of_eq rfl List.erase_subset rfl⟩
  · exact ⟨List.forall_mem_nil _, stepless_of_eq rfl (List.Subset.refl _) rfl⟩

end Simulator

namespace Bench

open Echo

/-- The state of the event loop. -/
def loop (bench : Bench) : EventLoop :=
  bench.session.simulator.loop

/-- What the echo has printed, last first. -/
def echoes (bench : Bench) : List String :=
  bench.said.filterMap Utterance.echoed?

/-- The reports that the echo has printed, last first. -/
def reports (bench : Bench) : List String :=
  bench.echoes.filter isReport

/-- The run is finished by what leads from one bench to the other. -/
def Finishes (before after : Bench) : Prop :=
  before.loop.finished = false ∧ after.loop.finished = true

/-- The last that the echo has printed is a report with a line in front of it. -/
def LastReported (bench : Bench) (line : String) : Prop :=
  ∃ prediction output older, bench.echoes = report prediction output :: line :: older

/-- What something that happens adds to the reports. -/
structure Reported (before after : Bench) : Prop where
  /-- If it finishes the run, that is one report, of the output and the verdict on the guess. -/
  finishing : Finishes before after → ¬ before.LastReported (stepLine after.loop) →
    after.reports = report before.session.prediction after.loop.output :: before.reports
  /-- It is left out if the last report was that of a run which ended with the very same line. -/
  repeated : Finishes before after → before.LastReported (stepLine after.loop) →
    after.reports = before.reports
  /-- Anything else adds none. -/
  otherwise : ¬ Finishes before after → after.reports = before.reports

/-- The line that the echo remembers, and what it has printed: that line is the last, and a report
follows it exactly if it is the line of a finished loop. -/
inductive Printed : String → List String → Prop
  | nothing : Printed "" []
  | line {loop : EventLoop} (hlive : loop.finished = false) (older : List String) :
      Printed (stepLine loop) (stepLine loop :: older)
  | report {loop : EventLoop} (hfin : loop.finished = true) (prediction : Prediction)
      (older : List String) :
      Printed (stepLine loop) (report prediction loop.output :: stepLine loop :: older)

/-- If the line of a finished loop is remembered, a report was printed with it. -/
theorem Printed.eq_report {last : String} {echoes : List String} {loop : EventLoop}
    (h : Printed last echoes) (hline : stepLine loop = last) (hfin : loop.finished = true) :
    ∃ prediction output older, echoes = Echo.report prediction output :: last :: older := by
  cases h with
  | nothing =>
    have hhead := Report.head?_progress Change.step.label loop
    rw [← stepLine, hline] at hhead
    cases hhead
  | line hlive older =>
    rw [← Report.finished_eq_of_progress_eq hline, hfin] at hlive
    cases hlive
  | report _ prediction older => exact ⟨prediction, _, older, rfl⟩

/-- The line that was printed with the last report, if nothing was printed since, is remembered. -/
theorem Printed.last_eq {last line : String} {echoes older : List String} {prediction : Prediction}
    {output : List String} (h : Printed last echoes)
    (hechoes : echoes = Echo.report prediction output :: line :: older) : last = line := by
  cases h with
  | nothing => cases hechoes
  | line hlive older =>
    have hreport := isReport_report prediction output
    rw [← (List.cons.inj hechoes).1, stepLine, isReport_progress] at hreport
    cases hreport
  | report => exact (List.cons.inj (List.cons.inj hechoes).2).1

/-- What holds of a bench while the echo listens. -/
structure Listening (bench : Bench) : Prop where
  subscribed : subscription ∈ bench.session.simulator.subscribers
  told : .announce ∉ bench.session.simulator.faults
  /-- The echo knows of the end of a run. -/
  caught_up : bench.loop.finished = true → bench.echo.last = stepLine bench.loop
  printed : Printed bench.echo.last bench.echoes

/-! ### Notices -/

/-- The echo after a notice, with nothing printed before it. -/
def heard (bench : Bench) (notice : Notice) : Echo :=
  hear bench.session.prediction notice ⟨bench.echo.last, []⟩

theorem deliver_notice (bench : Bench) {notice : Notice} (h : subscription ∈ notice.subscribers) :
    bench.deliver [notice] =
      { bench with
        echo := bench.heard notice
        said := (bench.heard notice).printed.map .echo ++ bench.said } := by
  have hserved := serve_audience bench.session.prediction notice notice.subscribers
    ⟨bench.echo.last, []⟩
  rw [if_pos h] at hserved
  rw [heard, ← hserved]
  rfl

theorem echoes_deliver (bench : Bench) {notice : Notice} (h : subscription ∈ notice.subscribers) :
    (bench.deliver [notice]).echoes = (bench.heard notice).printed ++ bench.echoes := by
  rw [deliver_notice bench h, echoes, List.filterMap_append, List.filterMap_map]
  exact congrArg (· ++ _) List.filterMap_some

/-- Of other notices than steps the echo says nothing. -/
theorem deliver_unheard (bench : Bench) {notices : List Notice}
    (h : ∀ notice ∈ notices, notice.change ≠ .step) :
    bench.deliver notices = { bench with echo := ⟨bench.echo.last, []⟩ } := by
  have hsilent : ∀ echo : Echo,
      (audience bench.session.prediction).deliverAll echo notices = echo := by
    intro echo
    induction notices with
    | nil => rfl
    | cons notice notices ih =>
      have hfirst : ((audience bench.session.prediction).deliver echo notice).memory = echo := by
        rw [Audience.deliver, serve_audience, hear_unechoed (.inl (h notice List.mem_cons_self)),
          ite_self]
      rw [Audience.deliverAll, List.foldl_cons, hfirst]
      exact ih fun later hmem => h later (List.mem_cons_of_mem _ hmem)
  unfold deliver
  dsimp only
  rw [hsilent]
  rfl

variable {before after : Bench}

/-- What the echo does not hear of adds no report, and it goes on listening. -/
theorem Listening.silent (h : before.Listening)
    (hunheard : before.session.simulator.Unheard after.session.simulator)
    (hlast : after.echo.last = before.echo.last) (hechoes : after.echoes = before.echoes) :
    Reported before after ∧ after.Listening := by
  have hreports : after.reports = before.reports := by rw [reports, reports, hechoes]
  refine ⟨⟨fun hfinishes _ => ?_, fun _ _ => hreports, fun _ => hreports⟩,
    hunheard.subscribed h.subscribed, hunheard.told h.told, fun hfin => ?_, ?_⟩
  · cases hfinishes.1.symm.trans (hunheard.finished hfinishes.2).1
  · obtain ⟨hbefore, hline⟩ := hunheard.finished hfin
    rw [hlast, h.caught_up hbefore]
    exact hline.symm
  · rw [hlast, hechoes]
    exact h.printed

/-- A bench after a step of its simulator, of which those who subscribed were told. -/
def afterStep (bench : Bench) : Bench :=
  let simulator := bench.session.simulator.stepped
  { bench with session := { bench.session with simulator } }.deliver [simulator.notice .step]

/-- What the echo hears of a step. -/
def heardOfStep (bench : Bench) : Echo :=
  hear bench.session.prediction (bench.session.simulator.stepped.notice .step) ⟨bench.echo.last, []⟩

theorem Listening.last_afterStep (h : before.Listening) :
    before.afterStep.echo.last = before.heardOfStep.last := by
  rw [afterStep, deliver_notice _ h.subscribed]
  rfl

theorem Listening.echoes_afterStep (h : before.Listening) :
    before.afterStep.echoes = before.heardOfStep.printed ++ before.echoes := by
  rw [afterStep, echoes_deliver _ h.subscribed]
  rfl

theorem loop_afterStep (bench : Bench) : bench.afterStep.loop = bench.loop.step := rfl

/-- A step of which the echo says nothing, and which does not finish the run. -/
theorem Listening.step_silent (h : before.Listening)
    (hheard : before.heardOfStep = ⟨before.echo.last, []⟩)
    (hloop : before.loop.step.finished = true → before.loop.finished = true) :
    Reported before before.afterStep ∧ before.afterStep.Listening := by
  refine h.silent ⟨id, id, fun hfin => ?_⟩ ?_ ?_
  · exact ⟨hloop hfin, congrArg stepLine (EventLoop.step_of_finished (hloop hfin))⟩
  · rw [h.last_afterStep, hheard]
  · rw [h.echoes_afterStep, hheard, List.nil_append]

/-- A step whose line was printed last. -/
theorem Listening.step_repeated (h : before.Listening)
    (hrepeated : stepLine before.loop.step = before.echo.last) :
    Reported before before.afterStep ∧ before.afterStep.Listening := by
  have hheard : before.heardOfStep = ⟨before.echo.last, []⟩ := hear_repeated hrepeated
  by_cases hfinishes : Finishes before before.afterStep
  · have hechoes : before.afterStep.echoes = before.echoes := by
      rw [h.echoes_afterStep, hheard, List.nil_append]
    have hreports : before.afterStep.reports = before.reports := by
      rw [reports, reports, hechoes]
    refine ⟨⟨fun _ hnot => absurd ?_ hnot, fun _ _ => hreports, fun _ => hreports⟩, h.subscribed,
      h.told, fun _ => ?_, ?_⟩
    · rw [loop_afterStep, hrepeated]
      exact h.printed.eq_report hrepeated hfinishes.2
    · rw [h.last_afterStep, hheard, loop_afterStep, hrepeated]
    · rw [h.last_afterStep, hechoes, hheard]
      exact h.printed
  · refine h.step_silent hheard fun hfin => ?_
    exact Bool.of_not_eq_false fun hlive => hfinishes ⟨hlive, hfin⟩

/-- A step that finishes the run, with a line of its own. -/
theorem Listening.step_end (h : before.Listening) (hlive : before.loop.finished = false)
    (hfin : before.loop.step.finished = true)
    (hnew : stepLine before.loop.step ≠ before.echo.last) :
    Reported before before.afterStep ∧ before.afterStep.Listening := by
  have hheard : before.heardOfStep = ⟨stepLine before.loop.step,
      [report before.session.prediction before.loop.step.output, stepLine before.loop.step]⟩ :=
    hear_end rfl hfin hnew
  have hechoes := h.echoes_afterStep
  rw [hheard] at hechoes
  refine ⟨⟨fun _ _ => ?_, fun _ hlast => ?_, fun hnot => absurd ⟨hlive, hfin⟩ hnot⟩,
    h.subscribed, h.told, fun _ => ?_, ?_⟩
  · rw [reports, hechoes, reports, loop_afterStep]
    simp only [List.cons_append, List.nil_append, List.filter_cons, isReport_report, stepLine,
      isReport_progress, if_true, Bool.false_eq_true, if_false]
  · obtain ⟨prediction, output, older, hprinted⟩ := hlast
    exact absurd (h.printed.last_eq hprinted).symm hnew
  · rw [h.last_afterStep, hheard, loop_afterStep]
  · rw [h.last_afterStep, hechoes, hheard]
    exact .report hfin _ _

/-- A step of an automatic run that goes on, with a line of its own. -/
theorem Listening.step_line (h : before.Listening)
    (hrun : before.session.simulator.stepped.running = true)
    (hlive : before.loop.step.finished = false)
    (hnew : stepLine before.loop.step ≠ before.echo.last) :
    Reported before before.afterStep ∧ before.afterStep.Listening := by
  have hheard : before.heardOfStep =
      ⟨stepLine before.loop.step, [stepLine before.loop.step]⟩ :=
    hear_line rfl hrun hlive hnew
  have hechoes := h.echoes_afterStep
  rw [hheard] at hechoes
  have hgoes : before.afterStep.loop.finished ≠ true := by
    rw [loop_afterStep, hlive]
    exact Bool.false_ne_true
  refine ⟨⟨fun hfinishes => absurd hfinishes.2 hgoes, fun hfinishes => absurd hfinishes.2 hgoes,
    fun _ => ?_⟩, h.subscribed, h.told, fun hfin => absurd hfin hgoes, ?_⟩
  · rw [reports, hechoes, reports]
    simp only [List.cons_append, List.nil_append, List.filter_cons, stepLine, isReport_progress,
      Bool.false_eq_true, if_false]
  · rw [h.last_afterStep, hechoes, hheard]
    exact .line hlive _

/-- **What a step adds to the reports.** -/
theorem Listening.step (h : before.Listening) :
    Reported before before.afterStep ∧ before.afterStep.Listening := by
  by_cases hrepeated : stepLine before.loop.step = before.echo.last
  · exact h.step_repeated hrepeated
  · have hlive : before.loop.finished = false := by
      refine Bool.of_not_eq_true fun hfin => hrepeated ?_
      rw [EventLoop.step_of_finished hfin, h.caught_up hfin]
    cases hfin : before.loop.step.finished with
    | true => exact h.step_end hlive hfin hrepeated
    | false =>
      cases hrun : before.session.simulator.stepped.running with
      | true => exact h.step_line hrun hfin hrepeated
      | false =>
        refine h.step_silent (hear_unechoed (.inr ⟨hrun, hfin⟩)) fun hdone => ?_
        cases hfin.symm.trans hdone

/-- Whether a deed makes a step. -/
def makesStep (bench : Bench) : Deed → Bool
  | .ask request => bench.session.simulator.makesStep request
  | _ => false

/-- A deed is a step, or nothing that the echo would hear of. -/
theorem perform_cases (before : Bench) {deed : Deed} (haudible : deed.Audible)
    (htold : .announce ∉ before.session.simulator.faults) :
    before.makesStep deed = true ∧ before.perform deed = before.afterStep ∨
      before.makesStep deed = false ∧
        before.session.simulator.Stepless (before.perform deed).session.simulator ∧
        (before.perform deed).echo.last = before.echo.last ∧
        (before.perform deed).echoes = before.echoes := by
  have hsame : before.session.simulator.Stepless before.session.simulator :=
    Simulator.stepless_of_eq rfl (List.Subset.refl _) rfl
  cases deed with
  | say utterance =>
    refine .inr ⟨rfl, hsame, rfl, ?_⟩
    cases utterance with
    | echo text => cases haudible
    | note | line | prompt | newline => rfl
  | ask request =>
    have hmakes := Simulator.makesStep_iff htold request
    have hcalled := (Simulator.called before.session.simulator request).heard haudible htold
    rw [Bench.perform, after_operate, makesStep]
    generalize before.session.simulator.answer request = outcome at hmakes hcalled ⊢
    obtain ⟨result, simulator, notices⟩ := outcome
    rcases hcalled with ⟨_, rfl, rfl⟩ | ⟨hnotices, hstepless⟩
    · exact .inl ⟨hmakes.mpr ⟨_, List.mem_cons_self, rfl⟩, rfl⟩
    · refine .inr ⟨Bool.eq_false_iff.mpr fun hstep => ?_, ?_⟩
      · obtain ⟨notice, hmem, hchange⟩ := hmakes.mp hstep
        exact hnotices notice hmem hchange
      · rw [settle, deliver_unheard _ hnotices]
        exact ⟨hstepless, rfl, rfl⟩
  | look =>
    obtain ⟨hnotices, hstepless⟩ := before.session.simulator.stepless_view
    rw [Bench.perform, after_operate, settle, deliver_unheard _ hnotices]
    exact .inr ⟨rfl, hstepless, rfl, rfl⟩
  | restart source autoplay =>
    obtain ⟨hnotices, hstepless⟩ := Simulator.stepless_reset source autoplay htold
    rw [Bench.perform, after_reset, deliver_unheard _ hnotices]
    refine .inr ⟨rfl, ?_, rfl, rfl⟩
    rw [Session.reset_simulator]
    exact hstepless
  | save | choose | enable => exact .inr ⟨rfl, hsame, rfl, rfl⟩
  | move source target =>
    refine .inr ⟨rfl, ?_⟩
    unfold Bench.perform
    dsimp only
    split <;> exact ⟨hsame, rfl, rfl⟩

/-- **What a deed adds to the reports**, and the echo goes on listening. -/
theorem Listening.perform (h : before.Listening) {deed : Deed} (haudible : deed.Audible) :
    Reported before (before.perform deed) ∧ (before.perform deed).Listening := by
  rcases perform_cases before haudible h.told with ⟨-, hstep⟩ | ⟨-, hstepless, hlast, hechoes⟩
  · rw [hstep]
    exact h.step
  · exact h.silent hstepless.toUnheard hlast hechoes

/-- The echo listens to a session that just started, once it has subscribed. -/
theorem listening_fresh {options : Options} {text : String} {program : List Task}
    {tickMs intervalMs : Int} {shuffler : Shuffler} {subscribers : List String} {files : Tree}
    (h : subscription ∈ subscribers) :
    let session := Session.fresh options text program tickMs intervalMs shuffler
    Listening {
      session := { session with simulator := { session.simulator with subscribers } }
      files } :=
  ⟨h, List.not_mem_nil, nofun, .nothing⟩

/-- **What a session adds to the reports.** Whatever commands, entries and requests a session sees
whose echo has subscribed from the start, it consists of deeds of which each adds one report exactly
if it finishes the run, save for a finishing step whose line the echo has printed last. -/
theorem reports_of_turns {options : Options} {source : Option String} {files later : Tree}
    {session : Session} {subscribers : List String} {turns : List Turn}
    (hstart : Session.start options source files = .ok (session, later))
    (hsubscribed : subscription ∈ subscribers)
    (hturns : ∀ request, .ask request ∈ turns → request.isAudible = true) :
    let opening : Bench := {
      session := { session with simulator := { session.simulator with subscribers } }
      files := later }
    ∃ deeds : List Deed, (∀ deed ∈ deeds, deed.Audible) ∧
      opening.playAll turns = opening.performAll deeds ∧
      ∀ earlier deed others, deeds = earlier ++ deed :: others →
        Reported (opening.performAll earlier) ((opening.performAll earlier).perform deed) := by
  intro opening
  have hopening : opening.Listening := by
    obtain ⟨text, tickMs, intervalMs, shuffler, program, -, -, -, -, rfl⟩ :=
      Session.start_eq_ok.mp hstart
    exact listening_fresh hsubscribed
  obtain ⟨deeds, hdeeds, hplayed⟩ :=
    playAll_eq_performAll (fun _ husual => husual.audible) opening hturns
  refine ⟨deeds, hdeeds, hplayed, fun earlier deed others hsplit => ?_⟩
  have hlistening : (opening.performAll earlier).Listening :=
    performAll_invariant _ (fun bench deed haudible h => (h.perform haudible).2) hopening
      fun deed hmem => hdeeds deed (hsplit ▸ List.mem_append_left _ hmem)
  exact (hlistening.perform (hdeeds deed (hsplit ▸ List.mem_append_right _ List.mem_cons_self))).1

/-- A session of one print call to which the echo listens. -/
def echoedPrinter : Bench where
  session := { Session.printerSession with
    simulator := { Session.printerSession.simulator with subscribers := [subscription] } }

/-- A run by hand, and another one up to its last step. -/
def handRuns : List Turn :=
  [.command "/step 3" true, .command "/reset" true, .ask .step, .ask .step]

theorem reports_of_turns_handRuns :
    Session.start Session.plainOptions (some "console.log('A');") {} =
        .ok (Session.printerSession, {}) ∧
      (∀ request, .ask request ∈ handRuns → request.isAudible = true) ∧
      ∃ deeds : List Deed, (∀ deed ∈ deeds, deed.Audible) ∧
        echoedPrinter.playAll handRuns = echoedPrinter.performAll deeds ∧
        ∀ earlier deed others, deeds = earlier ++ deed :: others →
          Reported (echoedPrinter.performAll earlier)
            ((echoedPrinter.performAll earlier).perform deed) := by
  have haudible : ∀ request, .ask request ∈ handRuns → request.isAudible = true := by
    intro request hmem
    simp only [handRuns, List.mem_cons, List.not_mem_nil, Turn.ask.injEq, reduceCtorEq,
      false_or, or_false, or_self] at hmem
    exact hmem ▸ rfl
  exact ⟨Session.start_printer, haudible,
    reports_of_turns Session.start_printer List.mem_cons_self haudible⟩

/-- **The second of two runs by hand is finished and not reported**: it ends like the first. -/
theorem run_unreported :
    let almost := echoedPrinter.playAll handRuns
    let ended := almost.playAll [.ask .step]
    Session.start Session.plainOptions (some "console.log('A');") {} =
        .ok (Session.printerSession, {}) ∧
      Finishes almost ended ∧
      almost.reports = ["Run finished. Output: A  Prediction: CORRECT"] ∧
      ended.echoes = almost.echoes :=
  ⟨Session.start_printer, ⟨by decide +kernel, by decide +kernel⟩, by decide +kernel,
    by decide +kernel⟩

end Bench

end LoopStepper
