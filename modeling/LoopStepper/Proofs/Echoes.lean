import LoopStepper.Proofs.Highlight

/-!
# The lines of an automatic run

The echo prints the line of a step unless it is the one it has printed last. That line need not be
the one of the state before the step: steps made by hand are not echoed, and a fresh start is not
heard of. So it may happen that a step which does something says nothing, and that one which does
nothing prints a line (`lines_misled`).

Where the line printed last is the line of the state (`Current`), neither can happen: a step of a
script shows exactly if it does something (`progress_step_eq_iff`). It is so behind every step of an
automatic run (`Listening.current_of_autoStep`), and it stays so until there is a step by hand or a
fresh start, whatever else happens (`Followed.current_of_carriesAll`).

Headline:
* **`lines_of_turns`**: which lines each thing that happens to a session prints.
-/

namespace LoopStepper

open Script

namespace Bench

open Echo

/-- The progress lines that the echo has printed, last first. -/
def lines (bench : Bench) : List String :=
  bench.echoes.filter fun text => !isReport text

/-- The line that was printed last is the line of the state. -/
def Current (bench : Bench) : Prop :=
  bench.lines.head? = some (stepLine bench.loop)

/-- A deed makes a step while the automatic run is on. -/
def AutoStep (bench : Bench) (deed : Deed) : Prop :=
  bench.makesStep deed = true ∧ bench.session.simulator.running = true

instance (bench : Bench) (deed : Deed) : Decidable (bench.AutoStep deed) :=
  inferInstanceAs (Decidable (_ ∧ _))

/-- A deed makes a step that is echoed: one of an automatic run, or one that finishes the run. -/
def EchoedStep (bench : Bench) (deed : Deed) : Prop :=
  bench.makesStep deed = true ∧
    (bench.session.simulator.running = true ∨ (bench.perform deed).loop.finished = true)

/-- A deed neither makes a step by hand nor starts over. -/
def Carries (bench : Bench) (deed : Deed) : Prop :=
  (bench.makesStep deed = true → bench.session.simulator.running = true) ∧
    (bench.perform deed).session.simulator.generation = bench.session.simulator.generation

/-- None of some deeds makes a step by hand or starts over. -/
def CarriesAll (bench : Bench) : List Deed → Prop
  | [] => True
  | deed :: deeds => bench.Carries deed ∧ (bench.perform deed).CarriesAll deeds

/-- Which lines a deed prints. -/
structure Shown (before : Bench) (deed : Deed) : Prop where
  /-- A step that is echoed prints the line of the state after it, -/
  printed : before.EchoedStep deed →
    before.lines.head? ≠ some (stepLine (before.perform deed).loop) →
    (before.perform deed).lines = stepLine (before.perform deed).loop :: before.lines
  /-- unless this is the line that was printed last. -/
  repeated : before.EchoedStep deed →
    before.lines.head? = some (stepLine (before.perform deed).loop) →
    (before.perform deed).lines = before.lines
  /-- Nothing else prints a line. -/
  silent : ¬ before.EchoedStep deed → (before.perform deed).lines = before.lines
  /-- Where the line printed last is that of the state, a step of an automatic run that changes the
  loop prints a line, -/
  changing : before.Current → before.AutoStep deed → (before.perform deed).loop ≠ before.loop →
    (before.perform deed).lines = stepLine (before.perform deed).loop :: before.lines
  /-- and one that changes nothing prints none. -/
  idle : before.Current → before.AutoStep deed → (before.perform deed).loop = before.loop →
    (before.perform deed).lines = before.lines

end Bench

/-! ## Loops stay ordered -/

namespace Simulator

variable {sim after : Simulator} {request : Request} {reply : Reply} {change : Option Change}
  {outcome : Outcome Reply}

theorem Effect.ordered (effect : Effect sim request reply change after) (h : sim.loop.Ordered) :
    after.loop.Ordered := by
  cases effect with
  | step | autoplay => exact h.step
  | tick => exact h.advance _
  | reset hread => exact EventLoop.ordered_start (numbered_of_parse hread)
  | replay hfin hread => exact EventLoop.ordered_start (numbered_of_parse hread)
  | pausing | playing | play | pause | setSpeed | dropped | subscribe | unsubscribe | failNext =>
    exact h

/-- A call keeps the loop ordered, whether it is answered or fails. -/
theorem Called.ordered (hcalled : Called sim request outcome) (h : sim.loop.Ordered) :
    outcome.simulator.loop.Ordered := by
  cases hcalled with
  | quiet effect | told effect | untold effect => exact effect.ordered h
  | injected | unread | unreplayed | sizeless | speedless => exact h

end Simulator

namespace Bench

open Echo

variable {before : Bench} {deed : Deed}

/-- A deed keeps the loop ordered. -/
theorem ordered_perform (h : before.loop.Ordered) (deed : Deed) :
    (before.perform deed).loop.Ordered := by
  cases deed with
  | say | save | choose | enable => exact h
  | ask request =>
    rw [Bench.perform, after_operate]
    exact (Simulator.called _ request).ordered h
  | look =>
    rw [Bench.perform, after_operate]
    change before.session.simulator.view.simulator.loop.Ordered
    unfold Simulator.view Simulator.guarded
    split <;> exact h
  | restart source autoplay =>
    rw [Bench.perform, after_reset, loop, Session.reset_simulator]
    exact (Simulator.called before.session.simulator (.reset source autoplay)).ordered h
  | move source target =>
    unfold Bench.perform
    dsimp only
    split <;> exact h

/-! ## What is remembered is what was printed -/

theorem stepLine_ne_empty (loop : EventLoop) : stepLine loop ≠ "" := by
  intro heq
  have hhead := Report.head?_progress Change.step.label loop
  rw [← stepLine, heq] at hhead
  cases hhead

/-- The line that the echo remembers is the one it printed last. -/
theorem Listening.last_eq_iff (h : before.Listening) (loop : EventLoop) :
    before.echo.last = stepLine loop ↔ before.lines.head? = some (stepLine loop) := by
  have hprinted := h.printed
  unfold lines
  generalize before.echo.last = last at hprinted ⊢
  generalize before.echoes = echoes at hprinted ⊢
  cases hprinted with
  | nothing => exact ⟨fun heq => absurd heq.symm (stepLine_ne_empty loop), nofun⟩
  | line hlive older => simp [stepLine, isReport_progress]
  | report hfin prediction older => simp [stepLine, isReport_progress, isReport_report]

/-! ## Steps -/

/-- A step whose line was printed last prints none. -/
theorem Listening.lines_repeated (h : before.Listening)
    (hrepeated : stepLine before.loop.step = before.echo.last) :
    before.afterStep.lines = before.lines := by
  have hheard : before.heardOfStep = ⟨before.echo.last, []⟩ := hear_repeated hrepeated
  rw [lines, h.echoes_afterStep, hheard, List.nil_append, lines]

/-- Nor does a step by hand that does not finish the run. -/
theorem Listening.lines_unechoed (h : before.Listening)
    (hhand : before.session.simulator.running = false) (hlive : before.loop.step.finished = false) :
    before.afterStep.lines = before.lines := by
  have hrun : (before.session.simulator.running && !before.loop.step.finished) = false := by
    rw [hhand, Bool.false_and]
  have hheard : before.heardOfStep = ⟨before.echo.last, []⟩ :=
    hear_unechoed (.inr ⟨hrun, hlive⟩)
  rw [lines, h.echoes_afterStep, hheard, List.nil_append, lines]

/-- Any other step prints its line, once, whether a report follows or not. -/
theorem Listening.lines_new (h : before.Listening)
    (hechoed : before.session.simulator.running = true ∨ before.loop.step.finished = true)
    (hnew : stepLine before.loop.step ≠ before.echo.last) :
    before.afterStep.lines = stepLine before.loop.step :: before.lines := by
  have hechoes := h.echoes_afterStep
  rw [lines, hechoes, lines]
  cases hfin : before.loop.step.finished with
  | true =>
    have hheard : before.heardOfStep = ⟨stepLine before.loop.step,
        [report before.session.prediction before.loop.step.output, stepLine before.loop.step]⟩ :=
      hear_end rfl hfin hnew
    rw [hheard]
    simp [stepLine, isReport_progress, isReport_report]
  | false =>
    have hrun : (before.session.simulator.running && !before.loop.step.finished) = true := by
      rw [hfin, hechoed.resolve_right (by simp [hfin])]
      rfl
    have hheard : before.heardOfStep = ⟨stepLine before.loop.step, [stepLine before.loop.step]⟩ :=
      hear_line rfl hrun hfin hnew
    rw [hheard]
    simp [stepLine, isReport_progress]

/-- Where the line printed last is that of the state, a step repeats it exactly if it does
nothing. -/
theorem Current.repeated_iff (hcurrent : before.Current) (hordered : before.loop.Ordered) :
    before.lines.head? = some (stepLine before.loop.step) ↔ before.loop.step = before.loop := by
  rw [hcurrent, Option.some.injEq, eq_comm]
  exact Report.progress_step_eq_iff hordered Change.step.label

/-- **What a step prints.** -/
theorem Listening.shown_step (h : before.Listening) (hordered : before.loop.Ordered)
    (hstep : before.makesStep deed = true) (hperform : before.perform deed = before.afterStep) :
    Shown before deed := by
  have hloop : (before.perform deed).loop = before.loop.step := by rw [hperform, loop_afterStep]
  have hlast := h.last_eq_iff before.loop.step
  have hnew (hechoed : before.EchoedStep deed)
      (hline : before.lines.head? ≠ some (stepLine before.loop.step)) :
      before.afterStep.lines = stepLine before.loop.step :: before.lines :=
    h.lines_new (hloop ▸ hechoed.2) fun heq => hline (hlast.mp heq.symm)
  have hrepeated (hline : before.lines.head? = some (stepLine before.loop.step)) :
      before.afterStep.lines = before.lines :=
    h.lines_repeated (hlast.mpr hline).symm
  constructor
  case printed =>
    intro hechoed hline
    rw [hloop] at hline ⊢
    rw [hperform]
    exact hnew hechoed hline
  case repeated =>
    intro hechoed hline
    rw [hloop] at hline
    rw [hperform]
    exact hrepeated hline
  case silent =>
    intro hnot
    rw [EchoedStep, hloop] at hnot
    have hhand : before.session.simulator.running = false :=
      Bool.of_not_eq_true fun hrun => hnot ⟨hstep, .inl hrun⟩
    have hlive : before.loop.step.finished = false :=
      Bool.of_not_eq_true fun hfin => hnot ⟨hstep, .inr hfin⟩
    rw [hperform]
    exact h.lines_unechoed hhand hlive
  case changing =>
    intro hcurrent hauto hchange
    rw [hloop] at hchange ⊢
    rw [hperform]
    refine hnew ⟨hauto.1, .inl hauto.2⟩ fun hline => hchange ?_
    exact (hcurrent.repeated_iff hordered).mp hline
  case idle =>
    intro hcurrent hauto hsame
    rw [hloop] at hsame
    rw [hperform]
    exact hrepeated ((hcurrent.repeated_iff hordered).mpr hsame)

/-- **What a deed prints.** -/
theorem Listening.shown (h : before.Listening) (hordered : before.loop.Ordered)
    (haudible : deed.Audible) : Shown before deed := by
  rcases perform_cases before haudible h.told with ⟨hstep, hperform⟩ | ⟨hnone, -, -, hechoes⟩
  · exact h.shown_step hordered hstep hperform
  · have hnot {p : Prop} : before.makesStep deed = true ∧ p → False :=
      fun hstep => Bool.false_ne_true (hnone.symm.trans hstep.1)
    have hlines : (before.perform deed).lines = before.lines := by rw [lines, hechoes, lines]
    exact ⟨fun hstep => (hnot hstep).elim, fun hstep => (hnot hstep).elim, fun _ => hlines,
      fun _ hstep => (hnot hstep).elim, fun _ hstep => (hnot hstep).elim⟩

/-! ## When the line printed last is that of the state -/

/-- It is so behind a step of an automatic run. -/
theorem Listening.current_of_autoStep (h : before.Listening) (hordered : before.loop.Ordered)
    (haudible : deed.Audible) (hauto : before.AutoStep deed) : (before.perform deed).Current := by
  have hshown := h.shown hordered haudible
  have hechoed : before.EchoedStep deed := ⟨hauto.1, .inl hauto.2⟩
  unfold Current
  by_cases hline : before.lines.head? = some (stepLine (before.perform deed).loop)
  · rw [hshown.repeated hechoed hline, hline]
  · rw [hshown.printed hechoed hline, List.head?_cons]

/-- It stays so where there is no step by hand and no fresh start. -/
theorem Listening.current_of_carries (h : before.Listening) (hordered : before.loop.Ordered)
    (haudible : deed.Audible) (hcurrent : before.Current) (hcarries : before.Carries deed) :
    (before.perform deed).Current := by
  rcases perform_cases before haudible h.told with ⟨hstep, -⟩ | ⟨-, hstepless, -, hechoes⟩
  · exact h.current_of_autoStep hordered haudible ⟨hstep, hcarries.1 hstep⟩
  · have hlines : (before.perform deed).lines = before.lines := by rw [lines, hechoes, lines]
    have hline : stepLine (before.perform deed).loop = stepLine before.loop :=
      hstepless.line hcarries.2
    rw [Current, hlines, hline]
    exact hcurrent

/-- A bench whose echo listens, and whose loop is ordered. -/
structure Followed (bench : Bench) : Prop where
  listening : bench.Listening
  ordered : bench.loop.Ordered

theorem Followed.perform (h : before.Followed) (haudible : deed.Audible) :
    (before.perform deed).Followed :=
  ⟨(h.listening.perform haudible).2, ordered_perform h.ordered deed⟩

/-- The run lemma: it is so as long as there is no step by hand and no fresh start. -/
theorem Followed.current_of_carriesAll (h : before.Followed) (hcurrent : before.Current)
    {deeds : List Deed} (haudible : ∀ deed ∈ deeds, deed.Audible)
    (hcarries : before.CarriesAll deeds) : (before.performAll deeds).Current := by
  induction deeds generalizing before with
  | nil => exact hcurrent
  | cons deed deeds ih =>
    obtain ⟨hdeed, hlater⟩ := List.forall_mem_cons.mp haudible
    exact ih (h.perform hdeed)
      (h.listening.current_of_carries h.ordered hdeed hcurrent hcarries.1) hlater hcarries.2

/-- **Which lines a session prints.** Whatever commands, entries and requests a session sees whose
echo has subscribed from the start, it consists of deeds. Behind any deeds, whatever is done next
prints one line if it is a step of the automatic run or finishes the run, namely that of the state
after it, save where the echo has printed this line last, and otherwise none. From a step of the
automatic run on, and as long as there is no step by hand and no fresh start, the line printed last
is that of the state; then a step of the automatic run prints its line if it changes the loop, and
none if it does not. -/
theorem lines_of_turns {options : Options} {source : Option String} {files later : Tree}
    {session : Session} {subscribers : List String} {turns : List Turn}
    (hstart : Session.start options source files = .ok (session, later))
    (hsubscribed : subscription ∈ subscribers)
    (hturns : ∀ request, .ask request ∈ turns → request.isAudible = true) :
    let opening : Bench := {
      session := { session with simulator := { session.simulator with subscribers } }
      files := later }
    (∃ deeds : List Deed, (∀ deed ∈ deeds, deed.Audible) ∧
      opening.playAll turns = opening.performAll deeds) ∧
    ∀ deeds : List Deed, (∀ deed ∈ deeds, deed.Audible) →
      (∀ next : Deed, next.Audible → Shown (opening.performAll deeds) next) ∧
      ∀ earlier first between, deeds = earlier ++ first :: between →
        (opening.performAll earlier).AutoStep first →
        ((opening.performAll earlier).perform first).CarriesAll between →
        (opening.performAll deeds).Current := by
  intro opening
  have hopening : opening.Followed := by
    obtain ⟨text, tickMs, intervalMs, shuffler, program, -, -, -, hread, rfl⟩ :=
      Session.start_eq_ok.mp hstart
    exact ⟨listening_fresh hsubscribed, EventLoop.ordered_start (numbered_of_parse hread)⟩
  have hfollowed (deeds : List Deed) (haudible : ∀ deed ∈ deeds, deed.Audible) :
      (opening.performAll deeds).Followed :=
    performAll_invariant _ (fun bench deed haudible h => h.perform haudible) hopening haudible
  refine ⟨playAll_eq_performAll (fun _ husual => husual.audible) opening hturns, ?_⟩
  intro deeds haudible
  constructor
  · intro next hnext
    have hnow := hfollowed deeds haudible
    exact hnow.listening.shown hnow.ordered hnext
  · rintro earlier first between rfl hauto hcarries
    obtain ⟨hearlier, hfirst, hbetween⟩ :
        (∀ deed ∈ earlier, deed.Audible) ∧ first.Audible ∧ ∀ deed ∈ between, deed.Audible := by
      rwa [List.forall_mem_append, List.forall_mem_cons] at haudible
    have hbefore := hfollowed earlier hearlier
    rw [performAll_append]
    exact (hbefore.perform hfirst).current_of_carriesAll
      (hbefore.listening.current_of_autoStep hbefore.ordered hfirst hauto) hbetween hcarries

/-- A script whose timer waits when there is nothing else left to do. -/
def timerScript : String :=
  "setTimeout(() => \x7b\n\x7d, 0);"

/-- Its forest. -/
def timerForest : List Task :=
  [{ id := "task-0", kind := .timer, content := "setTimeout", delay := some 0, children := some [],
     line := some 1 }]

/-- A session of this script. -/
def timerSession : Session :=
  .fresh Session.plainOptions timerScript timerForest 100 1000 .still

theorem start_timer :
    Session.start Session.plainOptions (some timerScript) {} = .ok (timerSession, {}) := by
  have hread : parse timerScript = .ok timerForest := by with_unfolding_all rfl
  exact Session.start_eq_ok.mpr ⟨_, _, _, _, _, rfl, rfl, ⟨rfl, rfl, rfl⟩, hread, rfl⟩

/-- The session with the echo listening. -/
def echoedTimer : Bench where
  session := { timerSession with
    simulator := { timerSession.simulator with subscribers := [subscription] } }

/-- An automatic run that is reset behind its first step and turned on again. -/
def autoRuns : List Turn :=
  [.ask .play, .ask (.autoplayStep none), .command "/reset" true, .ask .play]

theorem isAudible_autoRuns : ∀ request, .ask request ∈ autoRuns → request.isAudible = true := by
  intro request hmem
  simp only [autoRuns, List.mem_cons, List.not_mem_nil, Turn.ask.injEq, reduceCtorEq, or_false,
    false_or] at hmem
  rcases hmem with rfl | rfl | rfl <;> rfl

theorem lines_of_turns_autoRuns :
    Session.start Session.plainOptions (some timerScript) {} = .ok (timerSession, {}) ∧
      (∀ request, .ask request ∈ autoRuns → request.isAudible = true) ∧
      (∃ deeds : List Deed, (∀ deed ∈ deeds, deed.Audible) ∧
        echoedTimer.playAll autoRuns = echoedTimer.performAll deeds) ∧
      ∀ deeds : List Deed, (∀ deed ∈ deeds, deed.Audible) →
        (∀ next : Deed, next.Audible → Shown (echoedTimer.performAll deeds) next) ∧
        ∀ earlier first between, deeds = earlier ++ first :: between →
          (echoedTimer.performAll earlier).AutoStep first →
          ((echoedTimer.performAll earlier).perform first).CarriesAll between →
          (echoedTimer.performAll deeds).Current :=
  ⟨start_timer, isAudible_autoRuns,
    lines_of_turns start_timer List.mem_cons_self isAudible_autoRuns⟩

/-- **The echo is misled by the line it remembers.** The first step behind a reset changes the loop
and says nothing, since it shows what the first step before the reset did. And behind steps by hand,
a step that changes nothing prints a line. -/
theorem lines_misled :
    let step := Deed.ask (.autoplayStep none)
    let again := echoedTimer.playAll autoRuns
    let waiting := echoedTimer.playAll [.ask .step, .ask .step, .ask .play]
    Session.start Session.plainOptions (some timerScript) {} = .ok (timerSession, {}) ∧
      (again.AutoStep step ∧ (again.perform step).loop ≠ again.loop ∧
        (again.perform step).lines = again.lines) ∧
      waiting.AutoStep step ∧ (waiting.perform step).loop = waiting.loop ∧
        (waiting.perform step).lines = ["[step] line=- stack=- out=0"] ∧ waiting.lines = [] := by
  intro step again waiting
  have hchanged : (again.perform step).loop ≠ again.loop := by
    intro heq
    have hline : (again.perform step).loop.activeLine = again.loop.activeLine := by rw [heq]
    exact absurd hline (by decide +kernel)
  exact ⟨start_timer, ⟨by decide +kernel, hchanged, by decide +kernel⟩, by decide +kernel, rfl,
    by decide +kernel, by decide +kernel⟩

end Bench

end LoopStepper
