import LoopStepper.Simulator.Request

/-!
# What a call can do

`Effect sim request reply change after` lists what a simulator does with a request that nothing
stands in the way of: the reply, the change that subscribers are to hear of, if there is one, and
the simulator afterwards. `Called sim request outcome` adds what can stand in the way: an operation
that was told to fail, a text that cannot be read, a quantity without a whole part. `called` says
that the outcome of every request is one of these; what holds of all calls is proved by cases on it.

Only `announce` can fail after a change was made, and only if it was told to. Otherwise those who
subscribed are told of a step exactly if a request makes one (`makesStep_iff`).
-/

namespace LoopStepper

/-- The operations that a request can consist of. -/
@[simp] def Request.operations : Request → List Operation
  | .step => [.step]
  | .tick _ => [.tick]
  | .reset _ _ => [.reset]
  | .play => [.play]
  | .pause => [.pause]
  | .toggle => [.toggle, .reset, .pause, .play]
  | .setSpeed _ => [.setSpeed]
  | .autoplayStep _ => [.autoplayStep, .step]
  | .subscribe _ => [.subscribe]
  | .unsubscribe _ => [.unsubscribe]
  | .failNext _ => []

namespace Simulator

variable {α β γ : Type}

/-! ## Outcomes -/

theorem map_map (outcome : Outcome α) (f : α → β) (g : β → γ) :
    (outcome.map f).map g = outcome.map (g ∘ f) := by
  obtain ⟨result, _, _⟩ := outcome
  cases result <;> rfl

theorem map_result_eq_ok {outcome : Outcome α} {f : α → β} {b : β} :
    (outcome.map f).result = .ok b ↔ ∃ a, outcome.result = .ok a ∧ f a = b := by
  obtain ⟨result, _, _⟩ := outcome
  cases result <;> simp [Outcome.map, Except.map]

/-- The simulator with one fault less: what a failure that was asked for leaves behind. -/
def without (sim : Simulator) (operation : Operation) : Simulator :=
  { sim with faults := sim.faults.erase operation }

/-- The simulator after a step: the automatic run ends with the script. -/
def stepped (sim : Simulator) : Simulator :=
  { sim with loop := sim.loop.step, running := sim.running && !sim.loop.step.finished }

/-- The simulator after a fresh start with a source text and the program read from it. -/
def restarted (sim : Simulator) (source : String) (program : List Task) (autoplay : Bool) :
    Simulator :=
  { sim with
    source
    program
    loop := .start program
    running := autoplay
    generation := sim.generation + 1 }

/-- A reset to a text that can be read. -/
theorem reset_of_read (sim : Simulator) (source : Option String) (autoplay : Bool)
    {program : List Task} (hop : .reset ∉ sim.faults)
    (hread : Script.parse (source.getD sim.source) = .ok program) :
    sim.reset source autoplay =
      (sim.restarted (source.getD sim.source) program autoplay).announce .reset := by
  rw [reset, guarded, if_neg hop]
  simp only [hread]
  rfl

/-- A reset to a text that cannot be read. -/
theorem reset_of_unread (sim : Simulator) (source : Option String) (autoplay : Bool)
    {error : Text.NumeralError} (hop : .reset ∉ sim.faults)
    (hread : Script.parse (source.getD sim.source) = .error error) :
    sim.reset source autoplay =
      { result := .error (.numeral error)
        simulator := { sim with source := source.getD sim.source } } := by
  rw [reset, guarded, if_neg hop]
  simp only [hread]

/-- Where no operation was told to fail, each does its work. -/
theorem guarded_of_faultless {sim : Simulator} (h : sim.faults = []) (operation : Operation)
    (body : Simulator → Outcome α) : sim.guarded operation body = body sim :=
  if_neg (h ▸ List.not_mem_nil)

theorem announce_of_faultless {sim : Simulator} (h : sim.faults = []) (change : Change) :
    sim.announce change =
      { result := .ok (), simulator := sim, notices := [sim.notice change] } :=
  guarded_of_faultless h _ _

/-! ## Effects -/

/-- What a request does when nothing stands in its way. -/
inductive Effect (sim : Simulator) : Request → Reply → Option Change → Simulator → Prop
  | step : Effect sim .step .nothing (some .step) sim.stepped
  | tick {ms : Option Quantity} {n : Int} (hsize : (ms.getD (.whole sim.tickMs)).toInt = .ok n) :
      Effect sim (.tick ms) .nothing (some .tick) { sim with loop := sim.loop.advance n }
  | reset {source : Option String} {autoplay : Bool} {program : List Task}
      (hread : Script.parse (source.getD sim.source) = .ok program) :
      Effect sim (.reset source autoplay) .nothing (some .reset)
        (sim.restarted (source.getD sim.source) program autoplay)
  | play : Effect sim .play .nothing none
      { sim with running := sim.running || !sim.loop.finished }
  | pause : Effect sim .pause .nothing none { sim with running := false }
  /-- A toggle of a finished script. -/
  | replay {program : List Task} (hfin : sim.loop.finished = true)
      (hread : Script.parse sim.source = .ok program) :
      Effect sim .toggle (.text Toggled.replay.label) (some .reset)
        (sim.restarted sim.source program true)
  /-- A toggle during an automatic run. -/
  | pausing (hlive : sim.loop.finished = false) (hrun : sim.running = true) :
      Effect sim .toggle (.text Toggled.paused.label) none { sim with running := false }
  /-- A toggle of a script that waits for steps. -/
  | playing (hlive : sim.loop.finished = false) (hrun : sim.running = false) :
      Effect sim .toggle (.text Toggled.running.label) none { sim with running := true }
  | setSpeed {ms : Quantity} {interval : Int} (hspeed : clampInterval ms = .ok interval) :
      Effect sim (.setSpeed ms) (.number interval) none { sim with intervalMs := interval }
  /-- A step of the automatic run in the generation it was planned in. -/
  | autoplay {generation : Option Int} (hrun : sim.running = true)
      (hnow : generation.getD sim.generation = sim.generation)
      (hlive : sim.loop.finished = false) :
      Effect sim (.autoplayStep generation) (.flag true) (some .step) sim.stepped
  /-- A step of an automatic run that is off, was planned before a reset, or is over. -/
  | dropped {generation : Option Int} (hlate : sim.running = false ∨
      generation.getD sim.generation ≠ sim.generation ∨ sim.loop.finished = true) :
      Effect sim (.autoplayStep generation) (.flag false) none sim
  | subscribe {name : String} : Effect sim (.subscribe name) .nothing none (sim.subscribe name)
  | unsubscribe {name : String} :
      Effect sim (.unsubscribe name) .nothing none (sim.unsubscribe name)
  | failNext {operation : Operation} :
      Effect sim (.failNext operation) .nothing none (sim.failNext operation)

/-- What can come of a request. -/
inductive Called (sim : Simulator) : Request → Outcome Reply → Prop
  /-- It has its effect, and there is nothing to tell. -/
  | quiet {request : Request} {reply : Reply} {after : Simulator}
      (effect : Effect sim request reply none after) :
      Called sim request { result := .ok reply, simulator := after }
  /-- It has its effect, and those who subscribed are told. -/
  | told {request : Request} {reply : Reply} {change : Change} {after : Simulator}
      (effect : Effect sim request reply (some change) after) (hann : .announce ∉ sim.faults) :
      Called sim request
        { result := .ok reply, simulator := after, notices := [after.notice change] }
  /-- It has its effect, but telling those who subscribed was told to fail. -/
  | untold {request : Request} {reply : Reply} {change : Change} {after : Simulator}
      (effect : Effect sim request reply (some change) after) (hann : .announce ∈ sim.faults) :
      Called sim request { result := .error .injected, simulator := after.without .announce }
  /-- An operation that it consists of was told to fail. -/
  | injected {request : Request} {operation : Operation} (hop : operation ∈ request.operations)
      (hfault : operation ∈ sim.faults) :
      Called sim request { result := .error .injected, simulator := sim.without operation }
  /-- A text that cannot be read is kept as the source. -/
  | unread {source : Option String} {autoplay : Bool} {error : Text.NumeralError}
      (hread : Script.parse (source.getD sim.source) = .error error) :
      Called sim (.reset source autoplay)
        { result := .error (.numeral error)
          simulator := { sim with source := source.getD sim.source } }
  | unreplayed {error : Text.NumeralError} (hread : Script.parse sim.source = .error error) :
      Called sim .toggle { result := .error (.numeral error), simulator := sim }
  | sizeless {ms : Option Quantity} {error : QuantityError}
      (hsize : (ms.getD (.whole sim.tickMs)).toInt = .error error) :
      Called sim (.tick ms) { result := .error (.quantity error), simulator := sim }
  | speedless {ms : Quantity} {error : QuantityError} (hspeed : clampInterval ms = .error error) :
      Called sim (.setSpeed ms) { result := .error (.quantity error), simulator := sim }

variable {sim : Simulator} {request : Request} {reply : Reply} {change : Option Change}
  {after : Simulator}

/-- Only `failNext` has an effect on the faults. -/
theorem Effect.faults_of_change (effect : Effect sim request reply change after)
    (h : change ≠ none) : after.faults = sim.faults := by
  cases effect <;> first | rfl | exact absurd rfl h

/-! ## Every outcome is one of these -/

/-- It is enough to look at the body of an operation. -/
theorem called_guarded {operation : Operation} {body : Simulator → Outcome α} {f : α → Reply}
    (hop : operation ∈ request.operations) (h : Called sim request ((body sim).map f)) :
    Called sim request ((sim.guarded operation body).map f) := by
  unfold guarded
  split
  · next hfault => exact .injected hop hfault
  · exact h

/-- A change that is announced. -/
theorem called_announce {change : Change} (effect : Effect sim request reply (some change) after) :
    Called sim request ((after.announce change).map fun _ => reply) := by
  have hfaults : after.faults = sim.faults := effect.faults_of_change (Option.some_ne_none change)
  unfold announce guarded
  split
  · next hann => exact .untold effect (hfaults ▸ hann)
  · next hann => exact .told effect (hfaults ▸ hann)

theorem called_step (hop : .step ∈ request.operations)
    (effect : Effect sim request reply (some .step) sim.stepped) :
    Called sim request (sim.step.map fun _ => reply) :=
  called_guarded hop (called_announce effect)

theorem called_tick (ms : Option Quantity) :
    Called sim (.tick ms) ((sim.tick ms).map fun _ => .nothing) := by
  refine called_guarded (by simp) ?_
  split
  · next error hsize => exact .sizeless hsize
  · next n hsize => exact called_announce (.tick hsize)

/-- A fresh start, as an operation of its own or as what a toggle does. -/
theorem called_reset {source : Option String} {autoplay : Bool}
    (hop : .reset ∈ request.operations)
    (hunread : ∀ error, Script.parse (source.getD sim.source) = .error error →
      Called sim request { result := .error (.numeral error)
                           simulator := { sim with source := source.getD sim.source } })
    (heffect : ∀ program, Script.parse (source.getD sim.source) = .ok program →
      Effect sim request reply (some .reset)
        (sim.restarted (source.getD sim.source) program autoplay)) :
    Called sim request ((sim.reset source autoplay).map fun _ => reply) := by
  by_cases hfault : .reset ∈ sim.faults
  · rw [reset, guarded, if_pos hfault]
    exact .injected hop hfault
  · cases hread : Script.parse (source.getD sim.source) with
    | error error =>
      rw [sim.reset_of_unread source autoplay hfault hread]
      exact hunread error hread
    | ok program =>
      rw [sim.reset_of_read source autoplay hfault hread]
      exact called_announce (heffect program hread)

theorem called_autoplayStep (generation : Option Int) : Called sim (.autoplayStep generation)
    ((sim.autoplayStep (generation.getD sim.generation)).map .flag) := by
  refine called_guarded (by simp) ?_
  split
  · next hlate =>
    refine .quiet (.dropped ?_)
    simpa [or_assoc] using hlate
  · next hnow =>
    simp only [Bool.or_eq_true, Bool.not_eq_true', decide_eq_true_eq, not_or, Bool.not_eq_false,
      Bool.not_eq_true, ne_eq, Decidable.not_not] at hnow
    rw [map_map]
    exact called_step (by simp) (.autoplay hnow.1.1 hnow.1.2 hnow.2)

theorem called_toggle : Called sim .toggle (sim.toggle.map fun did => .text did.label) := by
  refine called_guarded (by simp) ?_
  split
  · next hfin =>
    rw [map_map]
    exact called_reset (by simp) (fun _ hread => .unreplayed hread)
      fun _ hread => .replay hfin hread
  · next hlive =>
    have hlive : sim.loop.finished = false := Bool.of_not_eq_true hlive
    split
    · next hrun =>
      rw [map_map]
      exact called_guarded (by simp) (.quiet (.pausing hlive hrun))
    · next hrun =>
      have hplay : (sim.running || !sim.loop.finished) = true := by simp [hlive]
      rw [map_map]
      refine called_guarded (by simp) ?_
      rw [hplay]
      exact .quiet (.playing hlive (Bool.of_not_eq_true hrun))

theorem called_setSpeed (ms : Quantity) :
    Called sim (.setSpeed ms) ((sim.setSpeed ms).map .number) := by
  refine called_guarded (by simp) ?_
  split
  · next error hspeed => exact .speedless hspeed
  · next interval hspeed => exact .quiet (.setSpeed hspeed)

/-- **What a call can do**: what comes of a request is one of the cases of `Called`. -/
theorem called (sim : Simulator) (request : Request) : Called sim request (sim.answer request) := by
  cases request with
  | step => exact called_step (by simp) .step
  | tick ms => exact called_tick ms
  | reset source autoplay =>
    exact called_reset (by simp) (fun _ hread => .unread hread) fun _ hread => .reset hread
  | play => exact called_guarded (by simp) (.quiet .play)
  | pause => exact called_guarded (by simp) (.quiet .pause)
  | toggle => exact called_toggle
  | setSpeed ms => exact called_setSpeed ms
  | autoplayStep generation => exact called_autoplayStep generation
  | subscribe name => exact called_guarded (by simp) (.quiet .subscribe)
  | unsubscribe name => exact called_guarded (by simp) (.quiet .unsubscribe)
  | failNext operation => exact .quiet .failNext

/-- A call that is answered has its effect. -/
theorem effect_of_answer (h : (sim.answer request).result = .ok reply) :
    ∃ change, Effect sim request reply change (sim.answer request).simulator := by
  have hcalled : Called sim request (sim.answer request) := called sim request
  generalize sim.answer request = outcome at hcalled h
  cases hcalled with
  | quiet effect | told effect =>
    cases h
    exact ⟨_, effect⟩
  | untold | injected | unread | unreplayed | sizeless | speedless => cases h

/-! ## Requests for a step -/

/-- Whether a request makes a step: one by hand, or one of an automatic run that does not come too
late, unless an operation was told to fail. -/
def makesStep (sim : Simulator) : Request → Bool
  | .step => .step ∉ sim.faults
  | .autoplayStep generation =>
    .autoplayStep ∉ sim.faults && .step ∉ sim.faults &&
      !(!sim.running || generation.getD sim.generation ≠ sim.generation || sim.loop.finished)
  | _ => false

/-- Those who subscribed are told of a step exactly if one is made. -/
theorem makesStep_iff (hann : .announce ∉ sim.faults) (request : Request) :
    sim.makesStep request = true ↔
      ∃ notice ∈ (sim.answer request).notices, notice.change = .step := by
  have hstep : .step ∉ sim.faults ↔ ∃ notice ∈ sim.step.notices, notice.change = .step := by
    unfold step guarded
    split
    · next hfault => simp [hfault]
    · next hfault => simp [hfault, announce, guarded, hann, notice]
  have hcalled := called sim request
  cases request with
  | step => exact decide_eq_true_iff.trans hstep
  | autoplayStep generation =>
    simp only [makesStep, Bool.and_eq_true, decide_eq_true_eq, Bool.not_eq_true', answer,
      Outcome.map, autoplayStep, guarded]
    generalize (!sim.running || decide (generation.getD ↑sim.generation ≠ ↑sim.generation) ||
      sim.loop.finished) = late
    split
    · next hfault => simp [hfault]
    · next hfault =>
      cases late with
      | true => simp
      | false => simpa [hfault] using hstep
  | tick | reset | play | pause | toggle | setSpeed | subscribe | unsubscribe | failNext =>
    constructor
    · intro hmakes
      cases hmakes
    · rintro ⟨notice, hmem, hchange⟩
      generalize sim.answer _ = outcome at hcalled hmem
      cases hcalled with
      | told effect hann =>
        rw [List.mem_singleton.mp hmem] at hchange
        cases hchange
        cases effect
      | _ => exact absurd hmem List.not_mem_nil

end Simulator

end LoopStepper
