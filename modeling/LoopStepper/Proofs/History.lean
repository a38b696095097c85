import LoopStepper.Proofs.Failures

/-!
# Histories

What a simulator has come to can be said from the calls made of it and their answers alone. A
`Record` keeps the source, the number of fresh starts, and the events since the last of them: a
step for each `step` and each step of the automatic run that was made, a tick for each `tick`, in
the order of the calls. Nothing else that was answered is an event; a toggle counts as a fresh start
if it answers that it replayed.

`Fits` says that a simulator is what a record says: its program is read from its source,
and its event loop is the replay of the recorded events from the start of that program. Each effect
of a call keeps that up (`Fits.note`), and so does any number of calls (`Fits.callAll`).

The calls have to be answered. One that fails may have taken over a source that cannot be read
(`reset_emptyTimeout`), and then no program belongs to it.

Headline:
* **`replays_record`**: after any calls, all of them answered, a simulator fits its record.
-/

namespace LoopStepper

/-! ## Calls -/

/-- A call of a simulator: a request, or a look at the state of its event loop. -/
inductive Call where
  | ask (request : Request)
  | look

/-- What a call is answered. -/
inductive Answer where
  | reply (reply : Reply)
  | state (loop : EventLoop)

namespace Simulator

/-- Answers a call. -/
def call (sim : Simulator) : Call → Outcome Answer
  | .ask request => (sim.answer request).map .reply
  | .look => sim.view.map .state

/-- Answers calls one after the other. -/
def callAll (sim : Simulator) : List Call → List (Except Failure Answer) × Simulator
  | [] => ([], sim)
  | call :: calls =>
    let outcome := sim.call call
    let (results, last) := outcome.simulator.callAll calls
    (outcome.result :: results, last)

theorem callAll_cons (sim : Simulator) (call : Call) (calls : List Call) :
    sim.callAll (call :: calls) =
      ((sim.call call).result :: ((sim.call call).simulator.callAll calls).1,
        ((sim.call call).simulator.callAll calls).2) := rfl

/-- Without a look between them, calls are requests. -/
theorem callAll_ask (sim : Simulator) (requests : List Request) :
    sim.callAll (requests.map .ask) =
      ((sim.answerAll requests).1.map (Except.map .reply), (sim.answerAll requests).2) := by
  induction requests generalizing sim with
  | nil => rfl
  | cons request requests ih =>
    rw [List.map_cons, callAll, answerAll, ih]
    rfl

/-- A look changes nothing. -/
theorem look_simulator {sim : Simulator} {answer : Answer}
    (h : (sim.call .look).result = .ok answer) : (sim.call .look).simulator = sim := by
  simp only [call, view, guarded] at h ⊢
  split at h
  · cases h
  · next hfault => rw [if_neg hfault]; rfl

end Simulator

/-! ## Records -/

/-- What is remembered of the calls of a simulator. -/
structure Record where
  source : String
  /-- The number of fresh starts. -/
  starts : Nat := 0
  /-- The events since the last fresh start. -/
  events : List Event := []

namespace Record

/-- A fresh start. -/
def begin (record : Record) (source : String) : Record where
  source := source
  starts := record.starts + 1

/-- More events. -/
def add (record : Record) (events : List Event) : Record :=
  { record with events := record.events ++ events }

/-- The tick of a given size; there is none without a whole part, and no such tick is answered. -/
def ticksOf (size : Quantity) : List Event :=
  match size.toInt with
  | .ok n => [.tick n]
  | .error _ => []

/-- Takes note of a call and its answer. A tick that is given no size has the size `tickMs`. -/
def note (tickMs : Int) (record : Record) : Call × Answer → Record
  | (.ask .step, _) => record.add [.step]
  | (.ask (.tick ms), _) => record.add (ticksOf (ms.getD (.whole tickMs)))
  | (.ask (.reset source _), _) => record.begin (source.getD record.source)
  | (.ask .toggle, .reply reply) =>
    if reply = .text Simulator.Toggled.replay.label then record.begin record.source else record
  | (.ask (.autoplayStep _), .reply reply) =>
    if reply = .flag true then record.add [.step] else record
  | _ => record

/-- Takes note of calls and their answers, one after the other. -/
def noteAll (tickMs : Int) (record : Record) (history : List (Call × Answer)) : Record :=
  history.foldl (note tickMs) record

end Record

/-! ## Simulators that fit their record -/

namespace Simulator

/-- A simulator that was just created, with whole numbers for its settings. -/
def created (source : String) (program : List Task) (tickMs intervalMs : Int)
    (subscribers : List String := []) : Simulator :=
  { source, program, loop := .start program, tickMs := max 1 tickMs, intervalMs, subscribers }

/-- A simulator can be created if the settings are numbers and the text can be read. -/
theorem create_eq_ok {source : String} {tick interval : Quantity} {subscribers : List String}
    {sim : Simulator} :
    create source tick interval subscribers = .ok sim ↔
      ∃ tickMs intervalMs program, tick.toInt = .ok tickMs ∧
        clampInterval interval = .ok intervalMs ∧ Script.parse source = .ok program ∧
        sim = created source program tickMs intervalMs subscribers := by
  constructor
  · intro h
    obtain ⟨tickMs, htick, h⟩ := bind_eq_ok.mp h
    obtain ⟨intervalMs, hinterval, h⟩ := bind_eq_ok.mp h
    obtain ⟨program, hread, h⟩ := bind_eq_ok.mp h
    exact ⟨tickMs, intervalMs, program, mapError_eq_ok.mp htick, mapError_eq_ok.mp hinterval,
      mapError_eq_ok.mp hread, (Except.ok.inj h).symm⟩
  · rintro ⟨tickMs, intervalMs, program, htick, hinterval, hread, rfl⟩
    rw [create, htick, hinterval, hread]
    rfl

end Simulator

/-- A simulator is what a record says. -/
structure Fits (tickMs : Int) (record : Record) (sim : Simulator) : Prop where
  source_eq : sim.source = record.source
  read : Script.parse sim.source = .ok sim.program
  loop_eq : sim.loop = (EventLoop.start sim.program).replay record.events
  generation_eq : sim.generation = record.starts
  tickMs_eq : sim.tickMs = tickMs

namespace Fits

open Simulator

variable {tickMs : Int} {record : Record} {sim after : Simulator} {request : Request}
  {reply : Reply} {change : Option Change} {answer : Answer}

/-- A simulator fits the record that begins with it. -/
theorem create {source : String} {tick interval : Quantity} {subscribers : List String}
    (h : Simulator.create source tick interval subscribers = .ok sim) :
    Fits sim.tickMs { source } sim := by
  obtain ⟨ms, intervalMs, program, _, _, hread, rfl⟩ := create_eq_ok.mp h
  exact ⟨rfl, hread, rfl, rfl, rfl⟩

/-- An event that is taken note of happens to the event loop. -/
theorem add (h : Fits tickMs record sim) (event : Event) :
    Fits tickMs (record.add [event]) { sim with loop := sim.loop.apply event } where
  source_eq := h.source_eq
  read := h.read
  loop_eq := by
    change sim.loop.apply event = (record.events ++ [event]).foldl EventLoop.apply _
    rw [List.foldl_append, h.loop_eq]
    rfl
  generation_eq := h.generation_eq
  tickMs_eq := h.tickMs_eq

theorem stepped (h : Fits tickMs record sim) : Fits tickMs (record.add [.step]) sim.stepped :=
  { h.add .step with }

/-- A fresh start leaves the recorded events behind. -/
theorem restarted (h : Fits tickMs record sim) {source : String} {program : List Task}
    {autoplay : Bool} (hread : Script.parse source = .ok program) :
    Fits tickMs (record.begin source) (sim.restarted source program autoplay) where
  source_eq := rfl
  read := hread
  loop_eq := rfl
  generation_eq := congrArg (· + 1) h.generation_eq
  tickMs_eq := h.tickMs_eq

/-- The step lemma: what a request does is what the record takes note of. -/
theorem note (h : Fits tickMs record sim) (effect : Effect sim request reply change after) :
    Fits tickMs (record.note tickMs (.ask request, .reply reply)) after := by
  cases effect with
  | step | autoplay => exact h.stepped
  | @tick ms n hsize =>
    have hticks : Record.ticksOf (ms.getD (.whole tickMs)) = [.tick n] := by
      rw [Record.ticksOf, ← h.tickMs_eq, hsize]
    rw [Record.note, hticks]
    exact h.add (.tick n)
  | reset hread =>
    rw [Record.note, ← h.source_eq]
    exact h.restarted hread
  | replay hfin hread =>
    rw [Record.note, if_pos rfl, ← h.source_eq]
    exact h.restarted hread
  | pausing | playing | play | pause | setSpeed | dropped | subscribe | unsubscribe | failNext =>
    exact { h with }

/-- A call that is answered. -/
theorem call {call : Call} (h : Fits tickMs record sim)
    (hok : (sim.call call).result = .ok answer) :
    Fits tickMs (record.note tickMs (call, answer)) (sim.call call).simulator := by
  cases call with
  | look => exact (look_simulator hok).symm ▸ h
  | ask request =>
    obtain ⟨reply, hresult, rfl⟩ := map_result_eq_ok.mp hok
    obtain ⟨change, effect⟩ := effect_of_answer hresult
    exact h.note effect

/-- The run lemma: after calls that are all answered, a simulator fits what was noted of them. -/
theorem callAll {calls : List Call} {answers : List Answer} (h : Fits tickMs record sim)
    (hok : (sim.callAll calls).1 = answers.map .ok) :
    Fits tickMs (record.noteAll tickMs (calls.zip answers)) (sim.callAll calls).2 := by
  induction calls generalizing sim record answers with
  | nil => exact h
  | cons call calls ih =>
    cases answers with
    | nil => cases hok
    | cons answer answers =>
      obtain ⟨hfirst, hlater⟩ := List.cons.inj hok
      exact ih (h.call hfirst) hlater

end Fits

namespace Simulator

/-- **A simulator does what a replay of its events does**: after any calls that are all answered,
the program is the one of the source, the event loop is the replay of the events that were recorded
since the last fresh start, and the generation is the number of fresh starts. -/
theorem replays_record {source : String} {tick interval : Quantity} {subscribers : List String}
    {sim : Simulator} {calls : List Call} {answers : List Answer}
    (hcreate : create source tick interval subscribers = .ok sim)
    (hok : (sim.callAll calls).1 = answers.map .ok) :
    let after := (sim.callAll calls).2
    let record := Record.noteAll sim.tickMs { source } (calls.zip answers)
    after.source = record.source ∧
      Script.parse after.source = .ok after.program ∧
      after.loop = (EventLoop.start after.program).replay record.events ∧
      after.generation = record.starts :=
  have hfits := (Fits.create hcreate).callAll hok
  ⟨hfits.source_eq, hfits.read, hfits.loop_eq, hfits.generation_eq⟩

/-- A reset into an automatic run, with a step of that run and a stale one from before. -/
def busyCalls : List Call :=
  [.ask .step, .ask (.reset none true), .ask (.autoplayStep none), .ask (.autoplayStep (some 0)),
    .look, .ask .pause, .ask (.tick none), .ask .step, .ask (.tick (some (.whole 250)))]

/-- Their answers, where the script is one print call. -/
def busyAnswers : List Answer :=
  [.reply .nothing, .reply .nothing, .reply (.flag true), .reply (.flag false),
    .state (EventLoop.start printer.program).step, .reply .nothing, .reply .nothing,
    .reply .nothing, .reply .nothing]

theorem replays_record_busy :
    create "console.log('A');" (.whole 100) (.whole 1000) = .ok printer ∧
    (printer.callAll busyCalls).1 = busyAnswers.map .ok ∧
    let after := (printer.callAll busyCalls).2
    after.source = "console.log('A');" ∧
      Script.parse after.source = .ok after.program ∧
      after.loop = (EventLoop.start after.program).replay [.step, .tick 100, .step, .tick 250] ∧
      after.generation = 1 := by
  have hread : Script.parse printer.source = .ok printer.program :=
    (Fits.create create_printer).read
  have hreset : printer.stepped.call (.ask (.reset none true)) =
      { result := .ok (.reply .nothing)
        simulator := printer.restarted printer.source printer.program true
        notices := [(printer.restarted printer.source printer.program true).notice .reset] } := by
    rw [call, answer, printer.stepped.reset_of_read none true List.not_mem_nil hread]
    rfl
  have hok : (printer.callAll busyCalls).1 = busyAnswers.map .ok := by
    have hstep : (printer.call (.ask .step)).simulator = printer.stepped := rfl
    rw [busyCalls, callAll_cons, callAll_cons, hstep, hreset]
    rfl
  exact ⟨create_printer, hok, replays_record create_printer hok⟩

end Simulator

end LoopStepper
