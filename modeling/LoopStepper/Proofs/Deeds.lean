import LoopStepper.Console
import LoopStepper.Proofs.Calls

/-!
# What is done to a bench

Whatever a command does to a bench is put together from a few deeds: something is said, the
simulator is asked for something, the script starts over, a text is saved, the settings of the
samples change, an item of the guess is moved. `Bench.perform` says what each deed does.

An action that fails half way has done the deeds in front of the failure. So a bench is followed
through what is left of it in either case (`after`), and `Composed` says of an action that this is
always the work of some deeds. Actions are composed where their parts are (`composed_bind`), and
every command line is (`composed_handle`), and so is every script that is entered
(`composed_accept`). What each deed keeps is kept by all of them (`playAll_invariant`).

Commands do not change who subscribes, make nothing fail, and reset no simulator without a new game:
their deeds are `Usual`.
-/

namespace LoopStepper

/-- An utterance of the echo. -/
def Utterance.isEcho : Utterance → Bool
  | .echo _ => true
  | _ => false

/-- A request that leaves the subscriptions and the faults alone. -/
def Request.isOrdinary : Request → Bool
  | .subscribe _ | .unsubscribe _ | .failNext _ => false
  | _ => true

/-- A request for a fresh start. -/
def Request.isReset : Request → Bool
  | .reset _ _ => true
  | _ => false

/-- One of the things that what happens to a bench consists of. -/
inductive Deed where
  | say (utterance : Utterance)
  /-- The simulator is asked for something. -/
  | ask (request : Request)
  /-- The state of the event loop is looked at. -/
  | look
  /-- The script starts over, with a new game. -/
  | restart (source : Option String) (autoplay : Bool)
  | save (path : Path) (text : String)
  | choose (complexity : Complexity)
  | enable (features : Features)
  /-- An item of the guess is moved, if there is such a move. -/
  | move (source target : Int)

/-- A deed of which commands consist. -/
def Deed.Usual : Deed → Prop
  | .say utterance => utterance.isEcho = false
  | .ask request => request.isOrdinary = true ∧ request.isReset = false
  | _ => True

theorem Session.reset_simulator (session : Session) (source : Option String) (autoplay : Bool) :
    (session.reset source autoplay).2.1.simulator =
      (session.simulator.reset source autoplay).simulator := by
  unfold Session.reset
  dsimp only
  cases (session.simulator.reset source autoplay).result <;> rfl

namespace Bench

variable {α β : Type}

/-- The bench that an action leaves, whether it succeeds or fails. -/
def after (act : Act α) (bench : Bench) : Bench :=
  match act bench with
  | .ok _ bench => bench
  | .error _ bench => bench

/-- What a deed does. -/
def perform (bench : Bench) : Deed → Bench
  | .say utterance => { bench with said := utterance :: bench.said }
  | .ask request => after (operate (·.answer request)) bench
  | .look => after (operate Simulator.view) bench
  | .restart source autoplay => after (reset source autoplay) bench
  | .save path text => { bench with files := (bench.files.saveText path text).1 }
  | .choose complexity => { bench with session := { bench.session with complexity } }
  | .enable features => { bench with session := { bench.session with features } }
  | .move source target =>
    match bench.session.prediction.move? source target with
    | some prediction => { bench with session := { bench.session with prediction } }
    | none => bench

/-- What deeds do, one after the other. -/
def performAll (bench : Bench) (deeds : List Deed) : Bench :=
  deeds.foldl perform bench

theorem performAll_append (bench : Bench) (deeds later : List Deed) :
    bench.performAll (deeds ++ later) = (bench.performAll deeds).performAll later :=
  List.foldl_append

/-! ## Actions that consist of deeds -/

/-- What an action leaves is the work of usual deeds. -/
def Composed (act : Act α) : Prop :=
  ∀ bench, ∃ deeds : List Deed, (∀ deed ∈ deeds, deed.Usual) ∧
    after act bench = bench.performAll deeds

theorem composed_of_after_eq {act : Act α} (h : ∀ bench, after act bench = bench) :
    Composed act :=
  fun bench => ⟨[], List.forall_mem_nil _, h bench⟩

theorem composed_pure (a : α) : Composed (pure a : Act α) :=
  composed_of_after_eq fun _ => rfl

theorem composed_get : Composed (get : Act Bench) :=
  composed_of_after_eq fun _ => rfl

theorem composed_simulator : Composed simulator :=
  composed_of_after_eq fun _ => rfl

/-- To look at a bench before an action leaves nothing behind. -/
theorem after_get_bind (next : Bench → Act α) (bench : Bench) :
    after (get >>= next) bench = after (next bench) bench := rfl

/-- An action that depends on whether something was found. -/
theorem composed_found {act : Option α → Act β} (hnone : Composed (act none))
    (hsome : ∀ a, Composed (act (some a))) (found : Option α) : Composed (act found) := by
  cases found with
  | none => exact hnone
  | some a => exact hsome a

/-- An action that is one deed. -/
theorem composed_deed {act : Act α} (deed : Deed) (husual : deed.Usual)
    (h : ∀ bench, after act bench = bench.perform deed) : Composed act :=
  fun bench => ⟨[deed], fun _ hmem => List.mem_singleton.mp hmem ▸ husual, h bench⟩

/-- What an action behind another one leaves: if the first fails, there is nothing behind it. -/
theorem after_bind_cases (act : Act α) (next : α → Act β) (bench : Bench) :
    (∃ a, after (act >>= next) bench = after (next a) (after act bench)) ∨
      after (act >>= next) bench = after act bench := by
  unfold after
  simp only [bind, EStateM.bind]
  cases act bench with
  | ok a middle => exact .inl ⟨a, rfl⟩
  | error error middle => exact .inr rfl

/-- An action behind another one: if the first fails, its own deeds are all. -/
theorem composed_bind {act : Act α} {next : α → Act β} (hact : Composed act)
    (hnext : ∀ a, Composed (next a)) : Composed (act >>= next) := by
  intro bench
  obtain ⟨deeds, husual, hdeeds⟩ := hact bench
  rcases after_bind_cases act next bench with ⟨a, hboth⟩ | hfirst
  · obtain ⟨later, hlater, hrest⟩ := hnext a (after act bench)
    refine ⟨deeds ++ later, fun deed hmem => ?_, ?_⟩
    · exact (List.mem_append.mp hmem).elim (husual deed) (hlater deed)
    · rw [hboth, hrest, hdeeds, performAll_append]
  · exact ⟨deeds, husual, hfirst.trans hdeeds⟩

theorem composed_say {utterance : Utterance} (h : utterance.isEcho = false) :
    Composed (say utterance) :=
  composed_deed (.say utterance) h fun _ => rfl

theorem composed_written (result : Except Text.NumeralError α) : Composed (written result) := by
  cases result <;> exact composed_of_after_eq fun _ => rfl

theorem composed_attempt {act : Act Unit} (h : Composed act) : Composed (attempt act) := by
  intro bench
  obtain ⟨deeds, husual, hdeeds⟩ := h bench
  refine ⟨deeds, husual, hdeeds ▸ ?_⟩
  unfold after attempt
  cases act bench <;> rfl

/-! ### The simulator -/

/-- A bench after an operation: subscribers are told of it with the simulator that it leaves. -/
def settle (bench : Bench) (outcome : Outcome α) : Bench :=
  { bench with session := { bench.session with simulator := outcome.simulator } }.deliver
    outcome.notices

theorem after_operate (operation : Simulator → Outcome α) (bench : Bench) :
    after (operate operation) bench = bench.settle (operation bench.session.simulator) := by
  unfold after operate settle
  cases hresult : (operation bench.session.simulator).result <;> simp only [hresult]

/-- A bench after a fresh start: what was said of it is said with the game before it. -/
theorem after_reset (source : Option String) (autoplay : Bool) (bench : Bench) :
    after (reset source autoplay) bench =
      { bench.deliver (bench.session.simulator.reset source autoplay).notices with
        session := (bench.session.reset source autoplay).2.1 } := by
  unfold after reset Session.reset
  dsimp only
  cases (bench.session.simulator.reset source autoplay).result <;> rfl

theorem composed_operate {operation : Simulator → Outcome α} {f : α → Reply} (request : Request)
    (hordinary : request.isOrdinary = true) (hreset : request.isReset = false)
    (h : ∀ sim, sim.answer request = (operation sim).map f) : Composed (operate operation) := by
  refine composed_deed (.ask request) ⟨hordinary, hreset⟩ fun bench => ?_
  rw [perform, after_operate, after_operate, h]
  rfl

theorem composed_view : Composed (operate Simulator.view) :=
  composed_deed .look trivial fun _ => rfl

theorem composed_step : Composed (operate Simulator.step) :=
  composed_operate .step rfl rfl fun _ => rfl

theorem composed_pause : Composed (operate Simulator.pause) :=
  composed_operate .pause rfl rfl fun _ => rfl

theorem composed_toggle : Composed (operate Simulator.toggle) :=
  composed_operate .toggle rfl rfl fun _ => rfl

theorem composed_tick (ms : Option Quantity) : Composed (operate (·.tick ms)) :=
  composed_operate (.tick ms) rfl rfl fun _ => rfl

theorem composed_setSpeed (ms : Quantity) : Composed (operate (·.setSpeed ms)) :=
  composed_operate (.setSpeed ms) rfl rfl fun _ => rfl

theorem composed_reset (source : Option String) (autoplay : Bool) :
    Composed (reset source autoplay) :=
  composed_deed (.restart source autoplay) trivial fun _ => rfl

/-! ### Files -/

theorem composed_loadScript (path : String) : Composed (loadScript path) := by
  refine composed_of_after_eq fun bench => ?_
  unfold after loadScript
  by_cases hempty : path.isEmpty = true
  · rw [if_pos hempty]
  · rw [if_neg hempty]
    cases bench.files.loadScript (Path.ofString path) <;> rfl

theorem composed_saveText (target : Option Path) (text : String) :
    Composed (saveText target text) := by
  cases target with
  | none => exact composed_of_after_eq fun _ => rfl
  | some path => exact composed_deed (.save path text) trivial fun _ => rfl

theorem composed_saveScriptTo (target : Option Path) : Composed (saveScriptTo target) :=
  composed_bind composed_simulator fun _ => composed_saveText _ _

theorem composed_saveScript : Composed saveScript := by
  refine composed_bind composed_get fun bench => ?_
  dsimp only
  split
  · exact composed_saveScriptTo _
  · exact composed_pure none

/-- A snapshot that cannot be taken is not saved, but what was done for it stays. -/
theorem composed_saveSnapshot (path : Option Path) : Composed (saveSnapshot path) := by
  refine composed_bind composed_get fun before => ?_
  dsimp only
  split
  · exact composed_pure none
  · next target _ =>
    intro bench
    have htaken : Composed (do
        let loop ← operate Simulator.view
        written loop.snapshot.json : Act String) :=
      composed_bind composed_view fun _ => composed_written _
    obtain ⟨deeds, husual, hdeeds⟩ := htaken bench
    unfold after at hdeeds ⊢
    dsimp only
    split at hdeeds
    · next text middle htext =>
      obtain ⟨later, hlater, hsaved⟩ := composed_saveText (some target) text middle
      refine ⟨deeds ++ later, fun deed hmem => ?_, ?_⟩
      · exact (List.mem_append.mp hmem).elim (husual deed) (hlater deed)
      · rw [performAll_append, ← hdeeds, ← hsaved, htext]
        rfl
    · next error middle herror =>
      refine ⟨deeds, husual, ?_⟩
      rw [← hdeeds, herror]

end Bench

/-! ## Commands -/

namespace Command

open Bench

theorem composed_overview : Composed overview :=
  composed_bind composed_view fun _ => composed_pure _

theorem composed_runStatus : Composed runStatus :=
  composed_bind composed_get fun _ =>
    composed_bind (composed_written _) fun _ => composed_pure _

theorem composed_makeSteps (noted : Bool) (made left : Nat) :
    Composed (makeSteps noted made left) := by
  induction left generalizing made with
  | zero => exact composed_pure made
  | succ left ih =>
    refine composed_bind composed_simulator fun sim => ?_
    split
    · exact composed_pure made
    · refine composed_bind composed_step fun _ => ?_
      split
      · exact composed_bind composed_view fun _ => composed_bind (composed_say rfl) fun _ => ih _
      · exact ih _

theorem composed_runStep (arguments : List String) (listened : Bool) :
    Composed (runStep arguments listened) :=
  composed_bind composed_pause fun _ =>
    composed_bind (composed_makeSteps _ _ _) fun _ =>
      composed_bind composed_overview fun _ => composed_pure _

theorem composed_runTick (arguments : List String) : Composed (runTick arguments) :=
  composed_bind composed_simulator fun _ =>
    composed_bind (composed_tick _) fun _ =>
      composed_bind (composed_written _) fun _ =>
        composed_bind composed_overview fun _ => composed_pure _

theorem composed_runRun : Composed runRun := by
  refine composed_bind composed_simulator fun sim => ?_
  split
  · exact composed_bind (composed_reset none true) fun _ => composed_pure _
  · refine composed_bind composed_toggle fun did => ?_
    split
    · exact composed_pure _
    · exact composed_bind composed_simulator fun _ => composed_pure _

theorem composed_runPause : Composed runPause :=
  composed_bind composed_pause fun _ => composed_pure _

theorem composed_runSpeed (arguments : List String) : Composed (runSpeed arguments) := by
  refine composed_bind composed_simulator fun sim => ?_
  split
  · exact composed_pure _
  · exact composed_bind (composed_setSpeed _) fun _ => composed_pure _

theorem composed_runReset : Composed runReset :=
  composed_bind (composed_reset none false) fun _ =>
    composed_bind composed_overview fun _ => composed_pure _

theorem composed_begin (source : String) : Composed (begin source) :=
  composed_bind (composed_reset (some source) false) fun _ => composed_pure _

theorem composed_modifySession {change : Session → Session} (deed : Deed) (husual : deed.Usual)
    (h : ∀ bench : Bench, { bench with session := change bench.session } = bench.perform deed) :
    Composed (modifySession change) :=
  composed_deed deed husual h

theorem composed_runGen (arguments : List String) : Composed (runGen arguments) := by
  have hchoose (complexity : Complexity) :
      Composed (modifySession fun session => { session with complexity }) :=
    composed_modifySession (.choose complexity) trivial fun _ => rfl
  have hbegin (complexity : Complexity) : Composed (do
      modifySession fun session => { session with complexity }
      begin (Script.sample complexity (← get).session.features) : Act String) :=
    composed_bind (hchoose complexity) fun _ =>
      composed_bind composed_get fun _ => composed_begin _
  unfold runGen
  cases arguments.head? with
  | none =>
    exact composed_bind composed_get fun _ =>
      composed_bind (composed_pure _) (composed_found (composed_pure _) hbegin)
  | some name => exact composed_bind (composed_pure _) (composed_found (composed_pure _) hbegin)

theorem composed_runFeature (arguments : List String) : Composed (runFeature arguments) := by
  refine composed_bind composed_get fun bench => ?_
  dsimp only
  split
  · exact composed_pure _
  · split
    · exact composed_pure _
    · next chosen _ =>
      exact composed_bind (composed_modifySession (.enable _) trivial fun _ => rfl)
        fun _ => composed_pure _

theorem composed_runLoad (arguments : List String) : Composed (runLoad arguments) := by
  unfold runLoad
  split
  · exact composed_pure _
  · exact composed_bind (composed_loadScript _) (composed_found (composed_pure _) composed_begin)

theorem composed_runSave (arguments : List String) : Composed (runSave arguments) := by
  refine composed_bind composed_get fun bench => ?_
  dsimp only
  split
  · exact composed_bind (composed_saveScriptTo _)
      (composed_found (composed_pure _) fun _ => composed_pure _)
  · exact composed_bind (composed_saveScriptTo _)
      (composed_found (composed_pure _) fun _ => composed_pure _)
  · exact composed_bind composed_saveScript
      (composed_found (composed_pure _) fun _ => composed_pure _)

theorem composed_runJson (arguments : List String) : Composed (runJson arguments) := by
  unfold runJson
  split
  · exact composed_bind composed_view fun _ => composed_written _
  · exact composed_bind (composed_saveSnapshot _)
      (composed_found (composed_pure _) fun _ => composed_pure _)

/-- The item moves in the guess that the places were looked up in. -/
theorem composed_moveItem (source target : String) : Composed (moveItem source target) := by
  refine composed_deed (.move (Text.readIntD source 0 - 1) (Text.readIntD target 0 - 1))
    trivial fun bench => ?_
  rw [moveItem, after_get_bind, Bench.perform]
  dsimp only
  cases bench.session.prediction.move? _ _ <;> rfl

theorem composed_runPredict (arguments : List String) : Composed (runPredict arguments) := by
  refine composed_bind composed_get fun bench => ?_
  dsimp only
  split
  · exact composed_pure _
  · split
    · split
      · exact composed_moveItem _ _
      · exact composed_pure _
    · split
      · split <;> exact composed_pure _
      · exact composed_pure _

theorem composed_perform (command : Command) (arguments : List String) (listened : Bool) :
    Composed (command.perform arguments listened) := by
  cases command with
  | help => exact composed_pure _
  | status => exact composed_runStatus
  | showState => exact composed_overview
  | code => exact composed_bind composed_simulator fun _ => composed_pure _
  | step => exact composed_runStep arguments listened
  | tick => exact composed_runTick arguments
  | run => exact composed_runRun
  | pause => exact composed_runPause
  | speed => exact composed_runSpeed arguments
  | reset => exact composed_runReset
  | gen => exact composed_runGen arguments
  | feature => exact composed_runFeature arguments
  | load => exact composed_runLoad arguments
  | save => exact composed_runSave arguments
  | json => exact composed_runJson arguments
  | predict => exact composed_runPredict arguments

/-- **Every command line is put together from usual deeds**, whether it succeeds or fails. -/
theorem composed_handle (line : String) (listened : Bool) : Composed (handle line listened) := by
  unfold handle
  split
  · exact composed_pure _
  · exact composed_pure _
  · exact composed_pure _
  · exact composed_bind (composed_perform _ _ _) fun _ => composed_pure _

end Command

namespace Console

open Bench

/-- **A script that is entered is put together from usual deeds.** -/
theorem composed_accept (source : String) : Composed (accept source) := by
  refine composed_bind (composed_attempt (composed_reset (some source) false)) fun done => ?_
  split <;> exact composed_say rfl

end Console

/-! ## Turns -/

/-- Something that happens to a session from outside: a command line, a script that is entered at
the console, or a request, such as a background loop makes. -/
inductive Turn where
  | command (line : String) (listened : Bool)
  | entry (source : String)
  | ask (request : Request)

namespace Turn

/-- What is done in a turn. -/
def act : Turn → Act Unit
  | .command line listened => do
    let _ ← Command.handle line listened
  | .entry source => Console.accept source
  | .ask request => do
    let _ ← Bench.operate (·.answer request)

end Turn

namespace Bench

/-- The bench after turns; one that fails does not keep the others from being taken. -/
def playAll (bench : Bench) (turns : List Turn) : Bench :=
  turns.foldl (fun bench turn => after turn.act bench) bench

/-- The deeds of a turn: the request that it is, or what commands consist of. -/
theorem turn_deeds (turn : Turn) (bench : Bench) :
    ∃ deeds : List Deed,
      (∀ deed ∈ deeds, deed.Usual ∨ ∃ request, turn = .ask request ∧ deed = .ask request) ∧
        after turn.act bench = bench.performAll deeds := by
  have husual {act : Act Unit} (h : Composed act) : ∃ deeds : List Deed,
      (∀ deed ∈ deeds, deed.Usual ∨ ∃ request, turn = .ask request ∧ deed = .ask request) ∧
        after act bench = bench.performAll deeds := by
    obtain ⟨deeds, husual, hdeeds⟩ := h bench
    exact ⟨deeds, fun deed hmem => .inl (husual deed hmem), hdeeds⟩
  cases turn with
  | command line listened =>
    exact husual (composed_bind (Command.composed_handle line listened) fun _ => composed_pure ())
  | entry source => exact husual (Console.composed_accept source)
  | ask request =>
    refine ⟨[.ask request], fun deed hmem => .inr ⟨request, rfl, List.mem_singleton.mp hmem⟩, ?_⟩
    change _ = after (operate (·.answer request)) bench
    unfold after
    simp only [Turn.act, bind, EStateM.bind, pure, EStateM.pure]
    cases operate (·.answer request) bench <;> rfl

/-- **Turns are put together from deeds**: usual ones, and the requests among the turns. -/
theorem playAll_eq_performAll {allowed : Deed → Prop} (husual : ∀ deed, deed.Usual → allowed deed)
    (bench : Bench) {turns : List Turn}
    (h : ∀ request, .ask request ∈ turns → allowed (.ask request)) :
    ∃ deeds : List Deed, (∀ deed ∈ deeds, allowed deed) ∧
      bench.playAll turns = bench.performAll deeds := by
  induction turns generalizing bench with
  | nil => exact ⟨[], List.forall_mem_nil _, rfl⟩
  | cons turn turns ih =>
    obtain ⟨deeds, hfirst, hdone⟩ := turn_deeds turn bench
    obtain ⟨later, hlater, hrest⟩ := ih (after turn.act bench)
      fun request hmem => h request (List.mem_cons_of_mem _ hmem)
    refine ⟨deeds ++ later, fun deed hmem => ?_, ?_⟩
    · rcases List.mem_append.mp hmem with hmem | hmem
      · rcases hfirst deed hmem with hdeed | ⟨request, rfl, rfl⟩
        · exact husual deed hdeed
        · exact h request List.mem_cons_self
      · exact hlater deed hmem
    · rw [performAll_append, ← hdone, ← hrest]
      rfl

section Invariant

variable (allowed : Deed → Prop) {motive : Bench → Prop} {bench : Bench}
  (hdeed : ∀ bench deed, allowed deed → motive bench → motive (bench.perform deed))

include hdeed

/-- What every deed keeps, deeds keep. -/
theorem performAll_invariant (hstart : motive bench) {deeds : List Deed}
    (h : ∀ deed ∈ deeds, allowed deed) : motive (bench.performAll deeds) := by
  induction deeds generalizing bench with
  | nil => exact hstart
  | cons deed deeds ih =>
    exact ih (hdeed bench deed (h deed List.mem_cons_self) hstart)
      fun later hmem => h later (List.mem_cons_of_mem _ hmem)

/-- **What every deed keeps, turns keep.** -/
theorem playAll_invariant (husual : ∀ deed, deed.Usual → allowed deed) (hstart : motive bench)
    {turns : List Turn} (h : ∀ request, .ask request ∈ turns → allowed (.ask request)) :
    motive (bench.playAll turns) := by
  obtain ⟨deeds, hallowed, hplayed⟩ := playAll_eq_performAll husual bench h
  rw [hplayed]
  exact performAll_invariant allowed hdeed hstart hallowed

end Invariant

end Bench

end LoopStepper
