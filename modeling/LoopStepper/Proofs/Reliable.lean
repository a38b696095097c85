import LoopStepper.Proofs.Deeds
import LoopStepper.Proofs.Samples

/-!
# Actions that do not fail

Where no operation of the simulator was told to fail, most of what commands consist of succeeds:
looking and saying, steps, ticks and speeds of a whole size, and everything that saves, since what
goes wrong there is answered and not thrown. An action that does so on every such bench is
`Reliable`, and actions are reliable where their parts are (`reliable_bind`). Ten of the commands
are; the sample scripts are among them, since they can all be read.

What is left are fresh starts, which fail where a text cannot be read (`fails_reset`), and numbers,
which fail where they are too long to be written. Such an action decides alone whether the whole
fails, if what follows it is reliable (`fails_bind_iff`).
-/

namespace LoopStepper

namespace Bench

variable {α β : Type} {bench middle : Bench} {error : SessionError}

/-- No operation of the simulator was told to fail. -/
def Faultless (bench : Bench) : Prop :=
  bench.session.simulator.faults = []

/-- An action fails. -/
def Fails (act : Act α) (bench : Bench) (error : SessionError) : Prop :=
  ∃ after, act bench = .error error after

/-- An action succeeds, and tells no operation to fail. -/
def Succeeds (act : Act α) (bench : Bench) : Prop :=
  ∃ a after, act bench = .ok a after ∧ after.Faultless

/-- An action succeeds wherever no operation was told to fail. -/
def Reliable (act : Act α) : Prop :=
  ∀ bench : Bench, bench.Faultless → Succeeds act bench

theorem Succeeds.not_fails {act : Act α} (h : Succeeds act bench) : ¬ Fails act bench error := by
  rintro ⟨after, hfails⟩
  obtain ⟨a, later, hok, -⟩ := h
  cases hok.symm.trans hfails

theorem Succeeds.faultless {act : Act α} {a : α} (h : Succeeds act bench)
    (hok : act bench = .ok a middle) : middle.Faultless := by
  obtain ⟨b, after, hlast, hafter⟩ := h
  cases hok.symm.trans hlast
  exact hafter

/-! ## One action after another -/

/-- An action behind one that succeeds. -/
theorem fails_bind_of_ok {act : Act α} {next : α → Act β} {a : α}
    (h : act bench = .ok a middle) :
    Fails (act >>= next) bench error ↔ Fails (next a) middle error := by
  unfold Fails
  simp only [bind, EStateM.bind, h]

theorem fails_get_bind {next : Bench → Act β} :
    Fails (get >>= next) bench error ↔ Fails (next bench) bench error := Iff.rfl

theorem fails_simulator_bind {next : Simulator → Act β} :
    Fails (simulator >>= next) bench error ↔ Fails (next bench.session.simulator) bench error :=
  Iff.rfl

/-- An action in front of one that does not fail. -/
theorem fails_bind_iff {act : Act α} {next : α → Act β}
    (hnext : ∀ a middle, act bench = .ok a middle → ¬ Fails (next a) middle error) :
    Fails (act >>= next) bench error ↔ Fails act bench error := by
  cases hrun : act bench with
  | ok a middle =>
    rw [fails_bind_of_ok hrun]
    constructor
    · exact fun hfails => absurd hfails (hnext a middle hrun)
    · rintro ⟨after, hfails⟩
      cases hrun.symm.trans hfails
  | error cause middle =>
    unfold Fails
    simp only [bind, EStateM.bind, hrun]
    constructor <;> rintro ⟨after, ⟨⟩⟩ <;> exact ⟨middle, rfl⟩

theorem Succeeds.bind {act : Act α} {next : α → Act β} (hact : Succeeds act bench)
    (hnext : ∀ a, Reliable (next a)) : Succeeds (act >>= next) bench := by
  obtain ⟨a, middle, hok, hmiddle⟩ := hact
  obtain ⟨b, after, hlast, hafter⟩ := hnext a middle hmiddle
  refine ⟨b, after, ?_, hafter⟩
  simp only [Bind.bind, EStateM.bind, hok, hlast]

theorem reliable_bind {act : Act α} {next : α → Act β} (hact : Reliable act)
    (hnext : ∀ a, Reliable (next a)) : Reliable (act >>= next) :=
  fun bench hfree => (hact bench hfree).bind hnext

theorem not_fails_pure (a : α) : ¬ Fails (pure a : Act α) bench error := by
  rintro ⟨after, ⟨⟩⟩

theorem reliable_pure (a : α) : Reliable (pure a : Act α) :=
  fun bench hfree => ⟨a, bench, rfl, hfree⟩

theorem reliable_get : Reliable (get : Act Bench) :=
  fun bench hfree => ⟨bench, bench, rfl, hfree⟩

theorem reliable_simulator : Reliable simulator :=
  fun bench hfree => ⟨bench.session.simulator, bench, rfl, hfree⟩

theorem reliable_say (utterance : Utterance) : Reliable (say utterance) :=
  fun _ hfree => ⟨(), _, rfl, hfree⟩

theorem reliable_modifySession {change : Session → Session}
    (h : ∀ session, (change session).simulator = session.simulator) :
    Reliable (modifySession change) :=
  fun bench hfree => ⟨(), _, rfl, (congrArg Simulator.faults (h bench.session)).trans hfree⟩

/-- A reliable action that depends on whether something was found. -/
theorem reliable_found {act : Option α → Act β} (hnone : Reliable (act none))
    (hsome : ∀ a, Reliable (act (some a))) (found : Option α) : Reliable (act found) := by
  cases found with
  | none => exact hnone
  | some a => exact hsome a

/-! ## The simulator -/

theorem succeeds_operate {operation : Simulator → Outcome α} {a : α} {after : Simulator}
    {notices : List Notice}
    (h : operation bench.session.simulator = { result := .ok a, simulator := after, notices })
    (hfree : after.faults = []) : Succeeds (operate operation) bench := by
  refine ⟨a, bench.settle { result := .ok a, simulator := after, notices }, ?_, hfree⟩
  unfold operate settle
  simp only [h]

theorem operate_view (hfree : bench.Faultless) :
    operate Simulator.view bench = .ok bench.session.simulator.loop (bench.deliver []) := by
  rw [operate, Simulator.view, Simulator.guarded_of_faultless hfree]

theorem reliable_view : Reliable (operate Simulator.view) :=
  fun bench hfree => ⟨_, bench.deliver [], operate_view hfree, hfree⟩

/-- A step that was not told to fail. -/
theorem step_of_faultless {sim : Simulator} (h : sim.faults = []) :
    sim.step =
      { result := .ok (), simulator := sim.stepped, notices := [sim.stepped.notice .step] } := by
  have hstep : sim.step = sim.stepped.announce .step := Simulator.guarded_of_faultless h _ _
  have hstepped : sim.stepped.faults = [] := h
  rw [hstep, Simulator.announce_of_faultless hstepped]

theorem reliable_step : Reliable (operate Simulator.step) :=
  fun _ hfree => succeeds_operate (step_of_faultless hfree) hfree

theorem reliable_pause : Reliable (operate Simulator.pause) :=
  fun _ hfree => succeeds_operate (Simulator.guarded_of_faultless hfree _ _) hfree

theorem reliable_tick (n : Int) : Reliable (operate (·.tick (some (.whole n)))) := by
  intro bench hfree
  have hticked : Simulator.faults { bench.session.simulator with
      loop := bench.session.simulator.loop.advance n } = [] := hfree
  have htick := Simulator.guarded_of_faultless hfree .tick fun sim =>
    Simulator.announce { sim with loop := sim.loop.advance n } .tick
  exact succeeds_operate (htick.trans (Simulator.announce_of_faultless hticked _)) hticked

theorem reliable_setSpeed (n : Int) : Reliable (operate (·.setSpeed (.whole n))) :=
  fun _ hfree => succeeds_operate (Simulator.guarded_of_faultless hfree _ _) hfree

/-- A toggle of a script that is not finished. -/
theorem succeeds_toggle (hfree : bench.Faultless)
    (hlive : bench.session.simulator.loop.finished = false) :
    Succeeds (operate Simulator.toggle) bench := by
  have htoggle : bench.session.simulator.toggle =
      if bench.session.simulator.running then
        bench.session.simulator.pause.map fun _ => .paused
      else bench.session.simulator.play.map fun _ => .running := by
    rw [Simulator.toggle, Simulator.guarded_of_faultless hfree, if_neg (ne_true_of_eq_false hlive)]
  rw [Simulator.pause, Simulator.play, Simulator.guarded_of_faultless hfree,
    Simulator.guarded_of_faultless hfree] at htoggle
  split at htoggle
  · exact succeeds_operate htoggle hfree
  · exact succeeds_operate htoggle hfree

/-! ### Fresh starts -/

/-- A fresh start with a text that is read. -/
theorem succeeds_reset (hfree : bench.Faultless) {source : Option String} {autoplay : Bool}
    {program : List Task}
    (hread : Script.parse (source.getD bench.session.simulator.source) = .ok program) :
    Succeeds (reset source autoplay) bench := by
  have hfault : .reset ∉ bench.session.simulator.faults := hfree ▸ List.not_mem_nil
  have hreset := bench.session.simulator.reset_of_read source autoplay hfault hread
  have hrestarted : (bench.session.simulator.restarted (source.getD bench.session.simulator.source)
      program autoplay).faults = [] := hfree
  rw [Simulator.announce_of_faultless hrestarted] at hreset
  unfold Succeeds reset Session.reset
  rw [hreset]
  exact ⟨(), _, rfl, hrestarted⟩

/-- A fresh start fails exactly if its text cannot be read. -/
theorem fails_reset (hfree : bench.Faultless) {source : Option String} {autoplay : Bool} :
    Fails (reset source autoplay) bench error ↔
      ∃ cause, Script.parse (source.getD bench.session.simulator.source) = .error cause ∧
        error = .simulator (.numeral cause) := by
  have hfault : .reset ∉ bench.session.simulator.faults := hfree ▸ List.not_mem_nil
  cases hread : Script.parse (source.getD bench.session.simulator.source) with
  | ok program => exact iff_of_false (succeeds_reset hfree hread).not_fails nofun
  | error cause =>
    have hreset := bench.session.simulator.reset_of_unread source autoplay hfault hread
    unfold Fails reset Session.reset
    rw [hreset]
    constructor
    · rintro ⟨after, ⟨⟩⟩
      exact ⟨cause, rfl, rfl⟩
    · rintro ⟨_, ⟨⟩, rfl⟩
      exact ⟨_, rfl⟩

/-- What follows a fresh start does not add to its failures. -/
theorem fails_reset_bind (hfree : bench.Faultless) {source : Option String} {autoplay : Bool}
    {next : Unit → Act β} (hnext : ∀ a, Reliable (next a)) :
    Fails (reset source autoplay >>= next) bench error ↔
      ∃ cause, Script.parse (source.getD bench.session.simulator.source) = .error cause ∧
        error = .simulator (.numeral cause) := by
  refine (fails_bind_iff fun a middle hok => ?_).trans (fails_reset hfree)
  cases hread : Script.parse (source.getD bench.session.simulator.source) with
  | ok program => exact (hnext a middle ((succeeds_reset hfree hread).faultless hok)).not_fails
  | error cause =>
    obtain ⟨after, hfails⟩ := (fails_reset hfree).mpr ⟨cause, hread, rfl⟩
    cases hok.symm.trans hfails

/-! ### Files -/

/-- Saving a text answers what came of it. -/
theorem reliable_saveText (target : Option Path) (text : String) :
    Reliable (saveText target text) := by
  intro bench hfree
  cases target with
  | none => exact ⟨none, bench, rfl, hfree⟩
  | some path => exact ⟨_, _, rfl, hfree⟩

theorem reliable_saveScriptTo (target : Option Path) : Reliable (saveScriptTo target) :=
  reliable_bind reliable_simulator fun _ => reliable_saveText _ _

theorem reliable_saveScript : Reliable saveScript := by
  refine reliable_bind reliable_get fun bench => ?_
  dsimp only
  split
  · exact reliable_saveScriptTo _
  · exact reliable_pure none

/-- A snapshot that cannot be written down is not saved; that is no failure. -/
theorem reliable_saveSnapshot (path : Option Path) : Reliable (saveSnapshot path) := by
  refine reliable_bind reliable_get fun before => ?_
  dsimp only
  split
  · exact reliable_pure none
  · next target _ =>
    intro bench hfree
    unfold Succeeds
    simp only [bind, EStateM.bind, operate_view hfree]
    cases bench.session.simulator.loop.snapshot.json with
    | ok text => exact reliable_saveText (some target) text _ hfree
    | error cause => exact ⟨none, _, rfl, hfree⟩

end Bench

/-! ## Commands -/

namespace Command

open Bench

theorem reliable_overview : Reliable overview :=
  reliable_bind reliable_view fun _ => reliable_pure _

theorem reliable_runCode : Reliable runCode :=
  reliable_bind reliable_simulator fun _ => reliable_pure _

theorem reliable_makeSteps (noted : Bool) (made left : Nat) :
    Reliable (makeSteps noted made left) := by
  induction left generalizing made with
  | zero => exact reliable_pure made
  | succ left ih =>
    refine reliable_bind reliable_simulator fun sim => ?_
    split
    · exact reliable_pure made
    · refine reliable_bind reliable_step fun _ => ?_
      split
      · exact reliable_bind reliable_view fun _ => reliable_bind (reliable_say _) fun _ => ih _
      · exact ih _

theorem reliable_runStep (arguments : List String) (listened : Bool) :
    Reliable (runStep arguments listened) :=
  reliable_bind reliable_pause fun _ =>
    reliable_bind (reliable_makeSteps _ _ _) fun _ =>
      reliable_bind reliable_overview fun _ => reliable_pure _

theorem reliable_runPause : Reliable runPause :=
  reliable_bind reliable_pause fun _ => reliable_pure _

theorem reliable_runSpeed (arguments : List String) : Reliable (runSpeed arguments) := by
  refine reliable_bind reliable_simulator fun sim => ?_
  split
  · exact reliable_pure _
  · exact reliable_bind (reliable_setSpeed _) fun _ => reliable_pure _

/-- A sample can always be started with. -/
theorem reliable_begin_sample (complexity : Complexity) (features : Features) :
    Reliable (begin (Script.sample complexity features)) := by
  obtain ⟨program, hread⟩ := Script.parse_sample complexity features
  refine reliable_bind (fun bench hfree => ?_) fun _ => reliable_pure _
  exact succeeds_reset hfree hread

theorem reliable_runGen (arguments : List String) : Reliable (runGen arguments) := by
  have hbegin (complexity : Complexity) : Reliable (do
      modifySession fun session => { session with complexity }
      begin (Script.sample complexity (← get).session.features) : Act String) :=
    reliable_bind (reliable_modifySession fun _ => rfl) fun _ =>
      reliable_bind reliable_get fun _ => reliable_begin_sample _ _
  unfold runGen
  cases arguments.head? with
  | none =>
    exact reliable_bind reliable_get fun _ =>
      reliable_bind (reliable_pure _) (reliable_found (reliable_pure _) hbegin)
  | some name => exact reliable_bind (reliable_pure _) (reliable_found (reliable_pure _) hbegin)

theorem reliable_runFeature (arguments : List String) : Reliable (runFeature arguments) := by
  refine reliable_bind reliable_get fun bench => ?_
  dsimp only
  split
  · exact reliable_pure _
  · split
    · exact reliable_pure _
    · exact reliable_bind (reliable_modifySession fun _ => rfl) fun _ => reliable_pure _

theorem reliable_runSave (arguments : List String) : Reliable (runSave arguments) := by
  refine reliable_bind reliable_get fun bench => ?_
  dsimp only
  split
  · exact reliable_bind (reliable_saveScriptTo _)
      (reliable_found (reliable_pure _) fun _ => reliable_pure _)
  · exact reliable_bind (reliable_saveScriptTo _)
      (reliable_found (reliable_pure _) fun _ => reliable_pure _)
  · exact reliable_bind reliable_saveScript
      (reliable_found (reliable_pure _) fun _ => reliable_pure _)

theorem reliable_moveItem (source target : String) : Reliable (moveItem source target) := by
  refine reliable_bind reliable_get fun bench => ?_
  dsimp only
  split
  · exact reliable_pure _
  · exact reliable_bind (reliable_modifySession fun _ => rfl) fun _ => reliable_pure _

theorem reliable_runPredict (arguments : List String) : Reliable (runPredict arguments) := by
  refine reliable_bind reliable_get fun bench => ?_
  dsimp only
  split
  · exact reliable_pure _
  · split
    · split
      · exact reliable_moveItem _ _
      · exact reliable_pure _
    · split
      · split <;> exact reliable_pure _
      · exact reliable_pure _

end Command

end LoopStepper
