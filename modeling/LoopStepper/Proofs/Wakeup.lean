import LoopStepper.App
import LoopStepper.Proofs.Opening
import LoopStepper.Proofs.Steps

/-!
# No lost wake-up

During a vigil the script may finish at any moment: before the main thread has subscribed, before it
has turned the automatic run on, before it looks, or after. `Watchful` says what every move keeps.
The main thread is woken only if the script is finished; and once it has looked without finding
that, a script that is finished has either woken it or still has its notice under way to it. For a
script that finishes before the look is found by the look, and one that finishes after it does so in
a step that tells all who subscribe, the main thread among them.

What a background loop can do is told by `Driven`: nothing, or one change of the event loop that a
finished run survives with its output. The program itself goes through one of the vigils that are
spoken of here (`runThrough_eq_run`).

Headline:
* **`no_lost_wakeup`**: after any moves, a main thread that waits while nothing is under way was
  woken if and only if the script is finished; if it is finished, what is under way wakes it; and
  a finished script keeps its output through any further moves.
-/

namespace LoopStepper.Vigil

variable {vigil next : Vigil}

/-! ## What the background loops do -/

/-- What an operation of a background loop can come to. -/
inductive Driven (vigil : Vigil) : Vigil → Prop
  /-- The simulator is held, or a step comes too late. -/
  | idle : Driven vigil vigil
  /-- The event loop has changed, and all who subscribe are to be told. -/
  | told (change : Change) (loop : EventLoop) (running : Bool) (hfree : vigil.underway = [])
      (hends : vigil.simulator.loop.finished = true →
        loop.finished = true ∧ loop.output = vigil.simulator.loop.output) :
      Driven vigil { vigil with
        simulator := { vigil.simulator with loop, running }
        underway :=
          (Simulator.notice { vigil.simulator with loop, running } change).copies }

/-- An operation waits, or finds the simulator free. -/
theorem acquire_cases {motive : Vigil → Prop} {operation : Vigil → Vigil} (held : motive vigil)
    (free : vigil.underway = [] → motive (operation vigil)) :
    motive (vigil.acquire operation) := by
  unfold acquire
  split
  · next hfree => exact free (List.isEmpty_iff.mp hfree)
  · exact held

theorem driven_step (hfaults : vigil.simulator.faults = []) (generation : Int) :
    Driven vigil (vigil.make (.step generation)) := by
  unfold make
  refine acquire_cases .idle fun hfree => ?_
  have hcalled := Simulator.called vigil.simulator (.autoplayStep (some generation))
  change Driven vigil (vigil.after (vigil.simulator.answer (.autoplayStep (some generation))))
  generalize vigil.simulator.answer _ = outcome at hcalled ⊢
  cases hcalled with
  | quiet effect =>
    cases effect
    rw [after, List.flatMap_nil, ← hfree]
    exact .idle
  | told effect =>
    cases effect with
    | autoplay hrun hnow hlive =>
      rw [after, List.flatMap_singleton]
      exact .told .step vigil.simulator.loop.step _ hfree
        fun hfin => absurd hfin (ne_true_of_eq_false hlive)
  | untold effect hann => exact absurd (hfaults ▸ hann) List.not_mem_nil
  | injected hop hfault => exact absurd (hfaults ▸ hfault) List.not_mem_nil

theorem driven_tick (hfaults : vigil.simulator.faults = []) (ms : Int) :
    Driven vigil (vigil.make (.tick ms)) := by
  unfold make
  refine acquire_cases .idle fun hfree => ?_
  have hcalled := Simulator.called vigil.simulator (.tick (some (.whole ms)))
  change Driven vigil (vigil.after (vigil.simulator.answer (.tick (some (.whole ms)))))
  generalize vigil.simulator.answer _ = outcome at hcalled ⊢
  cases hcalled with
  | quiet effect => cases effect
  | told effect =>
    cases effect with
    | tick hsize =>
      rw [after, List.flatMap_singleton]
      exact .told .tick (vigil.simulator.loop.advance _) _ hfree fun hfin => ⟨hfin, rfl⟩
  | untold effect hann => exact absurd (hfaults ▸ hann) List.not_mem_nil
  | injected hop hfault => exact absurd (hfaults ▸ hfault) List.not_mem_nil
  | sizeless hsize => cases hsize

/-! ## What every move keeps -/

/-- Whether the main thread has looked and not found the script finished. -/
def Station.relies : Station → Bool
  | .deciding finished => !finished
  | .waiting => true
  | _ => false

/-- The main thread can rely on being woken. -/
structure Watchful (vigil : Vigil) : Prop where
  faultless : vigil.simulator.faults = []
  /-- It is woken only by a finished script. -/
  rightly : vigil.woken = true → vigil.simulator.loop.finished = true
  /-- It has found only what is the case. -/
  found : vigil.station = .deciding true → vigil.simulator.loop.finished = true
  /-- What is under way is news of the script as it is. -/
  current : ∀ copy ∈ vigil.underway, copy.2.loop = vigil.simulator.loop
  subscribed : vigil.station ≠ .subscribing → subscription ∈ vigil.simulator.subscribers
  /-- If it has looked in vain, the end of the script wakes it, or is about to. -/
  promised : vigil.station.relies = true → vigil.simulator.loop.finished = true →
    vigil.woken = true ∨ ∃ notice, (subscription, notice) ∈ vigil.underway

theorem watchful_begin {sim : Simulator} (h : sim.faults = []) : Watchful { simulator := sim } where
  faultless := h
  rightly := nofun
  found := nofun
  current := nofun
  subscribed hstation := absurd rfl hstation
  promised := nofun

/-- A change is under way to the main thread as soon as it is made. -/
theorem Watchful.driven (h : vigil.Watchful) (hdriven : Driven vigil next) : next.Watchful := by
  cases hdriven with
  | idle => exact h
  | told change loop running hfree hends =>
    refine ⟨h.faultless, fun hwoken => (hends (h.rightly hwoken)).1,
      fun hfound => (hends (h.found hfound)).1, ?_, h.subscribed, fun hrelies _ => ?_⟩
    · intro copy hcopy
      obtain ⟨name, _, rfl⟩ := List.mem_map.mp hcopy
      rfl
    · have hstation : vigil.station ≠ .subscribing := by
        intro hstation
        rw [hstation] at hrelies
        cases hrelies
      exact .inr ⟨_, List.mem_map.mpr ⟨subscription, h.subscribed hstation, rfl⟩⟩

/-- Turning the automatic run on does nothing else. -/
theorem play_eq {sim : Simulator} (h : sim.faults = []) :
    sim.play.simulator = { sim with running := sim.running || !sim.loop.finished } := by
  rw [Simulator.play, Simulator.guarded_of_faultless h]

/-- The main thread keeps its own promises: what it does not find on looking is still to come. -/
theorem Watchful.goOn (h : vigil.Watchful) : vigil.goOn.Watchful := by
  unfold Vigil.goOn
  split
  · refine acquire_cases h fun _ => ?_
    exact ⟨h.faultless, h.rightly, nofun, h.current,
      fun _ => List.mem_append_right _ List.mem_cons_self, nofun⟩
  · next hstation =>
    refine acquire_cases h fun _ => ?_
    have hsubscribed := h.subscribed (by rw [hstation]; exact nofun)
    rw [play_eq h.faultless]
    exact ⟨h.faultless, h.rightly, nofun, h.current, fun _ => hsubscribed, nofun⟩
  · next hstation =>
    have hsubscribed := h.subscribed (by rw [hstation]; exact nofun)
    refine ⟨h.faultless, h.rightly, Station.deciding.inj, h.current, fun _ => hsubscribed, ?_⟩
    intro hrelies hfin
    have hlive : (!vigil.simulator.loop.finished) = true := hrelies
    rw [show vigil.simulator.loop.finished = true from hfin] at hlive
    cases hlive
  · next finished hstation =>
    have hsubscribed := h.subscribed (by rw [hstation]; exact nofun)
    refine ⟨h.faultless, fun hwoken => ?_, nofun, h.current, fun _ => hsubscribed, ?_⟩
    · rcases Bool.or_eq_true_iff.mp hwoken with hbefore | hfound
      · exact h.rightly hbefore
      · exact h.found (hfound ▸ hstation)
    · intro _ hfin
      cases finished with
      | true => exact .inl (Bool.or_true vigil.woken)
      | false =>
        rcases h.promised (by rw [hstation]; rfl) hfin with hwoken | hcoming
        · exact .inl (Bool.or_eq_true_iff.mpr (.inl hwoken))
        · exact .inr hcoming
  · exact h

/-- What is told was under way, and the main thread hears what it is told. -/
theorem Watchful.deliver (h : vigil.Watchful) : vigil.deliver.Watchful := by
  obtain ⟨sim, station, woken, underway⟩ := vigil
  cases underway with
  | nil => exact h
  | cons copy rest =>
    obtain ⟨name, notice⟩ := copy
    have hnews : notice.loop = sim.loop := h.current (name, notice) List.mem_cons_self
    refine ⟨h.faultless, fun hwoken => ?_, h.found,
      fun copy hcopy => h.current copy (List.mem_cons_of_mem _ hcopy), h.subscribed,
      fun hrelies hfin => ?_⟩
    · rcases Bool.or_eq_true_iff.mp hwoken with hbefore | hnow
      · exact h.rightly hbefore
      · exact hnews ▸ (Bool.and_eq_true_iff.mp hnow).2
    · rcases h.promised hrelies hfin with hwoken | ⟨news, hnow | hlater⟩
      · exact .inl (Bool.or_eq_true_iff.mpr (.inl hwoken))
      · have hend : notice.loop.finished = true := hnews ▸ hfin
        refine .inl (Bool.or_eq_true_iff.mpr (.inr (Bool.and_eq_true_iff.mpr ⟨?_, hend⟩)))
        exact beq_self_eq_true _
      · exact .inr ⟨news, by assumption⟩

/-- The step lemma. -/
theorem Watchful.make (h : vigil.Watchful) (move : Move) : (vigil.make move).Watchful := by
  cases move with
  | main => exact h.goOn
  | step generation => exact h.driven (driven_step h.faultless generation)
  | tick ms => exact h.driven (driven_tick h.faultless ms)
  | deliver => exact h.deliver

/-- The run lemma. -/
theorem Watchful.run (h : vigil.Watchful) (moves : List Move) : (vigil.run moves).Watchful := by
  induction moves generalizing vigil with
  | nil => exact h
  | cons move moves ih => exact ih (h.make move)

/-! ## A finished script -/

/-- The main thread leaves the event loop alone. -/
theorem goOn_loop (h : vigil.simulator.faults = []) :
    vigil.goOn.simulator.loop = vigil.simulator.loop := by
  unfold goOn
  split
  · exact acquire_cases (motive := fun next => next.simulator.loop = _) rfl fun _ => rfl
  · refine acquire_cases (motive := fun next => next.simulator.loop = _) rfl fun _ => ?_
    rw [play_eq h]
  · rfl
  · rfl
  · rfl

theorem deliver_simulator (vigil : Vigil) : vigil.deliver.simulator = vigil.simulator := by
  unfold deliver
  split <;> rfl

/-- A finished script stays finished, and keeps its output. -/
theorem Watchful.make_of_finished (h : vigil.Watchful)
    (hfin : vigil.simulator.loop.finished = true) (move : Move) :
    (vigil.make move).simulator.loop.finished = true ∧
      (vigil.make move).simulator.loop.output = vigil.simulator.loop.output := by
  have hdriven {next : Vigil} (hnext : Driven vigil next) :
      next.simulator.loop.finished = true ∧
        next.simulator.loop.output = vigil.simulator.loop.output := by
    cases hnext with
    | idle => exact ⟨hfin, rfl⟩
    | told change loop running hfree hends => exact hends hfin
  cases move with
  | main =>
    rw [Vigil.make, goOn_loop h.faultless]
    exact ⟨hfin, rfl⟩
  | step generation => exact hdriven (driven_step h.faultless generation)
  | tick ms => exact hdriven (driven_tick h.faultless ms)
  | deliver =>
    rw [Vigil.make, deliver_simulator]
    exact ⟨hfin, rfl⟩

theorem Watchful.run_of_finished (h : vigil.Watchful)
    (hfin : vigil.simulator.loop.finished = true) (moves : List Move) :
    (vigil.run moves).simulator.loop.finished = true ∧
      (vigil.run moves).simulator.loop.output = vigil.simulator.loop.output := by
  induction moves generalizing vigil with
  | nil => exact ⟨hfin, rfl⟩
  | cons move moves ih =>
    obtain ⟨hnext, houtput⟩ := h.make_of_finished hfin move
    obtain ⟨hlast, hsame⟩ := ih (h.make move) hnext
    exact ⟨hlast, hsame.trans houtput⟩

/-! ## The end of the wait -/

/-- Telling all who are still to be told takes nothing else. -/
theorem settle_eq (vigil : Vigil) :
    vigil.settle.underway = [] ∧ vigil.settle.station = vigil.station ∧
      vigil.settle.simulator = vigil.simulator := by
  obtain ⟨sim, station, woken, underway⟩ := vigil
  induction underway generalizing woken with
  | nil => exact ⟨rfl, rfl, rfl⟩
  | cons copy rest ih => exact ih _

/-- A waiting main thread was woken if and only if the script is finished. -/
theorem Watchful.woken_iff (h : vigil.Watchful) (hstation : vigil.station = .waiting)
    (hquiet : vigil.underway = []) :
    vigil.woken = true ↔ vigil.simulator.loop.finished = true := by
  constructor
  · exact h.rightly
  · intro hfin
    rcases h.promised (by rw [hstation]; rfl) hfin with hwoken | ⟨notice, hcoming⟩
    · exact hwoken
    · rw [hquiet] at hcoming
      cases hcoming

/-- **No wake-up is lost**: from the start of any session, after any moves of the main thread and
the background loops, a main thread that waits while nothing is under way was woken if and only if
the script is finished. While something is under way, telling it wakes the main thread if the script
is finished. A finished script stays so, and keeps its output, whatever moves are made. -/
theorem no_lost_wakeup {options : Options} {source : Option String} {files : Tree}
    {session : Session} (hbegins : Session.Begins options source files session)
    (moves : List Move) :
    let reached := run { simulator := session.simulator } moves
    (reached.station = .waiting → reached.underway = [] →
      (reached.woken = true ↔ reached.simulator.loop.finished = true)) ∧
    (reached.station = .waiting → reached.simulator.loop.finished = true →
      reached.settle.woken = true) ∧
    (reached.simulator.loop.finished = true → ∀ more,
      (reached.run more).simulator.loop.finished = true ∧
        (reached.run more).simulator.loop.output = reached.simulator.loop.output) := by
  intro reached
  have hreached : reached.Watchful := (watchful_begin hbegins.faultless).run moves
  refine ⟨hreached.woken_iff, fun hstation hfin => ?_, hreached.run_of_finished⟩
  obtain ⟨hquiet, hstays, hsame⟩ := reached.settle_eq
  have hsettled : reached.settle.Watchful := hreached.run _
  exact (hsettled.woken_iff (hstays.trans hstation) hquiet).mpr (hsame ▸ hfin)

/-- The main thread looks one step before the end of the script, and begins to wait while the news
of the end is on its way. -/
def closeCall : List Move :=
  [.main, .main, .step 1, .deliver, .tick 100, .deliver, .step 1, .deliver, .main, .step 1, .main]

theorem no_lost_wakeup_close :
    Session.Begins Session.plainOptions (some "console.log('A');") {} Session.printerSession ∧
    let reached := run { simulator := Session.printerSession.simulator } closeCall
    reached.station = .waiting ∧ reached.simulator.loop.finished = true ∧ reached.woken = false ∧
      reached.settle.woken = true ∧
      ∀ more, (reached.run more).simulator.loop.output = ["A"] := by
  have hbegins := Session.begins_printer
  obtain ⟨-, hwakes, hstays⟩ := no_lost_wakeup hbegins closeCall
  exact ⟨hbegins, rfl, rfl, rfl, hwakes rfl rfl, fun more => (hstays rfl more).2⟩

/-! ## The program's own vigil -/

theorem run_append (vigil : Vigil) (moves more : List Move) :
    vigil.run (moves ++ more) = (vigil.run moves).run more :=
  List.foldl_append

theorem round_eq_run (vigil : Vigil) : ∃ moves, vigil.round = vigil.run moves := by
  let stepped := (vigil.make (.step vigil.simulator.generation)).settle
  have hstepped : stepped = vigil.run (.step vigil.simulator.generation ::
      .replicate (vigil.make (.step vigil.simulator.generation)).underway.length .deliver) := rfl
  have hround : vigil.round = stepped.run (.tick stepped.simulator.tickMs ::
      .replicate (stepped.make (.tick stepped.simulator.tickMs)).underway.length .deliver) := rfl
  exact ⟨_, hround.trans (hstepped ▸ (run_append vigil _ _).symm)⟩

theorem rounds_eq_run (left : Nat) (vigil : Vigil) :
    ∃ moves, vigil.rounds left = vigil.run moves := by
  induction left generalizing vigil with
  | zero => exact ⟨[], rfl⟩
  | succ left ih =>
    by_cases hwoken : vigil.woken = true
    · exact ⟨[], if_pos hwoken⟩
    · obtain ⟨round, hround⟩ := vigil.round_eq_run
      obtain ⟨later, hlater⟩ := ih vigil.round
      refine ⟨round ++ later, ?_⟩
      rw [rounds, if_neg hwoken, hlater, hround, run_append]

/-- The program without a dialogue goes through one of these vigils. -/
theorem runThrough_eq_run (sim : Simulator) :
    ∃ moves, App.runThrough sim = (run { simulator := sim } moves).simulator := by
  obtain ⟨moves, hmoves⟩ := rounds_eq_run (enoughRounds sim.tickMs.toNat sim.program)
    (run { simulator := sim } (List.replicate 4 .main))
  refine ⟨List.replicate 4 .main ++ moves, ?_⟩
  rw [App.runThrough, hmoves, run_append]

end LoopStepper.Vigil
