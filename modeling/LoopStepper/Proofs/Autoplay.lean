import LoopStepper.Proofs.History
import LoopStepper.Simulator.Background
import Mathlib.Data.List.Induction

/-!
# The steps of an automatic run

The loop of the automatic run looks at a simulator twice: before a sleep, when it plans a step, and
after it, when anything may have been done meanwhile. A step is `Due` if the run was on at the
first look, and at the second it is on, not over, and in the generation of the first. Whatever the
requests in between, the loop then makes one step, and otherwise none; a fresh start raises the
generation, so a step that was planned before it is not due any more
(`generation_lt_of_startsOver`).

Two more things belong to it. An automatic run is never on when the script is finished (`Lively`),
which every call keeps up. And the loop goes on after a call that failed: a run of it is put
together nap by nap (`Pacer.run_concat`), so that each completed nap is the last one of a shorter
run.

Headline:
* **`autoplay_steps_when_due`**: for each nap of each run of the loop, one step if it is due and
  none otherwise.
-/

namespace LoopStepper

namespace Simulator

variable {sim after : Simulator} {request : Request} {reply : Reply} {change : Option Change}
  {outcome : Outcome Reply}

/-! ## Running and finished -/

/-- An automatic run is on only while the script is not finished. -/
def Lively (sim : Simulator) : Prop :=
  sim.running = true → sim.loop.finished = false

theorem lively_create {source : String} {tick interval : Quantity} {subscribers : List String}
    (h : create source tick interval subscribers = .ok sim) : sim.Lively := by
  obtain ⟨tickMs, intervalMs, program, -, -, -, rfl⟩ := create_eq_ok.mp h
  intro hrun
  cases hrun

/-- A step that finishes the script turns the automatic run off. -/
theorem lively_stepped (sim : Simulator) : sim.stepped.Lively := by
  intro hrun
  obtain ⟨-, hlive⟩ := Bool.and_eq_true_iff.mp hrun
  exact (Bool.not_eq_true' sim.loop.step.finished).mp hlive

theorem Effect.lively (effect : Effect sim request reply change after) (h : sim.Lively) :
    after.Lively := by
  cases effect with
  | step | autoplay => exact lively_stepped sim
  | reset hread | replay hfin hread => exact fun _ => rfl
  | play =>
    intro hrun
    rcases Bool.or_eq_true_iff.mp hrun with hrun | hlive
    · exact h hrun
    · simpa using hlive
  | pause | pausing hlive hrun =>
    intro hrun
    cases hrun
  | playing hlive hrun => exact fun _ => hlive
  | tick | setSpeed | dropped | subscribe | unsubscribe | failNext => exact h

theorem Called.lively (hcalled : Called sim request outcome) (h : sim.Lively) :
    outcome.simulator.Lively := by
  cases hcalled with
  | quiet effect | told effect | untold effect => exact effect.lively h
  | injected | unread | unreplayed | sizeless | speedless => exact h

/-- **No request leaves a finished script with its automatic run on.** -/
theorem lively_answerAll (h : sim.Lively) (requests : List Request) :
    (sim.answerAll requests).2.Lively := by
  induction requests generalizing sim with
  | nil => exact h
  | cons request requests ih => exact ih ((called sim request).lively h)

/-- A look takes back at most a failure that was asked for. -/
theorem look_faults (sim : Simulator) :
    ∃ faults, (sim.call .look).simulator = { sim with faults } := by
  rw [call, view, guarded]
  split
  · exact ⟨_, rfl⟩
  · exact ⟨sim.faults, rfl⟩

theorem lively_callAll (h : sim.Lively) (calls : List Call) : (sim.callAll calls).2.Lively := by
  induction calls generalizing sim with
  | nil => exact h
  | cons call calls ih =>
    rw [callAll_cons]
    apply ih
    cases call with
    | ask request => exact (called sim request).lively h
    | look =>
      obtain ⟨faults, hlook⟩ := sim.look_faults
      rw [hlook]
      exact h

/-! ## Generations -/

/-- A request whose answer says that the script started over. -/
def StartsOver : Request × Except Failure Reply → Prop
  | (.reset _ _, .ok _) => True
  | (.toggle, .ok reply) => reply = .text Toggled.replay.label
  | _ => False

/-- A fresh start begins a new generation, and nothing else does. -/
theorem Effect.generation (effect : Effect sim request reply change after) :
    after.generation = if change = some .reset then sim.generation + 1 else sim.generation := by
  cases effect <;> rfl

theorem Called.generation_le (hcalled : Called sim request outcome) :
    sim.generation ≤ outcome.simulator.generation := by
  cases hcalled with
  | quiet effect | told effect | untold effect =>
    have hgeneration := effect.generation
    simp only [without]
    split at hgeneration <;> omega
  | injected | unread | unreplayed | sizeless | speedless => exact Nat.le_refl _

theorem generation_le_answerAll (sim : Simulator) (requests : List Request) :
    sim.generation ≤ (sim.answerAll requests).2.generation := by
  induction requests generalizing sim with
  | nil => exact Nat.le_refl _
  | cons request requests ih => exact Nat.le_trans (called sim request).generation_le (ih _)

/-- What is answered as a fresh start is one. -/
theorem Effect.change_of_startsOver (effect : Effect sim request reply change after)
    (h : StartsOver (request, .ok reply)) : change = some .reset := by
  cases effect with
  | reset | replay => rfl
  | pausing | playing => exact absurd h (by simp [StartsOver, Toggled.label])
  | step | tick | play | pause | setSpeed | autoplay | dropped | subscribe | unsubscribe
    | failNext => exact absurd h id

theorem Called.generation_lt (hcalled : Called sim request outcome)
    (h : StartsOver (request, outcome.result)) :
    sim.generation < outcome.simulator.generation := by
  cases hcalled with
  | quiet effect => exact absurd (effect.change_of_startsOver h) (by simp)
  | told effect =>
    have hgeneration := effect.generation
    rw [effect.change_of_startsOver h, if_pos rfl] at hgeneration
    simp only
    omega
  | untold | injected =>
    cases request <;> exact absurd h id
  | unread | unreplayed | sizeless | speedless => exact absurd h id

/-- **A fresh start among some requests leaves the generations before it behind.** -/
theorem generation_lt_of_startsOver (sim : Simulator) (requests : List Request)
    (h : ∃ answered ∈ requests.zip (sim.answerAll requests).1, StartsOver answered) :
    sim.generation < (sim.answerAll requests).2.generation := by
  induction requests generalizing sim with
  | nil => simp at h
  | cons request requests ih =>
    obtain ⟨answered, hmem, hover⟩ := h
    rcases List.mem_cons.mp hmem with rfl | hmem
    · exact Nat.lt_of_lt_of_le ((called sim request).generation_lt hover)
        (generation_le_answerAll _ _)
    · exact Nat.lt_of_le_of_lt (called sim request).generation_le (ih _ ⟨answered, hmem, hover⟩)

/-! ## Waking -/

/-- When the loop makes a step on waking: `before` is the simulator at which the sleep began, and
`slept` the one that it finds afterwards. -/
structure Due (before slept : Simulator) : Prop where
  /-- The automatic run was on when the sleep began. -/
  began : before.running = true
  running : slept.running = true
  live : slept.loop.finished = false
  /-- There was no fresh start during the sleep. -/
  current : slept.generation = before.generation
  /-- The call was not told to fail. -/
  unharmed : .autoplayStep ∉ slept.faults
  /-- Nor was the step that it makes. -/
  unhindered : .step ∉ slept.faults

/-- What the loop does on waking: one step or nothing. A failure that was asked for may be used up
by it. -/
structure Wakes (before slept : Simulator) (wake : Outcome Unit) : Prop where
  stepped : Due before slept → ∃ faults, wake.simulator = { slept.stepped with faults }
  /-- Subscribers hear of the step, unless telling them was told to fail. -/
  told : Due before slept → .announce ∉ slept.faults → wake.notices = [slept.stepped.notice .step]
  untouched : ¬ Due before slept → ∃ faults, wake.simulator = { slept with faults }
  silent : ¬ Due before slept → wake.notices = []

variable {before slept : Simulator}

theorem autoplayStep_of_due (h : Due before slept) :
    slept.autoplayStep before.generation = (slept.stepped.announce .step).map fun _ => true := by
  have hgo : (!slept.running || (before.generation : Int) ≠ slept.generation ||
      slept.loop.finished) = false := by
    simp [h.running, h.current, h.live]
  rw [autoplayStep, guarded, if_neg h.unharmed, hgo, if_neg Bool.false_ne_true, step, guarded,
    if_neg h.unhindered]
  rfl

theorem autoplayStep_of_not_due (hbegan : before.running = true) (h : ¬ Due before slept) :
    (∃ faults, (slept.autoplayStep before.generation).simulator = { slept with faults }) ∧
      (slept.autoplayStep before.generation).notices = [] := by
  unfold autoplayStep guarded
  split
  · exact ⟨⟨_, rfl⟩, rfl⟩
  · next hunharmed =>
    dsimp only
    split
    · exact ⟨⟨slept.faults, rfl⟩, rfl⟩
    · next hgo =>
      simp only [Bool.or_eq_true, Bool.not_eq_true', decide_eq_true_eq, not_or, Bool.not_eq_false,
        Bool.not_eq_true, ne_eq, Decidable.not_not] at hgo
      unfold step guarded
      split
      · exact ⟨⟨_, rfl⟩, rfl⟩
      · next hunhindered =>
        have hcurrent : slept.generation = before.generation := by exact_mod_cast hgo.1.2.symm
        exact absurd ⟨hbegan, hgo.1.1, hgo.2, hcurrent, hunharmed, hunhindered⟩ h

theorem announce_simulator (sim : Simulator) (change : Change) :
    ∃ faults, (sim.announce change).simulator = { sim with faults } := by
  unfold announce guarded
  split
  · exact ⟨_, rfl⟩
  · exact ⟨sim.faults, rfl⟩

/-- **On waking the loop makes one step if it is due, and none otherwise.** -/
theorem autoplayLoop_wakes (poll : Float) (before slept : Simulator) :
    Wakes before slept ((autoplayLoop poll before).wake slept) := by
  by_cases hbegan : before.running = true
  · have hwake : (autoplayLoop poll before).wake slept =
        (slept.autoplayStep before.generation).map fun _ => () := by
      rw [autoplayLoop, if_pos hbegan]
    rw [hwake]
    refine ⟨fun hdue => ?_, fun hdue hann => ?_, fun hlate => ?_, fun hlate => ?_⟩
    · rw [autoplayStep_of_due hdue, map_map]
      exact announce_simulator slept.stepped .step
    · have hsaid : slept.stepped.announce .step =
          { result := .ok (), simulator := slept.stepped,
            notices := [slept.stepped.notice .step] } := if_neg hann
      rw [autoplayStep_of_due hdue, hsaid]
      rfl
    · exact (autoplayStep_of_not_due hbegan hlate).1
    · exact (autoplayStep_of_not_due hbegan hlate).2
  · have hwake : (autoplayLoop poll before).wake slept =
        { result := .ok (), simulator := slept } := by
      rw [autoplayLoop, if_neg hbegan]
    rw [hwake]
    exact ⟨fun hdue => absurd hdue.began hbegan, fun hdue => absurd hdue.began hbegan,
      fun _ => ⟨slept.faults, rfl⟩, fun _ => rfl⟩

theorem Wakes.lively {wake : Outcome Unit} (h : Wakes before slept wake) (hslept : slept.Lively) :
    wake.simulator.Lively := by
  by_cases hdue : Due before slept
  · obtain ⟨faults, hwoken⟩ := h.stepped hdue
    rw [hwoken]
    exact lively_stepped slept
  · obtain ⟨faults, hwoken⟩ := h.untouched hdue
    rw [hwoken]
    exact hslept

end Simulator

/-! ## Naps -/

namespace Pacer

/-- One nap of a loop. -/
def nap (pacer : Pacer) (found : Simulator) (requests : List Request) : Nap where
  seconds := (pacer found).seconds
  before := found
  results := (found.answerAll requests).1
  after := (found.answerAll requests).2

/-- What comes of waking from it. -/
def wake (pacer : Pacer) (found : Simulator) (requests : List Request) : Outcome Unit :=
  (pacer found).wake (found.answerAll requests).2

/-- **One more nap**: a loop that was asked to stop after some naps goes on if it was not, whatever
came of its waking. -/
theorem run_concat (pacer : Pacer) (stop : Stop) (sleeps : List (List Request))
    (requests : List Request) (sim : Simulator) :
    pacer.run stop (sleeps ++ [requests]) sim =
      ((pacer.run .asked sleeps sim).1 ++ [pacer.nap (pacer.run .asked sleeps sim).2 requests],
        if stop = .cancelled then ((pacer.run .asked sleeps sim).2.answerAll requests).2
        else (pacer.wake (pacer.run .asked sleeps sim).2 requests).simulator) := by
  induction sleeps generalizing sim with
  | nil => cases stop <;> rfl
  | cons first sleeps ih =>
    have hgo : ((sleeps ++ [requests]).isEmpty && decide (stop = .cancelled)) = false := by
      cases sleeps <;> rfl
    have hasked : (sleeps.isEmpty && decide (Stop.asked = .cancelled)) = false := by
      cases sleeps <;> rfl
    simp only [List.cons_append, run, hgo, hasked, if_neg Bool.false_ne_true, ih]

end Pacer

namespace Simulator

theorem lively_autoplay {sim : Simulator} (h : sim.Lively) (poll : Float)
    (sleeps : List (List Request)) : ((autoplayLoop poll).run .asked sleeps sim).2.Lively := by
  induction sleeps using List.reverseRecOn with
  | nil => exact h
  | append_singleton sleeps requests ih =>
    rw [Pacer.run_concat]
    exact (autoplayLoop_wakes poll _ _).lively (lively_answerAll ih requests)

/-- **Each nap of the automatic run makes one step if it is due, and none otherwise.** A run of the
loop begins at any simulator that can be reached and takes any sleeps, with any requests in each.
Its last nap begins where the naps before it led, and is followed by the waking from it unless the
loop is cancelled. After a fresh start during the nap no step is due. -/
theorem autoplay_steps_when_due {source : String} {tick interval : Quantity}
    {subscribers : List String} {made : Simulator}
    (hcreate : create source tick interval subscribers = .ok made) (earlier : List Call)
    (poll : Float) (stop : Stop) (sleeps : List (List Request)) (requests : List Request) :
    let pacer := autoplayLoop poll
    let sim := (made.callAll earlier).2
    let found := (pacer.run .asked sleeps sim).2
    let slept := (found.answerAll requests).2
    let wake := pacer.wake found requests
    pacer.run stop (sleeps ++ [requests]) sim =
        ((pacer.run .asked sleeps sim).1 ++ [pacer.nap found requests],
          if stop = .cancelled then slept else wake.simulator) ∧
      Wakes found slept wake ∧
      ((∃ answered ∈ requests.zip (found.answerAll requests).1, StartsOver answered) →
        ¬ Due found slept) ∧
      found.Lively ∧ slept.Lively ∧ wake.simulator.Lively := by
  intro pacer sim found slept wake
  have hfound : found.Lively :=
    lively_autoplay (lively_callAll (lively_create hcreate) earlier) poll sleeps
  have hslept : slept.Lively := lively_answerAll hfound requests
  have hwakes : Wakes found slept wake := autoplayLoop_wakes poll found slept
  refine ⟨pacer.run_concat stop sleeps requests sim, hwakes, fun hover hdue => ?_, hfound, hslept,
    hwakes.lively hslept⟩
  have hlater : found.generation < slept.generation :=
    generation_lt_of_startsOver found requests hover
  exact absurd hdue.current (Nat.ne_of_gt hlater)

/-- After a nap in which the step was made to fail, a step is made on the next waking; but if there
is a fresh start before it, the new run is left alone. -/
theorem autoplay_steps_when_due_printer :
    create "console.log('A');" (.whole 100) (.whole 1000) = .ok printer ∧
    let pacer := autoplayLoop 0.05
    let found := (pacer.run .asked [[.failNext .step]] (printer.callAll [.ask .play]).2).2
    (Due found (found.answerAll [.tick none]).2 ∧
      (pacer.wake found [.tick none]).simulator.loop.output = ["A"]) ∧
    (¬ Due found (found.answerAll [.reset none true]).2 ∧
      (pacer.wake found [.reset none true]).simulator.loop.output = []) := by
  refine ⟨create_printer, ?_, ?_⟩
  · have hdue : Due { printer with running := true }
        { printer with running := true, loop := printer.loop.advance 100 } :=
      ⟨rfl, rfl, rfl, rfl, List.not_mem_nil, List.not_mem_nil⟩
    obtain ⟨-, hwakes, -⟩ := autoplay_steps_when_due create_printer [.ask .play] 0.05 .asked
      [[.failNext .step]] [.tick none]
    obtain ⟨faults, hwoken⟩ := hwakes.stepped hdue
    exact ⟨hdue, by rw [hwoken]; rfl⟩
  · have hreset : ({ printer with running := true } : Simulator).reset none true =
        (({ printer with running := true } : Simulator).restarted printer.source printer.program
          true).announce .reset :=
      reset_of_read _ none true List.not_mem_nil (Fits.create create_printer).read
    have hanswers : ({ printer with running := true } : Simulator).answerAll [.reset none true] =
        ([.ok .nothing], ({ printer with running := true } : Simulator).restarted printer.source
          printer.program true) := by
      rw [answerAll, answer, hreset]
      rfl
    obtain ⟨-, hwakes, hstale, -⟩ := autoplay_steps_when_due create_printer [.ask .play] 0.05
      .asked [[.failNext .step]] [.reset none true]
    have hlate := hstale ⟨(.reset none true, .ok .nothing), by
      change _ ∈ [Request.reset none true].zip
        (({ printer with running := true } : Simulator).answerAll [.reset none true]).1
      rw [hanswers]
      exact List.mem_cons_self, trivial⟩
    obtain ⟨faults, hwoken⟩ := hwakes.untouched hlate
    refine ⟨hlate, ?_⟩
    rw [hwoken]
    change (({ printer with running := true } : Simulator).answerAll
      [.reset none true]).2.loop.output = []
    rw [hanswers]
    rfl

end Simulator

end LoopStepper
