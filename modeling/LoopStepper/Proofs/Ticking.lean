import LoopStepper.Proofs.Autoplay
import LoopStepper.Proofs.Steps
import Mathlib.Data.List.DropRight

/-!
# The ticks of the clock loop

The clock loop ticks once behind each sleep that it completes, whatever the simulator is at and
whatever was asked of it meanwhile; a tick that fails is an attempt like any other. So a run of the
loop is no more than requests: those of each sleep, with a tick behind each (`attempts`). A loop
that is cancelled leaves out the last tick, one that is asked to stop does not.

What the clock shows is said by the answers to these requests alone (`clockOf`): it is the sum of
what was ticked since the last fresh start that was answered. Each call keeps this up
(`Clocked.call`), and so do any number of calls (`Clocked.callAll`).

Headline:
* **`clock_loop_ticks`**: the requests that a run of the loop consists of, and the clock at each
  point of it.
-/

namespace LoopStepper

namespace Simulator

variable {sim after : Simulator} {request : Request} {reply : Reply} {change : Option Change}
  {outcome : Outcome Reply} {interval : Int}

/-! ## What the clock shows -/

/-- Whether the answer to a call says that the script started over. -/
def isRestart : Call × Except Failure Answer → Bool
  | (.ask (.reset _ _), .ok _) => true
  | (.ask .toggle, .ok (.reply reply)) => reply = .text Toggled.replay.label
  | _ => false

/-- The milliseconds of a tick that is answered; less than none is none. A tick that is given no
size has the size `tickMs`. -/
def millisOf (tickMs : Int) : Call × Except Failure Answer → Int
  | (.ask (.tick ms), .ok _) =>
    match (ms.getD (.whole tickMs)).toInt with
    | .ok n => max 0 n
    | .error _ => 0
  | _ => 0

/-- The clock that calls and their answers lead to: the sum of the milliseconds of the ticks behind
the last fresh start. -/
def clockOf (tickMs : Int) (history : List (Call × Except Failure Answer)) : Int :=
  (history.rtakeWhile fun answered => !isRestart answered).foldl
    (fun clock answered => clock + millisOf tickMs answered) 0

theorem clockOf_concat (tickMs : Int) (history : List (Call × Except Failure Answer))
    (answered : Call × Except Failure Answer) :
    clockOf tickMs (history ++ [answered]) =
      if isRestart answered then 0 else clockOf tickMs history + millisOf tickMs answered := by
  unfold clockOf
  by_cases hover : isRestart answered = true
  · rw [List.rtakeWhile_concat_neg _ _ _ (by simp [hover]), if_pos hover]
    rfl
  · rw [List.rtakeWhile_concat_pos _ _ _ (by simpa using hover), if_neg hover, List.foldl_concat]

/-- A call that fails is no fresh start, and no time passes with it. -/
theorem isRestart_error (call : Call) (failure : Failure) :
    isRestart (call, .error failure) = false := by
  cases call with
  | look => rfl
  | ask request => cases request <;> rfl

theorem millisOf_error (tickMs : Int) (call : Call) (failure : Failure) :
    millisOf tickMs (call, .error failure) = 0 := by
  cases call with
  | look => rfl
  | ask request => cases request <;> rfl

theorem clock_advance_eq (loop : EventLoop) (n : Int) :
    (loop.advance n).clock = loop.clock + max 0 n := rfl

/-- **What a request does to the clock** is said by its answer. -/
theorem Effect.clock (effect : Effect sim request reply change after) :
    after.loop.clock = if isRestart (.ask request, .ok (.reply reply)) then 0
      else sim.loop.clock + millisOf sim.tickMs (.ask request, .ok (.reply reply)) := by
  have hstep : sim.loop.step.clock = sim.loop.clock := (EventLoop.stepped sim.loop).clock
  cases effect with
  | step | autoplay => simp [isRestart, millisOf, stepped, hstep]
  | tick hsize => simp [isRestart, millisOf, hsize, clock_advance_eq]
  | reset | replay => rfl
  | pausing | playing => simp [isRestart, millisOf, Toggled.label]
  | play | pause | setSpeed | dropped | subscribe | unsubscribe | failNext =>
    simp [isRestart, millisOf, Simulator.subscribe, Simulator.unsubscribe, Simulator.failNext]

/-- It stays as it is at a request that fails, unless telling of a change was told to fail. -/
theorem Called.clock (hcalled : Called sim request outcome) (hann : .announce ∉ sim.faults) :
    outcome.simulator.loop.clock = if isRestart (.ask request, outcome.result.map .reply) then 0
      else sim.loop.clock + millisOf sim.tickMs (.ask request, outcome.result.map .reply) := by
  cases hcalled with
  | quiet effect | told effect => exact effect.clock
  | untold _ hmuted => exact absurd hmuted hann
  | injected | unread | unreplayed | sizeless | speedless =>
    simp [Except.map, isRestart_error, millisOf_error, without]

/-- The size of a tick never changes. -/
theorem Effect.tickMs (effect : Effect sim request reply change after) :
    after.tickMs = sim.tickMs := by
  cases effect <;> rfl

theorem Called.tickMs (hcalled : Called sim request outcome) :
    outcome.simulator.tickMs = sim.tickMs := by
  cases hcalled with
  | quiet effect | told effect | untold effect => exact effect.tickMs
  | injected | unread | unreplayed | sizeless | speedless => rfl

/-- Telling of changes is made to fail by no request but one. -/
theorem Effect.unmuted (effect : Effect sim request reply change after)
    (hrequest : request ≠ .failNext .announce) (hann : .announce ∉ sim.faults) :
    .announce ∉ after.faults := by
  cases effect with
  | @failNext operation =>
    have hother : Operation.announce ≠ operation := fun heq => hrequest (heq ▸ rfl)
    simp [Simulator.failNext, hother, hann]
  | step | tick | reset | play | pause | replay | pausing | playing | setSpeed | autoplay | dropped
    | subscribe | unsubscribe => exact hann

theorem Called.unmuted (hcalled : Called sim request outcome)
    (hrequest : request ≠ .failNext .announce) (hann : .announce ∉ sim.faults) :
    .announce ∉ outcome.simulator.faults := by
  cases hcalled with
  | quiet effect | told effect => exact effect.unmuted hrequest hann
  | untold _ hmuted => exact absurd hmuted hann
  | injected => exact fun hmem => hann (List.mem_of_mem_erase hmem)
  | unread | unreplayed | sizeless | speedless => exact hann

/-- The clock of a simulator is the one that some calls and their answers have led to, and telling
of changes cannot fail. -/
structure Clocked (tickMs : Int) (history : List (Call × Except Failure Answer))
    (sim : Simulator) : Prop where
  clock : sim.loop.clock = clockOf tickMs history
  tickMs_eq : sim.tickMs = tickMs
  unmuted : .announce ∉ sim.faults

namespace Clocked

variable {tickMs : Int} {history : List (Call × Except Failure Answer)}

/-- The step lemma: one more call. -/
theorem call (h : Clocked tickMs history sim) {call : Call}
    (hcall : call ≠ .ask (.failNext .announce)) :
    Clocked tickMs (history ++ [(call, (sim.call call).result)]) (sim.call call).simulator := by
  cases call with
  | look =>
    have hclock : sim.loop.clock =
        clockOf tickMs (history ++ [(.look, (sim.call .look).result)]) := by
      rw [clockOf_concat, h.clock]
      simp [isRestart, millisOf]
    have hlook : sim.view.simulator = sim ∨ sim.view.simulator = sim.without .snapshot := by
      unfold view guarded
      split
      · exact .inr rfl
      · exact .inl rfl
    have hsim : (sim.call .look).simulator = sim.view.simulator := rfl
    rw [hsim]
    rcases hlook with hlook | hlook <;> rw [hlook]
    · exact ⟨hclock, h.tickMs_eq, h.unmuted⟩
    · exact ⟨hclock, h.tickMs_eq, fun hmem => h.unmuted (List.mem_of_mem_erase hmem)⟩
  | ask request =>
    have hrequest : request ≠ .failNext .announce := fun heq => hcall (heq ▸ rfl)
    have hcalled : Called sim request (sim.answer request) := called sim request
    refine ⟨?_, hcalled.tickMs.trans h.tickMs_eq, hcalled.unmuted hrequest h.unmuted⟩
    rw [clockOf_concat, ← h.clock, ← h.tickMs_eq]
    exact hcalled.clock h.unmuted

/-- **The run lemma**: any number of calls more. -/
theorem callAll (h : Clocked tickMs history sim) {calls : List Call}
    (hcalls : .ask (.failNext .announce) ∉ calls) :
    Clocked tickMs (history ++ calls.zip (sim.callAll calls).1) (sim.callAll calls).2 := by
  induction calls generalizing sim history with
  | nil => simpa [Simulator.callAll] using h
  | cons call calls ih =>
    obtain ⟨hfirst, hlater⟩ := not_or.mp (mt List.mem_cons.mpr hcalls)
    have hrest := ih (h.call (Ne.symm hfirst)) hlater
    rw [callAll_cons, List.zip_cons_cons]
    rwa [List.append_assoc, List.singleton_append] at hrest

end Clocked

/-! ## Runs of the clock loop -/

theorem callAll_append (sim : Simulator) (calls later : List Call) :
    (sim.callAll (calls ++ later)).2 = ((sim.callAll calls).2.callAll later).2 := by
  induction calls generalizing sim with
  | nil => rfl
  | cons call calls ih => exact ih _

theorem answerAll_append (sim : Simulator) (requests later : List Request) :
    (sim.answerAll (requests ++ later)).2 = ((sim.answerAll requests).2.answerAll later).2 := by
  induction requests generalizing sim with
  | nil => rfl
  | cons request requests ih => exact ih _

/-- What is asked of a simulator in sleeps that are all completed: a tick behind each. -/
def ticked (interval : Int) (sleeps : List (List Request)) : List Request :=
  sleeps.flatMap fun requests => requests ++ [.tick (some (.whole interval))]

/-- What is asked of a simulator during a run of the clock loop. The sleep in which it is cancelled
is not completed. -/
def attempts (interval : Int) : Stop → List (List Request) → List Request
  | .asked, sleeps => ticked interval sleeps
  | .cancelled, sleeps => ticked interval sleeps.dropLast ++ sleeps.getLast?.getD []

/-- On waking the loop ticks. -/
theorem wake_clockLoop {pacer : Pacer} (h : clockLoop interval = .ok pacer)
    (found : Simulator) (requests : List Request) :
    (pacer.wake found requests).simulator =
      (found.answerAll (requests ++ [.tick (some (.whole interval))])).2 := by
  obtain ⟨seconds, -, hpacer⟩ := bind_eq_ok.mp h
  cases hpacer
  rw [answerAll_append]
  rfl

theorem ticked_append (interval : Int) (sleeps later : List (List Request)) :
    ticked interval (sleeps ++ later) = ticked interval sleeps ++ ticked interval later :=
  List.flatMap_append

/-- **A run of the loop is the requests of its sleeps with a tick behind each.** -/
theorem run_clockLoop {pacer : Pacer} (h : clockLoop interval = .ok pacer) (stop : Stop)
    (sleeps : List (List Request)) (sim : Simulator) :
    (pacer.run stop sleeps sim).2 = (sim.answerAll (attempts interval stop sleeps)).2 := by
  induction sleeps using List.reverseRecOn generalizing stop with
  | nil => cases stop <;> rfl
  | append_singleton sleeps requests ih =>
    have hfound : (pacer.run .asked sleeps sim).2 = (sim.answerAll (ticked interval sleeps)).2 :=
      ih .asked
    rw [Pacer.run_concat, hfound]
    cases stop with
    | asked =>
      have hticked : ticked interval [requests] =
          requests ++ [.tick (some (.whole interval))] := List.append_nil _
      rw [if_neg (by decide), wake_clockLoop h, attempts, ticked_append, hticked,
        answerAll_append _ (ticked interval sleeps)]
    | cancelled =>
      rw [if_pos rfl, attempts, List.dropLast_concat, List.getLast?_concat, Option.getD_some,
        answerAll_append _ (ticked interval sleeps)]

/-- **There is a nap for each sleep**, which begins where the sleeps before it and their ticks have
led, whatever came of them. -/
theorem naps_clockLoop {pacer : Pacer} (h : clockLoop interval = .ok pacer) (stop : Stop)
    (sleeps : List (List Request)) (sim : Simulator) :
    (pacer.run stop sleeps sim).1 = sleeps.mapIdx fun k requests =>
      pacer.nap (sim.answerAll (ticked interval (sleeps.take k))).2 requests := by
  induction sleeps using List.reverseRecOn generalizing stop with
  | nil => rfl
  | append_singleton sleeps requests ih =>
    have hfound : (pacer.run .asked sleeps sim).2 = (sim.answerAll (ticked interval sleeps)).2 :=
      run_clockLoop h .asked sleeps sim
    rw [Pacer.run_concat, hfound, ih .asked, List.mapIdx_concat, List.take_left]
    refine congrArg (· ++ _) (List.mapIdx_eq_mapIdx_iff.mpr fun k hk => ?_)
    rw [List.take_append_of_le_length hk.le]

/-- The interval of the loop is at least one millisecond: the given one, or else the simulator's
tick. -/
theorem clockInterval_eq {given : Datum} (h : clockInterval sim given = .ok interval) :
    1 ≤ interval ∧ (given.isTrue = false → interval = max 1 sim.tickMs) ∧
      (given.isTrue = true → ∃ n, given.quantity.toInt = .ok n ∧ interval = max 1 n) := by
  unfold clockInterval at h
  by_cases hgiven : given.isTrue = true
  · rw [if_pos hgiven] at h
    cases hsize : given.quantity.toInt with
    | error error =>
      rw [hsize] at h
      cases h
    | ok n =>
      rw [hsize] at h
      obtain rfl := Except.ok.inj h
      exact ⟨Int.le_max_left 1 n, fun hnot => absurd hgiven (ne_true_of_eq_false hnot),
        fun _ => ⟨n, rfl, rfl⟩⟩
  · rw [if_neg hgiven] at h
    obtain rfl := Except.ok.inj h
    exact ⟨Int.le_max_left 1 sim.tickMs, fun _ => rfl, fun hnot => absurd hnot hgiven⟩

theorem mem_attempts {request : Request} {stop : Stop} {sleeps : List (List Request)}
    (h : request ∈ attempts interval stop sleeps) :
    request = .tick (some (.whole interval)) ∨ ∃ requests ∈ sleeps, request ∈ requests := by
  have hticked {sleeps : List (List Request)} (hmem : request ∈ ticked interval sleeps) :
      request = .tick (some (.whole interval)) ∨ ∃ requests ∈ sleeps, request ∈ requests := by
    obtain ⟨requests, hrequests, hmem⟩ := List.mem_flatMap.mp hmem
    rcases List.mem_append.mp hmem with hmem | hmem
    · exact .inr ⟨requests, hrequests, hmem⟩
    · exact .inl (List.mem_singleton.mp hmem)
  cases stop with
  | asked => exact hticked h
  | cancelled =>
    rcases List.mem_append.mp h with hmem | hmem
    · refine (hticked hmem).imp_right fun ⟨requests, hrequests, hin⟩ => ?_
      exact ⟨requests, List.dropLast_subset sleeps hrequests, hin⟩
    · cases hlast : sleeps.getLast? with
      | none => simp [hlast] at hmem
      | some requests =>
        rw [hlast, Option.getD_some] at hmem
        exact .inr ⟨requests, List.mem_of_getLast? hlast, hmem⟩

/-- **The clock loop ticks once behind each sleep that it completes.** A run of the loop begins at
any simulator that can be reached, and takes any sleeps, with any requests in each; only telling of
a change is not told to fail. There is a nap for each sleep, it begins where the requests of the
sleeps before it have led, with a tick of the interval behind each, and the run leads to where all
that was asked leads. At each point of it, the clock is the sum of what was ticked since the last
fresh start that was answered. -/
theorem clock_loop_ticks {source : String} {tick rate : Quantity} {subscribers : List String}
    {opening : Simulator} (hcreate : create source tick rate subscribers = .ok opening)
    {earlier : List Call} (hearlier : .ask (.failNext .announce) ∉ earlier)
    {sleeps : List (List Request)} (hsleeps : ∀ requests ∈ sleeps, .failNext .announce ∉ requests)
    {given : Datum} {pacer : Pacer}
    (hinterval : clockInterval (opening.callAll earlier).2 given = .ok interval)
    (hpacer : clockLoop interval = .ok pacer) (stop : Stop) :
    let sim := (opening.callAll earlier).2
    let calls := earlier ++ (attempts interval stop sleeps).map .ask
    (1 ≤ interval ∧ (given.isTrue = false → interval = max 1 opening.tickMs) ∧
      (given.isTrue = true → ∃ n, given.quantity.toInt = .ok n ∧ interval = max 1 n)) ∧
    (pacer.run stop sleeps sim).1 = (sleeps.mapIdx fun k requests =>
      pacer.nap (sim.answerAll (ticked interval (sleeps.take k))).2 requests) ∧
    (pacer.run stop sleeps sim).2 = (opening.callAll calls).2 ∧
    ∀ begun, begun <+: calls → (opening.callAll begun).2.loop.clock =
      clockOf opening.tickMs (begun.zip (opening.callAll begun).1) := by
  intro sim calls
  have hopening : Clocked opening.tickMs [] opening := by
    obtain ⟨tickMs, intervalMs, program, -, -, -, rfl⟩ := create_eq_ok.mp hcreate
    exact ⟨rfl, rfl, List.not_mem_nil⟩
  have hcalls : .ask (.failNext .announce) ∉ calls := by
    intro hmem
    rcases List.mem_append.mp hmem with hmem | hmem
    · exact hearlier hmem
    · obtain ⟨request, hrequest, heq⟩ := List.mem_map.mp hmem
      obtain rfl := Call.ask.inj heq
      rcases mem_attempts hrequest with htick | ⟨requests, hin, hfail⟩
      · cases htick
      · exact hsleeps requests hin hfail
  have hsim : sim.tickMs = opening.tickMs := (hopening.callAll hearlier).tickMs_eq
  refine ⟨hsim ▸ clockInterval_eq hinterval, naps_clockLoop hpacer stop sleeps sim, ?_, ?_⟩
  · rw [run_clockLoop hpacer, callAll_append, callAll_ask]
  · intro begun hbegun
    have hclocked := hopening.callAll fun hmem => hcalls (hbegun.subset hmem)
    rw [List.nil_append] at hclocked
    exact hclocked.clock

/-- Three sleeps. In the first, the next tick is told to fail; in the second, the script starts over
between two ticks of others. -/
def busySleeps : List (List Request) :=
  [[.failNext .tick], [.tick none, .reset none true, .tick (some (.whole (-5)))],
    [.step, .tick (some (.whole 30))]]

/-- In the third the loop is cancelled: of the ticks that are counted it has made one. -/
theorem clock_loop_ticks_busy :
    let sim := (printer.callAll [.ask (.tick (some (.whole 250)))]).2
    create "console.log('A');" (.whole 100) (.whole 1000) = .ok printer ∧
    clockInterval sim (.whole 0) = .ok 100 ∧
    ∃ pacer, clockLoop 100 = .ok pacer ∧
      (pacer.run .cancelled busySleeps sim).1.length = 3 ∧
      (pacer.run .cancelled busySleeps sim).2.loop.clock = 0 + 100 + 30 := by
  intro sim
  have hearlier : Call.ask (.failNext .announce) ∉ [.ask (.tick (some (.whole 250)))] := by simp
  have hsleeps : ∀ requests ∈ busySleeps, .failNext .announce ∉ requests := by simp [busySleeps]
  have hinterval : clockInterval sim (.whole 0) = .ok 100 := rfl
  have hfinite : (Float.ofInt 100).isInf = false := by decide
  obtain ⟨pacer, hpacer⟩ : ∃ pacer, clockLoop 100 = .ok pacer := by
    simp only [clockLoop, Quantity.seconds, Quantity.toFloat, nearestFloat, hfinite]
    exact ⟨_, rfl⟩
  obtain ⟨-, hnaps, hlast, hclock⟩ :=
    clock_loop_ticks create_printer hearlier hsleeps hinterval hpacer .cancelled
  refine ⟨create_printer, hinterval, pacer, hpacer, ?_, ?_⟩
  · rw [hnaps, List.length_mapIdx]
    rfl
  · rw [hlast, hclock _ (List.prefix_refl _)]
    decide +kernel

end Simulator

end LoopStepper
