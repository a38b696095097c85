import LoopStepper.Proofs.Game
import LoopStepper.Proofs.Overlong
import LoopStepper.Proofs.Oversized
import LoopStepper.Proofs.Reliable

/-!
# Commands without an answer

Sixteen commands, and six of them can fail. `Unanswered` says when, and why:

* `reset`, and `run` at the end of a script, read the source again. That cannot be read if a text
  that could not be read was asked for before.
* `load` fails at a text that cannot be read, and at a path that is too long for the files to be
  asked for it (`Overlong`). Nothing else about files is a failure.
* `status` and `tick` show the size of a tick, and `json` the numbers in a snapshot. A number that
  is too long cannot be shown; no argument is, but the clock becomes so, tick by tick.

A simulator runs a script that was read, whatever was asked of it, and is told to fail at nothing
(`Working`). So on every bench that a session comes to, a line fails exactly if it is one of these.

Headline:
* **`handle_fails_iff`**: the lines that have no answer, and why; every other line has one.
-/

namespace LoopStepper

open Text

/-! ## Simulators that work -/

/-- A request that tells an operation to fail. -/
def Request.isSabotage : Request → Bool
  | .failNext _ => true
  | _ => false

theorem Request.isSabotage_of_isOrdinary {request : Request} (h : request.isOrdinary = true) :
    request.isSabotage = false := by
  cases request with
  | failNext => cases h
  | step | tick | reset | play | pause | toggle | setSpeed | autoplayStep => rfl
  | subscribe | unsubscribe => rfl

namespace Simulator

/-- A simulator runs a script that was read, is told to fail at nothing, and has ticks that take
time. -/
structure Working (sim : Simulator) : Prop extends sim.Tracks where
  faultless : sim.faults = []
  ticks : 1 ≤ sim.tickMs

namespace Working

variable {sim after : Simulator} {request : Request} {reply : Reply} {change : Option Change}

theorem effect (h : sim.Working) (effect : Effect sim request reply change after)
    (hrequest : request.isSabotage = false) : after.Working := by
  cases effect with
  | step | autoplay => exact ⟨h.event .step _, h.faultless, h.ticks⟩
  | tick => exact ⟨h.event (.tick _) _, h.faultless, h.ticks⟩
  | reset hread => exact ⟨h.restarted hread, h.faultless, h.ticks⟩
  | replay hfin hread => exact ⟨h.restarted hread, h.faultless, h.ticks⟩
  | failNext => cases hrequest
  | pausing | playing | play | pause | setSpeed | dropped | subscribe | unsubscribe =>
    exact { h with }

/-- Whether it is answered or fails, a request leaves the simulator working. -/
theorem answer (h : sim.Working) (hrequest : request.isSabotage = false) :
    (sim.answer request).simulator.Working := by
  have hcalled : Called sim request (sim.answer request) := called sim request
  generalize sim.answer request = outcome at hcalled ⊢
  cases hcalled with
  | quiet effect | told effect => exact h.effect effect hrequest
  | untold effect hfault | injected hop hfault =>
    exact absurd (h.faultless ▸ hfault) List.not_mem_nil
  | unread hread =>
    refine { h with reread := fun program hagain => ?_ }
    cases hread.symm.trans hagain
  | unreplayed | sizeless | speedless => exact h

end Working

end Simulator

namespace Session

/-- However a session begins, its simulator works. -/
theorem Begins.working {options : Options} {source : Option String} {files : Tree}
    {session : Session} (h : Begins options source files session) : session.simulator.Working := by
  obtain ⟨text, program, tickMs, intervalMs, hread, hsim⟩ := h.simulator_eq
  rw [hsim]
  exact ⟨Simulator.Tracks.created hread, rfl, Int.le_max_left 1 tickMs⟩

end Session

namespace Bench

/-- The simulator of a bench works. -/
def Working (bench : Bench) : Prop :=
  bench.session.simulator.Working

theorem Working.perform {bench : Bench} (h : bench.Working) {deed : Deed}
    (hdeed : ∀ request, deed = .ask request → request.isSabotage = false) :
    (bench.perform deed).Working := by
  cases deed with
  | say | save | choose | enable => exact h
  | ask request =>
    rw [Bench.perform, after_operate]
    exact h.answer (hdeed request rfl)
  | look =>
    rw [Bench.perform, after, operate_view h.faultless]
    exact h
  | restart source autoplay =>
    have hreset : (bench.session.simulator.answer (.reset source autoplay)).simulator.Working :=
      h.answer rfl
    rw [Bench.perform, after_reset, Working]
    exact (bench.session.reset_simulator source autoplay).symm ▸ hreset
  | move source target =>
    unfold Bench.perform
    dsimp only
    split <;> exact h

/-- **Turns leave a simulator working**, if none of them tells an operation to fail. -/
theorem Working.playAll {bench : Bench} (h : bench.Working) {turns : List Turn}
    (hturns : ∀ request, .ask request ∈ turns → request.isSabotage = false) :
    (bench.playAll turns).Working := by
  refine playAll_invariant (motive := Working)
    (fun deed => ∀ request, deed = .ask request → request.isSabotage = false)
    (fun bench deed hdeed hworking => hworking.perform hdeed) (fun deed husual request heq => ?_) h
    (fun request hmem asked heq => ?_)
  · subst heq
    exact Request.isSabotage_of_isOrdinary husual.1
  · exact Deed.ask.inj heq ▸ hturns request hmem

/-! ## Commands that fail -/

variable {α : Type} {bench : Bench} {error : SessionError}

theorem fails_written_iff {result : Except NumeralError α} :
    Fails (written result) bench error ↔
      ∃ cause, result = .error cause ∧ error = .simulator (.numeral cause) := by
  cases result with
  | ok a =>
    constructor
    · rintro ⟨after, ⟨⟩⟩
    · rintro ⟨cause, ⟨⟩, -⟩
  | error cause =>
    constructor
    · rintro ⟨after, ⟨⟩⟩
      exact ⟨cause, rfl, rfl⟩
    · rintro ⟨_, ⟨⟩, rfl⟩
      exact ⟨bench, rfl⟩

/-- A text made of numbers cannot be shown if one of them is too long. -/
theorem fails_written {numbers : List Int} {result : Except NumeralError α}
    (h : Written numbers result) :
    Fails (written result) bench error ↔
      error = .simulator (.numeral .tooLarge) ∧ ∃ n ∈ numbers, Oversized n := by
  rw [fails_written_iff]
  constructor
  · rintro ⟨cause, hcause, rfl⟩
    obtain ⟨rfl, hlong⟩ := h.eq_error_iff.mp hcause
    exact ⟨rfl, hlong⟩
  · rintro ⟨rfl, hlong⟩
    exact ⟨.tooLarge, h.eq_error_iff.mpr ⟨rfl, hlong⟩, rfl⟩

theorem written_eq_ok {result : Except NumeralError α} {a : α} {middle : Bench}
    (h : written result bench = .ok a middle) : middle = bench := by
  cases result <;> cases h
  rfl

/-- Numbers that are shown in a reply. -/
theorem fails_written_bind {β : Type} {next : α → Act β} (hfree : bench.Faultless)
    {numbers : List Int} {result : Except NumeralError α} (h : Written numbers result)
    (hnext : ∀ a, Reliable (next a)) :
    Fails (written result >>= next) bench error ↔
      error = .simulator (.numeral .tooLarge) ∧ ∃ n ∈ numbers, Oversized n := by
  refine (fails_bind_iff fun a middle hok => ?_).trans (fails_written h)
  rw [written_eq_ok hok]
  exact (hnext a bench hfree).not_fails

end Bench

namespace Command

open Bench

variable {bench : Bench} {arguments : List String} {error : SessionError}

/-- When a command has no answer. -/
inductive Unanswered (bench : Bench) : Command → List String → SessionError → Prop
  /-- The source is a text that cannot be read. -/
  | reset {arguments : List String} {cause : NumeralError}
      (hread : Script.parse bench.session.simulator.source = .error cause) :
      Unanswered bench .reset arguments (.simulator (.numeral cause))
  /-- So is the source of a script that is to be replayed. -/
  | replay {arguments : List String} {cause : NumeralError}
      (hfin : bench.session.simulator.loop.finished = true)
      (hread : Script.parse bench.session.simulator.source = .error cause) :
      Unanswered bench .run arguments (.simulator (.numeral cause))
  /-- The file holds a text that cannot be read as a script. -/
  | load {name : String} {rest : List String} {text : String} {cause : NumeralError}
      (hfile : bench.files.loadScript (Path.ofString name) = .ok (some text))
      (hread : Script.parse text = .error cause) :
      Unanswered bench .load (name :: rest) (.simulator (.numeral cause))
  /-- The files cannot be asked for a path of that length. -/
  | overlong {name : String} {rest : List String}
      (hlong : bench.files.Overlong (Path.ofString name)) :
      Unanswered bench .load (name :: rest) (.file (.nameTooLong (Path.ofString name)))
  | status {arguments : List String} (hlong : Oversized bench.session.simulator.tickMs) :
      Unanswered bench .status arguments (.simulator (.numeral .tooLarge))
  /-- A tick that is not given a size. -/
  | tick {arguments : List String}
      (hsize : ∀ text ∈ arguments.head?, ∀ n, readInt text.toList ≠ .ok n)
      (hlong : Oversized bench.session.simulator.tickMs) :
      Unanswered bench .tick arguments (.simulator (.numeral .tooLarge))
  /-- The clock is too long, or the script has that many lines. -/
  | json (hlong : ∃ n ∈ bench.session.simulator.loop.clock :: bench.session.simulator.loop.places,
        Oversized n) :
      Unanswered bench .json [] (.simulator (.numeral .tooLarge))

/-- The size of a tick is too long exactly if it is the simulator's own, and that is. -/
theorem oversized_elapsed {tickMs : Int} (hticks : 1 ≤ tickMs) (given : Option String) :
    Oversized (max 0 ((given.map (readIntD · tickMs)).getD tickMs)) ↔
      (∀ text ∈ given, ∀ n, readInt text.toList ≠ .ok n) ∧ Oversized tickMs := by
  have hown : max 0 tickMs = tickMs := Int.max_eq_right (by omega)
  cases given with
  | none =>
    rw [Option.map_none, Option.getD_none, hown]
    exact ⟨fun hlong => ⟨nofun, hlong⟩, And.right⟩
  | some text =>
    rw [Option.map_some, Option.getD_some, readIntD]
    simp only [Option.mem_some_iff, forall_eq']
    cases hread : readInt text.toList with
    | ok n =>
      have hsmall := not_oversized.mp (readInt_small hread)
      have hclamped : ¬ Oversized (max 0 n) := not_oversized.mpr (by omega)
      exact iff_of_false hclamped fun h => h.1 n rfl
    | error cause =>
      dsimp only
      rw [hown]
      exact ⟨fun hlong => ⟨nofun, hlong⟩, And.right⟩

/-- Commands that show a number fail if it is too long. -/
theorem fails_runStatus (h : bench.Working) :
    Fails runStatus bench error ↔ Unanswered bench .status arguments error := by
  have hshown : Fails runStatus bench error ↔ error = .simulator (.numeral .tooLarge) ∧
      ∃ n ∈ [bench.session.simulator.tickMs], Oversized n :=
    fails_get_bind.trans
      (fails_written_bind h.faultless (written_writeInt _) fun _ => reliable_pure _)
  rw [hshown]
  constructor
  · rintro ⟨rfl, n, hmem, hlong⟩
    exact .status (List.mem_singleton.mp hmem ▸ hlong)
  · intro hnone
    cases hnone with
    | status hlong => exact ⟨rfl, _, List.mem_singleton_self _, hlong⟩

theorem fails_runTick (h : bench.Working) :
    Fails (runTick arguments) bench error ↔ Unanswered bench .tick arguments error := by
  have helapsed := oversized_elapsed h.ticks arguments.head?
  obtain ⟨_, middle, hticked, hmiddle⟩ := reliable_tick
    ((arguments.head?.map (readIntD · bench.session.simulator.tickMs)).getD
      bench.session.simulator.tickMs) bench h.faultless
  rw [runTick, fails_simulator_bind]
  dsimp only
  rw [fails_bind_of_ok hticked, fails_written_bind hmiddle (written_writeInt _) fun _ =>
    reliable_bind reliable_overview fun _ => reliable_pure _]
  constructor
  · rintro ⟨rfl, n, hmem, hlong⟩
    obtain ⟨hsize, hlong⟩ := helapsed.mp (List.mem_singleton.mp hmem ▸ hlong)
    exact .tick hsize hlong
  · intro hnone
    cases hnone with
    | tick hsize hlong =>
      exact ⟨rfl, _, List.mem_singleton_self _, helapsed.mpr ⟨hsize, hlong⟩⟩

theorem fails_runJson (h : bench.Working) :
    Fails (runJson arguments) bench error ↔ Unanswered bench .json arguments error := by
  cases arguments with
  | nil =>
    obtain ⟨text, events, hread, hloop⟩ := h.ran
    have hwritten := EventLoop.written_snapshot hread events
    rw [← hloop] at hwritten
    refine (fails_bind_of_ok (operate_view h.faultless)).trans ((fails_written hwritten).trans ?_)
    constructor
    · rintro ⟨rfl, hlong⟩
      exact .json hlong
    · intro hnone
      cases hnone with
      | json hlong => exact ⟨rfl, hlong⟩
  | cons name rest =>
    have hsaved : Reliable (runJson (name :: rest)) :=
      reliable_bind (reliable_saveSnapshot _)
        (reliable_found (reliable_pure _) fun _ => reliable_pure _)
    exact iff_of_false (hsaved bench h.faultless).not_fails nofun

/-- Commands that start over fail if the source cannot be read. -/
theorem fails_runReset (h : bench.Working) :
    Fails runReset bench error ↔ Unanswered bench .reset arguments error := by
  refine (fails_reset_bind h.faultless fun _ =>
    reliable_bind reliable_overview fun _ => reliable_pure _).trans ?_
  constructor
  · rintro ⟨cause, hread, rfl⟩
    exact .reset hread
  · intro hnone
    cases hnone with
    | reset hread => exact ⟨_, hread, rfl⟩

theorem fails_runRun (h : bench.Working) :
    Fails runRun bench error ↔ Unanswered bench .run arguments error := by
  rw [runRun, fails_simulator_bind]
  by_cases hfin : bench.session.simulator.loop.finished = true
  · rw [if_pos hfin]
    refine (fails_reset_bind h.faultless fun _ => reliable_pure _).trans ?_
    constructor
    · rintro ⟨cause, hread, rfl⟩
      exact .replay hfin hread
    · intro hnone
      cases hnone with
      | replay _ hread => exact ⟨_, hread, rfl⟩
  · rw [if_neg hfin]
    have hlive := Bool.of_not_eq_true hfin
    refine iff_of_false (Succeeds.not_fails ?_) fun hnone => ?_
    · refine (succeeds_toggle h.faultless hlive).bind fun did => ?_
      split
      · exact reliable_pure _
      · exact reliable_bind reliable_simulator fun _ => reliable_pure _
    · cases hnone with
      | replay hend => exact hfin hend

/-- A path is looked up in the files; the empty one is that of a directory. -/
theorem loadScript_eq (name : String) (bench : Bench) :
    loadScript name bench =
      match bench.files.loadScript (Path.ofString name) with
      | .ok text => .ok text bench
      | .error cause => .error (.file cause) bench := by
  unfold loadScript
  split
  · next hempty =>
    rw [String.isEmpty_iff.mp hempty, Tree.loadScript_empty]
  · rfl

/-- Loading fails at the path, or else at the text. -/
theorem fails_runLoad (h : bench.Working) :
    Fails (runLoad arguments) bench error ↔ Unanswered bench .load arguments error := by
  cases arguments with
  | nil => exact iff_of_false (not_fails_pure _) nofun
  | cons name rest =>
    have hload := loadScript_eq name bench
    cases hfile : bench.files.loadScript (Path.ofString name) with
    | error cause =>
      obtain ⟨rfl, hlong⟩ := Tree.loadScript_eq_error.mp hfile
      rw [hfile] at hload
      refine (fails_bind_iff fun a middle hok => by cases hload.symm.trans hok).trans ?_
      constructor
      · rintro ⟨after, hfails⟩
        cases hload.symm.trans hfails
        exact .overlong hlong
      · intro hnone
        cases hnone with
        | load hsome => cases hfile.symm.trans hsome
        | overlong => exact ⟨bench, hload⟩
    | ok found =>
      rw [hfile] at hload
      refine (fails_bind_of_ok hload).trans ?_
      cases found with
      | none =>
        refine iff_of_false (not_fails_pure _) fun hnone => ?_
        cases hnone with
        | load hsome => cases hfile.symm.trans hsome
        | overlong hlong => cases hfile.symm.trans (Tree.loadScript_eq_error.mpr ⟨rfl, hlong⟩)
      | some text =>
        refine (fails_reset_bind h.faultless fun _ => reliable_pure _).trans ?_
        constructor
        · rintro ⟨cause, hread, rfl⟩
          exact .load hfile hread
        · intro hnone
          cases hnone with
          | load hsome hread =>
            cases hfile.symm.trans hsome
            exact ⟨_, hread, rfl⟩
          | overlong hlong => cases hfile.symm.trans (Tree.loadScript_eq_error.mpr ⟨rfl, hlong⟩)

/-- **The commands that fail**, and why. -/
theorem fails_perform (h : bench.Working) {command : Command} {listened : Bool} :
    Fails (command.perform arguments listened) bench error ↔
      Unanswered bench command arguments error := by
  have hanswers {act : Act String} (hact : Reliable act) : ¬ Fails act bench error :=
    (hact bench h.faultless).not_fails
  cases command with
  | help => exact iff_of_false (not_fails_pure _) nofun
  | status => exact fails_runStatus h
  | showState => exact iff_of_false (hanswers reliable_overview) nofun
  | code => exact iff_of_false (hanswers reliable_runCode) nofun
  | step => exact iff_of_false (hanswers (reliable_runStep arguments listened)) nofun
  | tick => exact fails_runTick h
  | run => exact fails_runRun h
  | pause => exact iff_of_false (hanswers reliable_runPause) nofun
  | speed => exact iff_of_false (hanswers (reliable_runSpeed arguments)) nofun
  | reset => exact fails_runReset h
  | gen => exact iff_of_false (hanswers (reliable_runGen arguments)) nofun
  | feature => exact iff_of_false (hanswers (reliable_runFeature arguments)) nofun
  | load => exact fails_runLoad h
  | save => exact iff_of_false (hanswers (reliable_runSave arguments)) nofun
  | json => exact fails_runJson h
  | predict => exact iff_of_false (hanswers (reliable_runPredict arguments)) nofun

/-- A line fails exactly if it is a command that does. -/
theorem fails_handle (h : bench.Working) {line : String} {listened : Bool} :
    Fails (handle line listened) bench error ↔
      ∃ command arguments, registry.read line = .call command arguments ∧
        Unanswered bench command arguments error := by
  unfold handle
  cases registry.read line with
  | noCommand | empty | unknown => exact iff_of_false (not_fails_pure _) nofun
  | call command arguments =>
    refine (fails_bind_iff fun _ _ _ => not_fails_pure _).trans ((fails_perform h).trans ?_)
    constructor
    · exact fun hnone => ⟨command, arguments, rfl, hnone⟩
    · rintro ⟨_, _, ⟨⟩, hnone⟩
      exact hnone

/-! ## Every line of a session -/

/-- **The lines that have no answer.** Whatever command lines, entries and requests a session has
seen, as long as nothing was told to fail: a line fails exactly if it is a command without an
answer, with the error that belongs to it, and every other line is answered. The files have no
permissions: where a directory on the way of a path may not be searched, `load` fails as well. -/
theorem handle_fails_iff {options : Options} {source : Option String} {files : Tree}
    {bench : Bench} {turns : List Turn}
    (hbegins : Session.Begins options source files bench.session)
    (hturns : ∀ request, .ask request ∈ turns → request.isSabotage = false)
    (line : String) (listened : Bool) :
    let reached := bench.playAll turns
    (∀ error, Fails (handle line listened) reached error ↔
      ∃ command arguments, registry.read line = .call command arguments ∧
        Unanswered reached command arguments error) ∧
    ((∀ command arguments error, registry.read line = .call command arguments →
        ¬ Unanswered reached command arguments error) →
      ∃ reply after, handle line listened reached = .ok reply after) := by
  intro reached
  have hworking : bench.Working := hbegins.working
  have hfails (error : SessionError) : Fails (handle line listened) reached error ↔
      ∃ command arguments, registry.read line = .call command arguments ∧
        Unanswered reached command arguments error :=
    fails_handle (hworking.playAll hturns)
  refine ⟨hfails, fun hnone => ?_⟩
  cases hrun : handle line listened reached with
  | ok reply after => exact ⟨reply, after, rfl⟩
  | error error after =>
    obtain ⟨command, arguments, hread, hunanswered⟩ := (hfails error).mp ⟨after, hrun⟩
    exact absurd hunanswered (hnone command arguments error hread)

/-- A tick of any size. -/
def tickOf (n : Int) : List Turn :=
  [.ask (.tick (some (.whole n)))]

theorem after_tickOf (n : Int) :
    let sim := (Bench.playAll { session := Session.printerSession } (tickOf n)).session.simulator
    sim.loop.clock = 0 + max 0 n ∧ sim.tickMs = 100 := ⟨rfl, rfl⟩

/-- After a tick of that size the clock cannot be shown, but what is said of the next tick can. -/
theorem handle_fails_iff_longTick :
    Session.Begins Session.plainOptions (some "console.log('A');") {} Session.printerSession ∧
    (∀ request, .ask request ∈ tickOf (Nat.pow 10 maxDigits) → request.isSabotage = false) ∧
    let reached :=
      Bench.playAll { session := Session.printerSession } (tickOf (Nat.pow 10 maxDigits))
    Fails (handle "/json" true) reached (.simulator (.numeral .tooLarge)) ∧
      ∃ reply after, handle "/tick" true reached = .ok reply after := by
  have hbegins := Session.begins_printer
  have hturns : ∀ request, .ask request ∈ tickOf (Nat.pow 10 maxDigits) →
      request.isSabotage = false := by
    intro request hmem
    cases List.mem_singleton.mp hmem
    rfl
  obtain ⟨hclock, htick⟩ := after_tickOf (Nat.pow 10 maxDigits)
  refine ⟨hbegins, hturns, ?_, ?_⟩
  · have hlong : Oversized (0 + max 0 ((Nat.pow 10 maxDigits : Nat) : Int)) := by
      unfold Oversized
      omega
    rw [← hclock] at hlong
    exact ((handle_fails_iff hbegins hturns "/json" true).1 _).mpr
      ⟨.json, [], rfl, .json ⟨_, List.mem_cons_self, hlong⟩⟩
  · refine (handle_fails_iff hbegins hturns "/tick" true).2
      fun command arguments error hread hnone => ?_
    have htyped : registry.read "/tick" = .call .tick [] := rfl
    cases htyped.symm.trans hread
    cases hnone with
    | tick _ hlong =>
      have hsmall : ¬ Oversized 100 :=
        not_oversized_of_lt (by decide : (100 : Int).natAbs < Nat.pow 10 3) (by decide)
      rw [htick] at hlong
      exact hsmall hlong

/-! ### A file whose name is too long -/

/-- A word in front of words that were split off already. -/
theorem foldr_step_word {cs : List Char} (h : ∀ c ∈ cs, isBlank c = false)
    (rest : List (List Char)) : cs.foldr words.step ([], rest) = (cs, rest) := by
  induction cs with
  | nil => rfl
  | cons c cs ih =>
    have hc : ¬ isBlank c = true := ne_true_of_eq_false (h c List.mem_cons_self)
    rw [List.foldr_cons, ih fun other hmem => h other (List.mem_cons_of_mem c hmem), words.step,
      if_neg hc]

theorem close_word {cs : List Char} (hne : cs ≠ []) (rest : List (List Char)) :
    words.close cs rest = cs :: rest :=
  if_neg fun hempty => hne (List.isEmpty_iff.mp hempty)

/-- A blank divides two words. -/
theorem words_pair {first second : List Char} (hfirst : first ≠ []) (hsecond : second ≠ [])
    (hletters : ∀ c ∈ first, isBlank c = false) (hothers : ∀ c ∈ second, isBlank c = false) :
    words (first ++ ' ' :: second) = [first, second] := by
  have hblank : isBlank ' ' = true := by decide
  rw [words, List.foldr_append, List.foldr_cons, foldr_step_word hothers, words.step,
    if_pos hblank, foldr_step_word hletters]
  dsimp only
  rw [close_word hsecond, close_word hfirst]

/-- A line with a name and one argument. -/
theorem read_pair {name argument : List Char} {command : Command} (hname : name ≠ [])
    (hargument : argument ≠ []) (hletters : ∀ c ∈ name, isBlank c = false)
    (hothers : ∀ c ∈ argument, isBlank c = false)
    (hfind : registry.find? (String.ofList (lower name)) = some command) {line : String}
    (hline : line.toList = '/' :: (name ++ ' ' :: argument)) :
    registry.read line = .call command [String.ofList argument] := by
  simp only [Registry.read, hline, words_pair hname hargument hletters hothers, hfind,
    List.map_cons, List.map_nil]

/-- A line that asks for a file. -/
theorem read_load {cs : List Char} (hname : cs ≠ []) (h : ∀ c ∈ cs, isBlank c = false) :
    registry.read ("/load " ++ String.ofList cs) = .call .load [String.ofList cs] := by
  have hline : ("/load " ++ String.ofList cs).toList = '/' :: (['l', 'o', 'a', 'd'] ++ ' ' :: cs) :=
    String.toList_append.trans (congrArg ("/load ".toList ++ ·) String.toList_ofList)
  exact read_pair (by decide) hname (by simp [isBlank]) h (by decide) hline

/-- **No session can be asked for a file with a name of more than 255 bytes.** -/
theorem load_fails_of_name (h : bench.Working) (listened : Bool) {cs : List Char}
    (hblank : ∀ c ∈ cs, isBlank c = false) (hslash : '/' ∉ cs) (hnul : Char.ofNat 0 ∉ cs)
    (hlong : Tree.maxNameBytes < (String.ofList cs).utf8ByteSize) :
    Fails (handle ("/load " ++ String.ofList cs) listened) bench
      (.file (.nameTooLong (Path.ofString (String.ofList cs)))) := by
  have hname : cs ≠ [] := by
    rintro rfl
    exact absurd hlong (by decide)
  exact (fails_handle h).mpr
    ⟨.load, _, read_load hname hblank, .overlong (Tree.overlong_of_name _ hslash hnul hlong)⟩

/-- One letter more than a name may have. -/
theorem load_unanswered :
    Session.start Session.plainOptions (some "console.log('A');") {} =
      .ok (Session.printerSession, {}) ∧
    Fails (handle ("/load " ++ String.ofList (List.replicate 256 'a')) true)
      { session := Session.printerSession }
      (.file (.nameTooLong (Path.ofString (String.ofList (List.replicate 256 'a'))))) := by
  have hworking : Bench.Working { session := Session.printerSession } :=
    Session.begins_printer.working
  have hletter {c : Char} (hmem : c ∈ List.replicate 256 'a') : c = 'a' :=
    List.eq_of_mem_replicate hmem
  refine ⟨Session.start_printer, load_fails_of_name hworking true (fun c hmem => ?_)
    (fun hmem => ?_) (fun hmem => ?_) (by decide +kernel)⟩
  · rw [hletter hmem]
    rfl
  · exact absurd (hletter hmem) (by decide)
  · exact absurd (hletter hmem) (by decide)

end Command

end LoopStepper
