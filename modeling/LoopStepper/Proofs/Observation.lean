import LoopStepper.Proofs.AllOrNothing
import LoopStepper.Proofs.Refusals

/-!
# Lines that leave a session alone

Many lines only look, and many are refused. A line that is no command, or asks for a command that
there is not, has no effect at all. Neither has a command that is refused, since its arguments are
looked at before anything is changed. A command that shows or saves something may use up a fault
that it was told to have, and leaves the session as it was otherwise (`Bench.Spared`).

Which lines these are is said in terms of their words: `Command.names` are the names and aliases of
a command, in lower case, and the registry finds the command by exactly these
(`find?_eq_some_iff`). `Command.Harmless` are the calls that look or are refused, and
`Command.Unobtrusive` the lines that make such a call or none.

Headline:
* **`unobtrusive_spares`**: such a line leaves the session alone, whether it is answered or fails.
-/

namespace LoopStepper

open Text

namespace Bench

variable {α β : Type} {bench : Bench}

/-- An action that spares every session, whether it succeeds or fails. -/
def Sparing (act : Act α) : Prop :=
  ∀ bench, Spared bench (after act bench)

theorem sparing_of_after_eq {act : Act α} (h : ∀ bench, after act bench = bench) : Sparing act :=
  fun bench => .of_eq (congrArg Bench.session (h bench))

theorem sparing_pure (a : α) : Sparing (pure a : Act α) :=
  sparing_of_after_eq fun _ => rfl

/-- An action behind another one, which is left out if the first fails. -/
theorem Spared.bind {act : Act α} {next : α → Act β} (hact : Spared bench (after act bench))
    (hnext : ∀ a, Sparing (next a)) : Spared bench (after (act >>= next) bench) := by
  rcases after_bind_cases act next bench with ⟨a, hboth⟩ | hfirst
  · rw [hboth]
    exact hact.trans (hnext a _)
  · rwa [hfirst]

theorem sparing_bind {act : Act α} {next : α → Act β} (hact : Sparing act)
    (hnext : ∀ a, Sparing (next a)) : Sparing (act >>= next) :=
  fun bench => (hact bench).bind hnext

/-- What depends on the bench that is found. -/
theorem sparing_get_bind {next : Bench → Act α} (h : ∀ bench, Sparing (next bench)) :
    Sparing (get >>= next) :=
  fun bench => h bench bench

theorem sparing_found {act : Option α → Act β} (hnone : Sparing (act none))
    (hsome : ∀ a, Sparing (act (some a))) (found : Option α) : Sparing (act found) := by
  cases found with
  | none => exact hnone
  | some a => exact hsome a

theorem sparing_written (result : Except NumeralError α) : Sparing (written result) := by
  cases result <;> exact sparing_of_after_eq fun _ => rfl

theorem sparing_view : Sparing (operate Simulator.view) := by
  intro bench
  obtain ⟨middle, hlook | ⟨error, hlook⟩, -, hspared⟩ := look_cases bench <;>
    simpa only [after, hlook] using hspared

theorem sparing_saveText (target : Option Path) (text : String) :
    Sparing (saveText target text) := by
  cases target with
  | none => exact sparing_of_after_eq fun _ => rfl
  | some path => exact fun bench => .of_eq rfl

theorem sparing_saveScriptTo (target : Option Path) : Sparing (saveScriptTo target) :=
  fun bench => sparing_saveText target bench.session.simulator.source bench

theorem sparing_saveScript : Sparing saveScript := by
  refine sparing_get_bind fun bench => ?_
  dsimp only
  split
  · exact sparing_saveScriptTo _
  · exact sparing_pure none

theorem sparing_saveSnapshot (path : Path) : Sparing (saveSnapshot (some path)) := by
  intro bench
  have htarget : (some path).or bench.session.options.snapshotPath = some path := Option.some_or
  obtain ⟨saved, last, text, hrun, -, -, hspared⟩ := saving_saveSnapshot bench htarget
  simpa only [after, hrun] using hspared

end Bench

namespace Command

open Bench

/-! ## Names -/

/-- The names of a command, in lower case. -/
def names : Command → List String
  | .help => ["help", "h", "?"]
  | .status => ["status"]
  | .showState => ["show", "s"]
  | .code => ["code"]
  | .step => ["step", "n"]
  | .tick => ["tick"]
  | .run => ["run", "play"]
  | .pause => ["pause"]
  | .speed => ["speed"]
  | .reset => ["reset"]
  | .gen => ["gen"]
  | .feature => ["feature"]
  | .load => ["load"]
  | .save => ["save"]
  | .json => ["json"]
  | .predict => ["predict"]

/-- The handlers that are registered, each under a name of its command. -/
theorem names_of_handlers : ∀ handler ∈ registry.handlers, handler.1 ∈ handler.2.names := by
  decide

/-- **A command is found by its names.** -/
theorem find?_eq_some_iff {name : String} {command : Command} :
    registry.find? name = some command ↔ name ∈ command.names := by
  constructor
  · intro hfind
    obtain ⟨front, back, hhandlers, -⟩ := List.lookup_eq_some_iff.mp hfind
    exact names_of_handlers (name, command) (by simp [hhandlers])
  · have hall : ∀ name ∈ command.names, registry.find? name = some command := by
      cases command <;> decide
    exact hall name

/-! ## Calls that look or are refused -/

/-- A word that names a place of the guess, counted from one. What is no number names none. -/
def NamesPlace (bench : Bench) (word : String) : Prop :=
  1 ≤ readIntD word 0 ∧ readIntD word 0 ≤ bench.session.prediction.items.length

/-- Calls that look at a session, save something of it, or are refused. -/
inductive Harmless (bench : Bench) : Command → List String → Prop
  | help {arguments : List String} : Harmless bench .help arguments
  | status {arguments : List String} : Harmless bench .status arguments
  | showState {arguments : List String} : Harmless bench .showState arguments
  | code {arguments : List String} : Harmless bench .code arguments
  | json {arguments : List String} : Harmless bench .json arguments
  | save {arguments : List String} : Harmless bench .save arguments
  | speed : Harmless bench .speed []
  | features : Harmless bench .feature []
  /-- There is no feature of that name. -/
  | feature {name : String} {rest : List String}
      (hname : ∀ feature : Feature, lowerString feature.name ≠ lowerString name) :
      Harmless bench .feature (name :: rest)
  /-- There is no complexity of that name. -/
  | gen {name : String} {rest : List String}
      (hname : ∀ complexity : Complexity, complexity.label ≠ lowerString name) :
      Harmless bench .gen (name :: rest)
  | loadNothing : Harmless bench .load []
  /-- There is no file that can be read. -/
  | load {name : String} {rest : List String}
      (hfile : ∀ text, bench.files.loadScript (Path.ofString name) ≠ .ok (some text)) :
      Harmless bench .load (name :: rest)
  | guess : Harmless bench .predict []
  /-- The guess is checked, or asked for something that cannot be done with it. -/
  | predict {word : String} {rest : List String} (hword : lowerString word ≠ "move") :
      Harmless bench .predict (word :: rest)
  /-- A place is missing. -/
  | moveShort {word : String} {rest : List String} (hshort : rest.length < 2) :
      Harmless bench .predict (word :: rest)
  /-- There is no such place. -/
  | moveOutside {word source target : String} {rest : List String}
      (hplaces : ¬ (NamesPlace bench source ∧ NamesPlace bench target)) :
      Harmless bench .predict (word :: source :: target :: rest)

variable {bench : Bench} {command : Command} {arguments : List String}

theorem sparing_overview : Sparing overview :=
  sparing_bind sparing_view fun _ => sparing_pure _

theorem sparing_runStatus : Sparing runStatus :=
  sparing_get_bind fun _ => sparing_bind (sparing_written _) fun _ => sparing_pure _

theorem sparing_runSave (arguments : List String) : Sparing (runSave arguments) := by
  refine sparing_get_bind fun bench => ?_
  dsimp only
  split
  · exact sparing_bind (sparing_saveScriptTo _)
      (sparing_found (sparing_pure _) fun _ => sparing_pure _)
  · exact sparing_bind (sparing_saveScriptTo _)
      (sparing_found (sparing_pure _) fun _ => sparing_pure _)
  · exact sparing_bind sparing_saveScript
      (sparing_found (sparing_pure _) fun _ => sparing_pure _)

theorem sparing_runJson (arguments : List String) : Sparing (runJson arguments) := by
  unfold runJson
  split
  · exact sparing_bind sparing_view fun _ => sparing_written _
  · exact sparing_bind (sparing_saveSnapshot _)
      (sparing_found (sparing_pure _) fun _ => sparing_pure _)

/-- The name of a feature is looked up before anything is changed. -/
theorem after_feature_unknown {name : String} (rest : List String)
    (h : ∀ feature : Feature, lowerString feature.name ≠ lowerString name) :
    after (runFeature (name :: rest)) bench = bench := by
  have hnone : Feature.ofName? name = none := by simp [Feature.ofName?, h]
  rw [runFeature, after_get_bind]
  dsimp only
  rw [hnone]
  rfl

/-- So is the name of a complexity. -/
theorem after_gen_unknown {name : String} (rest : List String)
    (h : ∀ complexity : Complexity, complexity.label ≠ lowerString name) :
    after (runGen (name :: rest)) bench = bench := by
  have hnone : Complexity.ofName? name = none := by simp [Complexity.ofName?, h]
  unfold after
  simp only [runGen, List.head?_cons, hnone, bind, EStateM.bind, pure, EStateM.pure]

/-- A file that is not read is not started with, and neither is one that cannot be asked for. -/
theorem after_load_unread {name : String} (rest : List String)
    (h : ∀ text, bench.files.loadScript (Path.ofString name) ≠ .ok (some text)) :
    after (runLoad (name :: rest)) bench = bench := by
  have hload := loadScript_eq name bench
  unfold after
  simp only [runLoad, List.head?_cons, bind, EStateM.bind]
  cases hfile : bench.files.loadScript (Path.ofString name) with
  | error cause =>
    rw [hfile] at hload
    simp only [hload]
  | ok found =>
    cases found with
    | none =>
      rw [hfile] at hload
      simp only [hload, pure, EStateM.pure]
    | some text => exact absurd hfile (h text)

/-- Without the word for it, no item of the guess is moved. -/
theorem after_predict_of_ne {word : String} (rest : List String) (h : lowerString word ≠ "move") :
    after (runPredict (word :: rest)) bench = bench := by
  rw [runPredict, after_get_bind]
  dsimp only
  rw [if_neg h]
  split
  · split <;> rfl
  · rfl

theorem after_move_short (word : String) {rest : List String} (h : rest.length < 2) :
    after (runPredict (word :: rest)) bench = bench := by
  by_cases hword : lowerString word = "move"
  · rw [runPredict, after_get_bind]
    dsimp only
    rw [if_pos hword]
    match rest with
    | [] => rfl
    | [_] => rfl
  · exact after_predict_of_ne rest hword

/-- The places are looked up before an item is moved. -/
theorem after_move_outside (word : String) {source target : String} (rest : List String)
    (h : ¬ (NamesPlace bench source ∧ NamesPlace bench target)) :
    after (runPredict (word :: source :: target :: rest)) bench = bench := by
  by_cases hword : lowerString word = "move"
  · have hnone : bench.session.prediction.move? (readIntD source 0 - 1) (readIntD target 0 - 1) =
        none := by
      refine if_neg fun hin => h ?_
      unfold NamesPlace
      omega
    rw [runPredict, after_get_bind]
    dsimp only
    rw [if_pos hword, moveItem, after_get_bind]
    dsimp only
    rw [hnone]
    rfl
  · exact after_predict_of_ne _ hword

/-- **A harmless call spares the session**, whether it is answered or fails. -/
theorem Harmless.spared (h : Harmless bench command arguments) (listened : Bool) :
    Spared bench (after (command.perform arguments listened) bench) := by
  have hsame {act : Act String} (hact : after act bench = bench) : Spared bench (after act bench) :=
    .of_eq (congrArg Bench.session hact)
  cases h with
  | help | code | speed | features | loadNothing | guess => exact hsame rfl
  | status => exact sparing_runStatus bench
  | showState => exact sparing_overview bench
  | save => exact sparing_runSave arguments bench
  | json => exact sparing_runJson arguments bench
  | @feature name rest hname => exact hsame (after_feature_unknown rest hname)
  | @gen name rest hname => exact hsame (after_gen_unknown rest hname)
  | @load name rest hfile => exact hsame (after_load_unread rest hfile)
  | @predict word rest hword => exact hsame (after_predict_of_ne rest hword)
  | @moveShort word rest hshort => exact hsame (after_move_short word hshort)
  | @moveOutside word source target rest hplaces =>
    exact hsame (after_move_outside word rest hplaces)

/-! ## Lines -/

/-- A line that is no command, asks for a command that there is not, or makes a harmless call. Its
words may stand anywhere behind the slash, and the first in any case. -/
inductive Unobtrusive (bench : Bench) (line : String) : Prop
  | plain (hline : line.toList.head? ≠ some '/')
  | empty {rest : List Char} (hline : line.toList = '/' :: rest) (hwords : words rest = [])
  | unknown {rest name : List Char} {arguments : List (List Char)}
      (hline : line.toList = '/' :: rest) (hwords : words rest = name :: arguments)
      (hname : ∀ command : Command, String.ofList (lower name) ∉ command.names)
  | call {rest name : List Char} {arguments : List (List Char)} {command : Command}
      (hline : line.toList = '/' :: rest) (hwords : words rest = name :: arguments)
      (hname : String.ofList (lower name) ∈ command.names)
      (hcall : Harmless bench command (arguments.map String.ofList))

/-- Such a line asks the registry for a harmless call, or for nothing that it has. -/
theorem Unobtrusive.reading {line : String} (h : Unobtrusive bench line) :
    ∀ command arguments, registry.read line = .call command arguments →
      Harmless bench command arguments := by
  intro command arguments hread
  cases h with
  | plain hline =>
    unfold Registry.read at hread
    split at hread
    · next rest hslash => exact absurd (by rw [hslash]; rfl) hline
    · cases hread
  | empty hline hwords =>
    simp only [Registry.read, hline, hwords] at hread
    cases hread
  | @unknown rest name arguments hline hwords hname =>
    have hnone : registry.find? (String.ofList (lower name)) = none := by
      rw [Option.eq_none_iff_forall_ne_some]
      exact fun command hfind => hname command (find?_eq_some_iff.mp hfind)
    simp only [Registry.read, hline, hwords, hnone] at hread
    cases hread
  | @call rest name arguments asked hline hwords hname hcall =>
    simp only [Registry.read, hline, hwords, find?_eq_some_iff.mpr hname] at hread
    cases hread
    exact hcall

/-- **Lines that observe, or are refused, leave the session alone.** Whether such a line is answered
or fails, on whatever bench, the session is as it was, but that an operation that was told to fail
may have done so; if none was, it is the same. -/
theorem unobtrusive_spares {line : String} (h : Unobtrusive bench line) (listened : Bool) :
    Spared bench (after (handle line listened) bench) ∧
      (bench.Faultless → (after (handle line listened) bench).session = bench.session) := by
  have hspared : Spared bench (after (handle line listened) bench) := by
    have hcalls := h.reading
    unfold handle
    split
    · exact sparing_pure _ bench
    · exact sparing_pure _ bench
    · exact sparing_pure _ bench
    · next command arguments hread =>
      exact ((hcalls command arguments hread).spared listened).bind fun _ => sparing_pure _
  exact ⟨hspared, hspared.session_eq⟩

/-- A move from a place that there is not, in words of any case. -/
theorem unobtrusive_spares_move :
    let bench : Bench := { session := Session.printerSession }
    Unobtrusive bench "/ Predict MOVE 0 1 " ∧ bench.Faultless ∧
      (after (handle "/ Predict MOVE 0 1 " true) bench).session = bench.session := by
  intro bench
  have hwords : words " Predict MOVE 0 1 ".toList =
      ["Predict".toList, "MOVE".toList, "0".toList, "1".toList] := by decide
  have hname : String.ofList (lower "Predict".toList) ∈ Command.predict.names := by decide
  have hplaces : ¬ (NamesPlace bench "0" ∧ NamesPlace bench "1") := by
    rintro ⟨⟨hfirst, -⟩, -⟩
    exact absurd hfirst (by decide)
  have hline : Unobtrusive bench "/ Predict MOVE 0 1 " :=
    .call rfl hwords hname (.moveOutside hplaces)
  exact ⟨hline, rfl, (unobtrusive_spares hline true).2 rfl⟩

end Command

end LoopStepper
