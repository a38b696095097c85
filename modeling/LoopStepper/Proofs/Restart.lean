import LoopStepper.Proofs.Deeds
import LoopStepper.Proofs.Opening
import LoopStepper.Proofs.Saved

/-!
# Starting again

When a session ends its script is saved, and the next session with the same options starts with it.
The directories that the options name are there from the start of the first session, and nothing
that happens in it takes one away (`Prepared.perform`), so the next start has nothing to create. It
finds the text that was saved, if that has no carriage return, and starts with its program
(`start_of_saved`).

A start reads the script, and nothing stands in front of that. A fresh start that failed has left a
text behind that cannot be read; if such a text was saved, no session with these options starts
any more (`no_start_after_save`).

Headline:
* **`restart_of_saved`**: what comes of a start with the files that a session left behind.
-/

namespace LoopStepper

namespace Session

/-! ## Directories -/

/-- The directories that options name are there. -/
inductive Ready (options : Options) (files : Tree) : Prop
  | intro {dataDir scriptPath snapshotPath : Path} (hdata : options.dataDir = some dataDir)
      (hscript : options.scriptPath = some scriptPath)
      (hsnapshot : options.snapshotPath = some snapshotPath) (data : files.Passable dataDir)
      (script : files.Passable scriptPath.parent) (snapshot : files.Passable snapshotPath.parent)

theorem required_eq_ok {α : Type} {name : String} {value : Option α} {a : α} :
    required name value = .ok a ↔ value = some a := by
  cases value <;> simp [required]

theorem prepare_eq_ok {files later : Tree} {path : Path} :
    prepare files path = .ok later ↔ files.makeDirectories path = (later, .ok ()) := by
  unfold prepare
  obtain ⟨made, result⟩ := files.makeDirectories path
  cases result <;> simp

variable {options : Options} {files later : Tree}

/-- Once they were created, the directories are there. -/
theorem ready_of_prepareAll (h : prepareAll files options = .ok later) : Ready options later := by
  obtain ⟨dataDir, hdata, h⟩ := bind_eq_ok.mp h
  obtain ⟨first, hfirst, h⟩ := bind_eq_ok.mp h
  obtain ⟨scriptPath, hscript, h⟩ := bind_eq_ok.mp h
  obtain ⟨second, hsecond, h⟩ := bind_eq_ok.mp h
  obtain ⟨snapshotPath, hsnapshot, hthird⟩ := bind_eq_ok.mp h
  have hpassable {tree made : Tree} {path : Path} (hmade : prepare tree path = .ok made) :
      made.Passable path ∧ tree.Keeps made := by
    have hmade := prepare_eq_ok.mp hmade
    have hkeeps := tree.keeps_makeDirectories path
    rw [hmade] at hkeeps
    exact ⟨Tree.passable_of_makeDirectories hmade, hkeeps⟩
  obtain ⟨hdataDir, -⟩ := hpassable hfirst
  obtain ⟨hscriptDir, hkept⟩ := hpassable hsecond
  obtain ⟨hsnapshotDir, hlast⟩ := hpassable hthird
  exact ⟨required_eq_ok.mp hdata, required_eq_ok.mp hscript, required_eq_ok.mp hsnapshot,
    (hkept.trans hlast).passable hdataDir, hlast.passable hscriptDir, hsnapshotDir⟩

theorem Ready.keep (h : Ready options files) (hkeeps : files.Keeps later) :
    Ready options later := by
  cases h with
  | intro hdata hscript hsnapshot data script snapshot =>
    exact ⟨hdata, hscript, hsnapshot, hkeeps.passable data, hkeeps.passable script,
      hkeeps.passable snapshot⟩

/-- Directories that are there are not created again. -/
theorem Ready.prepareAll (h : Ready options files) : prepareAll files options = .ok files := by
  cases h with
  | intro hdata hscript hsnapshot data script snapshot =>
    have hprepare {path : Path} (hpath : files.Passable path) : prepare files path = .ok files :=
      prepare_eq_ok.mpr (Tree.makeDirectories_of_passable hpath)
    refine bind_eq_ok.mpr ⟨_, required_eq_ok.mpr hdata, bind_eq_ok.mpr ⟨_, hprepare data, ?_⟩⟩
    refine bind_eq_ok.mpr ⟨_, required_eq_ok.mpr hscript, bind_eq_ok.mpr ⟨_, hprepare script, ?_⟩⟩
    exact bind_eq_ok.mpr ⟨_, required_eq_ok.mpr hsnapshot, hprepare snapshot⟩

theorem reset_options (session : Session) (source : Option String) (autoplay : Bool) :
    (session.reset source autoplay).2.1.options = session.options := by
  unfold reset
  dsimp only
  cases (session.simulator.reset source autoplay).result <;> rfl

/-! ## What happens in a session -/

/-- A session still has its options, and the directories that they name are there. -/
structure Prepared (options : Options) (bench : Bench) : Prop where
  options_eq : bench.session.options = options
  ready : Ready options bench.files

/-- Whatever happens in a session, no directory is taken away. -/
theorem Prepared.perform {bench : Bench} (h : Prepared options bench) (deed : Deed) :
    Prepared options (bench.perform deed) := by
  cases deed with
  | say | choose | enable => exact ⟨h.options_eq, h.ready⟩
  | ask | look =>
    rw [Bench.perform, Bench.after_operate]
    exact ⟨h.options_eq, h.ready⟩
  | restart source autoplay =>
    rw [Bench.perform, Bench.after_reset]
    exact ⟨(reset_options _ _ _).trans h.options_eq, h.ready⟩
  | save path text => exact ⟨h.options_eq, h.ready.keep (Tree.keeps_saveText _ _ _)⟩
  | move source target =>
    unfold Bench.perform
    dsimp only
    split <;> exact ⟨h.options_eq, h.ready⟩

theorem saveScript_eq (bench : Bench) :
    Bench.saveScript bench =
      if bench.session.options.saveScript.getD false then
        Bench.saveText bench.session.options.scriptPath bench.session.simulator.source bench
      else .ok none bench := by
  have hrun : Bench.saveScript bench =
      (if bench.session.options.saveScript.getD false then
        Bench.saveScriptTo bench.session.options.scriptPath
      else pure none : Act (Option Path)) bench := rfl
  rw [hrun]
  split <;> rfl

/-- A text that was saved is in the file that was named. -/
theorem saved_of_saveText {bench after : Bench} {target : Option Path} {path : Path} {text : String}
    (h : Bench.saveText target text bench = .ok (some path) after) :
    target = some path ∧ bench.files.saveText path text = (after.files, true) ∧
      after.session = bench.session := by
  unfold Bench.saveText at h
  split at h
  · cases h
  · next place =>
    cases hfiles : bench.files.saveText place text with
    | mk files saved =>
      rw [hfiles] at h
      cases saved with
      | false => cases h
      | true =>
        cases h
        exact ⟨rfl, hfiles, rfl⟩

/-- A text that the files take is saved. -/
theorem saveText_of_saved {bench : Bench} {path : Path} {text : String} {files : Tree}
    (h : bench.files.saveText path text = (files, true)) :
    Bench.saveText (some path) text bench = .ok (some path) { bench with files } := by
  unfold Bench.saveText
  dsimp only
  rw [h]
  rfl

/-- A script that was saved is the source, in the file that the options name. -/
theorem saved_of_saveScript {bench after : Bench} {path : Path}
    (h : Bench.saveScript bench = .ok (some path) after) :
    bench.session.options.scriptPath = some path ∧
      bench.files.saveText path bench.session.simulator.source = (after.files, true) ∧
      after.session = bench.session := by
  rw [saveScript_eq] at h
  split at h
  · exact saved_of_saveText h
  · cases h

/-- **A start with a script that was saved.** It starts with that text, or fails to read it. -/
theorem start_of_saved {options : Options} {files later : Tree} {path : Path} {text : String}
    (hready : Ready options files) (hpath : options.scriptPath = some path)
    (hsaved : files.saveText path text = (later, true)) (hplain : '\r' ∉ text.toList) :
    start options none later = openWith options later text := by
  have hkeeps := files.keeps_saveText path text
  rw [hsaved] at hkeeps
  have htext : firstText options none later = .ok text := by
    rw [firstText, savedScript, hpath]
    dsimp only
    rw [Tree.loadScript_of_saveText hsaved hplain]
    rfl
  rw [start_eq, (hready.keep hkeeps).prepareAll]
  change firstText options none later >>= openWith options later = _
  rw [htext]
  rfl

/-- A session ends by saving the script, after an attempt to turn the automatic run off. -/
theorem shutdown_of_saveScript {bench after : Bench} {path : Option Path}
    (h : Bench.saveScript (Bench.after (Bench.attempt (Bench.operate Simulator.pause)) bench) =
      .ok path after) :
    Bench.shutdown bench = .ok () after := by
  unfold Bench.after Bench.attempt at h
  unfold Bench.shutdown Bench.attempt
  simp only [bind, EStateM.bind]
  cases hpause : Bench.operate Simulator.pause bench <;> rw [hpause] at h <;> simp only [h] <;> rfl

/-- **A start with the files that a session left behind.** Whatever happened in the session, and
whether it succeeded or failed: if the script was saved at its end, and holds no carriage return,
then a start with the same options leaves the files as they are, and starts with the text that was
saved and the program read from it. It fails if that text cannot be read, and only then. -/
theorem restart_of_saved {options : Options} {source : Option String} {files opened : Tree}
    {session : Session} {turns : List Turn} {path : Path} {after : Bench}
    (hstart : start options source files = .ok (session, opened))
    (hsaved : Bench.saveScript (Bench.after (Bench.attempt (Bench.operate Simulator.pause))
      (Bench.playAll { session, files := opened } turns)) = .ok (some path) after)
    (hplain : '\r' ∉ after.session.simulator.source.toList) :
    let text := after.session.simulator.source
    Bench.shutdown (Bench.playAll { session, files := opened } turns) = .ok () after ∧
      (∀ program, Script.parse text = .ok program →
        ∃ again, start options none after.files = .ok (again, after.files) ∧
          again.simulator.source = text ∧ again.simulator.program = program ∧
          again.simulator.loop = .start program) ∧
      ∀ error, Script.parse text = .error error →
        start options none after.files = .error (.simulator (.numeral error)) := by
  obtain ⟨first, tickMs, intervalMs, shuffler, program, hprepared, -, hsettled, -, rfl⟩ :=
    start_eq_ok.mp hstart
  have hbegan : Prepared options
      { session := fresh options first program tickMs intervalMs shuffler, files := opened } :=
    ⟨rfl, ready_of_prepareAll hprepared⟩
  have hplayed := Bench.playAll_invariant (motive := Prepared options) (fun _ => True)
    (fun _ deed _ h => h.perform deed) (fun _ _ => trivial) hbegan
    fun request (_ : .ask request ∈ turns) => trivial
  obtain ⟨deeds, -, hdeeds⟩ := Bench.composed_attempt Bench.composed_pause (Bench.playAll _ turns)
  have hended := Bench.performAll_invariant (motive := Prepared options) (fun _ => True)
    (fun _ deed _ h => h.perform deed) hplayed fun deed (_ : deed ∈ deeds) => trivial
  rw [← hdeeds] at hended
  obtain ⟨hpath, hfiles, hsession⟩ := saved_of_saveScript hsaved
  rw [hended.options_eq] at hpath
  rw [hsession] at hplain ⊢
  have hagain := start_of_saved hended.ready hpath hfiles hplain
  refine ⟨shutdown_of_saveScript hsaved, fun program hread => ?_, fun error hread => ?_⟩
  · refine ⟨fresh options _ program tickMs intervalMs shuffler,
      hagain.trans (openWith_eq_ok.mpr ?_), rfl, rfl, rfl⟩
    exact ⟨tickMs, intervalMs, shuffler, program, hsettled, hread, rfl, rfl⟩
  · exact hagain.trans (openWith_of_unread hsettled hread)

/-- The files and the session of one print call after a step and the end of the session. -/
def savedPrinter : Bench :=
  Bench.after Bench.saveScript (Bench.after (Bench.attempt (Bench.operate Simulator.pause))
    (Bench.playAll { session := printerSession } [.ask .step]))

theorem restart_of_saved_printer :
    start plainOptions (some "console.log('A');") {} = .ok (printerSession, {}) ∧
      Bench.saveScript (Bench.after (Bench.attempt (Bench.operate Simulator.pause))
        (Bench.playAll { session := printerSession } [.ask .step])) =
          .ok (some (Path.ofString "script.js")) savedPrinter ∧
      '\r' ∉ savedPrinter.session.simulator.source.toList ∧
      ∃ again, start plainOptions none savedPrinter.files = .ok (again, savedPrinter.files) ∧
        again.simulator.source = "console.log('A');" ∧
        again.simulator.program = Simulator.printer.program := by
  have hsaved : Bench.saveScript (Bench.after (Bench.attempt (Bench.operate Simulator.pause))
      (Bench.playAll { session := printerSession } [.ask .step])) =
        .ok (some (Path.ofString "script.js")) savedPrinter := rfl
  have hplain : '\r' ∉ savedPrinter.session.simulator.source.toList := by
    change '\r' ∉ "console.log('A');".toList
    decide
  have hread : Script.parse savedPrinter.session.simulator.source = .ok Simulator.printer.program :=
    (Fits.create Simulator.create_printer).read
  obtain ⟨again, hagain, hsource, hprogram, -⟩ :=
    (restart_of_saved start_printer hsaved hplain).2.1 _ hread
  exact ⟨start_printer, hsaved, hplain, again, hagain, hsource, hprogram⟩

/-! ## A session that cannot be started again -/

/-- A script that is entered and cannot be read is the source all the same. -/
theorem after_accept_unread (bench : Bench) {source : String} {error : Text.NumeralError}
    (hop : .reset ∉ bench.session.simulator.faults) (hread : Script.parse source = .error error) :
    Bench.after (Console.accept source) bench =
      { bench with
        session := { bench.session with
          simulator := { bench.session.simulator with source } }
        echo := ⟨bench.echo.last, []⟩
        said := .line "Internal error while loading the script." :: bench.said } := by
  have hreset : Bench.reset (some source) false bench =
      .error (.simulator (.numeral error))
        { bench with
          session := { bench.session with
            simulator := { bench.session.simulator with source } }
          echo := ⟨bench.echo.last, []⟩ } := by
    rw [Bench.reset, reset, Simulator.reset_of_unread _ (some source) false hop hread]
    rfl
  simp only [Bench.after, Console.accept, bind, EStateM.bind, Bench.attempt, hreset]
  rfl

/-- Any text that cannot be read is saved when it was entered, and not read at the next start. -/
theorem unread_restart {text : String} {error : Text.NumeralError}
    (hread : Script.parse text = .error error) (hplain : '\r' ∉ text.toList) :
    ∃ saved : Bench,
      Bench.saveScript (Bench.after (Bench.attempt (Bench.operate Simulator.pause))
        (Bench.playAll { session := printerSession } [.entry text])) =
          .ok (some (Path.ofString "script.js")) saved ∧
      saved.session.simulator.source = text ∧
      start plainOptions none saved.files = .error (.simulator (.numeral error)) := by
  have hentered : Bench.playAll { session := printerSession } [.entry text] =
      { session := { printerSession with
          simulator := { printerSession.simulator with source := text } }
        said := [.line "Internal error while loading the script."] } :=
    after_accept_unread { session := printerSession } List.not_mem_nil hread
  have hready : Ready plainOptions {} := ready_of_prepareAll rfl
  obtain ⟨files, hfiles⟩ : ∃ files,
      Tree.saveText {} (Path.ofString "script.js") text = (files, true) :=
    ⟨_, Tree.saveText_of_save rfl⟩
  rw [hentered]
  refine ⟨_, (saveScript_eq _).trans (saveText_of_saved hfiles), rfl, ?_⟩
  have hagain := start_of_saved hready rfl hfiles hplain
  exact hagain.trans (openWith_of_unread ⟨rfl, rfl, rfl⟩ hread)

/-- A text with one digit too many. -/
def unreadable : String :=
  Script.emptyTimeout (List.replicate 4301 '1')

theorem parse_unreadable : Script.parse unreadable = .error (.tooManyDigits 4301) :=
  Script.parse_ones (by decide)

theorem notMem_emptyTimeout {digits : List Char} (h : ∀ c ∈ digits, c.isDigit = true) :
    '\r' ∉ (Script.emptyTimeout digits).toList := by
  have hdigits : '\r' ∉ digits := fun hmem => absurd (h _ hmem) (by decide)
  have htext : (Script.emptyTimeout digits).toList =
      "setTimeout(() => \x7b".toList ++ '\n' :: Script.delayLine digits :=
    String.toList_ofList
  rw [htext, Script.delayLine_eq]
  simp [hdigits]

/-- **What was entered in one session keeps the next from starting**: the text could not be read,
was saved all the same, and is read first thing. -/
theorem no_start_after_save :
    start plainOptions (some "console.log('A');") {} = .ok (printerSession, {}) ∧
    '\r' ∉ unreadable.toList ∧
    ∃ saved : Bench,
      Bench.saveScript (Bench.after (Bench.attempt (Bench.operate Simulator.pause))
        (Bench.playAll { session := printerSession } [.entry unreadable])) =
          .ok (some (Path.ofString "script.js")) saved ∧
      saved.session.simulator.source = unreadable ∧
      start plainOptions none saved.files =
        .error (.simulator (.numeral (.tooManyDigits 4301))) :=
  have hplain := notMem_emptyTimeout (Script.isDigit_of_mem_ones 4301)
  ⟨start_printer, hplain, unread_restart parse_unreadable hplain⟩

end Session

end LoopStepper
