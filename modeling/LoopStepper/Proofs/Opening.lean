import LoopStepper.Proofs.Failures
import LoopStepper.Proofs.History
import LoopStepper.Session.Bench

/-!
# The start of a session

A session starts in three stages (`start_eq`): the directories that the options name are created,
the text to start with is looked up (`firstText`), and the session is opened with that text
(`openWith`). It can be opened exactly if the settings are numbers and the text can be read
(`openWith_eq_ok`), and is `fresh` then.

A shuffler without a seed starts in a state that nobody knows. `Begins` says how a session may begin
if that is taken into account.
-/

namespace LoopStepper

namespace Session

/-- The kind of sample that options ask for. -/
def chosen (options : Options) : Complexity :=
  .ofName (options.complexity.getD "simple")

/-- The features that options ask for. -/
def enabled (options : Options) : Features :=
  options.features.getD fun _ => false

/-- The text that a session starts with: the given one, else the saved one, else a sample. -/
def firstText (options : Options) (source : Option String) (files : Tree) :
    Except SessionError String :=
  match source with
  | some source => .ok source
  | none =>
    (savedScript files options).map (·.getD (Script.sample (chosen options) (enabled options)))

/-- Opens a session with a text. -/
def openWith (options : Options) (files : Tree) (text : String) :
    Except SessionError (Session × Tree) := do
  let simulator ← (Simulator.create text (options.tickMs.getD (.whole 100))
    (options.intervalMs.getD (.whole 1000))).mapError .simulator
  let shuffler ← (seeded options).mapError (.simulator ∘ .quantity)
  let session : Session :=
    { options, simulator, shuffler, complexity := chosen options, features := enabled options }
  match session.reset none (options.autoplay.getD false) with
  | (.ok (), session, _) => return (session, files)
  | (.error failure, _, _) => .error (.simulator failure)

/-- **The three stages of a start.** -/
theorem start_eq (options : Options) (source : Option String) (files : Tree) :
    start options source files = (do
      let files ← prepareAll files options
      let text ← firstText options source files
      openWith options files text) := by
  unfold start
  cases prepareAll files options with
  | error error => rfl
  | ok files =>
    cases source with
    | some source => rfl
    | none =>
      cases hsaved : savedScript files options <;>
        simp only [bind, Except.bind, firstText, hsaved] <;> rfl

/-- A session that was just opened with a text. -/
def fresh (options : Options) (text : String) (program : List Task) (tickMs intervalMs : Int)
    (shuffler : Shuffler) : Session :=
  deal {
    options
    simulator := (Simulator.created text program tickMs intervalMs).restarted text program
      (options.autoplay.getD false)
    shuffler
    complexity := chosen options
    features := enabled options }

/-- The settings that have to be numbers are, so that a session with a readable text can be
opened. -/
structure Settled (options : Options) (tickMs intervalMs : Int) (shuffler : Shuffler) : Prop where
  tick : (options.tickMs.getD (.whole 100)).toInt = .ok tickMs
  interval : clampInterval (options.intervalMs.getD (.whole 1000)) = .ok intervalMs
  seed : seeded options = .ok shuffler

/-- **A session can be opened with a text if the settings are numbers and the text can be read.** -/
theorem openWith_eq_ok {options : Options} {files later : Tree} {text : String}
    {session : Session} :
    openWith options files text = .ok (session, later) ↔
      ∃ tickMs intervalMs shuffler program, Settled options tickMs intervalMs shuffler ∧
        Script.parse text = .ok program ∧
        session = fresh options text program tickMs intervalMs shuffler ∧ later = files := by
  have hreset {tickMs intervalMs : Int} {shuffler : Shuffler} {program : List Task}
      (hread : Script.parse text = .ok program) :
      reset { options
              simulator := .created text program tickMs intervalMs
              shuffler
              complexity := chosen options
              features := enabled options } none (options.autoplay.getD false) =
        (.ok (), fresh options text program tickMs intervalMs shuffler,
          [(fresh options text program tickMs intervalMs shuffler).simulator.notice .reset]) := by
    have hagain := (Simulator.created text program tickMs intervalMs).reset_of_read none
      (options.autoplay.getD false) List.not_mem_nil hread
    rw [reset, hagain]
    rfl
  constructor
  · intro h
    obtain ⟨sim, hsim, h⟩ := bind_eq_ok.mp h
    obtain ⟨shuffler, hseed, h⟩ := bind_eq_ok.mp h
    obtain ⟨tickMs, intervalMs, program, htick, hinterval, hread, rfl⟩ :=
      Simulator.create_eq_ok.mp (mapError_eq_ok.mp hsim)
    dsimp only at h
    rw [hreset hread] at h
    obtain ⟨rfl, rfl⟩ := Prod.mk.inj (Except.ok.inj h)
    exact ⟨tickMs, intervalMs, shuffler, program, ⟨htick, hinterval, mapError_eq_ok.mp hseed⟩,
      hread, rfl, rfl⟩
  · rintro ⟨tickMs, intervalMs, shuffler, program, hsettled, hread, rfl, rfl⟩
    have hcreate : Simulator.create text (options.tickMs.getD (.whole 100))
        (options.intervalMs.getD (.whole 1000)) = .ok (.created text program tickMs intervalMs) :=
      Simulator.create_eq_ok.mpr
        ⟨tickMs, intervalMs, program, hsettled.tick, hsettled.interval, hread, rfl⟩
    refine bind_eq_ok.mpr ⟨_, mapError_eq_ok.mpr hcreate, ?_⟩
    refine bind_eq_ok.mpr ⟨_, mapError_eq_ok.mpr hsettled.seed, ?_⟩
    dsimp only
    rw [hreset hread]
    rfl

/-- A session cannot be opened with a text that cannot be read. -/
theorem openWith_of_unread {options : Options} {files : Tree} {text : String}
    {tickMs intervalMs : Int} {shuffler : Shuffler} {error : Text.NumeralError}
    (hsettled : Settled options tickMs intervalMs shuffler)
    (hread : Script.parse text = .error error) :
    openWith options files text = .error (.simulator (.numeral error)) := by
  rw [openWith, Simulator.create, hsettled.tick, hsettled.interval, hread]
  rfl

/-- **What a session starts with.** -/
theorem start_eq_ok {options : Options} {source : Option String} {files later : Tree}
    {session : Session} :
    start options source files = .ok (session, later) ↔
      ∃ text tickMs intervalMs shuffler program, prepareAll files options = .ok later ∧
        firstText options source later = .ok text ∧ Settled options tickMs intervalMs shuffler ∧
        Script.parse text = .ok program ∧
        session = fresh options text program tickMs intervalMs shuffler := by
  rw [start_eq]
  constructor
  · intro h
    obtain ⟨prepared, hprepared, h⟩ := bind_eq_ok.mp h
    obtain ⟨text, htext, h⟩ := bind_eq_ok.mp h
    obtain ⟨tickMs, intervalMs, shuffler, program, hsettled, hread, hsession, rfl⟩ :=
      openWith_eq_ok.mp h
    exact ⟨text, tickMs, intervalMs, shuffler, program, hprepared, htext, hsettled, hread, hsession⟩
  · rintro ⟨text, tickMs, intervalMs, shuffler, program, hprepared, htext, hsettled, hread,
      hsession⟩
    refine bind_eq_ok.mpr ⟨later, hprepared, bind_eq_ok.mpr ⟨text, htext, ?_⟩⟩
    exact openWith_eq_ok.mpr
      ⟨tickMs, intervalMs, shuffler, program, hsettled, hread, hsession, rfl⟩

/-- How a session may begin: as it starts, but with any new game if the shuffler has no seed. -/
inductive Begins (options : Options) (source : Option String) (files : Tree) : Session → Prop
  | started {session : Session} {later : Tree}
      (h : start options source files = .ok (session, later)) : Begins options source files session
  | shuffled {session : Session} {later : Tree} (shuffler : Shuffler)
      (h : start options source files = .ok (session, later)) (hseed : options.seed.join = none) :
      Begins options source files (deal { session with shuffler })

/-- However a session begins, its simulator has just started with a text that was read. -/
theorem Begins.simulator_eq {options : Options} {source : Option String} {files : Tree}
    {session : Session} (h : Begins options source files session) :
    ∃ text program tickMs intervalMs, Script.parse text = .ok program ∧
      session.simulator = (Simulator.created text program tickMs intervalMs).restarted text program
        (options.autoplay.getD false) := by
  have hstarted {begun : Session} {later : Tree}
      (hstart : start options source files = .ok (begun, later)) :
      ∃ text program tickMs intervalMs, Script.parse text = .ok program ∧
        begun.simulator = (Simulator.created text program tickMs intervalMs).restarted text program
          (options.autoplay.getD false) := by
    obtain ⟨text, tickMs, intervalMs, shuffler, program, -, -, -, hread, rfl⟩ :=
      start_eq_ok.mp hstart
    exact ⟨text, program, tickMs, intervalMs, hread, rfl⟩
  cases h with
  | started hstart => exact hstarted hstart
  | shuffled shuffler hstart =>
    have hbegun := hstarted hstart
    exact hbegun

/-- A session begins with no operation told to fail. -/
theorem Begins.faultless {options : Options} {source : Option String} {files : Tree}
    {session : Session} (h : Begins options source files session) :
    session.simulator.faults = [] := by
  obtain ⟨text, program, tickMs, intervalMs, -, hsim⟩ := h.simulator_eq
  rw [hsim]
  rfl

/-! ## A session to start with -/

/-- Options with the paths that have to be there, and the script saved. -/
def plainOptions : Options where
  dataDir := some (Path.ofString ".")
  scriptPath := some (Path.ofString "script.js")
  snapshotPath := some (Path.ofString "snapshot.json")
  saveScript := some true

/-- A session with the simulator of one print call. -/
def printerSession : Session :=
  fresh plainOptions "console.log('A');" Simulator.printer.program 100 1000 .still

theorem start_printer :
    start plainOptions (some "console.log('A');") {} = .ok (printerSession, {}) :=
  start_eq_ok.mpr ⟨_, _, _, _, _, rfl, rfl, ⟨rfl, rfl, rfl⟩,
    (Fits.create Simulator.create_printer).read, rfl⟩

theorem begins_printer : Begins plainOptions (some "console.log('A');") {} printerSession :=
  .started start_printer

end Session

end LoopStepper
