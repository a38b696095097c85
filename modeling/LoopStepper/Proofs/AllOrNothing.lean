import LoopStepper.Proofs.Opening
import LoopStepper.Proofs.Reliable
import LoopStepper.Proofs.Saved

/-!
# Saving as a whole or not at all

A file is saved in stages: the directories above it are created, the text gets its bytes, these are
written under a temporary name, and the temporary file takes the place of the file. Each stage can
fail, writing also in the middle: the temporary file is empty from when it is opened, and stays so
if the text has no UTF-8 form; it holds some first bytes if the medium breaks off. Only the last
stage changes the file itself, and it either does so or fails, so however far a save gets, the file
is what it was or all of what was to be saved (`allOrNothing_save`). What the stages do to any place
is `untouched_makeDirectories`, `Takes.get?_set` and `get?_of_rename`.

All this is about trees, in which a file has one name. Where a name leads to a file that has others,
what is written under the temporary name shows under those as well.

A session that is saved is the same afterwards. That an operation was told to fail is not a part of
what a user works with; a snapshot that cannot be taken for that reason uses the fault up
(`Bench.Spared`).

Headline:
* **`save_all_or_nothing`**: what comes of saving a text, the script or a snapshot, for all files
  and paths.
-/

namespace LoopStepper

/-- The places that a path passes, from where it starts to where it leads. -/
def Path.way (path : Path) : List Place :=
  path.parts.scanl Place.step path.origin

namespace Tree

variable {tree made later : Tree} {path target : Path} {way : List Place} {place : Place}
  {bytes : ByteArray} {entry : Entry}

/-! ## Places that are not touched -/

/-- A place is as it was, or nothing was there and it became a directory on some way. -/
def Untouched (tree later : Tree) (way : List Place) (place : Place) : Prop :=
  later.get? place = tree.get? place ∨
    place ∈ way ∧ tree.get? place = none ∧ later.get? place = some .directory

/-- What is at such a place stays. -/
theorem Untouched.get? (h : tree.Untouched later way place)
    (hentry : tree.get? place = some entry) : later.get? place = some entry := by
  rcases h with hsame | ⟨-, hnone, -⟩
  · rw [hsame, hentry]
  · cases hnone.symm.trans hentry

/-- A place that is not touched, and is not changed after that. -/
theorem Untouched.of_eq (h : tree.Untouched made way place)
    (hlater : later.get? place = made.get? place) : tree.Untouched later way place := by
  unfold Untouched
  rwa [hlater]

/-- Two trees in a row leave a place untouched, if no directory of the first is taken away. -/
theorem Untouched.trans (h : tree.Untouched made way place)
    (hlater : made.Untouched later way place) (hkeeps : made.Keeps later) :
    tree.Untouched later way place := by
  rcases h with hsame | ⟨hmem, hnone, hdir⟩
  · unfold Untouched at hlater ⊢
    rwa [hsame] at hlater
  · exact .inr ⟨hmem, hnone, hkeeps place hdir⟩

theorem Untouched.mono {longer : List Place} (h : tree.Untouched later way place)
    (hway : way ⊆ longer) : tree.Untouched later longer place := by
  rcases h with hsame | ⟨hmem, hnew⟩
  · exact .inl hsame
  · exact .inr ⟨hway hmem, hnew⟩

/-- A directory is created where nothing is. -/
theorem untouched_set {fresh : Place} (hnone : tree.get? fresh = none) (hmem : fresh ∈ way)
    (place : Place) : tree.Untouched (tree.set fresh .directory) way place := by
  have hfree : tree.get? fresh ≠ some .directory := by simp [hnone]
  have hset := get?_set tree (isFixed_of_get? hfree) .directory place
  by_cases hplace : place = fresh
  · subst hplace
    exact .inr ⟨hmem, hnone, hset.trans (if_pos rfl)⟩
  · exact .inl (hset.trans (if_neg hplace))

/-- A file that is not touched is read as before, if no directory was taken away. -/
theorem Untouched.read (h : tree.Untouched later way path.place) (hkeeps : tree.Keeps later)
    (hread : tree.read path = .ok bytes) : later.read path = .ok bytes := by
  obtain ⟨place, hplace, hfile⟩ := read_eq_ok.mp hread
  obtain rfl := locate_eq_place hplace
  exact read_eq_ok.mpr ⟨_, hkeeps.locate hplace, h.get? hfile⟩

/-! ## The stages of a save -/

/-- Directories are created where nothing is, on the way to the path. -/
theorem untouched_makeAlong (whole passed : Path) (created : Bool) (tree : Tree) (origin : Place)
    (parts : List String) (place : Place) :
    tree.Untouched (makeAlong whole passed created tree origin parts).1
      (parts.scanl Place.step origin) place := by
  induction parts generalizing passed created tree origin with
  | nil => exact .inl rfl
  | cons part rest ih =>
    have hrest : rest.scanl Place.step (origin.step part) ⊆
        (part :: rest).scanl Place.step origin := by simp [List.scanl_cons]
    have hnext : origin.step part ∈ (part :: rest).scanl Place.step origin := by
      cases rest <;> simp [List.scanl_cons]
    unfold makeAlong
    dsimp only
    split
    · exact .inl rfl
    · split
      · exact (ih _ _ _ _).mono hrest
      · exact .inl rfl
      · next hnone =>
        split
        · exact .inl rfl
        · exact (untouched_set hnone hnext place).trans ((ih _ _ _ _).mono hrest)
            (keeps_makeAlong _ _ _ _ _ _)

theorem untouched_makeDirectories (tree : Tree) (path : Path) (place : Place) :
    tree.Untouched (tree.makeDirectories path).1 path.way place := by
  unfold makeDirectories
  split
  · exact .inl rfl
  · exact untouched_makeAlong _ _ _ _ _ _ _

/-! ## Saves -/

/-- What comes of a save to a path, which succeeded or did not. The content is the bytes that were
to be saved, if the text has a UTF-8 form. -/
structure AllOrNothing (tree later : Tree) (path : Path) (content : Option ByteArray)
    (saved : Bool) : Prop where
  /-- If it succeeded, there are bytes, and the file holds them. -/
  written : saved = true → ∃ bytes, content = some bytes ∧ later.read path = .ok bytes
  /-- If not, what was at the path is there, -/
  kept : saved = false → tree.Untouched later path.parent.way path.place
  /-- and a file that could be read is read as before. -/
  reads : saved = false → ∀ old, tree.read path = .ok old → later.read path = .ok old
  /-- The temporary file is gone; or, if the save did not succeed, it was not touched, or holds some
  first bytes. -/
  temporary : ∀ temporary, path.temporary? = some temporary →
    if saved then later.get? temporary.place = none
    else tree.Untouched later path.parent.way temporary.place ∨
      ∃ size, later.get? temporary.place =
        some (.file ((content.getD .empty).extract 0 size))
  /-- Nothing else changes, but that directories above the path are created. -/
  elsewhere : ∀ place, place ≠ path.place →
    (∀ temporary, path.temporary? = some temporary → place ≠ temporary.place) →
      tree.Untouched later path.parent.way place

variable {content : Option ByteArray}

/-- A save that did not succeed, and touched nothing but the temporary file. -/
theorem AllOrNothing.of_untouched (hkeeps : tree.Keeps later)
    (htemporary : ∀ temporary, path.temporary? = some temporary →
      tree.Untouched later path.parent.way temporary.place ∨
        ∃ size, later.get? temporary.place =
          some (.file ((content.getD .empty).extract 0 size)))
    (h : ∀ place, (∀ temporary, path.temporary? = some temporary → place ≠ temporary.place) →
      tree.Untouched later path.parent.way place) :
    AllOrNothing tree later path content false := by
  have hpath := h path.place fun _ heq => (Path.place_temporary_ne heq).symm
  refine ⟨nofun, fun _ => hpath, fun _ old => hpath.read hkeeps, ?_, fun place _ => h place⟩
  simpa using htemporary

/-- **A save is all or nothing**, at whatever stage it fails. -/
theorem allOrNothing_save (tree : Tree) (path : Path) (content : Option ByteArray) :
    AllOrNothing tree (tree.save path content).1 path content (tree.save path content).2.isOk := by
  have hkeeps := tree.keeps_save path content
  have hread : ∀ later, tree.save path content = (later, .ok ()) →
      ∃ bytes, content = some bytes ∧ later.read path = .ok bytes := fun later => read_of_save
  have hmade := tree.untouched_makeDirectories path.parent
  have hends := tree.saveEnds path content
  generalize tree.save path content = result at hkeeps hread hends ⊢
  cases hends with
  | stopped => exact .of_untouched hkeeps (fun _ _ => .inl (hmade _)) fun place _ => hmade place
  | @stranded temporary error size htemporary htakes =>
    have hwritten := htakes.get?_set (.file ((content.getD .empty).extract 0 size))
    refine .of_untouched hkeeps (fun other heq => .inr ⟨size, ?_⟩) fun place hother => ?_
    · obtain rfl := Option.some.inj (htemporary.symm.trans heq)
      exact (hwritten _).trans (if_pos rfl)
    · exact (hmade place).of_eq ((hwritten place).trans (if_neg (hother temporary htemporary)))
  | @done temporary bytes renamed hcontent htemporary htakes hrename =>
    have hwritten := htakes.get?_set (.file bytes)
    have hrenamed := get?_of_rename (htakes.read_set bytes) hrename
    refine ⟨fun _ => hread renamed rfl, nofun, nofun, fun other heq => ?_,
      fun place hpath hother => ?_⟩
    · obtain rfl := Option.some.inj (htemporary.symm.trans heq)
      exact (hrenamed _).trans (if_pos rfl)
    · have hsame := hrenamed place
      rw [if_neg (hother temporary htemporary), if_neg hpath] at hsame
      have hbefore := (hwritten place).trans (if_neg (hother temporary htemporary))
      exact (hmade place).of_eq (hsame.trans hbefore)

/-- So is a save of a text, with or without a UTF-8 form. -/
theorem allOrNothing_savePoints (tree : Tree) (path : Path) (points : List Text.CodePoint) :
    AllOrNothing tree (tree.savePoints path points).1 path (Text.encode? points)
      (tree.savePoints path points).2 := by
  have hsave := tree.allOrNothing_save path (Text.encode? points)
  unfold savePoints
  split <;>
    next h =>
      rw [h] at hsave
      exact hsave

theorem allOrNothing_saveText (tree : Tree) (path : Path) (text : String) :
    AllOrNothing tree (tree.saveText path text).1 path (some text.toUTF8)
      (tree.saveText path text).2 := by
  have hsave := tree.allOrNothing_savePoints path (Text.codePoints text)
  rwa [Text.encode?_codePoints] at hsave

end Tree

/-! ## Sessions -/

namespace Bench

variable {bench middle after : Bench}

/-- The session is as it was, but that operations that were told to fail may have done so. -/
def Spared (bench after : Bench) : Prop :=
  ∃ faults, faults.Sublist bench.session.simulator.faults ∧
    after.session = { bench.session with simulator := { bench.session.simulator with faults } }

theorem Spared.of_eq (h : after.session = bench.session) : Spared bench after :=
  ⟨_, List.Sublist.refl _, h⟩

theorem Spared.trans (h : Spared bench middle) (hafter : Spared middle after) :
    Spared bench after := by
  obtain ⟨faults, hsub, hmiddle⟩ := h
  obtain ⟨left, hleft, hlast⟩ := hafter
  rw [hmiddle] at hleft hlast
  exact ⟨left, hleft.trans hsub, hlast⟩

/-- Where no operation was told to fail, the session is the same. -/
theorem Spared.session_eq (h : Spared bench after) (hfree : bench.Faultless) :
    after.session = bench.session := by
  obtain ⟨faults, hsub, hafter⟩ := h
  rw [hfree, List.sublist_nil] at hsub
  rw [hafter, hsub, ← hfree]

/-- To look at the state of the event loop gives it, unless this was told to fail. In either case
the files are the same, and the session is spared. -/
theorem look_cases (bench : Bench) :
    ∃ middle, (operate Simulator.view bench = .ok bench.session.simulator.loop middle ∨
        ∃ error, operate Simulator.view bench = .error error middle) ∧
      middle.files = bench.files ∧ Spared bench middle := by
  unfold operate Simulator.view Simulator.guarded
  by_cases hfault : Operation.snapshot ∈ bench.session.simulator.faults
  · simp only [if_pos hfault]
    exact ⟨_, .inr ⟨_, rfl⟩, rfl, _, List.erase_sublist, rfl⟩
  · simp only [if_neg hfault]
    exact ⟨_, .inl rfl, rfl, .of_eq rfl⟩

/-- What comes of a save of a text: the path, if the file holds the text now, or no path, and the
file is as it was. -/
structure Saving (bench after : Bench) (path : Path) (text : String) (saved : Option Path) :
    Prop where
  given : saved = some path ∨ saved = none
  files : Tree.AllOrNothing bench.files after.files path (some text.toUTF8) saved.isSome

/-- Nothing was saved, and the files are the same. -/
theorem saving_none (h : after.files = bench.files) (path : Path) (text : String) :
    Saving bench after path text none where
  given := .inr rfl
  files := by
    rw [h]
    exact .of_untouched (Tree.Keeps.refl _) (fun _ _ => .inl (.inl rfl)) fun _ _ => .inl rfl

theorem saveText_eq (bench : Bench) (path : Path) (text : String) :
    saveText (some path) text bench =
      .ok (if (bench.files.saveText path text).2 then some path else none)
        { bench with files := (bench.files.saveText path text).1 } := rfl

theorem saving_saveText (bench : Bench) (path : Path) (text : String) :
    ∃ saved after, saveText (some path) text bench = .ok saved after ∧
      Saving bench after path text saved ∧ after.session = bench.session := by
  have hsave := bench.files.allOrNothing_saveText path text
  have hrun := saveText_eq bench path text
  generalize bench.files.saveText path text = result at hsave hrun
  obtain ⟨files, saved⟩ := result
  refine ⟨_, _, hrun, ?_, rfl⟩
  cases saved with
  | true => exact ⟨.inl rfl, hsave⟩
  | false => exact ⟨.inr rfl, hsave⟩

/-- What was saved from a bench with the same files. -/
theorem Saving.of_files_eq {path : Path} {text : String} {saved : Option Path}
    (h : Saving middle after path text saved) (hfiles : middle.files = bench.files) :
    Saving bench after path text saved :=
  ⟨h.given, hfiles ▸ h.files⟩

/-- A snapshot that cannot be taken or written down is not saved. -/
theorem saving_saveSnapshot (bench : Bench) {target : Option Path} {path : Path}
    (htarget : target.or bench.session.options.snapshotPath = some path) :
    ∃ saved after text, saveSnapshot target bench = .ok saved after ∧
      Saving bench after path text saved ∧
      (saved.isSome → bench.session.simulator.loop.snapshot.json = .ok text) ∧
      Spared bench after := by
  have hopen : (get : Act Bench) bench = .ok bench bench := rfl
  obtain ⟨middle, hlook | ⟨error, hlook⟩, hfiles, hspared⟩ := look_cases bench
  · cases hjson : bench.session.simulator.loop.snapshot.json with
    | ok text =>
      have htext : (written (.ok text) : Act String) middle = .ok text middle := rfl
      obtain ⟨saved, after, hsaved, hsaving, hsession⟩ := saving_saveText middle path text
      refine ⟨saved, after, text, ?_, hsaving.of_files_eq hfiles, fun _ => rfl,
        hspared.trans (.of_eq hsession)⟩
      simp only [saveSnapshot, bind, EStateM.bind, hopen, htarget, hlook, hjson, htext, hsaved]
    | error cause =>
      have htext : (written (.error cause) : Act String) middle =
          .error (.simulator (.numeral cause)) middle := rfl
      refine ⟨none, middle, "", ?_, saving_none hfiles path _, nofun, hspared⟩
      simp only [saveSnapshot, bind, EStateM.bind, hopen, htarget, hlook, hjson, htext]
  · refine ⟨none, middle, "", ?_, saving_none hfiles path _, nofun, hspared⟩
    simp only [saveSnapshot, bind, EStateM.bind, hopen, htarget, hlook]

/-- **Saving is all or nothing**, for any text, for the script, and for a snapshot, whose path may
be that of the options: either the path is given, and the file holds the text, or no path, and what
was there is unchanged. Nothing else changes in the files but the temporary file and directories
above it, and the session is the same. A text with half of a surrogate pair is not saved. -/
theorem save_all_or_nothing (bench : Bench) (path : Path) :
    (∀ points, Tree.AllOrNothing bench.files (bench.files.savePoints path points).1 path
      (Text.encode? points) (bench.files.savePoints path points).2) ∧
    (∃ saved after, saveScriptTo (some path) bench = .ok saved after ∧
      Saving bench after path bench.session.simulator.source saved ∧
      after.session = bench.session) ∧
    ∀ target, target.or bench.session.options.snapshotPath = some path →
      ∃ saved after text, saveSnapshot target bench = .ok saved after ∧
        Saving bench after path text saved ∧
        (saved.isSome → bench.session.simulator.loop.snapshot.json = .ok text) ∧
        Spared bench after ∧ (bench.Faultless → after.session = bench.session) := by
  refine ⟨bench.files.allOrNothing_savePoints path, saving_saveText bench path _,
    fun target htarget => ?_⟩
  obtain ⟨saved, after, text, hrun, hsaving, htext, hspared⟩ := saving_saveSnapshot bench htarget
  exact ⟨saved, after, text, hrun, hsaving, htext, hspared, hspared.session_eq⟩

/-- A script file on a medium that takes three bytes of a file and no more. -/
def wornFiles : Tree where
  entries := [((Path.ofString "script.js").place, .file "old".toUTF8)]
  breaks := fun _ => some 3

/-- The script is saved where a directory is missing, and the snapshot where the options say. Where
the medium breaks off, or half of a surrogate pair has no bytes, the script that was there stays. -/
theorem save_all_or_nothing_printer :
    let bench : Bench := { session := Session.printerSession }
    let path : Path := { parts := ["out", "script.js"] }
    let worn : Bench := { bench with files := wornFiles }
    let kept := Path.ofString "script.js"
    (∃ after, saveScriptTo (some path) bench = .ok (some path) after ∧
      after.files.read path = .ok "console.log('A');".toUTF8 ∧ after.session = bench.session) ∧
    (∃ saved after text, saveSnapshot none bench = .ok saved after ∧
      Saving bench after (Path.ofString "snapshot.json") text saved ∧
      after.session = bench.session) ∧
    (∃ after, saveScriptTo (some kept) worn = .ok none after ∧
      after.files.read kept = .ok "old".toUTF8) ∧
    (wornFiles.savePoints kept [0xD83D]).2 = false ∧
      (wornFiles.savePoints kept [0xD83D]).1.read kept = .ok "old".toUTF8 := by
  have hwritten :
      (Tree.saveText {} { parts := ["out", "script.js"] } "console.log('A');").2 = true := by
    decide +kernel
  have hbroken :
      (wornFiles.saveText (Path.ofString "script.js") "console.log('A');").2 = false := by
    decide +kernel
  have hhalf : (wornFiles.savePoints (Path.ofString "script.js") [0xD83D]).2 = false := by
    decide +kernel
  have hold : wornFiles.read (Path.ofString "script.js") = .ok "old".toUTF8 := rfl
  intro bench path worn kept
  obtain ⟨saved, after, hrun, hsaving, hsession⟩ := (save_all_or_nothing bench path).2.1
  obtain ⟨taken, last, text, hsnapshot, hlast, -, -, hsame⟩ :=
    (save_all_or_nothing bench (Path.ofString "snapshot.json")).2.2 none rfl
  obtain ⟨hpoints, ⟨refused, later, hlate, hrefusal, -⟩, -⟩ := save_all_or_nothing worn kept
  have hgiven := hrun.symm.trans (saveText_eq bench path "console.log('A');")
  have hnone := hlate.symm.trans (saveText_eq worn kept "console.log('A');")
  rw [EStateM.Result.ok.injEq] at hgiven hnone
  obtain rfl : saved = some path := hgiven.1.trans (if_pos hwritten)
  obtain rfl : refused = none := hnone.1.trans (if_neg (ne_true_of_eq_false hbroken))
  obtain ⟨bytes, hbytes, hread⟩ := hsaving.files.written rfl
  obtain rfl := Option.some.inj hbytes
  exact ⟨⟨after, hrun, hread, hsession⟩, ⟨taken, last, text, hsnapshot, hlast, hsame rfl⟩,
    ⟨later, hlate, hrefusal.files.reads rfl _ hold⟩, hhalf, (hpoints _).reads hhalf _ hold⟩

end Bench

end LoopStepper
