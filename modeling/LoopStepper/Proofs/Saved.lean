import LoopStepper.Files.Script
import LoopStepper.Proofs.History

/-!
# Files that were saved

A directory that is there stays: no file is written in its place, and nothing is taken away but the
file under the temporary name. `Keeps` says so of two trees. A path that leads to a place then goes
on leading there (`Keeps.locate`), and a directory that was created once need not be created again
(`makeDirectories_of_passable`).

`SaveEnds` lists how a save can end: before anything is written, with a temporary file that was not
written to its end or stays behind, or with all of the file at its place. What holds of all saves is
proved by cases on it, first of all that directories stay (`keeps_save`). A file that was saved
holds what was written (`read_of_save`): the temporary file is another one than the file itself
(`place_temporary_ne`), so taking it away afterwards does no harm. A script is read back with its
line breaks unified (`loadScript_of_saved`): as it was written, if it has no carriage returns
(`loadScript_of_saveText`).
-/

namespace LoopStepper

/-! ## Places -/

/-- The name of the temporary file leads to another place, whatever the name itself is. -/
theorem Place.step_temporary_ne (place : Place) (name : String) :
    place.step (name ++ ".tmp") ≠ place.step name := by
  have hup : name ++ ".tmp" ≠ ".." := by
    intro h
    have hlast := congrArg (·.toList.getLast?) h
    simp at hlast
  have hself : name ++ ".tmp" ≠ name := by
    intro h
    have hlength := congrArg (·.toList.length) h
    simp at hlength
  unfold Place.step
  rw [if_pos (bne_iff_ne.mpr hup)]
  intro h
  split at h
  · exact hself (List.cons.inj (congrArg Place.steps h)).1
  · split at h
    · next hroot =>
      have hdepth := congrArg Place.depth h
      rw [beq_iff_eq.mp hroot] at hdepth
      cases hdepth
    · split at h
      · exact hup (List.cons.inj (congrArg Place.steps h)).1
      · have hdepth : place.depth + 1 = place.depth - 1 := congrArg Place.depth h
        omega

theorem Path.parts_of_name {path : Path} (h : path.name.isEmpty = false) :
    path.parts = path.parent.parts ++ [path.name] := by
  unfold Path.name at h ⊢
  cases hlast : path.parts.getLast? with
  | none =>
    rw [hlast] at h
    cases h
  | some last =>
    obtain ⟨front, hfront⟩ := List.getLast?_eq_some_iff.mp hlast
    rw [Path.parent, hfront, List.dropLast_concat]
    rfl

/-- The temporary file stands beside the file itself. -/
theorem Path.place_temporary_ne {path temporary : Path} (h : path.temporary? = some temporary) :
    temporary.place ≠ path.place := by
  unfold Path.temporary? at h
  split at h
  · cases h
  · next hname =>
    obtain rfl := Option.some.inj h
    have hparts := Path.parts_of_name (Bool.of_not_eq_true hname)
    rw [Path.place, Path.place, hparts, Path.child, List.foldl_append, List.foldl_append]
    exact Place.step_temporary_ne _ _

namespace Tree

/-! ## Entries -/

section Lookup

variable (entries : List (Place × Entry)) (place other : Place) (entry : Entry)

theorem lookup_cons_eq (key : Place) (value : Entry) :
    ((key, value) :: entries).lookup other =
      if other = key then some value else entries.lookup other := by
  rw [List.lookup_cons]
  by_cases h : other = key
  · rw [if_pos h, beq_iff_eq.mpr h]
  · rw [if_neg h, beq_eq_false_iff_ne.mpr h]

theorem lookup_replaced :
    (entries.map fun old => if old.1 == place then (place, entry) else old).lookup other =
      if other = place then (entries.lookup place).map fun _ => entry
      else entries.lookup other := by
  induction entries with
  | nil => simp
  | cons old entries ih =>
    obtain ⟨key, value⟩ := old
    rw [List.map_cons, lookup_cons_eq, lookup_cons_eq]
    by_cases hkey : key = place
    · subst hkey
      rw [beq_self_eq_true, if_pos rfl, lookup_cons_eq, ih]
      by_cases hother : other = key <;> simp [hother]
    · have hplace : ¬ place = key := fun heq => hkey heq.symm
      rw [beq_eq_false_iff_ne.mpr hkey, if_neg Bool.false_ne_true, lookup_cons_eq, ih,
        if_neg hplace]
      by_cases hother : other = place
      · rw [if_pos hother, if_pos hother, if_neg (hother ▸ hplace)]
      · rw [if_neg hother, if_neg hother]

theorem lookup_filtered :
    (entries.filter (·.1 != place)).lookup other =
      if other = place then none else entries.lookup other := by
  induction entries with
  | nil => simp
  | cons old entries ih =>
    obtain ⟨key, value⟩ := old
    rw [List.filter_cons, lookup_cons_eq]
    by_cases hkey : key = place
    · rw [if_neg (by simp [hkey]), ih]
      by_cases hother : other = place <;> simp [hother, hkey]
    · rw [if_pos (bne_iff_ne.mpr hkey), lookup_cons_eq, ih]
      by_cases hother : other = place
      · have hplace : ¬ other = key := fun heq => hkey (heq.symm.trans hother)
        rw [if_neg hplace, if_pos hother, if_pos hother]
      · rw [if_neg hother, if_neg hother]

end Lookup

/-- What is looked up after an entry was put at a place where entries can be. -/
theorem get?_set (tree : Tree) {place : Place} (hfree : place.isFixed = false) (entry : Entry)
    (other : Place) :
    (tree.set place entry).get? other = if other = place then some entry else tree.get? other := by
  have hlookup : (tree.set place entry).entries.lookup other =
      if other = place then some entry else tree.entries.lookup other := by
    unfold set
    by_cases hany : tree.entries.any (·.1 == place) = true
    · have hsome : (tree.entries.lookup place).isSome = true := by
        obtain ⟨old, hmem, hold⟩ := List.any_eq_true.mp hany
        exact List.lookup_isSome_iff.mpr ⟨old, hmem, by rwa [BEq.comm]⟩
      obtain ⟨old, hold⟩ := Option.isSome_iff_exists.mp hsome
      rw [if_pos hany, lookup_replaced, hold, Option.map_some]
    · have hnone : tree.entries.lookup place = none := by
        refine List.lookup_eq_none_iff.mpr fun old hmem => bne_iff_ne.mpr fun hold => hany ?_
        exact List.any_eq_true.mpr ⟨old, hmem, beq_iff_eq.mpr hold.symm⟩
      rw [if_neg hany, List.lookup_append, lookup_cons_eq]
      by_cases hother : other = place
      · rw [if_pos hother, if_pos hother, hother, hnone, Option.none_or]
      · rw [if_neg hother, if_neg hother, List.lookup_nil, Option.or_none]
  unfold get?
  by_cases hother : other = place
  · rw [hother] at hlookup ⊢
    rw [hfree, hlookup, if_pos rfl, if_pos rfl, if_neg Bool.false_ne_true]
  · rw [hlookup, if_neg hother, if_neg hother]

theorem get?_remove (tree : Tree) {place : Place} (hfree : place.isFixed = false) (other : Place) :
    (tree.remove place).get? other = if other = place then none else tree.get? other := by
  unfold get? remove
  rw [lookup_filtered]
  by_cases hother : other = place
  · rw [hother, hfree, if_pos rfl, if_pos rfl, if_neg Bool.false_ne_true]
  · rw [if_neg hother, if_neg hother]

/-- Only directories are always there. -/
theorem isFixed_of_get? {tree : Tree} {place : Place} (h : tree.get? place ≠ some .directory) :
    place.isFixed = false :=
  Bool.of_not_eq_true fun hfixed => h (if_pos hfixed)

/-! ## What stays -/

/-- What is a directory in one tree is one in the other. -/
def Keeps (tree later : Tree) : Prop :=
  ∀ place, tree.get? place = some .directory → later.get? place = some .directory

theorem Keeps.refl (tree : Tree) : tree.Keeps tree :=
  fun _ h => h

theorem Keeps.trans {tree later last : Tree} (h : tree.Keeps later) (hlater : later.Keeps last) :
    tree.Keeps last :=
  fun place hdir => hlater place (h place hdir)

variable {tree later : Tree} {path : Path} {place : Place} {bytes : ByteArray}

/-- Something is put where no directory is. -/
theorem keeps_set (h : tree.get? place ≠ some .directory) (entry : Entry) :
    tree.Keeps (tree.set place entry) := by
  intro other hdir
  have hother : other ≠ place := fun heq => h (heq ▸ hdir)
  rwa [get?_set tree (isFixed_of_get? h), if_neg hother]

theorem keeps_makeAlong (whole passed : Path) (created : Bool) (tree : Tree) (place : Place)
    (parts : List String) : tree.Keeps (makeAlong whole passed created tree place parts).1 := by
  induction parts generalizing passed created tree place with
  | nil => exact .refl tree
  | cons part rest ih =>
    unfold makeAlong
    dsimp only
    split
    · exact .refl tree
    · split
      · exact ih _ _ _ _
      · exact .refl tree
      · next hnone =>
        split
        · exact .refl tree
        · refine Keeps.trans (keeps_set (fun hdir => ?_) .directory) (ih _ _ _ _)
          cases hnone.symm.trans hdir

theorem keeps_makeDirectories (tree : Tree) (path : Path) :
    tree.Keeps (tree.makeDirectories path).1 := by
  unfold makeDirectories
  split
  · exact .refl tree
  · exact keeps_makeAlong _ _ _ _ _ _

/-! ## Paths -/

/-- A step down is one out of a directory, by a name that is not too long. -/
theorem descend_eq_ok {origin : Place} {part : String} :
    tree.descend path origin part = .ok place ↔
      tree.get? origin = some .directory ∧ part.utf8ByteSize ≤ maxNameBytes ∧
        origin.step part = place := by
  unfold descend
  split
  · next hnone => simp [hnone]
  · next hfile => simp [hfile]
  · next hdir =>
    rw [hdir]
    split
    · next hlong => simp [Nat.not_le.mpr hlong]
    · next hshort => simp [Nat.not_lt.mp hshort]

theorem Keeps.descendAll (h : tree.Keeps later) {parts : List String} {origin : Place}
    (hparts : parts.foldlM (tree.descend path) origin = .ok place) :
    parts.foldlM (later.descend path) origin = .ok place := by
  induction parts generalizing origin with
  | nil => exact hparts
  | cons part parts ih =>
    rw [List.foldlM_cons] at hparts ⊢
    obtain ⟨next, hnext, hparts⟩ := bind_eq_ok.mp hparts
    obtain ⟨hdir, hname⟩ := descend_eq_ok.mp hnext
    exact bind_eq_ok.mpr ⟨next, descend_eq_ok.mpr ⟨h origin hdir, hname⟩, ih hparts⟩

/-- A path goes on leading where it leads. -/
theorem Keeps.locate (h : tree.Keeps later) (hplace : tree.locate path = .ok place) :
    later.locate path = .ok place := by
  obtain ⟨_, hcheck, hparts⟩ := bind_eq_ok.mp hplace
  exact bind_eq_ok.mpr ⟨_, hcheck, h.descendAll hparts⟩

theorem descendAll_eq_place {parts : List String} {origin : Place}
    (h : parts.foldlM (tree.descend path) origin = .ok place) :
    place = parts.foldl Place.step origin := by
  induction parts generalizing origin with
  | nil => exact (Except.ok.inj h).symm
  | cons part parts ih =>
    rw [List.foldlM_cons] at h
    obtain ⟨next, hnext, hrest⟩ := bind_eq_ok.mp h
    obtain ⟨-, -, rfl⟩ := descend_eq_ok.mp hnext
    exact ih hrest

/-- A path leads where its parts lead, if it leads somewhere. -/
theorem locate_eq_place (h : tree.locate path = .ok place) : place = path.place := by
  obtain ⟨_, -, hparts⟩ := bind_eq_ok.mp h
  exact descendAll_eq_place hparts

/-- From a place on, the parts of a path lead through directories that are there. -/
def Along (tree : Tree) : Place → List String → Prop
  | _, [] => True
  | place, part :: rest =>
    part.utf8ByteSize ≤ maxNameBytes ∧ tree.get? (place.step part) = some .directory ∧
      tree.Along (place.step part) rest

/-- A path is one of directories that are there. -/
structure Passable (tree : Tree) (path : Path) : Prop where
  checked : checkPath path = .ok ()
  along : tree.Along path.origin path.parts

theorem Keeps.along (h : tree.Keeps later) {parts : List String} {place : Place}
    (halong : tree.Along place parts) : later.Along place parts := by
  induction parts generalizing place with
  | nil => trivial
  | cons part rest ih =>
    obtain ⟨hname, hdir, hrest⟩ := halong
    exact ⟨hname, h _ hdir, ih hrest⟩

theorem Keeps.passable (h : tree.Keeps later) (hpath : tree.Passable path) : later.Passable path :=
  ⟨hpath.checked, h.along hpath.along⟩

theorem makeAlong_of_along {whole passed : Path} {parts : List String}
    (h : tree.Along place parts) :
    makeAlong whole passed false tree place parts = (tree, .ok ()) := by
  induction parts generalizing passed place with
  | nil => rfl
  | cons part rest ih =>
    obtain ⟨hname, hdir, hrest⟩ := h
    unfold makeAlong
    dsimp only
    rw [if_neg (Nat.not_lt.mpr hname), hdir]
    exact ih hrest

/-- Directories that are there are not created. -/
theorem makeDirectories_of_passable (h : tree.Passable path) :
    tree.makeDirectories path = (tree, .ok ()) := by
  rw [makeDirectories, h.checked]
  exact makeAlong_of_along h.along

theorem along_of_makeAlong {whole passed : Path} {created : Bool} {parts : List String}
    (h : makeAlong whole passed created tree place parts = (later, .ok ())) :
    later.Along place parts := by
  induction parts generalizing passed created tree place with
  | nil => trivial
  | cons part rest ih =>
    -- The next directory is there, or was just created, and stays until the last one is.
    have hnext {made : Tree} {fresh : Bool} (hname : part.utf8ByteSize ≤ maxNameBytes)
        (hdir : made.get? (place.step part) = some .directory)
        (hrest : makeAlong whole (passed.child part) fresh made (place.step part) rest =
          (later, .ok ())) : later.Along place (part :: rest) := by
      have hkeeps := keeps_makeAlong whole (passed.child part) fresh made (place.step part) rest
      rw [hrest] at hkeeps
      exact ⟨hname, hkeeps _ hdir, ih hrest⟩
    unfold makeAlong at h
    dsimp only at h
    split at h
    · cases h
    · next hname =>
      split at h
      · next hdir => exact hnext (Nat.not_lt.mp hname) hdir h
      · cases h
      · next hnone =>
        split at h
        · cases h
        · have hfree : tree.get? (place.step part) ≠ some .directory := by
            rw [hnone]
            nofun
          refine hnext (Nat.not_lt.mp hname) ?_ h
          rw [get?_set tree (isFixed_of_get? hfree), if_pos rfl]

/-- Once directories were created they are there. -/
theorem passable_of_makeDirectories (h : tree.makeDirectories path = (later, .ok ())) :
    later.Passable path := by
  unfold makeDirectories at h
  split at h
  · cases h
  · next hcheck => exact ⟨hcheck, along_of_makeAlong h⟩

/-! ## How files are written -/

/-- What is read is in a file at the place that the path leads to. -/
theorem read_eq_ok :
    tree.read path = .ok bytes ↔
      ∃ place, tree.locate path = .ok place ∧ tree.get? place = some (.file bytes) := by
  unfold read
  rw [bind_eq_ok]
  refine exists_congr fun place => and_congr_right fun _ => ?_
  cases tree.get? place with
  | none => simp
  | some entry => cases entry <;> simp

/-- A path leads to a place where a file can be written. -/
structure Takes (tree : Tree) (path : Path) : Prop where
  located : tree.locate path = .ok path.place
  free : tree.get? path.place ≠ some .directory

theorem writable_eq_ok (h : tree.writable path = .ok place) :
    place = path.place ∧ tree.Takes path := by
  obtain ⟨found, hfound, h⟩ := bind_eq_ok.mp h
  have hplace := locate_eq_place hfound
  rw [hplace] at hfound h
  split at h
  · cases h
  · next hfile => exact ⟨(Except.ok.inj h).symm, hfound, by rw [hfile]; nofun⟩
  · next hnone =>
    split at h
    · exact ⟨(Except.ok.inj h).symm, hfound, by rw [hnone]; nofun⟩
    · cases h
    · cases h

section Takes

variable (h : tree.Takes path)

include h

theorem Takes.get?_set (entry : Entry) (other : Place) :
    (tree.set path.place entry).get? other =
      if other = path.place then some entry else tree.get? other :=
  tree.get?_set (isFixed_of_get? h.free) entry other

theorem Takes.keeps_set (entry : Entry) : tree.Keeps (tree.set path.place entry) :=
  Tree.keeps_set h.free entry

/-- What is written is read. -/
theorem Takes.read_set (bytes : ByteArray) :
    (tree.set path.place (.file bytes)).read path = .ok bytes :=
  read_eq_ok.mpr ⟨path.place, (h.keeps_set _).locate h.located, by rw [h.get?_set, if_pos rfl]⟩

end Takes

/-- A renamed file is put at its new place and then taken away from the old one. -/
theorem rename_eq_ok {target : Path} (h : tree.rename path target = .ok later) :
    ∃ bytes, tree.read path = .ok bytes ∧ tree.Takes target ∧
      later = (tree.set target.place (.file bytes)).remove path.place := by
  obtain ⟨bytes, hread, h⟩ := bind_eq_ok.mp h
  obtain ⟨place, hplace, h⟩ := bind_eq_ok.mp h
  obtain ⟨old, hold, h⟩ := bind_eq_ok.mp h
  obtain ⟨rfl, htakes⟩ := writable_eq_ok hplace
  obtain rfl := locate_eq_place hold
  exact ⟨bytes, hread, htakes, (Except.ok.inj h).symm⟩

/-- Renaming changes two places: the file is no longer at the one, and is at the other. -/
theorem get?_of_rename {target : Path} (hread : tree.read path = .ok bytes)
    (h : tree.rename path target = .ok later) (place : Place) :
    later.get? place =
      if place = path.place then none
      else if place = target.place then some (.file bytes)
      else tree.get? place := by
  obtain ⟨held, hagain, htakes, rfl⟩ := rename_eq_ok h
  obtain rfl := Except.ok.inj (hread.symm.trans hagain)
  obtain ⟨source, hsource, hfile⟩ := read_eq_ok.mp hread
  obtain rfl := locate_eq_place hsource
  rw [get?_remove _ (isFixed_of_get? (by rw [hfile]; nofun)), htakes.get?_set]

theorem keeps_rename {target : Path} (h : tree.rename path target = .ok later) :
    tree.Keeps later := by
  obtain ⟨bytes, hread, htakes, -⟩ := rename_eq_ok h
  obtain ⟨source, hsource, hfile⟩ := read_eq_ok.mp hread
  obtain rfl := locate_eq_place hsource
  intro place hdir
  have hold : place ≠ path.place := by
    rintro rfl
    cases hfile.symm.trans hdir
  have hnew : place ≠ target.place := fun heq => htakes.free (heq ▸ hdir)
  rwa [get?_of_rename hread h, if_neg hold, if_neg hnew]

/-- A renamed file is read under its new name. -/
theorem read_of_rename {target : Path} (hread : tree.read path = .ok bytes)
    (hne : path.place ≠ target.place) (h : tree.rename path target = .ok later) :
    later.read target = .ok bytes := by
  obtain ⟨-, -, htakes, -⟩ := rename_eq_ok h
  refine read_eq_ok.mpr ⟨target.place, (keeps_rename h).locate htakes.located, ?_⟩
  rw [get?_of_rename hread h, if_neg hne.symm, if_pos rfl]

/-- How writing ends. -/
inductive WriteEnds (tree : Tree) (path : Path) (content : Option ByteArray) :
    Tree × Except WriteError Unit → Prop
  /-- The file cannot be opened. -/
  | refused {error : WriteError} : WriteEnds tree path content (tree, .error error)
  /-- The file holds some first bytes, or none. -/
  | torn {error : WriteError} (size : Nat) (htakes : tree.Takes path) :
      WriteEnds tree path content
        (tree.set path.place (.file ((content.getD .empty).extract 0 size)), .error error)
  | done {bytes : ByteArray} (hcontent : content = some bytes) (htakes : tree.Takes path) :
      WriteEnds tree path content (tree.set path.place (.file bytes), .ok ())

theorem writeEnds (tree : Tree) (path : Path) (content : Option ByteArray) :
    WriteEnds tree path content (tree.write path content) := by
  unfold write
  split
  · exact .refused
  · next place hplace =>
    obtain ⟨rfl, htakes⟩ := writable_eq_ok hplace
    split
    · exact .torn 0 htakes
    · exact .torn _ htakes
    · exact .done rfl htakes

/-- How a save ends. The directories that were created stay in any case. -/
inductive SaveEnds (tree : Tree) (path : Path) (content : Option ByteArray) :
    Tree × Except WriteError Unit → Prop
  /-- Nothing was written. -/
  | stopped {error : WriteError} :
      SaveEnds tree path content ((tree.makeDirectories path.parent).1, .error error)
  /-- The temporary file was not written to its end, or could not take the place of the file. -/
  | stranded {temporary : Path} {error : WriteError} (size : Nat)
      (htemporary : path.temporary? = some temporary)
      (htakes : (tree.makeDirectories path.parent).1.Takes temporary) :
      SaveEnds tree path content
        ((tree.makeDirectories path.parent).1.set temporary.place
          (.file ((content.getD .empty).extract 0 size)), .error error)
  | done {temporary : Path} {bytes : ByteArray} {renamed : Tree} (hcontent : content = some bytes)
      (htemporary : path.temporary? = some temporary)
      (htakes : (tree.makeDirectories path.parent).1.Takes temporary)
      (hrename : ((tree.makeDirectories path.parent).1.set temporary.place
        (.file bytes)).rename temporary path = .ok renamed) :
      SaveEnds tree path content (renamed, .ok ())

theorem saveEnds (tree : Tree) (path : Path) (content : Option ByteArray) :
    SaveEnds tree path content (tree.save path content) := by
  have hstopped (error : WriteError) :
      SaveEnds tree path content ((tree.makeDirectories path.parent).1, .error error) := .stopped
  unfold save
  split
  · next made error h =>
    rw [h] at hstopped
    exact hstopped _
  · next made h =>
    obtain rfl : (tree.makeDirectories path.parent).1 = made := by rw [h]
    split
    · exact hstopped _
    · next temporary htemporary =>
      have hends := (tree.makeDirectories path.parent).1.writeEnds temporary content
      generalize (tree.makeDirectories path.parent).1.write temporary content = result at hends
      cases hends with
      | refused => exact hstopped _
      | torn size htakes => exact .stranded size htemporary htakes
      | @done bytes hcontent htakes =>
        subst hcontent
        dsimp only
        split
        · next error _ =>
          -- All of it was written, which is as many first bytes as there are.
          have hstranded : SaveEnds tree path (some bytes)
              ((tree.makeDirectories path.parent).1.set temporary.place
                (.file (bytes.extract 0 bytes.size)), .error (.file error)) :=
            .stranded bytes.size htemporary htakes
          rwa [ByteArray.extract_zero_size] at hstranded
        · next renamed hrename => exact .done rfl htemporary htakes hrename

/-- **A directory stays one**, whether a file can be saved or not. -/
theorem keeps_save (tree : Tree) (path : Path) (content : Option ByteArray) :
    tree.Keeps (tree.save path content).1 := by
  have hmade := tree.keeps_makeDirectories path.parent
  have hends := tree.saveEnds path content
  generalize tree.save path content = result at hends ⊢
  cases hends with
  | stopped => exact hmade
  | stranded size htemporary htakes => exact hmade.trans (htakes.keeps_set _)
  | done hcontent htemporary htakes hrename =>
    exact (hmade.trans (htakes.keeps_set _)).trans (keeps_rename hrename)

/-- A text of characters has a UTF-8 form. -/
theorem saveText_eq (tree : Tree) (path : Path) (text : String) :
    tree.saveText path text =
      match tree.save path (some text.toUTF8) with
      | (later, .ok ()) => (later, true)
      | (later, .error _) => (later, false) := by
  rewrite [saveText, savePoints, Text.encode?_codePoints]
  rfl

theorem saveText_of_save {text : String} (h : tree.save path (some text.toUTF8) = (later, .ok ())) :
    tree.saveText path text = (later, true) := by
  rw [saveText_eq, h]

theorem keeps_saveText (tree : Tree) (path : Path) (text : String) :
    tree.Keeps (tree.saveText path text).1 := by
  have hkeeps := tree.keeps_save path (some text.toUTF8)
  rw [saveText_eq]
  split <;>
    next h =>
      rw [h] at hkeeps
      exact hkeeps

/-! ## What was saved -/

/-- **A file that was saved holds what was written**, which was there to be written. -/
theorem read_of_save {content : Option ByteArray} (h : tree.save path content = (later, .ok ())) :
    ∃ bytes, content = some bytes ∧ later.read path = .ok bytes := by
  have hends := tree.saveEnds path content
  rw [h] at hends
  cases hends with
  | @done temporary bytes _ hcontent htemporary htakes hrename =>
    exact ⟨bytes, hcontent, read_of_rename (htakes.read_set bytes)
      (Path.place_temporary_ne htemporary) hrename⟩

theorem fromUTF8?_toUTF8 (text : String) : String.fromUTF8? text.toUTF8 = some text := by
  rw [String.toUTF8_eq_toByteArray, String.fromUTF8?, dif_pos text.isValidUTF8]
  rfl

/-- Without carriage returns there is nothing to change in a text. -/
theorem unifyBreaks_of_notMem {cs : List Char} (h : '\r' ∉ cs) : Text.unifyBreaks cs = cs := by
  have hstep : (cs.foldr Text.unifyBreaks.step ([], false)).1 = cs := by
    induction cs with
    | nil => rfl
    | cons c cs ih =>
      obtain ⟨hc, hcs⟩ := not_or.mp (mt List.mem_cons.mpr h)
      rw [List.foldr_cons, Text.unifyBreaks.step, if_neg (Ne.symm hc), ih hcs]
  exact hstep

/-- **A script that was saved is read back** with its line breaks unified. -/
theorem loadScript_of_saved {text : String} (h : tree.saveText path text = (later, true)) :
    later.loadScript path = .ok (some (String.ofList (Text.unifyBreaks text.toList))) := by
  have hread : later.read path = .ok text.toUTF8 := by
    rw [saveText_eq] at h
    split at h
    · next hsave =>
      obtain ⟨rfl, -⟩ := Prod.mk.inj h
      obtain ⟨bytes, hbytes, hread⟩ := read_of_save hsave
      rw [hread, Option.some.inj hbytes]
    · cases h
  have htext : later.readText path = some (String.ofList (Text.unifyBreaks text.toList)) := by
    rw [readText, hread]
    dsimp only
    rw [fromUTF8?_toUTF8, Option.map_some]
  obtain ⟨place, hplace, hfile⟩ := read_eq_ok.mp hread
  have hexists : later.exists? path = .ok true := by
    rw [exists?, hplace]
    dsimp only
    rw [hfile]
    rfl
  rw [loadScript, hexists]
  exact congrArg Except.ok htext

/-- It is read back as it was, if it has no carriage return. -/
theorem loadScript_of_saveText {text : String} (h : tree.saveText path text = (later, true))
    (hplain : '\r' ∉ text.toList) : later.loadScript path = .ok (some text) := by
  rw [loadScript_of_saved h, unifyBreaks_of_notMem hplain, String.ofList_toList]

end Tree

end LoopStepper
