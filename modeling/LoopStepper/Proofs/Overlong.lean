import LoopStepper.Files.Script

/-!
# Paths that are too long

Files are asked for by paths, and a path has no answer if it is too long as a whole, or if a name on
it is too long that is looked for in a directory that is there (`Overlong`). Nothing else keeps a
script from being loaded or found missing (`loadScript_eq_error`): not a directory in its place, nor
bytes that are no text, nor a character that no name can hold. That is so in a tree, in which every
directory may be searched. A single name of more than `maxNameBytes` bytes is too long whatever
files there are (`overlong_of_name`).
-/

namespace LoopStepper

/-! ## Paths without a slash -/

namespace Path

theorem splitSlashes_of_notMem {cs : List Char} (h : '/' ∉ cs) : splitSlashes cs = [cs] := by
  induction cs with
  | nil => rfl
  | cons c cs ih =>
    have hc : c ≠ '/' := fun heq => h (heq ▸ List.mem_cons_self)
    have hcs : '/' ∉ cs := fun hmem => h (List.mem_cons_of_mem c hmem)
    have hrest := ih hcs
    unfold splitSlashes at hrest ⊢
    rw [List.foldr_cons, hrest]
    exact if_neg hc

theorem rootOf_of_notMem {cs : List Char} (h : '/' ∉ cs) : rootOf cs = "" := by
  unfold rootOf
  split
  · exact absurd List.mem_cons_self h
  · exact absurd List.mem_cons_self h
  · exact absurd List.mem_cons_self h
  · rfl

end Path

/-! ## Paths that cannot be asked for -/

namespace Tree

variable {tree : Tree} {path asked : Path}

/-- From a place on, a name that is too long is looked for in a directory that is there. -/
def LongNamed (tree : Tree) : Place → List String → Prop
  | _, [] => False
  | place, part :: rest =>
    tree.get? place = some .directory ∧
      (maxNameBytes < part.utf8ByteSize ∨ tree.LongNamed (place.step part) rest)

/-- A path is too long, or a name on it is that is looked for. -/
def Overlong (tree : Tree) (path : Path) : Prop :=
  path.hasNul = false ∧
    (maxPathBytes < path.toString.utf8ByteSize ∨ tree.LongNamed path.origin path.parts)

/-- A way down fails at the first name that is too long. -/
theorem descendAll_eq_nameTooLong {parts : List String} {place : Place} :
    parts.foldlM (tree.descend path) place = .error (.nameTooLong asked) ↔
      asked = path ∧ tree.LongNamed place parts := by
  induction parts generalizing place with
  | nil => exact iff_of_false nofun And.right
  | cons part parts ih =>
    rw [List.foldlM_cons, descend, LongNamed]
    cases hget : tree.get? place with
    | none => exact iff_of_false nofun fun h => nomatch h.2.1
    | some entry =>
      cases entry with
      | file bytes => exact iff_of_false nofun fun h => nomatch h.2.1
      | directory =>
        dsimp only
        split
        · next hlong =>
          constructor
          · rintro ⟨⟩
            exact ⟨rfl, rfl, .inl hlong⟩
          · rintro ⟨rfl, -⟩
            rfl
        · next hshort =>
          refine ih.trans (and_congr_right fun _ => ?_)
          constructor
          · exact fun h => ⟨rfl, .inr h⟩
          · exact fun h => h.2.resolve_left hshort

theorem locate_eq_nameTooLong :
    tree.locate path = .error (.nameTooLong asked) ↔ asked = path ∧ tree.Overlong path := by
  unfold locate checkPath Overlong
  split
  · next hnul => exact iff_of_false nofun fun h => absurd h.2.1 (ne_false_of_eq_true hnul)
  · next hnul =>
    have hnul : path.hasNul = false := Bool.of_not_eq_true hnul
    split
    · next hlong =>
      constructor
      · rintro ⟨⟩
        exact ⟨rfl, hnul, .inl hlong⟩
      · rintro ⟨rfl, -⟩
        rfl
    · next hshort =>
      refine descendAll_eq_nameTooLong.trans (and_congr_right fun _ => ?_)
      constructor
      · exact fun h => ⟨hnul, .inr h⟩
      · exact fun h => h.2.resolve_left hshort

/-- **The only failure in loading a script is a path that is too long.** -/
theorem loadScript_eq_error {error : FileError} :
    tree.loadScript path = .error error ↔ error = .nameTooLong path ∧ tree.Overlong path := by
  have hexists : tree.loadScript path = .error error ↔ tree.exists? path = .error error := by
    unfold loadScript
    cases tree.exists? path with
    | ok found => cases found <;> exact iff_of_false nofun nofun
    | error cause => constructor <;> rintro ⟨⟩ <;> rfl
  rw [hexists, exists?]
  split
  · next place hplace =>
    refine iff_of_false nofun fun h => ?_
    cases hplace.symm.trans (locate_eq_nameTooLong.mpr ⟨rfl, h.2⟩)
  · next asked hasked =>
    obtain ⟨rfl, hlong⟩ := locate_eq_nameTooLong.mp hasked
    constructor
    · rintro ⟨⟩
      exact ⟨rfl, hlong⟩
    · rintro ⟨rfl, -⟩
      rfl
  · next cause hother hcause =>
    refine iff_of_false nofun fun h => ?_
    have hlong := locate_eq_nameTooLong.mpr ⟨rfl, h.2⟩
    exact hother path (Except.error.inj (hcause.symm.trans hlong))

/-- The empty path is the working directory. -/
theorem loadScript_empty (tree : Tree) : tree.loadScript (Path.ofString "") = .ok none := by
  rfl

/-- **A name that is too long cannot be asked for, whatever files there are.** -/
theorem overlong_of_name (tree : Tree) {cs : List Char} (hslash : '/' ∉ cs)
    (hnul : Char.ofNat 0 ∉ cs) (hlong : maxNameBytes < (String.ofList cs).utf8ByteSize) :
    tree.Overlong (Path.ofString (String.ofList cs)) := by
  have hempty : cs ≠ [] := by
    rintro rfl
    exact absurd hlong (by decide)
  have hdot : cs ≠ ['.'] := by
    rintro rfl
    exact absurd hlong (by decide)
  have hpath : Path.ofString (String.ofList cs) = ⟨"", [String.ofList cs]⟩ := by
    unfold Path.ofString
    rw [String.toList_ofList, Path.rootOf_of_notMem hslash, Path.splitSlashes_of_notMem hslash]
    simp [hempty, hdot]
  rw [hpath]
  refine ⟨?_, .inr ⟨rfl, .inl hlong⟩⟩
  simp only [Path.hasNul, List.any_cons, List.any_nil, String.toList_ofList, Bool.or_false]
  exact Bool.eq_false_iff.mpr fun hmem => hnul (List.contains_iff_mem.mp hmem)

end Tree

end LoopStepper
