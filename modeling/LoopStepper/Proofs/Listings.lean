import LoopStepper.Proofs.Inserted
import LoopStepper.Proofs.Printed
import LoopStepper.Report.Listing

/-!
# What a listing shows

A listing has a row for each line of its source, and the rows are found again in the text, since
neither a marker nor a number holds a line feed (`rows_listing`). A row is marked exactly if its
line is the active one (`isMarked_listing`), so one row is marked where a line of the source is
active (`countP_isMarked_listing`).
-/

namespace LoopStepper.Report

open Text Script

/-- Whether a row of a listing points at the active line. -/
def isMarked (row : List Char) : Bool :=
  row.head? = some '>'

/-- A row is marked if it is that of the active line. -/
theorem isMarked_listingRow (active : Option Int) (number : Nat) (line : List Char) :
    isMarked (listingRow active number line) = decide (active = some (number : Int)) := by
  unfold isMarked listingRow
  by_cases hactive : active = some (number : Int) <;> simp [hactive]

/-- No row has a line feed in it. -/
theorem notMem_listingRow (active : Option Int) (number : Nat) {line : List Char}
    (h : '\n' ∉ line) : '\n' ∉ listingRow active number line := by
  have hdigits : '\n' ∉ padLeft 3 (toString number).toList := by
    rw [padLeft, List.mem_append]
    rintro (hblank | hdigit)
    · exact absurd (List.eq_of_mem_replicate hblank) (by decide)
    · exact absurd (isDigit_of_mem_toString hdigit) (by decide)
  have hmarker : '\n' ≠ if active = some (number : Int) then '>' else ' ' := by
    split <;> decide
  unfold listingRow
  simp only [List.cons_append, List.mem_cons, List.mem_append, hmarker, hdigits, h,
    List.not_mem_nil, or_false, false_or, not_or]
  decide

/-- The row at an index is that of the line there. -/
theorem getElem?_listingRows (active : Option Int) (number : Nat) (lines : List (List Char))
    (index : Nat) :
    (listingRows active number lines)[index]? =
      lines[index]?.map (listingRow active (number + index)) := by
  induction lines generalizing number index with
  | nil => rfl
  | cons line lines ih =>
    cases index with
    | zero => rfl
    | succ index =>
      rw [listingRows, List.getElem?_cons_succ, List.getElem?_cons_succ, ih]
      congr 2
      omega

/-- **The rows of a listing can be read off its text.** -/
theorem rows_listing (source : String) (active : Option Int) :
    rows (listing source active).toList = listingRows active 1 (rows source.toList) := by
  have hrows : ∀ row ∈ listingRows active 1 (rows source.toList), '\n' ∉ row := by
    intro row hmem
    obtain ⟨index, hrow⟩ := List.mem_iff_getElem?.mp hmem
    rw [getElem?_listingRows, Option.map_eq_some_iff] at hrow
    obtain ⟨line, hline, rfl⟩ := hrow
    exact notMem_listingRow active _ (notMem_of_mem_rows (List.mem_of_getElem? hline))
  obtain ⟨line, lines, hlines⟩ := List.exists_cons_of_ne_nil (rows_ne_nil source.toList)
  rw [listing, String.toList_ofList]
  rw [hlines, listingRows] at hrows ⊢
  exact rows_unrows hrows

/-- **A row is marked exactly if its line is active.** -/
theorem isMarked_listing {source : String} {active : Option Int} {index : Nat} {row : List Char}
    (h : (rows (listing source active).toList)[index]? = some row) :
    isMarked row = true ↔ active = some ((index : Int) + 1) := by
  rw [rows_listing, getElem?_listingRows, Option.map_eq_some_iff] at h
  obtain ⟨line, -, rfl⟩ := h
  rw [isMarked_listingRow, decide_eq_true_iff, Nat.add_comm 1 index, Int.natCast_succ]

/-- The marked rows are counted by the numbers of the rows. -/
theorem countP_isMarked_listingRows (active : Option Int) (number : Nat)
    (lines : List (List Char)) :
    (listingRows active number lines).countP isMarked =
      (List.range' number lines.length).countP fun other : Nat =>
        active = some (other : Int) := by
  induction lines generalizing number with
  | nil => rfl
  | cons line lines ih =>
    rw [listingRows, List.countP_cons, ih, isMarked_listingRow, List.length_cons, List.range'_succ,
      List.countP_cons]

/-- **One row is marked where a line of the source is active**, and none where no line is. -/
theorem countP_isMarked_listing {source : String} {active : Option Int}
    (h : ∀ n ∈ active, ∃ index < (rows source.toList).length, n = (index : Int) + 1) :
    (rows (listing source active).toList).countP isMarked = if active.isSome then 1 else 0 := by
  rw [rows_listing, countP_isMarked_listingRows]
  cases active with
  | none => simp
  | some n =>
    obtain ⟨index, hlt, rfl⟩ := h n rfl
    have hmem : index + 1 ∈ List.range' 1 (rows source.toList).length :=
      List.mem_range'_1.mpr ⟨Nat.le_add_left 1 index, by omega⟩
    refine Eq.trans ?_ (List.count_eq_one_of_mem List.nodup_range' hmem)
    rw [List.count_eq_countP]
    refine List.countP_congr fun other _ => ?_
    rw [decide_eq_true_iff, beq_iff_eq, Option.some.injEq, ← Int.natCast_succ, Int.natCast_inj]
    exact eq_comm

end LoopStepper.Report
