import LoopStepper.Proofs.Listings

/-!
# A listing read back

A listing loses nothing: its source and the active line are found again in its text. What stands in
front of a line in its row depends on the number of the row only, so it is known how much of each
row to drop, also where the numbers have outgrown their places and where a line of the source looks
like a row itself (`drop_listingRow`). The active line is the number of the row that is marked.

Headline:
* **`listing_lossless`**: `unlist` undoes `listing`, no other source or active line has the same
  listing, and each row is made of a marker, the number, a separator and its line.
-/

namespace LoopStepper.Report

open Text

/-- The active line, if there is one, is a line of the source. -/
def ActiveIn (active : Option Int) (source : String) : Prop :=
  ∀ n ∈ active, 1 ≤ n ∧ n ≤ ((rows source.toList).length : Int)

instance (active : Option Int) (source : String) : Decidable (ActiveIn active source) :=
  inferInstanceAs (Decidable (∀ n ∈ active, _))

/-! ## Reading back -/

/-- The places in front of a line in its row: the marker, the number and the separator. -/
def leadWidth (number : Nat) : Nat :=
  1 + max 3 (toString number).toList.length + 3

/-- The lines in rows that are numbered from `number` on. -/
def unlistRows (number : Nat) : List (List Char) → List (List Char)
  | [] => []
  | row :: rows => row.drop (leadWidth number) :: unlistRows (number + 1) rows

/-- The number of the first row that is marked. -/
def markedNumber (number : Nat) : List (List Char) → Option Int
  | [] => none
  | row :: rows => if isMarked row then some number else markedNumber (number + 1) rows

/-- The source and the active line of a listing. -/
def unlist (text : String) : String × Option Int :=
  (String.ofList (unrows (unlistRows 1 (rows text.toList))), markedNumber 1 (rows text.toList))

/-! ## Row by row -/

theorem length_padLeft (width : Nat) (cs : List Char) :
    (padLeft width cs).length = max width cs.length := by
  rw [padLeft, List.length_append, List.length_replicate]
  omega

/-- **What is in front of a line takes a known number of places**, whatever the line is. -/
theorem drop_listingRow (active : Option Int) (number : Nat) (line : List Char) :
    (listingRow active number line).drop (leadWidth number) = line := by
  refine List.drop_left' ?_
  rw [List.length_append, List.length_cons, length_padLeft, leadWidth, List.length_cons,
    List.length_cons, List.length_singleton]
  omega

theorem unlistRows_listingRows (active : Option Int) (number : Nat) (lines : List (List Char)) :
    unlistRows number (listingRows active number lines) = lines := by
  induction lines generalizing number with
  | nil => rfl
  | cons line lines ih => rw [listingRows, unlistRows, drop_listingRow, ih]

/-- The first marked row is that of the active line, if it is one of the rows. -/
theorem markedNumber_listingRows {active : Option Int} {number : Nat} {lines : List (List Char)}
    (h : ∀ n ∈ active, (number : Int) ≤ n ∧ n < number + lines.length) :
    markedNumber number (listingRows active number lines) = active := by
  induction lines generalizing number with
  | nil =>
    cases active with
    | none => rfl
    | some n =>
      have hn := h n rfl
      rw [List.length_nil] at hn
      omega
  | cons line lines ih =>
    rw [listingRows, markedNumber, isMarked_listingRow]
    by_cases hactive : active = some (number : Int)
    · simp [hactive]
    · rw [if_neg (by simpa using hactive)]
      refine ih fun n hn => ?_
      obtain ⟨hle, hlt⟩ := h n hn
      rw [List.length_cons] at hlt
      have hne : n ≠ number := by
        rintro rfl
        exact hactive hn
      omega

/-! ## The source -/

theorem unrows_cons {row : List Char} {rows : List (List Char)} (h : rows ≠ []) :
    unrows (row :: rows) = row ++ '\n' :: unrows rows := by
  obtain ⟨next, later, rfl⟩ := List.exists_cons_of_ne_nil h
  simp [unrows, List.intercalate]

theorem unrows_pushFront (c : Char) {rows : List (List Char)} (h : rows ≠ []) :
    unrows (pushFront c rows) = c :: unrows rows := by
  obtain ⟨row, later, rfl⟩ := List.exists_cons_of_ne_nil h
  by_cases hlater : later = []
  · subst hlater
    simp [pushFront, unrows]
  · rw [pushFront, unrows_cons hlater, unrows_cons hlater, List.cons_append]

/-- A text is its rows, joined. -/
theorem unrows_rows (cs : List Char) : unrows (rows cs) = cs := by
  induction cs with
  | nil => rfl
  | cons c cs ih =>
    by_cases h : c = '\n'
    · subst h
      rw [rows_newline, unrows_cons (rows_ne_nil cs), ih, List.nil_append]
    · rw [rows_cons h, unrows_pushFront c (rows_ne_nil cs), ih]

/-- **Reading back undoes the listing.** -/
theorem unlist_listing {source : String} {active : Option Int} (h : ActiveIn active source) :
    unlist (listing source active) = (source, active) := by
  have hactive : markedNumber 1 (listingRows active 1 (rows source.toList)) = active := by
    refine markedNumber_listingRows fun n hn => ?_
    obtain ⟨hle, hlt⟩ := h n hn
    omega
  rw [unlist, rows_listing, hactive, unlistRows_listingRows, unrows_rows, String.ofList_toList]

/-- **A listing loses nothing.** Where the active line is none or one of the lines of the source,
both are read back from the listing; no other source with such a line has the same listing; and
there is one row for each line of the source, which is a marker, the number of the line in at least
three places, a separator and the line itself, marked where the line is active. -/
theorem listing_lossless {source : String} {active : Option Int} (h : ActiveIn active source) :
    unlist (listing source active) = (source, active) ∧
    (∀ source' active', ActiveIn active' source' →
      listing source' active' = listing source active → source' = source ∧ active' = active) ∧
    ∀ index : Nat, (rows (listing source active).toList)[index]? =
      (rows source.toList)[index]?.map fun line =>
        (if active = some ((index : Int) + 1) then '>' else ' ') ::
          (padLeft 3 (toString (index + 1)).toList ++ " | ".toList ++ line) := by
  refine ⟨unlist_listing h, fun source' active' h' hsame => ?_, fun index => ?_⟩
  · have hread := unlist_listing h'
    rw [hsame, unlist_listing h, Prod.mk.injEq] at hread
    exact ⟨hread.1.symm, hread.2.symm⟩
  · rw [rows_listing, getElem?_listingRows, Nat.add_comm 1 index]
    congr 1

/-- A source whose lines are empty or look like rows, the second of them active. -/
theorem listing_lossless_rowlike :
    ActiveIn (some 2) ">  1 | a\n\n   2 | b" ∧
    unlist (listing ">  1 | a\n\n   2 | b" (some 2)) = (">  1 | a\n\n   2 | b", some 2) :=
  ⟨by decide, (listing_lossless (by decide)).1⟩

end LoopStepper.Report
