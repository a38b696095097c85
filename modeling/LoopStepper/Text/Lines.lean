/-!
# Lines of a text

Three readings of "line". A script is cut at line feeds only (`rows`). A text read from a file has
its carriage returns turned into line feeds first (`unifyBreaks`). The count shown to the user
(`lineCount`) knows every line break of the standard.
-/

namespace LoopStepper.Text

/-- Puts a character in front of the first row. -/
def pushFront (c : Char) : List (List Char) → List (List Char)
  | [] => [[c]]
  | row :: rows => (c :: row) :: rows

/-- The pieces of a text between its line feeds: one more than there are line feeds. -/
def rows (cs : List Char) : List (List Char) :=
  cs.foldr (fun c read => if c = '\n' then [] :: read else pushFront c read) [[]]

/-- Joins rows with a line feed between any two. -/
def unrows (rows : List (List Char)) : List Char :=
  ['\n'].intercalate rows

/-- A carriage return, alone or before a line feed, becomes one line feed. The flag says that the
character to the right is a line feed that was one from the start. -/
def unifyBreaks (cs : List Char) : List Char :=
  (cs.foldr step ([], false)).1
where
  step (c : Char) (read : List Char × Bool) : List Char × Bool :=
    if c = '\r' then (if read.2 then read.1 else '\n' :: read.1, false)
    else (c :: read.1, c = '\n')

/-- The characters that end a line when lines are counted. -/
def isLineBreak (c : Char) : Bool :=
  let n := c.toNat
  (0x0A ≤ n && n ≤ 0x0D) || (0x1C ≤ n && n ≤ 0x1E) || n == 0x85 || n == 0x2028 || n == 0x2029

/-- Where the counting of lines stands: the lines ended so far, whether characters follow the last
break, and whether that break was a carriage return. -/
structure LineCount where
  ended : Nat := 0
  begun : Bool := false
  afterReturn : Bool := false

/-- One more character. A line feed after a carriage return belongs to the same break. -/
def LineCount.push (count : LineCount) (c : Char) : LineCount :=
  if c = '\n' && count.afterReturn then { count with afterReturn := false }
  else if isLineBreak c then
    { ended := count.ended + 1, begun := false, afterReturn := c = '\r' }
  else { count with begun := true, afterReturn := false }

/-- The number of lines of a text; a break at its very end begins no further line. -/
def lineCount (cs : List Char) : Nat :=
  let count := cs.foldl LineCount.push {}
  count.ended + if count.begun then 1 else 0

@[simp] theorem rows_nil : rows [] = [[]] := rfl

@[simp] theorem rows_newline (cs : List Char) : rows ('\n' :: cs) = [] :: rows cs := by
  simp [rows]

theorem rows_cons {c : Char} (h : c ≠ '\n') (cs : List Char) :
    rows (c :: cs) = pushFront c (rows cs) := by
  simp [rows, h]

/-- A text has at least one row. -/
theorem rows_ne_nil (cs : List Char) : rows cs ≠ [] := by
  induction cs with
  | nil => simp
  | cons c cs ih =>
    by_cases h : c = '\n'
    · subst h; simp
    · rw [rows_cons h]
      cases hr : rows cs <;> simp [pushFront]

/-- A line feed divides the rows of what is in front of it from those of what is behind it. -/
theorem rows_append_newline (front cs : List Char) :
    rows (front ++ '\n' :: cs) = rows front ++ rows cs := by
  induction front with
  | nil => simp
  | cons c front ih =>
    by_cases h : c = '\n'
    · subst h; simp [ih]
    · rw [List.cons_append, rows_cons h, rows_cons h, ih]
      cases hr : rows front with
      | nil => exact absurd hr (rows_ne_nil front)
      | cons row later => simp [pushFront]

/-- A text without line feeds is one row. -/
theorem rows_of_notMem {row : List Char} (h : '\n' ∉ row) : rows row = [row] := by
  induction row with
  | nil => rfl
  | cons c row ih =>
    have hc : c ≠ '\n' := fun heq => h (heq ▸ List.mem_cons_self)
    rw [rows_cons hc, ih fun hmem => h (List.mem_cons_of_mem c hmem)]
    rfl

/-- Rows that are joined are the rows of what they are joined to. -/
theorem rows_unrows {row : List Char} {later : List (List Char)}
    (h : ∀ row' ∈ row :: later, '\n' ∉ row') : rows (unrows (row :: later)) = row :: later := by
  induction later generalizing row with
  | nil => simpa [unrows, List.intercalate] using rows_of_notMem (h row List.mem_cons_self)
  | cons next later ih =>
    have hjoin : unrows (row :: next :: later) = row ++ '\n' :: unrows (next :: later) := by
      simp [unrows, List.intercalate]
    rw [hjoin, rows_append_newline, rows_of_notMem (h row List.mem_cons_self),
      ih fun row' hmem => h row' (List.mem_cons_of_mem row hmem), List.singleton_append]

end LoopStepper.Text
