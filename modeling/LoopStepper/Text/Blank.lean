/-!
# Blank characters

Which characters count as blank when a line is stripped or split into words. The set is larger
than the five ASCII blanks: it holds the ASCII separators, the next-line control and the spaces of
other scripts, and leaves out the zero-width ones.
-/

namespace LoopStepper.Text

/-- The white-space characters of the standard, with the four ASCII information separators. -/
def isBlank (c : Char) : Bool :=
  let n := c.toNat
  (0x09 ≤ n && n ≤ 0x0D) || (0x1C ≤ n && n ≤ 0x20) || n == 0x85 || n == 0xA0 || n == 0x1680 ||
    (0x2000 ≤ n && n ≤ 0x200A) || n == 0x2028 || n == 0x2029 || n == 0x202F || n == 0x205F ||
    n == 0x3000

/-- A text without the blanks it starts with. -/
def dropBlanks (cs : List Char) : List Char :=
  cs.dropWhile isBlank

/-- A text without the blanks at its two ends. -/
def strip (cs : List Char) : List Char :=
  (dropBlanks (dropBlanks cs).reverse).reverse

/-- The maximal runs of characters that are not blank, in order. -/
def words (cs : List Char) : List (List Char) :=
  let (word, rest) := cs.foldr step ([], [])
  close word rest
where
  close (word : List Char) (rest : List (List Char)) : List (List Char) :=
    if word.isEmpty then rest else word :: rest
  step (c : Char) (read : List Char × List (List Char)) : List Char × List (List Char) :=
    if isBlank c then ([], close read.1 read.2) else (c :: read.1, read.2)

@[simp] theorem dropBlanks_nil : dropBlanks [] = [] := rfl

@[simp] theorem strip_nil : strip [] = [] := rfl

end LoopStepper.Text
