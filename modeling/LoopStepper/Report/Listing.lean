import LoopStepper.Text.Lines

/-!
# Listings

A source text with numbered lines. Each row is a marker, which points at the active line, the
number of the line in at least three places, a separator, and the line as it is.
-/

namespace LoopStepper.Report

open Text

/-- A text with blanks in front, so that it takes at least `width` places. -/
def padLeft (width : Nat) (cs : List Char) : List Char :=
  List.replicate (width - cs.length) ' ' ++ cs

/-- A text with blanks behind, so that it takes at least `width` places. -/
def padRight (width : Nat) (cs : List Char) : List Char :=
  cs ++ List.replicate (width - cs.length) ' '

/-- The row of a line. -/
def listingRow (active : Option Int) (number : Nat) (line : List Char) : List Char :=
  (if active = some (number : Int) then '>' else ' ') ::
    padLeft 3 (toString number).toList ++ [' ', '|', ' '] ++ line

/-- The rows of lines that are numbered from `number` on. -/
def listingRows (active : Option Int) (number : Nat) : List (List Char) → List (List Char)
  | [] => []
  | line :: lines => listingRow active number line :: listingRows active (number + 1) lines

/-- The listing of a source text. -/
def listing (source : String) (active : Option Int) : String :=
  String.ofList (unrows (listingRows active 1 (rows source.toList)))

end LoopStepper.Report
