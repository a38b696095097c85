import LoopStepper.Datum
import LoopStepper.Script.Line

/-!
# Where a body ends

The body of a callback reaches to the first line at which its braces balance. Braces are counted
wherever they stand, inside messages too. A body whose braces never balance reaches to the end of
the range it is in.
-/

namespace LoopStepper.Script

/-- The open braces of a line less its closing braces. -/
def braceBalance (line : Line) : Int :=
  (line.count '\x7b' : Int) - line.count '\x7d'

/-- The number of lines before the first one at which the braces balance, where `depth` braces are
open before the first line; all of them if there is no such line. -/
def bodyLength (depth : Int) : List Line → Nat
  | [] => 0
  | line :: lines =>
    if depth + braceBalance line ≤ 0 then 0
    else bodyLength (depth + braceBalance line) lines + 1

/-- Looks for the closing index among the `fuel` indices from `index` on, where `depth` braces are
open and `balance` says what the line at an index adds to them. -/
def closingFrom {ε : Type} (balance : Int → Except ε Int) (depth index : Int) :
    (fuel : Nat) → Except ε Int
  | 0 => .ok index
  | fuel + 1 =>
    match balance index with
    | .error error => .error error
    | .ok change =>
      if depth + change ≤ 0 then .ok index
      else closingFrom balance (depth + change) (index + 1) fuel

/-- The balance of the line at an index; lines before the first one are counted from the end. -/
def balanceAt (lines : Array Line) (index : Int) : Except PositionError Int :=
  (locate lines.size index).map fun place => braceBalance (lines.getD place [])

/-- The index of the line that closes the body opened at `opening`, in a range that ends before
`stop`; `stop` itself if the body is not closed in it. -/
def closingLine (lines : Array Line) (opening stop : Int) : Except PositionError Int :=
  if stop ≤ opening then .ok stop
  else closingFrom (balanceAt lines) 1 (opening + 1) (stop - (opening + 1)).toNat

/-- The balance of the line at an index of a value whose items are given as well: whatever can be
counted in counts as a line. -/
def itemBalance (lines : Datum) (items : Array Datum) (index : Int) : Except ShapeError Int := do
  let line ← lines.itemAt items index
  return ((← line.count '\x7b') : Int) - (← line.count '\x7d')

/-- The closing line where lines and bounds are values of any shape. What is not found is at the
end as it was given. -/
def closingLineOf (lines opening stop : Datum) : Except ShapeError Datum := do
  let first ← (← opening.plus 1).wholeNumber
  let last ← stop.wholeNumber
  let balance := itemBalance lines (lines.items?.getD []).toArray
  let found ← closingFrom balance 1 first (last - first).toNat
  return if found < last then .whole found else stop

theorem bodyLength_le (depth : Int) (lines : List Line) :
    bodyLength depth lines ≤ lines.length := by
  induction lines generalizing depth with
  | nil => simp [bodyLength]
  | cons line lines ih =>
    unfold bodyLength
    split
    · exact Nat.zero_le _
    · simpa using ih _

end LoopStepper.Script
