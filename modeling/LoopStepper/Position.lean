/-!
# Positions in a sequence

A position is counted from the front, beginning with zero, or from the end, beginning with minus
one. Positions are words of 64 bits with a sign: a number beyond them is refused before the length
of the sequence is looked at. Main statement: what is located lies within the sequence
(`locate_lt`).
-/

namespace LoopStepper

/-- Why there is nothing at a position. -/
inductive PositionError where
  /-- The sequence does not reach that far. -/
  | outOfRange
  /-- The number is no word of 64 bits. -/
  | noWord
  deriving DecidableEq, Repr

/-- The message shown for a position in a sequence of the given kind. -/
def PositionError.message (sequence : String) : PositionError → String
  | .outOfRange => sequence ++ " index out of range"
  | .noWord => "cannot fit 'int' into an index-sized integer"

/-- The least number that is too large for a position. -/
def positionLimit : Int := 9223372036854775808

/-- The place of a position, counted from the front, in a sequence of the given length. -/
def locate (size : Nat) (position : Int) : Except PositionError Nat :=
  if position < -positionLimit || positionLimit ≤ position then .error .noWord
  else if 0 ≤ position then
    if position < size then .ok position.toNat else .error .outOfRange
  else if 0 ≤ position + size then .ok (position + size).toNat
  else .error .outOfRange

theorem locate_lt {size place : Nat} {position : Int} (h : locate size position = .ok place) :
    place < size := by
  unfold locate at h
  split at h
  · cases h
  · split at h
    · split at h
      · cases h
        omega
      · cases h
    · split at h
      · cases h
        omega
      · cases h

end LoopStepper
