/-!
# Sets of code points

A property of characters is stored as the ascending code points at which it changes, starting from
"does not hold" at zero. A set of many ranges is then one short list, and membership is the parity
of the changes passed.
-/

namespace LoopStepper.Text

/-- A set of code points, given by the points where membership changes. -/
structure CodeSet where
  turns : List Nat

/-- Whether a code point is in the set: an odd number of changes lies at or below it. -/
def CodeSet.contains (set : CodeSet) (code : Nat) : Bool :=
  go false set.turns
where
  go (inside : Bool) : List Nat → Bool
    | [] => inside
    | turn :: turns => if turn ≤ code then go (!inside) turns else inside

end LoopStepper.Text
