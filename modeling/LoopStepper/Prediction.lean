import LoopStepper.Quantity
import LoopStepper.Random.Shuffle
import LoopStepper.Task.Messages

/-!
# The prediction game

The player gets the messages of a script in random order and moves them one at a time into the
order in which they will be printed. When the run is finished the guess is compared with the
output, as a whole and place by place.
-/

namespace LoopStepper

/-- A guess at the order of the output. -/
structure Prediction where
  items : List String := []
  deriving DecidableEq, Repr

/-- How a guess compares with the output. -/
structure Verdict where
  correct : Bool
  /-- For each place of the guess, whether the output has the same message there. -/
  marks : List Bool
  deriving DecidableEq, Repr

namespace Prediction

/-- A new game for a script. -/
def deal (program : List Task) (shuffler : Shuffler) : Prediction × Shuffler :=
  let (items, shuffler) := shuffler.shuffle (gatherMessages program)
  (⟨items⟩, shuffler)

/-- Takes the item at `source` out and puts it back at `target`, counted from zero. There is no
such move if one of the places does not exist. -/
def move? (game : Prediction) (source target : Int) : Option Prediction :=
  let size := game.items.length
  if 0 ≤ source ∧ source < size ∧ 0 ≤ target ∧ target < size then
    match game.items[source.toNat]? with
    | some item => some ⟨(game.items.eraseIdx source.toNat).insertIdx target.toNat item⟩
    | none => none
  else none

/-- Why a move is broken off. -/
inductive PlaceError where
  /-- A place within the bounds is given as a real number. -/
  | notWhole
  /-- A place is given as something that is no number. -/
  | noOrder (kind : String)
  deriving DecidableEq, Repr

/-- The message shown for a move that is broken off. -/
def PlaceError.message : PlaceError → String
  | .notWhole => "'float' object cannot be interpreted as an integer"
  | .noOrder kind => s!"'<=' not supported between instances of 'int' and '{kind}'"

/-- Whether a quantity lies within the places of a guess. -/
def covers (game : Prediction) : Quantity → Except PlaceError Bool
  | .whole n => .ok (0 ≤ n && n < game.items.length)
  | .real x => .ok (0 ≤ x && x < Float.ofNat game.items.length)
  | .text _ => .error (.noOrder "str")
  | .other kind => .error (.noOrder kind)

/-- Moves an item between places given as any quantities, if there is such a move. The target is
looked at only if there is an item at the source. -/
def moveBetween? (game : Prediction) (source target : Quantity) :
    Except PlaceError (Option Prediction) := do
  if !(← game.covers source) then return none
  if !(← game.covers target) then return none
  match source, target with
  | .whole i, .whole j => return game.move? i j
  | _, _ => throw .notWhole

/-- The marks of a guess against an output. -/
def marksOf : List String → List String → List Bool
  | [], _ => []
  | _ :: items, [] => false :: marksOf items []
  | item :: items, text :: output => (item == text) :: marksOf items output

/-- Compares the guess with the output. -/
def verdict (game : Prediction) (output : List String) : Verdict where
  correct := game.items == output
  marks := marksOf game.items output

end Prediction

/-- The word for a verdict as a whole. -/
def Verdict.word (verdict : Verdict) : String :=
  if verdict.correct then "CORRECT" else "INCORRECT"

end LoopStepper
