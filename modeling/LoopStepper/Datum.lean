import LoopStepper.Decimal.Shortest
import LoopStepper.Position
import LoopStepper.Quantity

/-!
# Data

Values of any shape, as they come from a file or another program. They have two texts: a literal,
which says what kind of value it is, and a display, in which a text stands for itself. What is asked
of a value, a part of it or a sum with it, may not fit its shape; the cause is then the error.
-/

namespace LoopStepper

/-- A value of any shape. A record keeps its fields in order. -/
inductive Datum where
  | nothing
  | flag (b : Bool)
  | whole (n : Int)
  | real (x : Float)
  | text (s : String)
  | list (items : List Datum)
  | record (fields : List (String × Datum))

namespace Datum

instance : Inhabited Datum := ⟨.nothing⟩

/-- The name of the kind of a value. -/
def kind : Datum → String
  | .nothing => "NoneType"
  | .flag _ => "bool"
  | .whole _ => "int"
  | .real _ => "float"
  | .text _ => "str"
  | .list _ => "list"
  | .record _ => "dict"

/-- Whether a value counts as yes: everything but nothing, no, zero and what is empty. -/
def isTrue : Datum → Bool
  | .nothing => false
  | .flag b => b
  | .whole n => n ≠ 0
  | .real x => x != 0
  | .text s => !s.isEmpty
  | .list items => !items.isEmpty
  | .record fields => !fields.isEmpty

mutual

/-- The literal of a value. -/
def literal : Datum → Except Text.NumeralError String
  | .nothing => .ok "None"
  | .flag b => .ok (if b then "True" else "False")
  | .whole n => Text.writeInt n
  | .real x => .ok (Decimal.text x)
  | .text s => .ok (Text.quotedString s)
  | .list items => (literals items).map fun parts => "[" ++ ", ".intercalate parts ++ "]"
  | .record fields =>
    (fieldLiterals fields).map fun parts => "\x7b" ++ ", ".intercalate parts ++ "\x7d"

/-- The literals of the items of a list. -/
def literals : List Datum → Except Text.NumeralError (List String)
  | [] => .ok []
  | item :: items => do
    let first ← literal item
    return first :: (← literals items)

/-- The literals of the fields of a record. -/
def fieldLiterals : List (String × Datum) → Except Text.NumeralError (List String)
  | [] => .ok []
  | (name, value) :: fields => do
    let first ← literal value
    return (Text.quotedString name ++ ": " ++ first) :: (← fieldLiterals fields)

end

/-- A value as a quantity; a flag counts as one or zero. -/
def quantity : Datum → Quantity
  | .flag b => .whole (if b then 1 else 0)
  | .whole n => .whole n
  | .real x => .real x
  | .text s => .text s
  | value => .other value.kind

/-- A value, unless it counts as no. -/
def truth? (value : Datum) : Option Datum :=
  if value.isTrue then some value else none

/-- A number that may be missing. -/
def ofInt? : Option Int → Datum
  | none => .nothing
  | some n => .whole n

end Datum

/-- Why a value does not have the shape that is asked for. -/
inductive ShapeError where
  /-- A record has no field of that name. -/
  | missing (key : String)
  /-- A record has no numbered parts. -/
  | missingNumber (index : Int)
  /-- A text has only numbered parts. -/
  | textKey
  /-- A list has only numbered parts. -/
  | listKey
  /-- There is nothing at a position in a sequence of that kind. -/
  | position (sequence : String) (error : PositionError)
  /-- A value of that kind is no position in a sequence. -/
  | noPosition (sequence kind : String)
  | noParts (kind : String)
  | noFields (kind : String)
  | noItems (kind : String)
  | noEnd (kind : String)
  | noCount (kind : String)
  | noStart (kind : String)
  | noPadding (kind : String)
  /-- A value of that kind does not compare with a number in the way the sign says. -/
  | noOrder (sign kind : String)
  /-- A value of that kind and a number are not the operands of a sign. -/
  | noOperand (sign kind : String)
  /-- Only its like can be put behind a value of that kind. -/
  | noJoin (kind : String)
  | noWhole (kind : String)
  /-- A value of that kind is never the key of an entry. -/
  | noKey (kind : String)
  /-- A value is none of the words for the kinds of tasks, by its literal. -/
  | noTaskKind (literal : String)
  /-- A value is no event, by its literal. -/
  | noEvent (literal : String)
  | noText (index : Nat) (kind : String)
  | noTexts
  /-- A number cannot be used or shown. -/
  | quantity (error : QuantityError)
  deriving DecidableEq, Repr

/-- The message shown for a value of the wrong shape. -/
def ShapeError.message : ShapeError → String
  | .missing key => Text.quotedString key
  | .missingNumber index => toString index
  | .textKey => "string indices must be integers, not 'str'"
  | .listKey => "list indices must be integers or slices, not str"
  | .position sequence error => error.message sequence
  | .noPosition sequence kind => s!"{sequence} indices must be integers or slices, not {kind}"
  | .noParts kind => s!"'{kind}' object is not subscriptable"
  | .noFields kind => s!"'{kind}' object has no attribute 'get'"
  | .noItems kind => s!"'{kind}' object is not iterable"
  | .noEnd kind => s!"'{kind}' object is not reversible"
  | .noCount kind => s!"'{kind}' object has no attribute 'count'"
  | .noStart kind => s!"'{kind}' object has no attribute 'startswith'"
  | .noPadding kind => s!"unsupported format string passed to {kind}.__format__"
  | .noOrder sign kind => s!"'{sign}' not supported between instances of '{kind}' and 'int'"
  | .noOperand sign kind => s!"unsupported operand type(s) for {sign}: '{kind}' and 'int'"
  | .noJoin kind => s!"can only concatenate {kind} (not \"int\") to {kind}"
  | .noWhole kind => s!"'{kind}' object cannot be interpreted as an integer"
  | .noKey kind => s!"unhashable type: '{kind}'"
  | .noTaskKind literal => s!"{literal} is not a valid TaskKind"
  | .noEvent literal => "Unknown event: " ++ literal
  | .noText index kind => s!"sequence item {index}: expected str instance, {kind} found"
  | .noTexts => "can only join an iterable"
  | .quantity error => error.message

/-- Too many digits, as an error of a value's shape. -/
def ShapeError.numeral (error : Text.NumeralError) : ShapeError :=
  .quantity (.numeral error)

namespace Datum

/-! ## Texts -/

/-- The text that a value is; any other value counts as the empty text. -/
def asText : Datum → String
  | .text s => s
  | _ => ""

/-- The display of a value. -/
def display : Datum → Except ShapeError String
  | .text s => .ok s
  | value => value.literal.mapError .numeral

/-- The display of a value, unless it counts as no. -/
def trueDisplay? (value : Datum) : Except ShapeError (Option String) :=
  if value.isTrue then value.display.map some else .ok none

/-- The text of a value in a column; a flag counts as a number there. -/
def cell : Datum → Except ShapeError String
  | .text s => .ok s
  | .flag b => .ok (if b then "1" else "0")
  | .whole n => (Text.writeInt n).mapError .numeral
  | .real x => .ok (Decimal.text x)
  | value => .error (.noPadding value.kind)

/-! ## Parts -/

/-- The value of a field of a record, or a default if the field is missing. -/
def fieldD (value : Datum) (key : String) (default : Datum) : Except ShapeError Datum :=
  match value with
  | .record fields => .ok ((fields.lookup key).getD default)
  | value => .error (.noFields value.kind)

/-- The value of a field of a record; nothing if the field is missing. -/
def field (key : String) (value : Datum) : Except ShapeError Datum :=
  value.fieldD key .nothing

/-- The value of a field that has to be there. -/
def part (key : String) : Datum → Except ShapeError Datum
  | .record fields =>
    match fields.lookup key with
    | some value => .ok value
    | none => .error (.missing key)
  | .text _ => .error .textKey
  | .list _ => .error .listKey
  | value => .error (.noParts value.kind)

/-- What a value consists of: the items of a list, the characters of a text, the keys of a
record. -/
def items? : Datum → Option (List Datum)
  | .list items => some items
  | .text s => some (s.toList.map fun c => .text (String.singleton c))
  | .record fields => some (fields.map fun entry => .text entry.1)
  | _ => none

/-- The items of a value that has items. -/
def items (value : Datum) : Except ShapeError (List Datum) :=
  match value.items? with
  | some items => .ok items
  | none => .error (.noItems value.kind)

/-- The items of a value that has items, the last one first. -/
def backwards (value : Datum) : Except ShapeError (List Datum) :=
  match value.items? with
  | some items => .ok items.reverse
  | none => .error (.noEnd value.kind)

/-- The last item of a value that is not empty; a record has no numbered parts. -/
def last : Datum → Except ShapeError Datum
  | .record _ => .error (.missingNumber (-1))
  | value =>
    match value.items? with
    | some items => .ok (items.getLast?.getD .nothing)
    | none => .error (.noParts value.kind)

/-- The item at a position of a value, whose items are given as well. -/
def itemAt (value : Datum) (items : Array Datum) (index : Int) : Except ShapeError Datum :=
  let located (sequence : String) : Except ShapeError Datum :=
    ((locate items.size index).mapError (.position sequence)).map fun place =>
      items.getD place .nothing
  match value with
  | .list _ => located "list"
  | .text _ => located "string"
  | .record _ => .error (.missingNumber index)
  | value => .error (.noParts value.kind)

/-- How often a character stands in a text, or the text of that character in a list. -/
def count (c : Char) : Datum → Except ShapeError Nat
  | .text s => .ok (s.toList.count c)
  | .list items => .ok (items.countP fun | .text s => s == String.singleton c | _ => false)
  | value => .error (.noCount value.kind)

/-- The items of a value as texts, which they have to be; the first one has the index `index`. -/
def textsFrom (index : Nat) : List Datum → Except ShapeError (List String)
  | [] => .ok []
  | .text s :: rest => (textsFrom (index + 1) rest).map (s :: ·)
  | value :: _ => .error (.noText index value.kind)

/-- The items of a value as texts, which they have to be. -/
def texts (value : Datum) : Except ShapeError (List String) :=
  match value.items? with
  | some items => textsFrom 0 items
  | none => .error .noTexts

/-! ## Numbers -/

/-- The number that a text stands for: one of the words for what is not finite, or a numeral. Any
other value stands for itself. -/
def numeric : Datum → Except ShapeError Datum
  | .text "nan" => .ok (.real (0.0 / 0.0))
  | .text "inf" => .ok (.real (1.0 / 0.0))
  | .text "-inf" => .ok (.real (-1.0 / 0.0))
  | .text s => ((Text.readInt s.toList).mapError .numeral).map .whole
  | value => .ok value

/-- The whole number that a value is; a flag counts as one or zero. -/
def wholeNumber : Datum → Except ShapeError Int
  | .flag b => .ok (if b then 1 else 0)
  | .whole n => .ok n
  | value => .error (.noWhole value.kind)

/-- What is done with a binary64 number and a whole one, which is taken for one of its kind. -/
def withReal (n : Int) (f : Float → Float) : Except ShapeError Datum :=
  ((nearestFloat n).mapError .quantity).map fun y => .real (f y)

/-- A value with a number added. -/
def plus (n : Int) : Datum → Except ShapeError Datum
  | .flag b => .ok (.whole ((if b then 1 else 0) + n))
  | .whole m => .ok (.whole (m + n))
  | .real x => withReal n (x + ·)
  | .text _ => .error (.noJoin "str")
  | .list _ => .error (.noJoin "list")
  | value => .error (.noOperand "+" value.kind)

/-- A value with a number taken away. -/
def minus (n : Int) : Datum → Except ShapeError Datum
  | .flag b => .ok (.whole ((if b then 1 else 0) - n))
  | .whole m => .ok (.whole (m - n))
  | .real x => withReal n (x - ·)
  | value => .error (.noOperand "-" value.kind)

/-- Whether a value is a number above zero. -/
def isPositive : Datum → Except ShapeError Bool
  | .flag b => .ok b
  | .whole n => .ok (0 < n)
  | .real x => .ok (0 < x)
  | value => .error (.noOrder ">" value.kind)

/-- Whether a value is a number that is not above zero. -/
def isSpent : Datum → Except ShapeError Bool
  | .flag b => .ok !b
  | .whole n => .ok (n ≤ 0)
  | .real x => .ok (x ≤ 0)
  | value => .error (.noOrder "<=" value.kind)

/-- Whether a value is a number that is not less than the given one. -/
def reaches (least : Int) : Datum → Except ShapeError Bool
  | .flag b => .ok (least ≤ (if b then 1 else 0))
  | .whole n => .ok (least ≤ n)
  | .real x => .ok (Float.ofInt least ≤ x)
  | value => .error (.noOrder ">=" value.kind)

end Datum

end LoopStepper
