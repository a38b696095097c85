import LoopStepper.Text.Blank
import LoopStepper.Text.Digit
import LoopStepper.Text.Quoted

/-!
# Whole numbers as text

Reading and writing whole numbers of any size in decimal. A numeral may stand between blanks and
have a sign; its digits may be of any script, and single underscores may stand between them. Both
directions refuse more than `maxDigits` digits.
-/

namespace LoopStepper.Text

/-- The most digits a numeral may have. -/
def maxDigits : Nat := 4300

/-- Why a text is not read as a whole number, or a number not written. -/
inductive NumeralError where
  /-- More than `maxDigits` digits were read. -/
  | tooManyDigits (count : Nat)
  /-- The text is no numeral. -/
  | malformed (text : String)
  /-- The number has more than `maxDigits` digits. -/
  | tooLarge
  deriving DecidableEq, Repr

/-- The message shown for an error; a malformed text is quoted up to 200 characters. -/
def NumeralError.message : NumeralError → String
  | .tooManyDigits count =>
    s!"Exceeds the limit ({maxDigits} digits) for integer string conversion: value has {count} " ++
      "digits; use sys.set_int_max_str_digits() to increase the limit"
  | .malformed text =>
    "invalid literal for int() with base 10: " ++ String.ofList ((quoted text.toList).take 200)
  | .tooLarge =>
    s!"Exceeds the limit ({maxDigits} digits) for integer string conversion; " ++
      "use sys.set_int_max_str_digits() to increase the limit"

/-- The blanks allowed around a numeral: all but the information separators. -/
def isNumeralBlank (c : Char) : Bool :=
  isBlank c && !(0x1C ≤ c.toNat && c.toNat ≤ 0x1F)

/-- Digits and underscores. -/
def isNumeralChar (c : Char) : Bool :=
  isDecimal c || c = '_'

/-- Whether a run of digits and underscores has a digit on both sides of every underscore. The flag
says that a digit stands right before the run. -/
def wellSeparated (afterDigit : Bool) : List Char → Bool
  | [] => afterDigit
  | c :: cs => if c = '_' then afterDigit && wellSeparated false cs else wellSeparated true cs

/-- A leading sign, as whether the number is negative, and what follows it. -/
def splitSign : List Char → Bool × List Char
  | '-' :: cs => (true, cs)
  | '+' :: cs => (false, cs)
  | cs => (false, cs)

/-- The number that decimal digits of any script stand for, unless they are too many. -/
def readDigits (digits : List Char) : Except NumeralError Nat :=
  if maxDigits < digits.length then .error (.tooManyDigits digits.length)
  else .ok (digitsValue digits)

/-- Reads a whole number. Too many digits are reported before anything behind them is looked at. -/
def readInt (cs : List Char) : Except NumeralError Int :=
  let bare := ((cs.dropWhile isNumeralBlank).reverse.dropWhile isNumeralBlank).reverse
  let (negative, body) := splitSign bare
  let run := body.takeWhile isNumeralChar
  if !wellSeparated false run then .error (.malformed (String.ofList cs))
  else
    match readDigits (run.filter isDecimal) with
    | .error e => .error e
    | .ok n =>
      if run.length < body.length then .error (.malformed (String.ofList cs))
      else .ok (if negative then -n else n)

/-- The number a text stands for, or `default` if it stands for none. -/
def readIntD (text : String) (default : Int) : Int :=
  match readInt text.toList with
  | .ok n => n
  | .error _ => default

/-- A whole number in plain digits. -/
def writeInt (n : Int) : Except NumeralError String :=
  if Nat.pow 10 maxDigits ≤ n.natAbs then .error .tooLarge else .ok (toString n)

end LoopStepper.Text
