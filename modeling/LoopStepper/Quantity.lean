import LoopStepper.Text.Numeral

/-!
# Quantities

What a caller may hand over for an amount of milliseconds, a count of rounds and the like: a whole
number of any size, a binary64 number, which need not be finite, or a text that is read as a
numeral. What the library computes with is the whole part.
-/

namespace LoopStepper

/-- A number as it was given. -/
inductive Quantity where
  | whole (n : Int)
  | real (x : Float)
  /-- A text, which should be a numeral. -/
  | text (s : String)
  /-- Something that is no number at all, with the name of its kind. -/
  | other (kind : String)

/-- Why a quantity has no whole part, or no binary64 number near it. -/
inductive QuantityError where
  | notANumber
  | infinite
  /-- A whole number beyond every binary64 number was to be taken for one. -/
  | tooLarge
  | numeral (error : Text.NumeralError)
  | noNumber (kind : String)
  /-- Something that is no number was to be divided. -/
  | noDividend (kind : String)
  /-- Something that is no number was to be a seed. -/
  | noSeed
  deriving DecidableEq, Repr

/-- The message shown for a quantity that cannot be used. -/
def QuantityError.message : QuantityError → String
  | .notANumber => "cannot convert float NaN to integer"
  | .infinite => "cannot convert float infinity to integer"
  | .tooLarge => "int too large to convert to float"
  | .numeral error => error.message
  | .noNumber kind =>
    "int() argument must be a string, a bytes-like object or a real number, not " ++
      Text.quotedString kind
  | .noDividend kind =>
    s!"unsupported operand type(s) for /: {Text.quotedString kind} and 'float'"
  | .noSeed =>
    "The only supported seed types are: None,\nint, float, str, bytes, and bytearray."

/-- The absolute value of a finite binary64 number as `mantissa * 2 ^ exponent`. -/
structure BinaryParts where
  mantissa : Nat
  exponent : Int

/-- The parts of a finite number, read off its bits. -/
def BinaryParts.ofFloat (x : Float) : BinaryParts :=
  let bits : Nat := x.toBits.toNat
  let fraction : Nat := bits % (1 <<< 52)
  let biased : Nat := (bits >>> 52) % (1 <<< 11)
  if biased = 0 then ⟨fraction, -1074⟩ else ⟨fraction + (1 <<< 52), (biased : Int) - 1075⟩

/-- The numerator and the denominator of `mantissa * 2 ^ exponent`. -/
def BinaryParts.ratio (parts : BinaryParts) : Nat × Nat :=
  if 0 ≤ parts.exponent then (parts.mantissa <<< parts.exponent.toNat, 1)
  else (parts.mantissa, 1 <<< (-parts.exponent).toNat)

/-- The whole part of a quantity; a fraction is cut off towards zero. -/
def Quantity.toInt : Quantity → Except QuantityError Int
  | .whole n => .ok n
  | .real x =>
    if x.isNaN then .error .notANumber
    else if x.isInf then .error .infinite
    else
      let (num, den) := (BinaryParts.ofFloat x).ratio
      let size : Int := (num / den : Nat)
      .ok (if x < 0 then -size else size)
  | .text s => (Text.readInt s.toList).mapError .numeral
  | .other kind => .error (.noNumber kind)

/-- The binary64 number nearest to a whole number. -/
def nearestFloat (n : Int) : Except QuantityError Float :=
  let x := Float.ofInt n
  if x.isInf then .error .tooLarge else .ok x

/-- The binary64 number nearest to a quantity. A text is not read for it. -/
def Quantity.toFloat : Quantity → Except QuantityError Float
  | .whole n => nearestFloat n
  | .real x => .ok x
  | .text _ => .error (.noDividend "str")
  | .other kind => .error (.noDividend kind)

/-- A quantity of milliseconds in seconds. -/
def Quantity.seconds (ms : Quantity) : Except QuantityError Float :=
  ms.toFloat.map (· / 1000.0)

/-- `num / den` rounded to the nearest whole number, a half to the even neighbour. -/
def roundHalfEven (num den : Nat) : Nat :=
  let q := num / den
  let twice := 2 * (num % den)
  if den < twice || (twice = den && q % 2 = 1) then q + 1 else q

/-- A length of time in seconds with six decimals. -/
def secondsText (seconds : Float) : String :=
  if seconds.isNaN then "nan"
  else if seconds.isInf then "inf"
  else
    let (num, den) := (BinaryParts.ofFloat seconds).ratio
    let micros := roundHalfEven (num * 1000000) den
    let decimals := toString (micros % 1000000)
    toString (micros / 1000000) ++ "." ++ "".pushn '0' (6 - decimals.length) ++ decimals

/-- The prime `2 ^ 61 - 1`. -/
def residuePrime : Nat := 2305843009213693951

/-- A number for a binary64 number: its residue modulo a prime for which sixty-one doublings change
nothing, with its sign. Minus one is left out, and infinity has a number of its own. -/
def realResidue (x : Float) : Int :=
  let parts := BinaryParts.ofFloat x
  let size : Int :=
    if x.isInf then 314159
    else ((parts.mantissa <<< (parts.exponent % 61).toNat) % residuePrime : Nat)
  let residue := if x < 0 then -size else size
  if residue = -1 then -2 else residue

/-- The seed that a quantity stands for: a whole number is its own, and a binary64 number has its
residue, taken for a word of 64 bits. -/
def Quantity.seed : Quantity → Except QuantityError Int
  | .real x => .ok (realResidue x % 18446744073709551616)
  | .other _ => .error .noSeed
  | quantity => quantity.toInt

@[simp] theorem Quantity.toInt_whole (n : Int) : (Quantity.whole n).toInt = .ok n := rfl

end LoopStepper
