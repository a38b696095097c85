import LoopStepper.Quantity

/-!
# Shortest decimals

The text of a binary64 number with the fewest digits that read back as the same number. A number of
`n` digits is looked for among the two neighbours of the value on the grid of such decimals, for one
digit, two digits, and so on; of two that read back the nearer one counts.
-/

namespace LoopStepper.Decimal

/-- A positive number `mantissa * 2 ^ exponent` and the numbers around it that read as it: those
between `low` and `high` times `2 ^ exponent`, with the ends if `closed`. -/
structure Span where
  low : Nat
  mantissa : Nat
  high : Nat
  exponent : Int
  closed : Bool

/-- The span of a positive binary64 number. Below a power of two the numbers are twice as dense. -/
def Span.ofParts (parts : BinaryParts) : Span where
  low := if parts.mantissa = 1 <<< 52 && -1074 < parts.exponent then 4 * parts.mantissa - 1
    else 4 * parts.mantissa - 2
  mantissa := 4 * parts.mantissa
  high := 4 * parts.mantissa + 2
  exponent := parts.exponent - 2
  closed := parts.mantissa % 2 = 0

/-- A decimal `digits * 10 ^ exponent`. -/
structure Digits where
  digits : Nat
  exponent : Int
  deriving DecidableEq, Repr

/-- Factors that bring `_ * 10 ^ ten` and `_ * 2 ^ two` to one unit. -/
def units (ten two : Int) : Nat × Nat :=
  (Nat.pow 10 ten.toNat <<< (-two).toNat, Nat.pow 10 (-ten).toNat <<< two.toNat)

/-- Whether a decimal, given in the unit of the bounds, lies in a span. -/
def Span.holds (span : Span) (unit value : Nat) : Bool :=
  if span.closed then span.low * unit ≤ value && value ≤ span.high * unit
  else span.low * unit < value && value < span.high * unit

/-- The decimal on the grid of `10 ^ ten` that reads as the number of a span, if there is one. Of
two neighbours that do, the nearer one is taken, and the even one if both are equally near. -/
def Span.onGrid? (span : Span) (ten : Int) : Option Digits :=
  let (decimal, binary) := units ten span.exponent
  let value := span.mantissa * binary
  let below := value / decimal
  let above := below + 1
  let belowHolds := span.holds binary (below * decimal) && below ≠ 0
  let aboveHolds := span.holds binary (above * decimal)
  let twice := 2 * (value % decimal)
  if belowHolds && (!aboveHolds || twice < decimal || (twice = decimal && below % 2 = 0)) then
    some ⟨below, ten⟩
  else if aboveHolds then some ⟨above, ten⟩
  else none

/-- The number of digits of a span's number in front of the point; for a number below one, less the
zeros behind it. -/
def Span.magnitude (span : Span) : (fuel : Nat) → (ten : Int) → Int
  | 0, ten => ten
  | fuel + 1, ten =>
    let (decimal, binary) := units ten span.exponent
    if span.mantissa * binary < decimal then span.magnitude fuel (ten - 1) else ten + 1

/-- The first decimal that reads as the number of a span, on the grids of `count` digits and
more. -/
def Span.search (span : Span) (magnitude : Int) : (left count : Nat) → Digits
  | 0, _ => ⟨0, 0⟩
  | left + 1, count =>
    match span.onGrid? (magnitude - count) with
    | some digits => digits
    | none => span.search magnitude left (count + 1)

/-- The shortest decimal of a positive number. Seventeen digits always read back, and no number has
more than 309 digits in front of its point or begins later than 324 places behind it. -/
def shortest (parts : BinaryParts) : Digits :=
  let span := Span.ofParts parts
  span.search (span.magnitude 700 310) 17 1

/-- A decimal without zeros at its end. -/
def stripZeros (digits : List Char) : List Char :=
  (digits.reverse.dropWhile (· = '0')).reverse

/-- The text of digits whose point stands behind the first `point` of them: in full if it is not far
away, else with an exponent of at least two digits. -/
def layOut (digits : List Char) (point : Int) : String :=
  let zeros (n : Int) : List Char := List.replicate n.toNat '0'
  let body : List Char :=
    if -4 < point && point ≤ 16 then
      if point ≤ 0 then '0' :: '.' :: zeros (-point) ++ digits
      else
        let whole := digits.take point.toNat ++ zeros (point - digits.length)
        let rest := digits.drop point.toNat
        whole ++ '.' :: if rest.isEmpty then ['0'] else rest
    else
      let rest := digits.drop 1
      let power := (point - 1).natAbs
      digits.take 1 ++ (if rest.isEmpty then [] else '.' :: rest) ++
        ['e', if point < 1 then '-' else '+'] ++
        (if power < 10 then ['0'] else []) ++ (toString power).toList
  String.ofList body

/-- The text of a binary64 number. -/
def text (x : Float) : String :=
  if x.isNaN then "nan"
  else
    let sign := if 1 <<< 63 ≤ x.toBits.toNat then "-" else ""
    if x.isInf then sign ++ "inf"
    else if x == 0 then sign ++ "0.0"
    else
      let decimal := shortest (BinaryParts.ofFloat x)
      let digits := (toString decimal.digits).toList
      sign ++ layOut (stripZeros digits) (digits.length + decimal.exponent)

end LoopStepper.Decimal
