import LoopStepper.Text.Printable

/-!
# Quoted texts

The one-line form of a text inside a message: between quotes, with everything that would not show
as it is written as an escape.
-/

namespace LoopStepper.Text

/-- The lower-case hexadecimal digits of a number, at least `width` of them. -/
def hex (width n : Nat) : List Char :=
  let digits := Nat.toDigits 16 n
  List.replicate (width - digits.length) '0' ++ digits

/-- A hidden character as an escape: two, four or eight hexadecimal digits, whichever suffice. -/
def hexEscape (c : Char) : List Char :=
  let n := c.toNat
  if n < 0x100 then '\\' :: 'x' :: hex 2 n
  else if n < 0x10000 then '\\' :: 'u' :: hex 4 n
  else '\\' :: 'U' :: hex 8 n

/-- One character between the quotes `quote`. -/
def quoteChar (quote c : Char) : List Char :=
  if c = quote || c = '\\' then ['\\', c]
  else if c = '\n' then ['\\', 'n']
  else if c = '\r' then ['\\', 'r']
  else if c = '\t' then ['\\', 't']
  else if isPrintable c then [c]
  else hexEscape c

/-- Single quotes, unless the text holds one and no double quote. -/
def quoteMark (cs : List Char) : Char :=
  if cs.contains '\'' && !cs.contains '"' then '"' else '\''

/-- The quoted form of a text. -/
def quoted (cs : List Char) : List Char :=
  let quote := quoteMark cs
  quote :: cs.flatMap (quoteChar quote) ++ [quote]

/-- The quoted form of a string. -/
def quotedString (s : String) : String :=
  String.ofList (quoted s.toList)

end LoopStepper.Text
