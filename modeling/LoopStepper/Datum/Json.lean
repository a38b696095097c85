import LoopStepper.Datum

/-!
# JSON texts

The indented JSON text of a value: two blanks a level, an item a line, nothing between the brackets
of what is empty. Characters beyond ASCII stand as they are; only quotes, backslashes and controls
are escaped.
-/

namespace LoopStepper

open Text

namespace Datum

/-- One character inside a JSON string. -/
def escapeChar (c : Char) : List Char :=
  if c = '"' || c = '\\' then ['\\', c]
  else if c = '\n' then ['\\', 'n']
  else if c = '\r' then ['\\', 'r']
  else if c = '\t' then ['\\', 't']
  else if c.toNat = 8 then ['\\', 'b']
  else if c.toNat = 12 then ['\\', 'f']
  else if c.toNat < 32 then '\\' :: 'u' :: hex 4 c.toNat
  else [c]

/-- A string between double quotes. -/
def quote (s : String) : String :=
  String.ofList ('"' :: s.toList.flatMap escapeChar ++ ['"'])

/-- A binary64 number; what is not finite has a word of its own. -/
def realText (x : Float) : String :=
  if x.isNaN then "NaN"
  else if x.isInf then if x < 0 then "-Infinity" else "Infinity"
  else Decimal.text x

/-- A new line at a depth of nesting. -/
def newline (depth : Nat) : String :=
  "\n" ++ "".pushn ' ' (2 * depth)

/-- Items between brackets, each on a line of its own one level deeper than the brackets. -/
def enclose (opening closing : String) (depth : Nat) (items : List String) : String :=
  if items.isEmpty then opening ++ closing
  else
    opening ++ newline (depth + 1) ++ ("," ++ newline (depth + 1)).intercalate items ++
      newline depth ++ closing

mutual

/-- The indented text of a value at a depth of nesting. A number of too many digits has none. -/
def write (depth : Nat) : Datum → Except NumeralError String
  | .nothing => .ok "null"
  | .flag b => .ok (if b then "true" else "false")
  | .whole n => writeInt n
  | .real x => .ok (realText x)
  | .text s => .ok (quote s)
  | .list items => (writeItems (depth + 1) items).map (enclose "[" "]" depth)
  | .record fields => (writeFields (depth + 1) fields).map (enclose "\x7b" "\x7d" depth)

/-- The texts of the items of a list. -/
def writeItems (depth : Nat) : List Datum → Except NumeralError (List String)
  | [] => .ok []
  | item :: items => do
    let text ← write depth item
    let texts ← writeItems depth items
    return text :: texts

/-- The texts of the fields of a record. -/
def writeFields (depth : Nat) : List (String × Datum) → Except NumeralError (List String)
  | [] => .ok []
  | (name, value) :: fields => do
    let text ← write depth value
    let texts ← writeFields depth fields
    return (quote name ++ ": " ++ text) :: texts

end

/-- The indented text of a value. -/
def json (value : Datum) : Except NumeralError String :=
  value.write 0

end Datum

end LoopStepper
