/-!
# Code points

A text that comes from outside can hold half of a surrogate pair by itself. That is a code point and
no character, and UTF-8 has no form for it: exactly the texts of characters have bytes
(`encode?_eq_some_iff`).
-/

namespace LoopStepper.Text

/-- A code point: a character, or half of a surrogate pair. -/
abbrev CodePoint := Fin 0x110000

namespace CodePoint

/-- The character that a code point is, if it is one. -/
def char? (point : CodePoint) : Option Char :=
  if h : point.val.isValidChar then some (Char.ofNatAux point.val h) else none

/-- The code point of a character. -/
def ofChar (c : Char) : CodePoint :=
  ⟨c.toNat, by rcases c.valid with h | h <;> simp only [Char.toNat] <;> omega⟩

@[simp] theorem char?_ofChar (c : Char) : (ofChar c).char? = some c :=
  dif_pos c.valid

theorem char?_eq_some_iff {point : CodePoint} {c : Char} :
    point.char? = some c ↔ point = ofChar c := by
  refine ⟨fun h => ?_, fun h => h ▸ char?_ofChar c⟩
  unfold char? at h
  by_cases hvalid : point.val.isValidChar
  · rw [dif_pos hvalid] at h
    cases h
    rfl
  · rw [dif_neg hvalid] at h
    cases h

end CodePoint

/-- The code points of a text of characters. -/
def codePoints (text : String) : List CodePoint :=
  text.toList.map .ofChar

/-- The UTF-8 form of a text, if it has one. -/
def encode? (points : List CodePoint) : Option ByteArray :=
  (points.mapM CodePoint.char?).map fun cs => (String.ofList cs).toUTF8

theorem mapM_char?_eq_some_iff {points : List CodePoint} {cs : List Char} :
    points.mapM CodePoint.char? = some cs ↔ points = cs.map .ofChar := by
  induction points generalizing cs with
  | nil => cases cs <;> simp
  | cons point points ih =>
    cases cs <;> simp [Option.bind_eq_some_iff, CodePoint.char?_eq_some_iff, ih]

theorem encode?_eq_some_iff {points : List CodePoint} {bytes : ByteArray} :
    encode? points = some bytes ↔ ∃ text, codePoints text = points ∧ text.toUTF8 = bytes := by
  simp only [encode?, Option.map_eq_some_iff, mapM_char?_eq_some_iff, codePoints]
  constructor
  · rintro ⟨cs, rfl, rfl⟩
    exact ⟨String.ofList cs, by rw [String.toList_ofList], rfl⟩
  · rintro ⟨text, rfl, rfl⟩
    exact ⟨text.toList, rfl, by rw [String.ofList_toList]⟩

@[simp] theorem encode?_codePoints (text : String) :
    encode? (codePoints text) = some text.toUTF8 :=
  encode?_eq_some_iff.mpr ⟨text, rfl, rfl⟩

end LoopStepper.Text
