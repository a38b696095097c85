import Mathlib.Data.List.Induction
import Mathlib.Data.List.TakeWhile
import Mathlib.Data.Nat.Digits.Defs
import LoopStepper.Proofs.Printed

/-!
# The grammar of a line

A line is read with three patterns, each tried at every place from left to right. What they accept
is said here without the trying: by the ways in which a text can be written as a concatenation of
its parts (`PrintCall`, `EndsWithHeader`, `DelayIn`). A print call and a delay are taken where they
begin furthest to the left, and of the print calls that begin there the shortest counts. The opening
of a callback reaches to the end of the line, so it can be read from there back to its name
(`nameBackwards?`); and as no name is the end of another one, no text opens two callbacks.

The lines of a script hold no line feed, but nothing here depends on that.

Headline:
* **`line_grammar`**: a line is read by these decompositions, and by nothing else.
-/

namespace LoopStepper

namespace Text

/-! ## Characters -/

/-- A decimal digit stands in one of the runs of ten. -/
theorem exists_zero_of_isDecimal {c : Char} (h : isDecimal c = true) :
    ∃ start ∈ zeros, start ≤ c.toNat ∧ c.toNat < start + 10 := by
  unfold isDecimal digitValue? at h
  split at h
  · split at h
    · next hdigit =>
      have hrange := Char.isDigit_iff_toNat.mp hdigit
      exact ⟨48, List.mem_cons_self, hrange.1, Nat.lt_succ_of_le hrange.2⟩
    · cases h
  · rw [Option.isSome_map] at h
    obtain ⟨start, hstart⟩ := Option.isSome_iff_exists.mp h
    have hrange := List.find?_some hstart
    rw [Bool.and_eq_true, decide_eq_true_iff, decide_eq_true_iff] at hrange
    exact ⟨start, List.mem_of_find?_eq_some hstart, hrange⟩

/-- No digit is a blank. -/
theorem isBlank_of_isDecimal {c : Char} (h : isDecimal c = true) : isBlank c = false := by
  -- the runs of digits lie between the blanks
  have hapart : ∀ start ∈ zeros, 0x20 < start ∧ (start + 10 ≤ 0x85 ∨ 0xA0 < start) ∧
      (start + 10 ≤ 0x1680 ∨ 0x1680 < start) ∧ (start + 10 ≤ 0x2000 ∨ 0x3000 < start) := by
    decide
  obtain ⟨start, hmem, hlow, hhigh⟩ := exists_zero_of_isDecimal h
  have := hapart start hmem
  by_contra hblank
  simp only [Bool.not_eq_false, isBlank, Bool.or_eq_true, Bool.and_eq_true, decide_eq_true_eq,
    beq_iff_eq] at hblank
  omega

/-- The number that digits stand for, by the places of the digits. -/
theorem digitsValue_eq_ofDigits (cs : List Char) :
    digitsValue cs = Nat.ofDigits 10 (cs.reverse.map fun c => (digitValue? c).getD 0) := by
  induction cs using List.reverseRecOn with
  | nil => rfl
  | append_singleton cs c ih =>
    rw [List.reverse_append, List.reverse_singleton, List.singleton_append, List.map_cons,
      Nat.ofDigits_cons, ← ih, digitsValue, List.foldl_append, List.foldl_cons, List.foldl_nil,
      ← digitsValue, Nat.add_comm]

/-! ## Blanks -/

variable {gap : List Char} {c : Char}

/-- A text begins with the blanks that are dropped from it. -/
theorem exists_eq_dropBlanks (cs : List Char) :
    ∃ gap, (∀ c ∈ gap, isBlank c = true) ∧ cs = gap ++ dropBlanks cs :=
  ⟨cs.takeWhile isBlank, fun c hc => List.all_eq_true.mp List.all_takeWhile c hc,
    List.takeWhile_append_dropWhile.symm⟩

/-- Blanks are dropped up to the first character that is none. -/
theorem dropBlanks_gap (hgap : ∀ c ∈ gap, isBlank c = true) (hc : isBlank c = false)
    (rest : List Char) : dropBlanks (gap ++ c :: rest) = c :: rest := by
  rw [dropBlanks_blanks_append hgap]
  exact List.dropWhile_cons_of_neg (by rw [hc]; exact Bool.false_ne_true)

theorem dropBlanks_eq_nil_iff {cs : List Char} :
    dropBlanks cs = [] ↔ ∀ c ∈ cs, isBlank c = true :=
  List.dropWhile_eq_nil_iff

/-- A stripped text does not end with a blank. -/
theorem getLast?_strip {cs : List Char} (h : c ∈ (strip cs).getLast?) : isBlank c = false := by
  have hhead : (dropBlanks (dropBlanks cs).reverse).head? = some c := by
    rw [strip, List.getLast?_reverse] at h
    exact h
  have := List.head?_dropWhile_not isBlank (dropBlanks cs).reverse
  rw [dropBlanks] at hhead
  rw [hhead] at this
  exact this

end Text

namespace Script

open Text

/-! ## Patterns -/

theorem after?_eq_some_iff {word cs rest : List Char} :
    after? word cs = some rest ↔ cs = word ++ rest := by
  constructor
  · intro h
    fun_induction after? word cs with
    | case1 cs => exact Option.some.inj h
    | case2 => cases h
    | case3 word c cs ih => rw [List.cons_append, ← ih h]
    | case4 => cases h
  · rintro rfl
    exact after?_append_self word rest

/-- A word that begins with no blank is found behind the blanks in front of it. -/
theorem after?_dropBlanks_iff {w : Char} (hw : isBlank w = false) {word cs rest : List Char} :
    after? (w :: word) (dropBlanks cs) = some rest ↔
      ∃ gap, (∀ c ∈ gap, isBlank c = true) ∧ cs = gap ++ (w :: word ++ rest) := by
  rw [after?_eq_some_iff]
  constructor
  · intro h
    obtain ⟨gap, hgap, heq⟩ := exists_eq_dropBlanks cs
    exact ⟨gap, hgap, h ▸ heq⟩
  · rintro ⟨gap, hgap, rfl⟩
    exact dropBlanks_gap hgap hw _

section Leftmost

variable {α : Type} {pattern : List Char → Option α} {cs : List Char}

/-- A pattern has its answer from the place furthest to the left at which it has one. -/
theorem leftmost?_eq_some_iff {a : α} : leftmost? pattern cs = some a ↔
    ∃ front rest, cs = front ++ rest ∧ pattern rest = some a ∧
      ∀ before behind, cs = before ++ behind → (pattern behind).isSome →
        front.length ≤ before.length := by
  induction cs with
  | nil =>
    rw [leftmost?]
    constructor
    · exact fun h => ⟨[], [], rfl, h, fun _ _ _ _ => Nat.zero_le _⟩
    · rintro ⟨front, rest, heq, h, -⟩
      rwa [(List.append_eq_nil_iff.mp heq.symm).2] at h
  | cons c cs ih =>
    rw [leftmost?]
    cases hhere : pattern (c :: cs) with
    | some b =>
      constructor
      · exact fun h => ⟨[], c :: cs, rfl, hhere.trans h, fun _ _ _ _ => Nat.zero_le _⟩
      · rintro ⟨front, rest, heq, h, hleast⟩
        have hnil : front = [] := List.eq_nil_of_length_eq_zero
          (Nat.le_zero.mp (hleast [] (c :: cs) rfl (by rw [hhere]; rfl)))
        rw [hnil, List.nil_append] at heq
        rwa [← heq, hhere] at h
    | none =>
      refine ih.trans ⟨?_, ?_⟩
      · rintro ⟨front, rest, rfl, h, hleast⟩
        refine ⟨c :: front, rest, rfl, h, fun before behind heq hsome => ?_⟩
        cases before with
        | nil =>
          rw [List.nil_append] at heq
          rw [← heq, hhere] at hsome
          cases hsome
        | cons d before =>
          exact Nat.succ_le_succ (hleast before behind (List.cons.inj heq).2 hsome)
      · rintro ⟨front, rest, heq, h, hleast⟩
        cases front with
        | nil =>
          rw [List.nil_append] at heq
          rw [← heq, hhere] at h
          cases h
        | cons d front =>
          obtain ⟨rfl, htail⟩ := List.cons.inj heq
          refine ⟨front, rest, htail, h, fun before behind hbefore hsome => ?_⟩
          exact Nat.le_of_succ_le_succ
            (hleast (c :: before) behind (congrArg (c :: ·) hbefore) hsome)

/-- A pattern has an answer in a text if it has one at some place. -/
theorem isSome_leftmost?_iff : (leftmost? pattern cs).isSome = true ↔
    ∃ front rest, cs = front ++ rest ∧ (pattern rest).isSome = true := by
  constructor
  · intro h
    obtain ⟨a, ha⟩ := Option.isSome_iff_exists.mp h
    obtain ⟨front, rest, heq, h, -⟩ := leftmost?_eq_some_iff.mp ha
    exact ⟨front, rest, heq, by rw [h]; rfl⟩
  · rintro ⟨front, rest, rfl, h⟩
    induction front with
    | nil =>
      obtain ⟨a, ha⟩ := Option.isSome_iff_exists.mp h
      rw [List.nil_append, leftmost?_of_eq_some ha]
      rfl
    | cons c front ih =>
      rw [List.cons_append, leftmost?]
      cases pattern (c :: (front ++ rest)) with
      | some a => rfl
      | none => exact ih

end Leftmost

/-! ## Print calls -/

/-- A text written as a print call between a front and a back: a message of at least one character
stands in two quotes of the same kind. -/
structure PrintCall (text front : List Char) (quote : Char) (message back : List Char) : Prop where
  text_eq : text = front ++ "console.log(".toList ++ [quote] ++ message ++ [quote, ')'] ++ back
  quote_mem : quote ∈ ['\'', '"', Char.ofNat 0x60]
  message_ne : message ≠ []

/-- The print call of a text that counts: none begins further to the left, and of those that begin
at its place none is shorter. -/
structure FirstCall (text front : List Char) (quote : Char) (message back : List Char) : Prop
    extends PrintCall text front quote message back where
  leftmost : ∀ before other content behind, PrintCall text before other content behind →
    front.length ≤ before.length
  shortest : ∀ other content behind, PrintCall text front other content behind →
    message.length ≤ content.length

section PrintCall

variable {text front back : List Char} {quote : Char} {message : List Char}

theorem isQuote_iff : isQuote quote = true ↔ quote ∈ ['\'', '"', Char.ofNat 0x60] := by
  simp [isQuote, or_assoc]

/-- A print call does not depend on what stands in front of it. -/
theorem printCall_append_iff :
    PrintCall (front ++ text) front quote message back ↔ PrintCall text [] quote message back := by
  constructor
  · rintro ⟨heq, hquote, hmessage⟩
    exact ⟨List.append_cancel_left (heq.trans (by simp only [List.append_assoc, List.nil_append])),
      hquote, hmessage⟩
  · rintro ⟨rfl, hquote, hmessage⟩
    exact ⟨by simp only [List.append_assoc, List.nil_append], hquote, hmessage⟩

theorem PrintCall.exists_eq_append (h : PrintCall text front quote message back) :
    ∃ rest, text = front ++ rest ∧ PrintCall rest [] quote message back := by
  have heq : text = front ++
      ("console.log(".toList ++ [quote] ++ message ++ [quote, ')'] ++ back) :=
    h.text_eq.trans (by simp only [List.append_assoc])
  rw [heq] at h
  exact ⟨_, heq, printCall_append_iff.mp h⟩

/-- Messages of one length in print calls that begin at one place are the same. -/
theorem PrintCall.message_eq {other : Char} {content behind : List Char}
    (h : PrintCall text front quote message back)
    (hother : PrintCall text front other content behind)
    (hlength : message.length = content.length) : message = content := by
  have heq := h.text_eq.symm.trans hother.text_eq
  simp only [List.append_assoc, List.append_cancel_left_eq, List.singleton_append] at heq
  exact (List.append_inj (List.cons.inj heq).2 hlength).1

/-- A message ends in front of a quote with a parenthesis behind it. -/
theorem untilClose?_sound {cs : List Char} (h : untilClose? quote cs = some message) :
    ∃ back, cs = message ++ [quote, ')'] ++ back := by
  fun_induction untilClose? quote cs generalizing message with
  | case1 => cases h
  | case2 c cs hclose =>
    rw [Bool.and_eq_true, decide_eq_true_iff, decide_eq_true_iff] at hclose
    obtain ⟨rfl, hparen⟩ := hclose
    obtain ⟨back, rfl⟩ := List.head?_eq_some_iff.mp hparen
    cases h
    exact ⟨back, rfl⟩
  | case3 c cs hopen ih =>
    obtain ⟨message, hmessage, rfl⟩ := Option.map_eq_some_iff.mp h
    obtain ⟨back, rfl⟩ := ih hmessage
    exact ⟨back, rfl⟩

/-- It ends no later than in front of any such quote. -/
theorem untilClose?_least (quote : Char) (content behind : List Char) :
    ∃ message, untilClose? quote (content ++ [quote, ')'] ++ behind) = some message ∧
      message.length ≤ content.length := by
  induction content with
  | nil => exact ⟨[], by simp [untilClose?], Nat.le_refl _⟩
  | cons c content ih =>
    obtain ⟨message, hmessage, hle⟩ := ih
    rw [List.cons_append, List.cons_append, untilClose?]
    split
    · exact ⟨[], rfl, Nat.zero_le _⟩
    · exact ⟨c :: message, by rw [hmessage]; rfl, Nat.succ_le_succ hle⟩

/-- What is read as a print call is one. -/
theorem printCall?_sound (h : printCall? text = some message) :
    ∃ quote back, PrintCall text [] quote message back := by
  unfold printCall? at h
  split at h
  · next quote rest hrest =>
    split at h
    · next hquote =>
      cases rest with
      | nil => cases h
      | cons c rest =>
        obtain ⟨tail, htail, rfl⟩ := Option.map_eq_some_iff.mp h
        obtain ⟨back, rfl⟩ := untilClose?_sound htail
        refine ⟨quote, back, ?_, isQuote_iff.mp hquote, List.cons_ne_nil _ _⟩
        rw [after?_eq_some_iff.mp hrest]
        simp
    · cases h
  · cases h

/-- A print call is read, and the message that is taken is no longer than its own. -/
theorem PrintCall.least (h : PrintCall text [] quote message back) :
    ∃ taken, printCall? text = some taken ∧ taken.length ≤ message.length := by
  obtain ⟨heq, hquote, hmessage⟩ := h
  obtain ⟨c, tail, rfl⟩ := List.exists_cons_of_ne_nil hmessage
  obtain ⟨taken, htaken, hle⟩ := untilClose?_least quote tail back
  have hrest : text = "console.log(".toList ++ quote :: c :: (tail ++ [quote, ')'] ++ back) := by
    rw [heq]
    simp
  refine ⟨c :: taken, ?_, Nat.succ_le_succ hle⟩
  rw [hrest, printCall?, after?_append_self]
  simp only [isQuote_iff.mpr hquote, if_true, messageBody?, htaken, Option.map_some]

/-- A text has a message if it can be written as a print call. -/
theorem isSome_message?_iff : (message? text).isSome = true ↔
    ∃ front quote message back, PrintCall text front quote message back := by
  rw [message?, isSome_leftmost?_iff]
  constructor
  · rintro ⟨front, rest, rfl, h⟩
    obtain ⟨message, hmessage⟩ := Option.isSome_iff_exists.mp h
    obtain ⟨quote, back, hcall⟩ := printCall?_sound hmessage
    exact ⟨front, quote, message, back, printCall_append_iff.mpr hcall⟩
  · rintro ⟨front, quote, message, back, hcall⟩
    obtain ⟨rest, heq, hrest⟩ := hcall.exists_eq_append
    obtain ⟨taken, htaken, -⟩ := hrest.least
    exact ⟨front, rest, heq, by rw [htaken]; rfl⟩

/-- **The message of a text** is that of its first print call. -/
theorem message?_eq_some_iff : message? text = some message ↔
    ∃ front quote back, FirstCall text front quote message back := by
  rw [message?, leftmost?_eq_some_iff]
  constructor
  · rintro ⟨front, rest, rfl, h, hleft⟩
    obtain ⟨quote, back, hcall⟩ := printCall?_sound h
    refine ⟨front, quote, back, printCall_append_iff.mpr hcall, ?_, ?_⟩
    · intro before other content behind hother
      obtain ⟨rest', heq, hrest⟩ := hother.exists_eq_append
      obtain ⟨taken, htaken, -⟩ := hrest.least
      exact hleft before rest' heq (by rw [htaken]; rfl)
    · intro other content behind hother
      obtain ⟨taken, htaken, hle⟩ := (printCall_append_iff.mp hother).least
      obtain rfl := Option.some.inj (h.symm.trans htaken)
      exact hle
  · rintro ⟨front, quote, back, hfirst⟩
    obtain ⟨rest, rfl, hrest⟩ := hfirst.exists_eq_append
    obtain ⟨taken, htaken, hle⟩ := hrest.least
    obtain ⟨quote', back', hcall⟩ := printCall?_sound htaken
    have hge := hfirst.shortest _ _ _ (printCall_append_iff.mpr hcall)
    obtain rfl := hrest.message_eq hcall (Nat.le_antisymm hge hle)
    refine ⟨front, rest, rfl, htaken, fun before behind heq hsome => ?_⟩
    obtain ⟨content, hcontent⟩ := Option.isSome_iff_exists.mp hsome
    obtain ⟨other, after, hother⟩ := printCall?_sound hcontent
    exact hfirst.leftmost _ _ _ _ (heq ▸ printCall_append_iff.mpr hother)

/-- An empty message goes on to the next quote with a parenthesis behind it. -/
example : message? "console.log('') + '(x')".toList = some "') + '(x".toList := by
  decide

end PrintCall

/-! ## Openings of callbacks -/

/-- A text ends with the opening of a callback: its name, an arrow function without parameters and
an open brace, with blanks between the parts. -/
def EndsWithHeader (name : String) (text : List Char) : Prop :=
  ∃ front a b c, (∀ blank ∈ a ++ b ++ c, isBlank blank = true) ∧
    text = front ++ name.toList ++ ['('] ++ a ++ ['(', ')'] ++ b ++ ['=', '>'] ++ c ++ ['\x7b']

/-- The names of the callbacks, with the kinds and the contents of their tasks. -/
def headers : List (String × TaskKind × String) :=
  [("setTimeout", .timer, "setTimeout"),
   ("setImmediate", .timer, "setImmediate"),
   ("Promise.resolve().then", .microtask, "Promise.then"),
   ("queueMicrotask", .microtask, "queueMicrotask"),
   ("process.nextTick", .microtask, "process.nextTick")]

/-- Whether a line opens a callback, whatever else it opens. -/
def Callback.heads (callback : Callback) (line : Line) : Bool :=
  (leftmost? (fun cs => if opens callback.opening.toList cs then some () else none) line).isSome

theorem callback?_eq (line : Line) : callback? line = Callback.all.find? (·.heads line) := rfl

section Openings

variable {text : List Char} {callback other : Callback}

/-- A callback is opened by its parts, with blanks between them and behind the last. -/
theorem opens_iff {opening : List Char} : opens opening text = true ↔
    ∃ a b c d, (∀ blank ∈ a ++ b ++ c ++ d, isBlank blank = true) ∧
      text = opening ++ ['('] ++ a ++ ['(', ')'] ++ b ++ ['=', '>'] ++ c ++ ['\x7b'] ++ d := by
  have hparen : isBlank '(' = false := by decide
  have harrow : isBlank '=' = false := by decide
  have hbrace : isBlank '\x7b' = false := by decide
  simp only [opens, Option.any_eq_true, Option.bind_eq_bind, Option.bind_eq_some_iff,
    after?_eq_some_iff, after?_dropBlanks_iff hparen, after?_dropBlanks_iff harrow,
    after?_dropBlanks_iff hbrace, List.isEmpty_iff, dropBlanks_eq_nil_iff]
  constructor
  · rintro ⟨d, ⟨_, rfl, _, rfl, _, ⟨a, ha, rfl⟩, _, ⟨b, hb, rfl⟩, c, hc, rfl⟩, hd⟩
    refine ⟨a, b, c, d, ?_, by simp only [List.append_assoc, List.cons_append, List.nil_append]⟩
    simp only [List.forall_mem_append]
    exact ⟨⟨⟨ha, hb⟩, hc⟩, hd⟩
  · rintro ⟨a, b, c, d, hblank, rfl⟩
    simp only [List.forall_mem_append] at hblank
    obtain ⟨⟨⟨ha, hb⟩, hc⟩, hd⟩ := hblank
    exact ⟨d, ⟨_, by simp only [List.append_assoc], _, rfl, _, ⟨a, ha, rfl⟩, _, ⟨b, hb, rfl⟩, c, hc,
      rfl⟩, hd⟩

theorem heads_iff : callback.heads text = true ↔
    ∃ front rest, text = front ++ rest ∧ opens callback.opening.toList rest = true := by
  rw [Callback.heads, isSome_leftmost?_iff]
  refine exists_congr fun front => exists_congr fun rest => and_congr_right fun _ => ?_
  split <;> simp_all

/-- What stands in front of the parenthesis of an opening, backwards from the end of a text. -/
def nameBackwards? (text : List Char) : Option (List Char) := do
  let cs ← after? ['\x7b'] (dropBlanks text.reverse)
  let cs ← after? ['>', '='] (dropBlanks cs)
  let cs ← after? [')', '('] (dropBlanks cs)
  after? ['('] (dropBlanks cs)

/-- The name of a callback that is opened is found from the end of the text. -/
theorem nameBackwards?_of_opens {front opening : List Char} (h : opens opening text = true) :
    nameBackwards? (front ++ text) = some (opening.reverse ++ front.reverse) := by
  have hparen : isBlank '(' = false := by decide
  have hclosing : isBlank ')' = false := by decide
  have harrow : isBlank '>' = false := by decide
  have hbrace : isBlank '\x7b' = false := by decide
  obtain ⟨a, b, c, d, hblank, rfl⟩ := opens_iff.mp h
  simp only [List.forall_mem_append] at hblank
  obtain ⟨⟨⟨ha, hb⟩, hc⟩, hd⟩ := hblank
  have hback : ∀ {gap : List Char}, (∀ c ∈ gap, isBlank c = true) →
      ∀ c ∈ gap.reverse, isBlank c = true := fun h c hc => h c (List.mem_reverse.mp hc)
  simp only [nameBackwards?, Option.bind_eq_bind, Option.bind_eq_some_iff,
    after?_dropBlanks_iff hparen, after?_dropBlanks_iff hclosing, after?_dropBlanks_iff harrow,
    after?_dropBlanks_iff hbrace]
  refine ⟨_, ⟨d.reverse, hback hd, ?_⟩, _, ⟨c.reverse, hback hc, rfl⟩, _,
    ⟨b.reverse, hback hb, rfl⟩, a.reverse, hback ha, rfl⟩
  simp

/-- No name of a callback is the end of another one. -/
theorem Callback.eq_of_prefix : ∀ callback other : Callback,
    callback.opening.toList.reverse <+: other.opening.toList.reverse → callback = other := by
  intro callback other
  cases callback <;> cases other <;> decide

/-- **No text opens two callbacks.** -/
theorem heads_unique (h : callback.heads text = true) (hother : other.heads text = true) :
    callback = other := by
  obtain ⟨front, rest, rfl, hopens⟩ := heads_iff.mp h
  obtain ⟨front', rest', heq, hopens'⟩ := heads_iff.mp hother
  have hname : nameBackwards? (front ++ rest) = some _ := nameBackwards?_of_opens hopens
  have hname' : nameBackwards? (front' ++ rest') = some _ := nameBackwards?_of_opens hopens'
  rw [heq, hname'] at hname
  have hnames := Option.some.inj hname
  rcases List.prefix_or_prefix_of_prefix ⟨front.reverse, rfl⟩ ⟨front'.reverse, hnames⟩ with h | h
  · exact Callback.eq_of_prefix _ _ h
  · exact (Callback.eq_of_prefix _ _ h).symm

/-- The callback that a text opens does not depend on the order in which the callbacks are tried. -/
theorem find?_heads_iff {order : List Callback} (horder : ∀ callback, callback ∈ order) :
    order.find? (·.heads text) = some callback ↔ callback.heads text = true := by
  have hheads : ∀ found, order.find? (·.heads text) = some found → found.heads text = true :=
    fun _ => List.find?_some
  constructor
  · exact hheads callback
  · intro h
    cases hfind : order.find? (·.heads text) with
    | none => exact absurd h (List.find?_eq_none.mp hfind callback (horder callback))
    | some found => rw [heads_unique (hheads found hfind) h]

theorem Callback.mem_all (callback : Callback) : callback ∈ Callback.all := by
  cases callback <;> decide

/-- A stripped text opens a callback if it ends with its header. -/
theorem heads_strip_iff {line : List Char} :
    callback.heads (strip line) = true ↔ EndsWithHeader callback.opening (strip line) := by
  simp only [heads_iff, opens_iff]
  constructor
  · rintro ⟨front, _, heq, a, b, c, d, hblank, rfl⟩
    have hnil : d = [] := by
      cases hlast : d.getLast? with
      | none => exact List.getLast?_eq_none_iff.mp hlast
      | some last =>
        have hend : (strip line).getLast? = some last := by
          rw [heq, List.getLast?_append, List.getLast?_append, hlast]
          rfl
        have hlast := hblank last (List.mem_append_right _ (List.mem_of_getLast? hlast))
        rw [getLast?_strip hend] at hlast
        cases hlast
    subst hnil
    rw [List.append_nil] at hblank heq
    exact ⟨front, a, b, c, hblank, heq.trans (by simp only [List.append_assoc])⟩
  · rintro ⟨front, a, b, c, hblank, heq⟩
    refine ⟨front, _, heq.trans ?_, a, b, c, [], by rwa [List.append_nil], rfl⟩
    simp only [List.append_assoc, List.append_nil]

end Openings

/-! ## Delays -/

/-- A text written as the delay of a closing line between a front and a back: digits, behind a brace
and a comma and in front of a parenthesis, with blanks around them. -/
structure DelayIn (text front digits back : List Char) : Prop where
  text_eq : ∃ before behind, (∀ blank ∈ before ++ behind, isBlank blank = true) ∧
    text = front ++ ['\x7d', ','] ++ before ++ digits ++ behind ++ [')'] ++ back
  decimal : ∀ c ∈ digits, isDecimal c = true
  digits_ne : digits ≠ []

/-- The delay of a text that counts: none begins further to the left. -/
structure FirstDelay (text front digits back : List Char) : Prop
    extends DelayIn text front digits back where
  leftmost : ∀ before other behind, DelayIn text before other behind → front.length ≤ before.length

section Delays

variable {text front digits back : List Char}

/-- A run of digits ends in front of blanks and a parenthesis. -/
theorem span_digits (hdigits : ∀ c ∈ digits, isDecimal c = true) {gap : List Char}
    (hgap : ∀ c ∈ gap, isBlank c = true) (back : List Char) :
    (digits ++ (gap ++ ')' :: back)).takeWhile isDecimal = digits ∧
      (digits ++ (gap ++ ')' :: back)).dropWhile isDecimal = gap ++ ')' :: back := by
  rw [List.takeWhile_append_of_pos hdigits, List.dropWhile_append_of_pos hdigits]
  cases gap with
  | nil =>
    have hparen : ¬isDecimal ')' = true := by decide
    rw [List.nil_append, List.takeWhile_cons_of_neg hparen, List.dropWhile_cons_of_neg hparen]
    exact ⟨List.append_nil _, rfl⟩
  | cons c gap =>
    have hc : ¬isDecimal c = true := by
      intro hdecimal
      have hblank := hgap c List.mem_cons_self
      rw [isBlank_of_isDecimal hdecimal] at hblank
      cases hblank
    rw [List.cons_append, List.takeWhile_cons_of_neg hc, List.dropWhile_cons_of_neg hc]
    exact ⟨List.append_nil _, rfl⟩

/-- Digits are read behind blanks. -/
theorem digitsBehind?_eq_some_iff : digitsBehind? text = some digits ↔
    (∀ c ∈ digits, isDecimal c = true) ∧ digits ≠ [] ∧ ∃ before behind back,
      (∀ blank ∈ before ++ behind, isBlank blank = true) ∧
        text = before ++ (digits ++ (behind ++ ')' :: back)) := by
  have hparen : isBlank ')' = false := by decide
  constructor
  · intro h
    obtain ⟨hread, hdigits⟩ := Option.ite_none_right_eq_some.mp h
    obtain rfl := Option.some.inj hdigits
    rw [Bool.and_eq_true, Option.isSome_iff_exists, Bool.not_eq_true', List.isEmpty_eq_false_iff]
      at hread
    obtain ⟨⟨back, hback⟩, hne⟩ := hread
    obtain ⟨behind, hbehind, hrest⟩ := (after?_dropBlanks_iff hparen).mp hback
    obtain ⟨before, hbefore, htext⟩ := exists_eq_dropBlanks text
    refine ⟨fun c hc => List.all_eq_true.mp List.all_takeWhile c hc, hne, before, behind, back,
      List.forall_mem_append.mpr ⟨hbefore, hbehind⟩, ?_⟩
    have hsplit : (dropBlanks text).takeWhile isDecimal ++ (dropBlanks text).dropWhile isDecimal =
        dropBlanks text :=
      List.takeWhile_append_dropWhile
    rw [hrest] at hsplit
    exact htext.trans (congrArg (before ++ ·) hsplit.symm)
  · rintro ⟨hdecimal, hne, before, behind, back, hblank, rfl⟩
    obtain ⟨hbefore, hbehind⟩ := List.forall_mem_append.mp hblank
    obtain ⟨htake, hdrop⟩ := span_digits hdecimal hbehind back
    have hdigits : dropBlanks (before ++ (digits ++ (behind ++ ')' :: back))) =
        digits ++ (behind ++ ')' :: back) := by
      rw [dropBlanks_blanks_append hbefore]
      refine dropBlanks_eq_self fun c hc => ?_
      obtain ⟨d, tail, rfl⟩ := List.exists_cons_of_ne_nil hne
      obtain rfl := Option.some.inj hc
      exact isBlank_of_isDecimal (hdecimal d List.mem_cons_self)
    simp only [digitsBehind?, hdigits, htake, hdrop, dropBlanks_gap hbehind hparen]
    simp [after?, hne]

/-- A delay does not depend on what stands in front of it. -/
theorem delayIn_append_iff :
    DelayIn (front ++ text) front digits back ↔ DelayIn text [] digits back := by
  constructor
  · rintro ⟨⟨before, behind, hblank, heq⟩, hdecimal, hne⟩
    refine ⟨⟨before, behind, hblank, List.append_cancel_left (heq.trans ?_)⟩, hdecimal, hne⟩
    simp only [List.append_assoc, List.nil_append]
  · rintro ⟨⟨before, behind, hblank, rfl⟩, hdecimal, hne⟩
    refine ⟨⟨before, behind, hblank, ?_⟩, hdecimal, hne⟩
    simp only [List.append_assoc, List.nil_append]

theorem DelayIn.exists_eq_append (h : DelayIn text front digits back) :
    ∃ rest, text = front ++ rest ∧ DelayIn rest [] digits back := by
  obtain ⟨before, behind, hblank, heq⟩ := h.text_eq
  have heq : text = front ++ (['\x7d', ','] ++ before ++ digits ++ behind ++ [')'] ++ back) :=
    heq.trans (by simp only [List.append_assoc])
  rw [heq] at h
  exact ⟨_, heq, delayIn_append_iff.mp h⟩

/-- A delay is read where it begins. -/
theorem delayDigits?_eq_some_iff :
    delayDigits? text = some digits ↔ ∃ back, DelayIn text [] digits back := by
  simp only [delayDigits?_eq, Option.bind_eq_some_iff, after?_eq_some_iff,
    digitsBehind?_eq_some_iff]
  constructor
  · rintro ⟨_, rfl, hdecimal, hne, before, behind, back, hblank, rfl⟩
    exact ⟨back, ⟨before, behind, hblank, by simp⟩, hdecimal, hne⟩
  · rintro ⟨back, ⟨before, behind, hblank, rfl⟩, hdecimal, hne⟩
    refine ⟨before ++ (digits ++ (behind ++ ')' :: back)), ?_, hdecimal, hne, before, behind, back,
      hblank, rfl⟩
    simp only [List.nil_append, List.append_assoc, List.singleton_append]

/-- **The digits of a delay** are those of the first one. -/
theorem leftmost?_delayDigits?_iff : leftmost? delayDigits? text = some digits ↔
    ∃ front back, FirstDelay text front digits back := by
  rw [leftmost?_eq_some_iff]
  constructor
  · rintro ⟨front, rest, rfl, h, hleft⟩
    obtain ⟨back, hdelay⟩ := delayDigits?_eq_some_iff.mp h
    refine ⟨front, back, delayIn_append_iff.mpr hdelay, fun before other behind hother => ?_⟩
    obtain ⟨rest', heq, hrest⟩ := hother.exists_eq_append
    exact hleft before rest' heq (by rw [delayDigits?_eq_some_iff.mpr ⟨behind, hrest⟩]; rfl)
  · rintro ⟨front, back, hfirst⟩
    obtain ⟨rest, rfl, hrest⟩ := hfirst.exists_eq_append
    refine ⟨front, rest, rfl, delayDigits?_eq_some_iff.mpr ⟨back, hrest⟩, ?_⟩
    intro before behind heq hsome
    obtain ⟨other, hread⟩ := Option.isSome_iff_exists.mp hsome
    obtain ⟨after, hother⟩ := delayDigits?_eq_some_iff.mp hread
    exact hfirst.leftmost _ _ _ (heq ▸ delayIn_append_iff.mpr hother)

/-- A text with a delay has a first one. -/
theorem DelayIn.exists_first (h : DelayIn text front digits back) :
    ∃ front digits back, FirstDelay text front digits back := by
  obtain ⟨rest, heq, hrest⟩ := h.exists_eq_append
  have hsome : (leftmost? delayDigits? text).isSome = true :=
    isSome_leftmost?_iff.mpr
      ⟨front, rest, heq, by rw [delayDigits?_eq_some_iff.mpr ⟨back, hrest⟩]; rfl⟩
  obtain ⟨digits, hdigits⟩ := Option.isSome_iff_exists.mp hsome
  obtain ⟨front, back, hfirst⟩ := leftmost?_delayDigits?_iff.mp hdigits
  exact ⟨front, digits, back, hfirst⟩

theorem readDelay_of_first (h : FirstDelay text front digits back) :
    readDelay text = readDigits digits := by
  rw [readDelay, leftmost?_delayDigits?_iff.mpr ⟨front, back, h⟩]

theorem readDelay_of_none (h : ∀ front digits back, ¬DelayIn text front digits back) :
    readDelay text = .ok 0 := by
  cases hdigits : leftmost? delayDigits? text with
  | none => rw [readDelay, hdigits]
  | some digits =>
    obtain ⟨front, back, hfirst⟩ := leftmost?_delayDigits?_iff.mp hdigits
    exact absurd hfirst.toDelayIn (h front digits back)

end Delays

/-! ## The grammar -/

/-- How a line is read, by the decompositions of its text. -/
structure LineGrammar (line : List Char) : Prop where
  /-- A line prints if, stripped, it can be written as a print call. -/
  prints : (message? (strip line)).isSome = true ↔
    ∃ front quote message back, PrintCall (strip line) front quote message back
  /-- The message is that of the print call furthest to the left, and of the shortest there. -/
  message : ∀ message, message? (strip line) = some message ↔
    ∃ front quote back, FirstCall (strip line) front quote message back
  /-- A line opens a callback if, stripped, it ends with the header of a name, and the task has the
  kind and the content of this name. -/
  header : ∀ kind label,
    (callback? (strip line)).map (fun callback => (callback.kind, callback.label)) =
        some (kind, label) ↔
      ∃ name, (name, kind, label) ∈ headers ∧ EndsWithHeader name (strip line)
  /-- A callback is opened by its own header. -/
  own : ∀ callback : Callback, callback.heads (strip line) = true ↔
    EndsWithHeader callback.opening (strip line)
  /-- No line opens two callbacks, stripped or not. -/
  single : ∀ callback other : Callback, callback.heads line = true → other.heads line = true →
    callback = other
  /-- The callbacks may be tried in any order. -/
  order : ∀ order : List Callback, (∀ callback, callback ∈ order) →
    order.find? (·.heads (strip line)) = callback? (strip line)
  /-- A closing line that cannot be written as a delay gives none. -/
  undelayed : (∀ front digits back, ¬DelayIn line front digits back) → readDelay line = .ok 0
  /-- One that can has a first delay. -/
  delayed : ∀ front digits back, DelayIn line front digits back →
    ∃ front digits back, FirstDelay line front digits back
  /-- It gives the number that the digits of its first delay stand for. -/
  delay : ∀ front digits back, FirstDelay line front digits back → digits.length ≤ maxDigits →
    readDelay line = .ok (Nat.ofDigits 10 (digits.reverse.map fun c => (digitValue? c).getD 0))
  /-- That number is refused if it has too many digits. -/
  overlong : ∀ front digits back, FirstDelay line front digits back → maxDigits < digits.length →
    readDelay line = .error (.tooManyDigits digits.length)
  /-- The blanks at the ends of a closing line do not matter. -/
  stripped : readDelay (strip line) = readDelay line

/-- The task that a line registers is that of the header it ends with. -/
theorem callback?_strip_iff {line : List Char} {kind : TaskKind} {label : String} :
    (callback? (strip line)).map (fun callback => (callback.kind, callback.label)) =
        some (kind, label) ↔
      ∃ name, (name, kind, label) ∈ headers ∧ EndsWithHeader name (strip line) := by
  have htable : headers =
      Callback.all.map fun callback => (callback.opening, callback.kind, callback.label) := rfl
  have hopened : ∀ callback, callback? (strip line) = some callback ↔
      EndsWithHeader callback.opening (strip line) := fun callback =>
    (find?_heads_iff Callback.mem_all).trans heads_strip_iff
  simp only [Option.map_eq_some_iff, hopened, htable, List.mem_map, Prod.mk.injEq]
  constructor
  · rintro ⟨callback, hends, rfl, rfl⟩
    exact ⟨_, ⟨callback, callback.mem_all, rfl, rfl, rfl⟩, hends⟩
  · rintro ⟨_, ⟨callback, -, rfl, rfl, rfl⟩, hends⟩
    exact ⟨callback, hends, rfl, rfl⟩

/-- **The grammar of a line.** Print calls, openings of callbacks and delays are read off a line by
the ways in which its text can be written: the first print call, the header at its end and the first
delay. -/
theorem line_grammar (line : List Char) : LineGrammar line where
  prints := isSome_message?_iff
  message _ := message?_eq_some_iff
  header _ _ := callback?_strip_iff
  own _ := heads_strip_iff
  single _ _ := heads_unique
  order order horder := by
    refine Option.ext fun callback => ?_
    rw [callback?_eq, find?_heads_iff horder, find?_heads_iff Callback.mem_all]
  undelayed := readDelay_of_none
  delayed _ _ _ := DelayIn.exists_first
  delay front digits back hfirst hle := by
    rw [readDelay_of_first hfirst, readDigits, if_neg (Nat.not_lt.mpr hle),
      digitsValue_eq_ofDigits]
  overlong front digits back hfirst hlt := by
    rw [readDelay_of_first hfirst, readDigits, if_pos hlt]
  stripped := readDelay_strip line

end Script

end LoopStepper
