import LoopStepper.Script.Body

/-!
# What stripping keeps

A line is looked at without the blanks at its ends. Nothing that is read off a line is lost with
them: neither its braces (`braceBalance_strip`) nor, on a closing line, the delay
(`readDelay_strip`).
-/

namespace LoopStepper

namespace Text

variable {front back cs : List Char}

theorem dropBlanks_of_blank (h : ∀ c ∈ back, isBlank c = true) : dropBlanks back = [] := by
  unfold dropBlanks
  rw [← List.append_nil back, List.dropWhile_append_of_pos h, List.dropWhile_nil]

theorem dropBlanks_blanks_append (h : ∀ c ∈ front, isBlank c = true) (cs : List Char) :
    dropBlanks (front ++ cs) = dropBlanks cs :=
  List.dropWhile_append_of_pos h

/-- Blanks behind a text that is not blank stay where they are. -/
theorem dropBlanks_append_blanks (h : ∀ c ∈ back, isBlank c = true) (cs : List Char) :
    dropBlanks (cs ++ back) = if (dropBlanks cs).isEmpty then [] else dropBlanks cs ++ back := by
  have hback : List.dropWhile isBlank back = [] := dropBlanks_of_blank h
  unfold dropBlanks
  rw [List.dropWhile_append, hback]

/-- Blanks in front of a text do not count. -/
theorem strip_blanks_append (h : ∀ c ∈ front, isBlank c = true) (cs : List Char) :
    strip (front ++ cs) = strip cs := by
  unfold strip
  rw [dropBlanks_blanks_append h]

/-- Blanks behind a text do not count. -/
theorem strip_append_blanks (h : ∀ c ∈ back, isBlank c = true) (cs : List Char) :
    strip (cs ++ back) = strip cs := by
  unfold strip
  rw [dropBlanks_append_blanks h]
  cases hcs : dropBlanks cs with
  | nil => rfl
  | cons c rest =>
    have hback : ∀ c ∈ back.reverse, isBlank c = true := fun c hc => h c (List.mem_reverse.mp hc)
    rw [List.isEmpty_cons, if_neg Bool.false_ne_true, List.reverse_append,
      dropBlanks_blanks_append hback]

/-- A text that begins with no blank has none in front. -/
theorem dropBlanks_eq_self (h : ∀ c ∈ cs.head?, isBlank c = false) : dropBlanks cs = cs := by
  cases cs with
  | nil => rfl
  | cons c cs => exact List.dropWhile_cons_of_neg (by simp [h c rfl])

/-- A text that begins and ends with no blank is stripped of nothing. -/
theorem strip_eq_self (hfirst : ∀ c ∈ cs.head?, isBlank c = false)
    (hlast : ∀ c ∈ cs.getLast?, isBlank c = false) : strip cs = cs := by
  have hback : dropBlanks cs.reverse = cs.reverse :=
    dropBlanks_eq_self fun c hc => hlast c (List.head?_reverse ▸ hc)
  rw [strip, dropBlanks_eq_self hfirst, hback, List.reverse_reverse]

/-- A text is its stripped form between two runs of blanks. -/
theorem exists_eq_strip (cs : List Char) : ∃ front back,
    (∀ c ∈ front, isBlank c = true) ∧ (∀ c ∈ back, isBlank c = true) ∧
      cs = front ++ (strip cs ++ back) := by
  refine ⟨cs.takeWhile isBlank, ((dropBlanks cs).reverse.takeWhile isBlank).reverse,
    fun c hc => List.all_eq_true.mp List.all_takeWhile c hc, fun c hc => ?_, ?_⟩
  · exact List.all_eq_true.mp List.all_takeWhile c (List.mem_reverse.mp hc)
  · have hback :
        strip cs ++ ((dropBlanks cs).reverse.takeWhile isBlank).reverse = dropBlanks cs := by
      unfold strip dropBlanks
      rw [← List.reverse_append, List.takeWhile_append_dropWhile, List.reverse_reverse]
    rw [hback]
    exact List.takeWhile_append_dropWhile.symm

/-- Stripping takes no character away that is not blank. -/
theorem count_strip {c : Char} (h : isBlank c = false) (cs : List Char) :
    (strip cs).count c = cs.count c := by
  obtain ⟨front, back, hfront, hback, heq⟩ := exists_eq_strip cs
  have hnone : ∀ l : List Char, (∀ d ∈ l, isBlank d = true) → l.count c = 0 := by
    intro l hl
    refine List.count_eq_zero.mpr fun hc => ?_
    rw [hl c hc] at h
    exact absurd h (by simp)
  calc (strip cs).count c
      = front.count c + ((strip cs).count c + back.count c) := by
        rw [hnone front hfront, hnone back hback, Nat.zero_add, Nat.add_zero]
    _ = cs.count c := by rw [← List.count_append, ← List.count_append, ← heq]

end Text

namespace Script

open Text

variable {front back cs : List Char}

theorem braceBalance_strip (line : List Char) : braceBalance (strip line) = braceBalance line := by
  unfold braceBalance
  rw [count_strip (by decide), count_strip (by decide)]

/-! ## The delay in a closing line -/

/-- A word without blanks is not completed by blanks behind a text. -/
theorem after?_append_blanks {word : List Char} (hword : ∀ c ∈ word, isBlank c = false)
    (hback : ∀ c ∈ back, isBlank c = true) (cs : List Char) :
    after? word (cs ++ back) = (after? word cs).map (· ++ back) := by
  induction word generalizing cs with
  | nil => rfl
  | cons w word ih =>
    have hw : isBlank w = false := hword w List.mem_cons_self
    cases cs with
    | nil =>
      cases back with
      | nil => rfl
      | cons b back =>
        have hne : w ≠ b := by
          rintro rfl
          rw [hback w List.mem_cons_self] at hw
          exact absurd hw (by simp)
        simp [after?, hne]
    | cons c cs =>
      simp only [List.cons_append, after?]
      split
      · exact ih (fun d hd => hword d (List.mem_cons_of_mem w hd)) cs
      · rfl

/-- A pattern that starts at no blank is found behind the blanks in front of a text. -/
theorem leftmost?_blanks_append {α : Type} {pattern : List Char → Option α}
    (hpattern : ∀ c cs, isBlank c = true → pattern (c :: cs) = none)
    (hfront : ∀ c ∈ front, isBlank c = true) (cs : List Char) :
    leftmost? pattern (front ++ cs) = leftmost? pattern cs := by
  induction front with
  | nil => rfl
  | cons c front ih =>
    rw [List.cons_append, leftmost?, hpattern c _ (hfront c List.mem_cons_self)]
    exact ih fun d hd => hfront d (List.mem_cons_of_mem c hd)

/-- A pattern that starts at no blank, and that blanks behind a text do not change, is found where
it was. -/
theorem leftmost?_append_blanks {α : Type} {pattern : List Char → Option α}
    (hpattern : ∀ c cs, isBlank c = true → pattern (c :: cs) = none)
    (hblind : ∀ cs, pattern (cs ++ back) = pattern cs)
    (hback : ∀ c ∈ back, isBlank c = true) (cs : List Char) :
    leftmost? pattern (cs ++ back) = leftmost? pattern cs := by
  induction cs with
  | nil =>
    have := leftmost?_blanks_append hpattern hback []
    rwa [List.append_nil] at this
  | cons c cs ih =>
    rw [List.cons_append, leftmost?, leftmost?, ih, ← List.cons_append, hblind]

/-- The digits of a delay, behind the brace and the comma. -/
def digitsBehind? (cs : List Char) : Option (List Char) :=
  let digits := (dropBlanks cs).takeWhile isDecimal
  let rest := (dropBlanks cs).dropWhile isDecimal
  if (after? [')'] (dropBlanks rest)).isSome && !digits.isEmpty then some digits else none

theorem delayDigits?_eq (cs : List Char) :
    delayDigits? cs = (after? ['\x7d', ','] cs).bind digitsBehind? := by
  unfold delayDigits? digitsBehind?
  cases after? ['\x7d', ','] cs with
  | none => rfl
  | some cs =>
    simp only [Option.bind_eq_bind, Option.bind_some]
    cases after? [')'] (dropBlanks ((dropBlanks cs).dropWhile isDecimal)) with
    | none => rfl
    | some rest => cases (dropBlanks cs).takeWhile isDecimal <;> rfl

theorem digitsBehind?_append_blanks (hback : ∀ c ∈ back, isBlank c = true) (cs : List Char) :
    digitsBehind? (cs ++ back) = digitsBehind? cs := by
  unfold digitsBehind?
  rw [dropBlanks_append_blanks hback]
  cases hcs : dropBlanks cs with
  | nil => rfl
  | cons c rest =>
    simp only [List.isEmpty_cons, Bool.false_eq_true, if_false]
    rw [← hcs]
    generalize dropBlanks cs = text
    have hsplit : text.takeWhile isDecimal ++ text.dropWhile isDecimal = text :=
      List.takeWhile_append_dropWhile
    rw [List.dropWhile_append]
    cases htail : text.dropWhile isDecimal with
    | nil =>
      -- digits up to the blanks: there is no parenthesis behind them, whatever the blanks are
      have hnone : dropBlanks (back.dropWhile isDecimal) = [] :=
        dropBlanks_of_blank fun d hd => hback d ((List.dropWhile_sublist _).subset hd)
      simp [hnone, after?]
    | cons d tail =>
      have hdigits : (text ++ back).takeWhile isDecimal = text.takeWhile isDecimal := by
        have hlt : (text.takeWhile isDecimal).length ≠ text.length := by
          have := congrArg List.length hsplit
          rw [htail, List.length_append, List.length_cons] at this
          omega
        rw [List.takeWhile_append, if_neg hlt]
      have hparen : ∀ c ∈ [')'], isBlank c = false := List.forall_mem_singleton.mpr (by decide)
      have hrest := after?_append_blanks hparen hback
      rw [hdigits, List.isEmpty_cons, if_neg Bool.false_ne_true, dropBlanks_append_blanks hback]
      cases dropBlanks (d :: tail) with
      | nil => rfl
      | cons e tail => rw [List.isEmpty_cons, if_neg Bool.false_ne_true, hrest, Option.isSome_map]

/-- A closing line gives the same delay without the blanks at its ends. -/
theorem readDelay_strip (line : List Char) : readDelay (strip line) = readDelay line := by
  have hblank : ∀ c cs, isBlank c = true → delayDigits? (c :: cs) = none := by
    intro c cs hc
    have hne : '\x7d' ≠ c := by
      rintro rfl
      exact absurd hc (by decide)
    simp [delayDigits?_eq, after?, hne]
  have hcomma : ∀ c ∈ ['\x7d', ','], isBlank c = false :=
    List.forall_mem_cons.mpr ⟨by decide, List.forall_mem_singleton.mpr (by decide)⟩
  obtain ⟨front, back, hfront, hback, heq⟩ := exists_eq_strip line
  have hdigits : leftmost? delayDigits? line = leftmost? delayDigits? (strip line) := by
    rw [heq, leftmost?_blanks_append hblank hfront, ← heq]
    refine leftmost?_append_blanks hblank (fun cs => ?_) hback _
    rw [delayDigits?_eq, delayDigits?_eq, after?_append_blanks hcomma hback]
    cases after? ['\x7d', ','] cs with
    | none => rfl
    | some cs => exact digitsBehind?_append_blanks hback cs
  unfold readDelay
  rw [hdigits]

end Script

end LoopStepper
