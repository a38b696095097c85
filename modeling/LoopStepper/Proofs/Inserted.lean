import LoopStepper.Proofs.Places
import LoopStepper.Proofs.Renumbered

/-!
# Blanks and inert lines

What is read from a text does not depend on how it is laid out. Blanks at the ends of lines do not
count. A line more from which nothing is read, with as many open braces as closing ones, goes into
whatever body it is put in and closes nothing: no balance is reached on it that was not reached
before (`bodyLength_insert`). So the same tasks are read, and those behind it stand one line further
down.

The two readings are compared by `Renumbered`: the same error, or the same tasks but for their line
numbers. A reading that begins at another line differs in this way (`readForest_shifted`), and so
does one with a line put in (`readForest_insert`).

Headline:
* **`layout_irrelevant`**: blanks at the ends of lines change nothing, and an inert line changes
  nothing but line numbers, neither in what is read nor in how it runs.
-/

namespace LoopStepper.Script

open LoopStepper.Text

/-! ## Readings with other line numbers -/

/-- The `n` lines from `index` on get the numbers of those from `other` on. -/
def Shifts (f : Int → Int) (n index other : Nat) : Prop :=
  ∀ k < n, f ((index + k : Nat) + 1) = ((other + k : Nat) : Int) + 1

/-- So do some of these lines. -/
theorem Shifts.part {f : Int → Int} {n index other : Nat} (h : Shifts f n index other)
    {m : Nat} (skipped : Nat) (hle : m ≤ n - skipped) :
    Shifts f m (index + skipped) (other + skipped) := by
  intro k hk
  have := h (skipped + k) (by omega)
  rwa [← Nat.add_assoc, ← Nat.add_assoc] at this

/-- Two readings are the same but for line numbers. -/
inductive Renumbered (f : Int → Int) :
    Except NumeralError Reading → Except NumeralError Reading → Prop
  | error (error : NumeralError) : Renumbered f (.error error) (.error error)
  | ok {reading other : Reading} (htasks : other.tasks = renumberedForest f reading.tasks)
      (hcount : other.count = reading.count) : Renumbered f (.ok reading) (.ok other)

section Renumbered

variable {f : Int → Int} {n index other count : Nat} {message : String} {callback : Callback}
  {closing : Option Line} {later later' body body' : Except NumeralError Reading}
  {rest rest' : Reading → Except NumeralError Reading}

/-- A print call in front, on the line that has the other number. -/
theorem Renumbered.prints (h : Renumbered f later later') (hf : Shifts f (n + 1) index other) :
    Renumbered f (do return (← later).push (printTask count index message))
      (do return (← later').push (printTask count other message)) := by
  have hline := hf 0 (Nat.zero_lt_succ n)
  rw [Nat.add_zero, Nat.add_zero] at hline
  cases h with
  | error error => exact .error error
  | ok htasks hcount =>
    refine .ok ?_ hcount
    simp only [Reading.push, htasks, renumberedForest]
    simp [printTask, Task.renumbered, renumberedBody, hline]

/-- A callback in front, with its body. -/
theorem Renumbered.opens (hbody : Renumbered f body body')
    (hrest : ∀ body body' : Reading, body'.count = body.count →
      Renumbered f (rest body) (rest' body'))
    (hf : Shifts f (n + 1) index other) :
    Renumbered f
      (do
        let body ← body
        let delay ← delayOf callback closing
        let later ← rest body
        return later.push (callbackTask callback index body.count delay body.tasks))
      (do
        let body ← body'
        let delay ← delayOf callback closing
        let later ← rest' body
        return later.push (callbackTask callback other body.count delay body.tasks)) := by
  have hline := hf 0 (Nat.zero_lt_succ n)
  rw [Nat.add_zero, Nat.add_zero] at hline
  cases hbody with
  | error error => exact .error error
  | @ok body body' htasks hcount =>
    cases hdelay : delayOf callback closing with
    | error error => exact .error error
    | ok delay =>
      have hrest := hrest body body' hcount
      simp only [bind, Except.bind]
      generalize rest body = later at hrest ⊢
      generalize rest' body' = later' at hrest ⊢
      cases hrest with
      | error error => exact .error error
      | ok hlater hcounts =>
        refine .ok ?_ hcounts
        simp only [Reading.push, hlater, htasks, renumberedForest]
        simp [callbackTask, Task.renumbered, renumberedBody, hline, hcount]

end Renumbered

/-- **Reading from another line on** gives the same tasks on other lines. -/
theorem readForest_shifted {f : Int → Int} (lines : List Line) (index count : Nat) :
    ∀ other, Shifts f lines.length index other →
      Renumbered f (readForest lines index count) (readForest lines other count) := by
  fun_induction readForest lines index count with
  | case1 index count =>
    intro other _
    rw [readForest]
    exact .ok rfl rfl
  | case2 index count line rest hrole ih =>
    intro other hf
    rw [readForest, hrole]
    exact ih _ (hf.part 1 le_rfl)
  | case3 index count line rest message hrole ih =>
    intro other hf
    rw [readForest, hrole]
    exact (ih _ (hf.part 1 le_rfl)).prints hf
  | case4 index count line rest callback hrole length ihbody ihlater =>
    intro other hf
    rw [readForest, hrole]
    have hbody : (rest.take length).length ≤ (line :: rest).length - 1 := by
      rw [List.length_take]
      exact Nat.min_le_right _ _
    have hlater : (rest.drop length).tail.length ≤ (line :: rest).length - 1 - length - 1 := by
      rw [List.length_tail, List.length_drop, List.length_cons, Nat.add_sub_cancel]
    refine .opens (ihbody _ (hf.part 1 hbody)) ?_ hf
    intro body body' hcount
    rw [hcount]
    exact ihlater body _ (((hf.part 1 le_rfl).part length le_rfl).part 1 hlater)

/-! ## A line more -/

/-- **A line more that balances its braces** makes the body longer that it is put in, and no other:
it closes nothing. -/
theorem bodyLength_insert {line : Line} (hbalance : braceBalance line = 0) {depth : Int}
    (hdepth : 0 < depth) (front back : List Line) :
    bodyLength depth (front ++ line :: back) =
      if bodyLength depth (front ++ back) < front.length then bodyLength depth (front ++ back)
      else bodyLength depth (front ++ back) + 1 := by
  induction front generalizing depth with
  | nil =>
    rw [List.nil_append, List.nil_append, bodyLength, hbalance, Int.add_zero,
      if_neg (not_le.mpr hdepth), List.length_nil, if_neg (Nat.not_lt_zero _)]
  | cons other front ih =>
    rw [List.cons_append, List.cons_append, bodyLength, bodyLength, List.length_cons]
    by_cases hclose : depth + braceBalance other ≤ 0
    · rw [if_pos hclose, if_pos hclose, if_pos (Nat.zero_lt_succ _)]
    · rw [if_neg hclose, if_neg hclose, ih (not_le.mp hclose)]
      simp only [Nat.add_lt_add_iff_right]
      split <;> rfl

/-- The numbers of lines where a line is put in at an index: those behind it are one higher. -/
def pushed (place : Nat) (line : Int) : Int :=
  if place < line then line + 1 else line

theorem pushed_eq_zero (place : Nat) (line : Int) : pushed place line = 0 ↔ line = 0 := by
  unfold pushed
  split <;> omega

/-- The lines in front of the place keep their numbers. -/
theorem shifts_front {place index n : Nat} (h : index + n ≤ place) :
    Shifts (pushed place) n index index := by
  intro k hk
  unfold pushed
  rw [if_neg (by omega)]

/-- The lines behind it do not. -/
theorem shifts_back {place index : Nat} (h : place ≤ index) (n : Nat) :
    Shifts (pushed place) n index (index + 1) := by
  intro k hk
  unfold pushed
  rw [if_pos (by omega)]
  omega

/-- **Reading with a line more** that is inert and balances its braces gives the same tasks, those
behind it one line further down. -/
theorem readForest_insert {line : Line} (hinert : Role.of line = .inert)
    (hbalance : braceBalance line = 0) (front back : List Line) {index place : Nat} (count : Nat)
    (hplace : place = index + front.length) :
    Renumbered (pushed place) (readForest (front ++ back) index count)
      (readForest (front ++ line :: back) index count) := by
  -- by the number of lines in front of the place: a body and what is behind it have fewer
  induction hlength : front.length using Nat.strong_induction_on generalizing front back index count
    with | _ n ih =>
  cases front with
  | nil =>
    rw [List.nil_append, List.nil_append, readForest, hinert]
    exact readForest_shifted back index count _ (shifts_back hplace.le _)
  | cons first front =>
    have hfirst : Shifts (pushed place) (0 + 1) index index := by
      refine shifts_front ?_
      rw [hplace, List.length_cons]
      omega
    rw [List.length_cons] at hplace hlength
    rw [List.cons_append, List.cons_append, readForest, readForest]
    cases Role.of first with
    | inert => exact ih _ (by omega) front back count (by omega) rfl
    | prints message => exact (ih _ (by omega) front back (count + 1) (by omega) rfl).prints hfirst
    | opens callback =>
      have hinsert := bodyLength_insert hbalance Int.one_pos front back
      have hle := bodyLength_le 1 (front ++ back)
      dsimp only
      generalize bodyLength 1 (front ++ back) = length at hinsert hle ⊢
      rw [hinsert]
      by_cases hfront : length < front.length
      · -- The body ends in front of the place.
        rw [if_pos hfront]
        simp only [List.take_append_of_le_length hfront.le, List.drop_append_of_le_length hfront.le]
        obtain ⟨closing, behind, hdrop⟩ := List.exists_cons_of_length_pos
          (l := front.drop length) (by rw [List.length_drop]; omega)
        have hbehind := congrArg List.length hdrop
        rw [List.length_drop, List.length_cons] at hbehind
        rw [hdrop]
        refine .opens (readForest_shifted _ _ _ _ (shifts_front ?_)) ?_ hfirst
        · rw [List.length_take]
          omega
        · intro body body' hcount
          rw [hcount]
          exact ih _ (by omega) behind back _ (by omega) rfl
      · -- The line is put into the body, or right in front of its end.
        rw [if_neg hfront]
        obtain ⟨more, rfl⟩ := Nat.exists_eq_add_of_le (not_lt.mp hfront)
        rw [Nat.add_assoc front.length, List.take_length_add_append, List.take_length_add_append,
          List.drop_length_add_append, List.drop_length_add_append, List.take_succ_cons,
          List.drop_succ_cons]
        refine .opens (ih _ (by omega) front _ _ (by omega) rfl) ?_ hfirst
        intro body body' hcount
        rw [hcount]
        have hnext : index + 1 + (front.length + (more + 1)) + 1 =
            index + 1 + (front.length + more) + 1 + 1 := by omega
        rw [hnext]
        exact readForest_shifted _ _ _ _ (shifts_back (by omega) _)

/-- Readings that differ in line numbers give forests that do. -/
theorem Renumbered.tasks {f : Int → Int} {read other : Except NumeralError Reading}
    (h : Renumbered f read other) :
    other.map Reading.tasks = (read.map Reading.tasks).map (renumberedForest f) := by
  cases h with
  | error error => rfl
  | ok htasks hcount => exact congrArg Except.ok htasks

/-! ## Texts -/

/-- A line holds a text between two runs of blanks. -/
def Padded (text line : List Char) : Prop :=
  ∃ front back, (∀ c ∈ front, isBlank c = true) ∧ (∀ c ∈ back, isBlank c = true) ∧
    line = front ++ (text ++ back)

/-- Two lines hold the same text between blanks. -/
def SameInside (line other : List Char) : Prop :=
  ∃ text, Padded text line ∧ Padded text other

theorem Padded.strip_eq {text line : List Char} (h : Padded text line) :
    strip line = strip text := by
  obtain ⟨front, back, hfront, hback, rfl⟩ := h
  rw [strip_blanks_append hfront, strip_append_blanks hback]

/-- **Blanks at the ends of lines do not count.** -/
theorem parse_padded {source other : String}
    (h : List.Forall₂ SameInside (rows source.toList) (rows other.toList)) :
    parse other = parse source := by
  have hlines : linesOf other = linesOf source := by
    unfold linesOf
    generalize rows source.toList = lines at h ⊢
    generalize rows other.toList = others at h ⊢
    induction h with
    | nil => rfl
    | cons hsame hlater ih =>
      obtain ⟨text, hline, hother⟩ := hsame
      rw [List.map_cons, List.map_cons, hother.strip_eq, hline.strip_eq, ih]
  rw [parse, parse, hlines]

/-- A text with a line put in, in front of the row that has the index `place`, or at the end. -/
def insertLine (source : String) (place : Nat) (line : List Char) : String :=
  String.ofList (unrows
    ((rows source.toList).take place ++ line :: (rows source.toList).drop place))

theorem notMem_of_mem_rows {row cs : List Char} (h : row ∈ rows cs) : '\n' ∉ row := by
  induction cs generalizing row with
  | nil =>
    obtain rfl := List.mem_singleton.mp h
    exact List.not_mem_nil
  | cons c cs ih =>
    by_cases hc : c = '\n'
    · rw [hc, rows_newline, List.mem_cons] at h
      rcases h with rfl | h
      · exact List.not_mem_nil
      · exact ih h
    · obtain ⟨first, later, hrows⟩ := List.exists_cons_of_ne_nil (rows_ne_nil cs)
      rw [rows_cons hc, hrows, pushFront, List.mem_cons] at h
      rw [hrows] at ih
      rcases h with rfl | h
      · exact List.not_mem_cons_of_ne_of_not_mem (Ne.symm hc) (ih List.mem_cons_self)
      · exact ih (List.mem_cons_of_mem first h)

/-- The rows of such a text. -/
theorem rows_insertLine {line : List Char} (hline : '\n' ∉ line) (source : String) (place : Nat) :
    rows (insertLine source place line).toList =
      (rows source.toList).take place ++ line :: (rows source.toList).drop place := by
  have hrows : ∀ row ∈ (rows source.toList).take place ++ line :: (rows source.toList).drop place,
      '\n' ∉ row := by
    simp only [List.forall_mem_append, List.forall_mem_cons]
    exact ⟨fun row hmem => notMem_of_mem_rows (List.mem_of_mem_take hmem), hline,
      fun row hmem => notMem_of_mem_rows (List.mem_of_mem_drop hmem)⟩
  rw [insertLine, String.toList_ofList]
  cases heq : (rows source.toList).take place ++ line :: (rows source.toList).drop place with
  | nil => simp at heq
  | cons row later =>
    rw [heq] at hrows
    exact rows_unrows hrows

/-- **An inert line changes nothing but line numbers.** -/
theorem parse_insertLine {source : String} {place : Nat} {line : List Char}
    (hplace : place ≤ (rows source.toList).length) (hline : '\n' ∉ line)
    (hbraces : line.count '\x7b' = line.count '\x7d') (hinert : Inert line) :
    parse (insertLine source place line) =
      (parse source).map (renumberedForest (pushed place)) := by
  have hbalance : braceBalance (strip line) = 0 := by
    rw [braceBalance_strip, braceBalance, hbraces, Int.sub_self]
  have hlines : linesOf (insertLine source place line) =
      (linesOf source).take place ++ strip line :: (linesOf source).drop place := by
    rw [linesOf, rows_insertLine hline, List.map_append, List.map_cons, List.map_take,
      List.map_drop, linesOf]
  have hlength : place = 0 + ((linesOf source).take place).length := by
    rw [List.length_take, linesOf, List.length_map]
    omega
  have hread := readForest_insert ((inert_iff line).mp hinert) hbalance
    ((linesOf source).take place) ((linesOf source).drop place) 0 hlength
  rw [List.take_append_drop] at hread
  rw [parse_eq_readForest, parse_eq_readForest, hlines]
  exact hread.tasks

/-- **Layout does not matter.** A text whose lines differ from those of a script in blanks at their
ends is the same script. A script with a line more, anywhere, is the same but for the numbers of the
lines behind it, as long as the line is inert and has as many open braces as closing ones; and
whatever steps and ticks it takes, it looks the same. -/
theorem layout_irrelevant {source : String} {program : List Task} (h : parse source = .ok program) :
    (∀ other : String, List.Forall₂ SameInside (rows source.toList) (rows other.toList) →
      parse other = .ok program) ∧
    ∀ place ≤ (rows source.toList).length, ∀ line, '\n' ∉ line →
      line.count '\x7b' = line.count '\x7d' → Inert line →
      parse (insertLine source place line) = .ok (renumberedForest (pushed place) program) ∧
      ∀ events, EventLoop.LooksLike ((EventLoop.start program).replay events)
        ((EventLoop.start (renumberedForest (pushed place) program)).replay events) := by
  constructor
  · intro other hsame
    rw [parse_padded hsame, h]
  · intro place hplace line hline hbraces hinert
    constructor
    · rw [parse_insertLine hplace hline hbraces hinert, h]
      rfl
    · intro events
      exact EventLoop.replay_looksLike (pushed_eq_zero place) program events

/-- A comment that holds a whole callback, put in right in front of the line that closes the first
body of `nestedScript`. -/
theorem layout_irrelevant_nested :
    parse nestedScript = .ok nestedForest ∧
    (∀ other : String, List.Forall₂ SameInside (rows nestedScript.toList) (rows other.toList) →
      parse other = .ok nestedForest) ∧
    parse (insertLine nestedScript 9 "// f(() => \x7b \x7d)".toList) =
      .ok (renumberedForest (pushed 9) nestedForest) :=
  ⟨parse_nestedScript, (layout_irrelevant parse_nestedScript).1,
    ((layout_irrelevant parse_nestedScript).2 9 (by decide +kernel) _ (by decide) (by decide)
      (.inr (.inl (by decide)))).1⟩

end LoopStepper.Script
