import LoopStepper.Proofs.Forest
import LoopStepper.Proofs.Printed
import Mathlib.Data.List.Forall2

/-!
# Which scripts can be read

Reading a script goes through the callbacks of its text: each has an opening line and, unless its
body is cut off, a closing line. `spans` lists them by the recursive rule, in the order of their
opening lines, whatever the delays are. The text can be read if no timeout has a closing line with
more digits of delay than a numeral may have, and only then (`parse_fails_only_at_delay`). There is
no other way to fail: a body that is not closed, a closing line without a delay, braces that close
nothing are all read.

What is read has one callback for each span, and it says what the span says (`Span.Gives`): a
timeout has the delay on its closing line, and zero if there is no such line or no delay on it. The
messages have their lines: a script of print calls alone is read line by line (`parse_of_prints`).

Headlines:
* **`parse_fails_only_at_delay`**: which scripts are read, how the others fail, and which callbacks
  the forest has.
* **`long_delay_unread`**: a script of two lines that is not read.
-/

namespace LoopStepper.Script

open LoopStepper.Text

/-! ## The callbacks of a text -/

/-- A callback as it stands in a text. -/
structure Span where
  callback : Callback
  /-- The index of the line that opens it. -/
  opened : Nat
  /-- The line that closes it, if its body is not cut off. -/
  closing : Option (List Char)

/-- The callbacks that the recursive rule finds in the lines from `start` up to `stop`, each before
those in its body. -/
def spans (lines : List (List Char)) (start stop : Nat) : List Span :=
  if start < stop then
    match Role.of (strip (lines.getD start [])) with
    | .inert => spans lines (start + 1) stop
    | .prints _ => spans lines (start + 1) stop
    | .opens callback =>
      let close := closingIndex lines start stop
      { callback, opened := start, closing := if close < stop then lines[close]? else none } ::
        (spans lines (start + 1) close ++ spans lines (close + 1) stop)
  else []
termination_by stop - start
decreasing_by
  · omega
  · omega
  · have := closingIndex_bounds lines ‹start < stop›; omega
  · have := closingIndex_bounds lines ‹start < stop›; omega

/-- The callbacks of a text. -/
def spansOf (source : String) : List Span :=
  spans (rows source.toList) 0 (rows source.toList).length

namespace Span

/-- The digits of the delay on the closing line of a timeout. -/
def digits? (span : Span) : Option (List Char) :=
  if span.callback = .timeout then span.closing.bind (leftmost? delayDigits?) else none

/-- The number that they stand for; zero if there are none. -/
def milliseconds (span : Span) : Nat :=
  span.digits?.elim 0 digitsValue

/-- The delay of a callback: an immediate does not wait, and a microtask has no delay. -/
def delay (span : Span) : Option Int :=
  match span.callback with
  | .timeout => some span.milliseconds
  | .immediate => some 0
  | .promise | .microtask | .nextTick => none

/-- The delay has as many digits as a numeral may have, or fewer. -/
def Fits (span : Span) : Prop :=
  ∀ digits, span.digits? = some digits → digits.length ≤ maxDigits

/-- The error is that of a delay with too many digits. -/
def Exceeds (span : Span) (error : NumeralError) : Prop :=
  ∃ digits, span.digits? = some digits ∧ maxDigits < digits.length ∧
    error = .tooManyDigits digits.length

/-- A task is the callback of a span. -/
structure Gives (span : Span) (task : Task) : Prop where
  kind : task.kind = span.callback.kind
  content : task.content = span.callback.label
  line : task.line = some (span.opened + 1)
  delay : task.delay = span.delay

/-- The delay of a timeout is read from its digits. -/
theorem delayOf_timeout {span : Span} (h : span.callback = .timeout) :
    delayOf span.callback span.closing =
      (span.digits?.elim (.ok 0) readDigits).map fun n : Nat => some (n : Int) := by
  obtain ⟨callback, opened, closing⟩ := span
  obtain rfl : callback = .timeout := h
  cases closing with
  | none => rfl
  | some line =>
    have hdigits : digits? ⟨.timeout, opened, some line⟩ = leftmost? delayDigits? line := rfl
    rw [hdigits, delayOf, Option.elim_some, readDelay]
    cases leftmost? delayDigits? line with
    | none => rfl
    | some digits =>
      dsimp only [Option.elim_some]
      cases readDigits digits <;> rfl

/-- The delay of a span is read if it fits, and fails if it does not. -/
theorem delayOf_closing (span : Span) :
    span.Fits ∧ delayOf span.callback span.closing = .ok span.delay ∨
      ∃ error, span.Exceeds error ∧ delayOf span.callback span.closing = .error error := by
  by_cases htimeout : span.callback = .timeout
  · have hread := delayOf_timeout htimeout
    have hdelay : span.delay = some (span.milliseconds : Int) := by rw [delay, htimeout]
    rw [hdelay, milliseconds]
    cases hdigits : span.digits? with
    | none =>
      refine .inl ⟨fun digits h => ?_, ?_⟩
      · exact nomatch hdigits.symm.trans h
      · rw [hread, hdigits]
        rfl
    | some digits =>
      rw [hdigits, Option.elim_some, readDigits] at hread
      by_cases hmany : maxDigits < digits.length
      · rw [if_pos hmany] at hread
        exact .inr ⟨_, ⟨digits, hdigits, hmany, rfl⟩, hread⟩
      · rw [if_neg hmany] at hread
        refine .inl ⟨fun others h => ?_, hread⟩
        obtain rfl := Option.some.inj (hdigits.symm.trans h)
        exact Nat.not_lt.mp hmany
  · refine .inl ⟨fun digits h => ?_, ?_⟩
    · rw [digits?, if_neg htimeout] at h
      exact nomatch h
    · rw [delay]
      cases hcallback : span.callback with
      | timeout => exact absurd hcallback htimeout
      | immediate | promise | microtask | nextTick => rfl

/-- A delay that fits does not exceed. -/
theorem Exceeds.not_fits {span : Span} {error : NumeralError} (h : span.Exceeds error) :
    ¬ span.Fits := by
  obtain ⟨digits, hdigits, hmany, -⟩ := h
  exact fun hfits => Nat.not_lt.mpr (hfits digits hdigits) hmany

end Span

/-! ## Reading them -/

/-- The callbacks of a forest, each before those in its body. -/
def callbacksOf (tasks : List Task) : List Task :=
  (forestTasks tasks).filter fun task => task.kind ≠ .log

/-- What reading makes of the callbacks of a text: all of them, or the error of one of them. -/
def Accounts (found : List Span) : Except NumeralError (List Task) → Prop
  | .ok tasks => (∀ span ∈ found, span.Fits) ∧ List.Forall₂ Span.Gives found (callbacksOf tasks)
  | .error error => ∃ span ∈ found, span.Exceeds error

theorem callbacksOf_print (number index : Nat) (message : String) (tasks : List Task) :
    callbacksOf (printTask number index message :: tasks) = callbacksOf tasks := by
  simp [callbacksOf, printTask, Task.body]

theorem callbacksOf_callback (callback : Callback) (index number : Nat) (delay : Option Int)
    (children tasks : List Task) :
    callbacksOf (callbackTask callback index number delay children :: tasks) =
      callbackTask callback index number delay children ::
        (callbacksOf children ++ callbacksOf tasks) := by
  have hkind : callback.kind ≠ .log := by cases callback <;> nofun
  simp [callbacksOf, callbackTask, Task.body, hkind]

/-- A callback is accounted for if its body is, and what follows it. -/
theorem accounts_callback {callback : Callback} {start : Nat} {closing : Option (List Char)}
    {inner outer : List Span} {body : Except NumeralError Reading}
    {later : Reading → Except NumeralError Reading}
    (hbody : Accounts inner (body.map Reading.tasks))
    (hlater : ∀ reading, Accounts outer ((later reading).map Reading.tasks)) :
    Accounts ({ callback, opened := start, closing } :: (inner ++ outer))
      (Except.map Reading.tasks do
        let reading ← body
        let delay ← delayOf callback closing
        let rest ← later reading
        return rest.push (callbackTask callback start reading.count delay reading.tasks)) := by
  cases body with
  | error error =>
    obtain ⟨span, hmem, hexceeds⟩ := hbody
    exact ⟨span, List.mem_cons_of_mem _ (List.mem_append_left _ hmem), hexceeds⟩
  | ok reading =>
    have hspan := Span.delayOf_closing { callback, opened := start, closing }
    change Accounts _ (Except.map Reading.tasks (delayOf callback closing >>= fun delay =>
      later reading >>= fun rest =>
        pure (rest.push (callbackTask callback start reading.count delay reading.tasks))))
    rcases hspan with ⟨hfits, hdelay⟩ | ⟨error, hexceeds, hdelay⟩
    · have hlater := hlater reading
      dsimp only at hdelay
      rw [hdelay]
      cases hrest : later reading with
      | error error =>
        rw [hrest] at hlater
        obtain ⟨span, hmem, hexceeds⟩ := hlater
        exact ⟨span, List.mem_cons_of_mem _ (List.mem_append_right _ hmem), hexceeds⟩
      | ok rest =>
        rw [hrest] at hlater
        refine ⟨List.forall_mem_cons.mpr ⟨hfits, ?_⟩, ?_⟩
        · exact List.forall_mem_append.mpr ⟨hbody.1, hlater.1⟩
        · change List.Forall₂ _ _ (callbacksOf (_ :: rest.tasks))
          rw [callbacksOf_callback]
          exact .cons ⟨rfl, rfl, rfl, rfl⟩ (List.rel_append hbody.2 hlater.2)
    · dsimp only at hdelay
      rw [hdelay]
      exact ⟨_, List.mem_cons_self, hexceeds⟩

/-- **Reading a range accounts for the callbacks in it.** -/
theorem accounts_readRange (lines : List (List Char)) (start stop count : Nat) :
    Accounts (spans lines start stop) ((readRange lines start stop count).map Reading.tasks) := by
  fun_induction readRange lines start stop count with
  | case1 start stop count hlt hrole ih =>
    rw [spans, if_pos hlt, hrole]
    exact ih
  | case2 start stop count hlt message hrole ih =>
    rw [spans, if_pos hlt, hrole]
    cases hlater : readRange lines (start + 1) stop (count + 1) with
    | error error =>
      rw [hlater] at ih
      exact ih
    | ok later =>
      rw [hlater] at ih
      refine ⟨ih.1, ?_⟩
      change List.Forall₂ _ _ (callbacksOf (_ :: later.tasks))
      rw [callbacksOf_print]
      exact ih.2
  | case3 start stop count hlt callback hrole close ihbody ihlater =>
    rw [spans, if_pos hlt, hrole]
    exact accounts_callback ihbody ihlater
  | case4 start stop count hge =>
    rw [spans, if_neg hge]
    exact ⟨List.forall_mem_nil _, .nil⟩

/-- Reading a script accounts for all callbacks of its text. -/
theorem accounts_parse (source : String) : Accounts (spansOf source) (parse source) := by
  rw [parse_eq_readRange]
  exact accounts_readRange _ _ _ _

/-- **Reading a script fails only at a delay.** A script is read if the delay of each of its
timeouts has no more digits than a numeral may have; otherwise the error is that of one that has
more. The forest has one callback for each of the text, with its line, and with the delay on its
closing line, which is zero for a timeout if there is no such line or no delay on it. -/
theorem parse_fails_only_at_delay (source : String) :
    ((∃ program, parse source = .ok program) ↔ ∀ span ∈ spansOf source, span.Fits) ∧
      (∀ error, parse source = .error error → ∃ span ∈ spansOf source, span.Exceeds error) ∧
      ∀ program, parse source = .ok program →
        List.Forall₂ Span.Gives (spansOf source) (callbacksOf program) := by
  have hall : Accounts (spansOf source) (parse source) := by
    rw [parse_eq_readRange]
    exact accounts_readRange _ _ _ _
  cases hread : parse source with
  | error error =>
    rw [hread] at hall
    obtain ⟨span, hmem, hexceeds⟩ := hall
    refine ⟨⟨nofun, fun hfits => absurd (hfits span hmem) hexceeds.not_fits⟩, ?_, nofun⟩
    rintro _ ⟨⟩
    exact ⟨span, hmem, hexceeds⟩
  | ok program =>
    rw [hread] at hall
    refine ⟨⟨fun _ => hall.1, fun _ => ⟨program, rfl⟩⟩, nofun, ?_⟩
    rintro _ ⟨⟩
    exact hall.2

/-! ## Lines that print -/

theorem readLines_prints {lines : List Line} {messages : List String}
    (h : lines.map Role.of = messages.map .prints) (index : Nat) (done : List Task) (count : Nat) :
    readLines lines index done [] count =
      .ok (done.reverse ++
        messages.mapIdx fun n message => printTask (count + n) (index + n) message,
        index + lines.length) := by
  induction lines generalizing messages index done count with
  | nil =>
    obtain rfl := List.map_eq_nil_iff.mp h.symm
    simp [readLines]
  | cons line lines ih =>
    cases messages with
    | nil => cases h
    | cons message messages =>
      obtain ⟨hline, hlines⟩ := List.cons.inj h
      rw [readLines, hline]
      dsimp only
      rw [ih hlines, List.mapIdx_cons]
      simp [Nat.add_assoc, Nat.add_comm 1]

/-- A script of print calls has their messages, numbered by their lines. -/
theorem parse_of_prints {source : String} {messages : List String}
    (h : (linesOf source).map Role.of = messages.map .prints) :
    parse source = .ok (messages.mapIdx fun n message => printTask n n message) := by
  rw [parse, readLines_prints h]
  simp [Except.map]

/-! ## A text that cannot be read -/

/-- A timeout without a body, with the digits of its delay. -/
def emptyTimeout (digits : List Char) : String :=
  String.ofList ("setTimeout(() => \x7b".toList ++ '\n' :: delayLine digits)

variable {digits : List Char}

theorem head?_emptyTimeout (digits : List Char) :
    (emptyTimeout digits).toList.head? = some 's' :=
  congrArg List.head? String.toList_ofList

theorem linesOf_plain {first second : Line} (hfirst : IsPlain first) (hsecond : IsPlain second) :
    linesOf (String.ofList (first ++ '\n' :: second)) = [first, second] := by
  rw [linesOf, String.toList_ofList, rows_append_newline, rows_of_notMem hfirst.oneLine,
    rows_of_notMem hsecond.oneLine, List.singleton_append, List.map_cons, List.map_singleton,
    hfirst.stripped, hsecond.stripped]

/-- The body is empty, so the digits are those of the delay. -/
theorem parse_emptyTimeout (h : ∀ c ∈ digits, c.isDigit = true)
    (hmany : maxDigits < digits.length) :
    parse (emptyTimeout digits) = .error (.tooManyDigits digits.length) := by
  have hne : digits ≠ [] := fun hnil => by simp [hnil, maxDigits] at hmany
  have hlines : linesOf (emptyTimeout digits) =
      ["setTimeout(() => \x7b".toList, delayLine digits] :=
    linesOf_plain ⟨by decide, by decide⟩ (isPlain_delayLine h)
  have hopens : Role.of "setTimeout(() => \x7b".toList = .opens .timeout := by decide
  have hlength : bodyLength 1 [delayLine digits] = 0 := by
    rw [bodyLength, braceBalance_delayLine h]
    rfl
  have hdelay : delayOf .timeout (some (delayLine digits)) =
      .error (.tooManyDigits digits.length) := by
    rw [delayOf, Option.elim_some, readDelay_delayLine hne h, readDigits, if_pos hmany]
    rfl
  rw [parse, hlines, readLines_eq_resume, readForest, hopens]
  simp only [hlength, List.take_zero, List.drop_zero, List.head?_cons, readForest, hdelay]
  rfl

theorem isDigit_of_mem_ones (n : Nat) : ∀ c ∈ List.replicate n '1', c.isDigit = true :=
  fun _ hmem => List.eq_of_mem_replicate hmem ▸ (by decide : '1'.isDigit = true)

theorem parse_ones {n : Nat} (h : maxDigits < n) :
    parse (emptyTimeout (List.replicate n '1')) = .error (.tooManyDigits n) := by
  have hlength : (List.replicate n '1').length = n := List.length_replicate
  have hread := parse_emptyTimeout (isDigit_of_mem_ones n) (by rwa [hlength])
  rwa [hlength] at hread

/-- One digit too many is enough. -/
theorem long_delay_unread :
    ¬ ∃ program, parse (emptyTimeout (List.replicate 4301 '1')) = .ok program := by
  rintro ⟨program, hprogram⟩
  exact nomatch (parse_ones (by decide)).symm.trans hprogram

end LoopStepper.Script
