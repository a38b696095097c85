import LoopStepper.Datum.Json
import LoopStepper.EventLoop.Snapshot
import LoopStepper.Proofs.Countdown
import LoopStepper.Proofs.Readable

/-!
# Numbers that are too long to be written

A number of more than `maxDigits` digits has no text. Numbers that were read are never that long
(`readInt_small`), nor are the delays of a script that was read (`delay_small`); but the clock is a
sum of ticks and may become so.

The JSON text of a value is missing exactly if some number in the value is too long
(`written_json`). In the snapshot of a run these can only be the clock, or a place: the number of a
line or of instructions, which takes a script of that many lines. The stamp of a timer and what is
left of its delay are never longer than the clock or the delay, so the timers do not count
(`written_snapshot`).
-/

namespace LoopStepper

namespace Text

/-- A number has more digits than can be written. -/
def Oversized (n : Int) : Prop :=
  Nat.pow 10 maxDigits ≤ n.natAbs

theorem not_oversized {n : Int} : ¬ Oversized n ↔ n.natAbs < Nat.pow 10 maxDigits :=
  Nat.not_le

theorem ten_pow_le {few many : Nat} (h : few ≤ many) : Nat.pow 10 few ≤ Nat.pow 10 many :=
  Nat.pow_le_pow_right (Nat.succ_pos 9) h

theorem not_oversized_of_lt {n : Int} {places : Nat} (h : n.natAbs < Nat.pow 10 places)
    (hfew : places ≤ maxDigits) : ¬ Oversized n :=
  not_oversized.mpr (Nat.lt_of_lt_of_le h (ten_pow_le hfew))

/-- A number between two that can be written can be written. -/
theorem not_oversized_of_between {n low high : Int} (hlow : ¬ Oversized low)
    (hhigh : ¬ Oversized high) (hle : low ≤ n) (hge : n ≤ high) : ¬ Oversized n := by
  rw [not_oversized] at *
  omega

/-! ## Numbers that were read -/

theorem digitValue_lt (c : Char) : (digitValue? c).getD 0 < 10 := by
  unfold digitValue?
  split
  · split
    · next hdigit =>
      have hle : c.toNat ≤ 57 := (Char.isDigit_iff_toNat.mp hdigit).2
      simp only [Option.getD_some]
      omega
    · exact Nat.succ_pos 9
  · cases hfound : zeros.find? fun start => start ≤ c.toNat && c.toNat < start + 10 with
    | none => exact Nat.succ_pos 9
    | some start =>
      have hrange := List.find?_some hfound
      simp only [Bool.and_eq_true, decide_eq_true_eq] at hrange
      simp only [Option.map_some, Option.getD_some]
      omega

/-- Digits in front of which stands a number add as many places to it. -/
theorem foldl_digits_lt (cs : List Char) (n : Nat) :
    cs.foldl (fun n c => 10 * n + (digitValue? c).getD 0) n < (n + 1) * Nat.pow 10 cs.length := by
  induction cs generalizing n with
  | nil => exact Nat.lt_of_lt_of_eq (Nat.lt_succ_self n) (Nat.mul_one _).symm
  | cons c cs ih =>
    have hdigit := digitValue_lt c
    refine Nat.lt_of_lt_of_le (ih _) ?_
    have hplaces : Nat.pow 10 (cs.length + 1) = 10 * Nat.pow 10 cs.length :=
      Nat.pow_succ'
    rw [List.length_cons, hplaces, ← Nat.mul_assoc]
    refine Nat.mul_le_mul_right _ ?_
    dsimp only
    omega

theorem digitsValue_lt (cs : List Char) : digitsValue cs < Nat.pow 10 cs.length :=
  Nat.lt_of_lt_of_eq (foldl_digits_lt cs 0) (Nat.one_mul _)

theorem ten_pow_pos (places : Nat) : 0 < Nat.pow 10 places :=
  Nat.pow_pos (Nat.succ_pos 9)

theorem digitsValue_small {cs : List Char} {places : Nat} (h : cs.length ≤ places) :
    digitsValue cs < Nat.pow 10 places :=
  Nat.lt_of_lt_of_le (digitsValue_lt cs) (ten_pow_le h)

/-- **A number that was read can be written.** -/
theorem readInt_small {cs : List Char} {n : Int} (h : readInt cs = .ok n) : ¬ Oversized n := by
  unfold readInt at h
  dsimp only at h
  split at h
  · cases h
  · unfold readDigits at h
    split at h
    · cases h
    · next value hvalue =>
      split at hvalue
      · cases hvalue
      · next hfew =>
        have hsmall := digitsValue_small (Nat.not_lt.mp hfew)
        rw [Except.ok.inj hvalue] at hsmall
        split at h
        · cases h
        · rw [not_oversized, ← Except.ok.inj h]
          split <;> omega

end Text

open Text

variable {α β : Type}

/-! ## Values that are written -/

/-- A text is made of numbers: it is missing exactly if one of them is too long. -/
inductive Written (numbers : List Int) : Except NumeralError α → Prop
  | ok {a : α} (h : ∀ n ∈ numbers, ¬ Oversized n) : Written numbers (.ok a)
  | error (h : ∃ n ∈ numbers, Oversized n) : Written numbers (.error .tooLarge)

namespace Written

variable {numbers others : List Int} {result : Except NumeralError α}

theorem map (h : Written numbers result) (f : α → β) : Written numbers (result.map f) := by
  cases h with
  | ok hsmall => exact .ok hsmall
  | error hlong => exact .error hlong

theorem bind (h : Written numbers result) {next : α → Except NumeralError β}
    (hnext : ∀ a, Written others (next a)) : Written (numbers ++ others) (result >>= next) := by
  cases h with
  | error hlong =>
    obtain ⟨n, hmem, hn⟩ := hlong
    exact .error ⟨n, List.mem_append_left _ hmem, hn⟩
  | @ok a hsmall =>
    have hlater := hnext a
    change Written _ (next a)
    generalize next a = later at hlater ⊢
    cases hlater with
    | ok hothers => exact .ok (List.forall_mem_append.mpr ⟨hsmall, hothers⟩)
    | error hlong =>
      obtain ⟨n, hmem, hn⟩ := hlong
      exact .error ⟨n, List.mem_append_right _ hmem, hn⟩

/-- Numbers that can be written do not count. -/
theorem congr (h : Written numbers result)
    (hsame : (∃ n ∈ numbers, Oversized n) ↔ ∃ n ∈ others, Oversized n) :
    Written others result := by
  cases h with
  | error hlong => exact .error (hsame.mp hlong)
  | ok hsmall =>
    refine .ok fun n hmem hn => ?_
    obtain ⟨m, hm, hlong⟩ := hsame.mpr ⟨n, hmem, hn⟩
    exact hsmall m hm hlong

/-- When there is no text. -/
theorem eq_error_iff (h : Written numbers result) {error : NumeralError} :
    result = .error error ↔ error = .tooLarge ∧ ∃ n ∈ numbers, Oversized n := by
  cases h with
  | ok hsmall =>
    constructor
    · exact nofun
    · rintro ⟨-, n, hmem, hn⟩
      exact absurd hn (hsmall n hmem)
  | error hlong =>
    constructor
    · rintro ⟨⟩
      exact ⟨rfl, hlong⟩
    · rintro ⟨rfl, -⟩
      rfl

end Written

theorem written_writeInt (n : Int) : Written [n] (writeInt n) := by
  unfold writeInt
  split
  · next hlong => exact .error ⟨n, List.mem_singleton_self n, hlong⟩
  · next hsmall => exact .ok fun m hmem => List.mem_singleton.mp hmem ▸ hsmall

namespace Datum

mutual

/-- The whole numbers in a value. -/
def numbers : Datum → List Int
  | .whole n => [n]
  | .list items => itemNumbers items
  | .record fields => fieldNumbers fields
  | .nothing | .flag _ | .real _ | .text _ => []

/-- The whole numbers in the items of a list. -/
def itemNumbers : List Datum → List Int
  | [] => []
  | item :: items => item.numbers ++ itemNumbers items

/-- The whole numbers in the fields of a record. -/
def fieldNumbers : List (String × Datum) → List Int
  | [] => []
  | (_, value) :: fields => value.numbers ++ fieldNumbers fields

end

mutual

theorem written_write (depth : Nat) (value : Datum) :
    Written value.numbers (value.write depth) := by
  cases value with
  | nothing | flag | real | text =>
    rw [write, numbers]
    exact .ok (List.forall_mem_nil _)
  | whole n =>
    rw [write, numbers]
    exact written_writeInt n
  | list items =>
    rw [write, numbers]
    exact (written_writeItems (depth + 1) items).map _
  | record fields =>
    rw [write, numbers]
    exact (written_writeFields (depth + 1) fields).map _

theorem written_writeItems (depth : Nat) (items : List Datum) :
    Written (itemNumbers items) (writeItems depth items) := by
  cases items with
  | nil => exact .ok (List.forall_mem_nil _)
  | cons item items =>
    rw [writeItems, itemNumbers]
    refine (written_write depth item).bind fun text => ?_
    exact (written_writeItems depth items).map (text :: ·)

theorem written_writeFields (depth : Nat) (fields : List (String × Datum)) :
    Written (fieldNumbers fields) (writeFields depth fields) := by
  cases fields with
  | nil => exact .ok (List.forall_mem_nil _)
  | cons field fields =>
    obtain ⟨name, value⟩ := field
    rw [writeFields, fieldNumbers]
    refine (written_write depth value).bind fun text => ?_
    exact (written_writeFields depth fields).map ((quote name ++ ": " ++ text) :: ·)

end

/-- **A value has a JSON text unless a number in it is too long.** -/
theorem written_json (value : Datum) : Written value.numbers value.json :=
  written_write 0 value

theorem itemNumbers_map (view : α → Datum) (items : List α) :
    itemNumbers (items.map view) = items.flatMap fun item => (view item).numbers := by
  induction items with
  | nil => rw [List.map_nil, itemNumbers, List.flatMap_nil]
  | cons item items ih => rw [List.map_cons, itemNumbers, ih, List.flatMap_cons]

end Datum

/-! ## Delays of a script -/

namespace Script

theorem exists_of_mem_right {r : α → β → Prop} {as : List α} {bs : List β}
    (h : List.Forall₂ r as bs) {b : β} (hmem : b ∈ bs) : ∃ a ∈ as, r a b := by
  induction h with
  | nil => cases hmem
  | @cons a b' as bs hfirst hrest ih =>
    rcases List.mem_cons.mp hmem with rfl | hmem
    · exact ⟨a, List.mem_cons_self, hfirst⟩
    · obtain ⟨a', hmem', hr⟩ := ih hmem
      exact ⟨a', List.mem_cons_of_mem _ hmem', hr⟩

theorem Span.Fits.milliseconds {span : Span} (h : span.Fits) :
    span.milliseconds < Nat.pow 10 maxDigits := by
  unfold Span.milliseconds
  cases hdigits : span.digits? with
  | none => exact ten_pow_pos maxDigits
  | some digits => exact digitsValue_small (h digits hdigits)

/-- **The delays of a script that was read can be written.** -/
theorem delay_small {source : String} {program : List Task} (h : parse source = .ok program)
    {task : Task} (hmem : task ∈ forestTasks program) (hkind : task.kind = .timer) :
    ∃ delay : Nat, task.delay = some (delay : Int) ∧ delay < Nat.pow 10 maxDigits := by
  have hall := accounts_parse source
  rw [h] at hall
  obtain ⟨hfits, hgives⟩ := hall
  have hcallback : task ∈ callbacksOf program :=
    List.mem_filter.mpr ⟨hmem, by rw [hkind]; rfl⟩
  obtain ⟨span, hspan, hgiven⟩ := exists_of_mem_right hgives hcallback
  have hdelay := hgiven.delay
  have htimer := hkind.symm.trans hgiven.kind
  unfold Span.delay at hdelay
  cases hcallback : span.callback with
  | timeout =>
    rw [hcallback] at hdelay
    exact ⟨_, hdelay, (hfits span hspan).milliseconds⟩
  | immediate =>
    rw [hcallback] at hdelay
    exact ⟨0, hdelay, ten_pow_pos maxDigits⟩
  | promise | microtask | nextTick =>
    rw [hcallback] at htimer
    cases htimer

end Script

/-! ## Snapshots -/

/-- How far a frame is, how long it is, and its line. -/
def Frame.places (frame : Frame) : List Int :=
  [(frame.cursor : Int), (frame.instructions.length : Int)] ++ frame.line.toList

namespace EventLoop

variable {loop : EventLoop}

/-- The numbers of lines and instructions in a state. -/
def places (loop : EventLoop) : List Int :=
  loop.stack.flatMap Frame.places ++ (loop.microtasks ++ loop.macrotasks).filterMap Task.line ++
    loop.activeLine.toList

/-- The numbers of a waiting timer. -/
def timerNumbers (timer : PendingTimer) : List Int :=
  [timer.delay, timer.createdAt, timer.remaining]

theorem mem_numbers_ofInt? {n : Int} {line : Option Int} :
    n ∈ (Datum.ofInt? line).numbers ↔ line = some n := by
  cases line <;> simp [Datum.ofInt?, Datum.numbers, eq_comm]

theorem mem_numbers_frame {n : Int} {frame : Frame} :
    n ∈ frame.view.numbers ↔ n ∈ frame.places := by
  simp [Frame.view, Frame.places, Datum.numbers, Datum.fieldNumbers, mem_numbers_ofInt?]

theorem mem_numbers_timer {n : Int} {timer : PendingTimer} :
    n ∈ timer.view.numbers ↔ n ∈ timerNumbers timer := by
  simp [PendingTimer.view, timerNumbers, PendingTimer.delay, Datum.numbers, Datum.fieldNumbers]

theorem mem_numbers_entry {n : Int} {entry : Task} :
    n ∈ entry.entryView.numbers ↔ entry.line = some n := by
  simp [Task.entryView, Datum.numbers, Datum.fieldNumbers, mem_numbers_ofInt?]

/-- **The numbers in a snapshot.** -/
theorem mem_numbers_snapshot {n : Int} :
    n ∈ loop.snapshot.numbers ↔
      n ∈ loop.places ∨ (∃ timer ∈ loop.pending, n ∈ timerNumbers timer) ∨ n = loop.clock := by
  simp only [snapshot, Datum.numbers, Datum.fieldNumbers, Datum.itemNumbers_map, places]
  simp only [List.append_nil, List.nil_append, List.mem_append, List.mem_flatMap, List.mem_reverse,
    List.filterMap_append, List.mem_filterMap, List.mem_cons, List.not_mem_nil, Option.mem_toList,
    mem_numbers_frame, mem_numbers_timer, mem_numbers_entry, mem_numbers_ofInt?, and_false,
    exists_const, or_false, false_or, or_assoc, or_left_comm]

/-- Time does not go back, and timers are registered in it. -/
structure Dated (loop : EventLoop) : Prop where
  now : 0 ≤ loop.clock
  stamped : ∀ timer ∈ loop.pending, 0 ≤ timer.createdAt

theorem replay_dated (program : List Task) (events : List Event) :
    Dated ((start program).replay events) := by
  refine replay_invariant (fun loop h => ?_) (fun loop ms h => ?_) ⟨Int.le_refl 0, nofun⟩ events
  · refine ⟨loop.stepped.clock ▸ h.now, fun timer hmem => ?_⟩
    rw [loop.stepped.pending] at hmem
    rcases List.mem_append.mp hmem with hbefore | hnew
    · exact h.stamped timer hbefore
    · exact (mem_timersOf hnew).1 ▸ h.now
  · refine ⟨Int.add_nonneg h.now (Int.le_max_left 0 ms), fun timer hmem => ?_⟩
    obtain ⟨before, hbefore, rfl⟩ := List.mem_map.mp hmem
    exact h.stamped before (List.mem_filter.mp hbefore).1

/-- The numbers of a timer can be written as long as the clock can be. -/
theorem timer_small {source : String} {program : List Task} (h : Script.parse source = .ok program)
    (events : List Event) {timer : PendingTimer}
    (hmem : timer ∈ ((start program).replay events).pending)
    (hclock : ¬ Oversized ((start program).replay events).clock) :
    ∀ n ∈ timerNumbers timer, ¬ Oversized n := by
  have htimed := replay_timed program events
  have hdated := replay_dated program events
  have hstamp := hdated.stamped timer hmem
  have hpast := htimed.stamped timer hmem
  have hleft := htimed.countdown timer hmem
  obtain ⟨htask, hkind⟩ := pending_task h events hmem
  obtain ⟨delay, hdelay, hsmall⟩ := Script.delay_small h htask hkind
  have hlong : timer.delay = delay := by rw [PendingTimer.delay, hdelay, Option.getD_some]
  have hwait : ¬ Oversized timer.delay := by rwa [hlong, not_oversized, Int.natAbs_natCast]
  have hzero : ¬ Oversized 0 := not_oversized.mpr (ten_pow_pos maxDigits)
  have hback : ¬ Oversized (-((start program).replay events).clock) := by
    rwa [Oversized, Int.natAbs_neg]
  have hnow := hdated.now
  intro n hn
  simp only [timerNumbers, List.mem_cons, List.not_mem_nil, or_false] at hn
  rcases hn with rfl | rfl | rfl
  · exact hwait
  · exact not_oversized_of_between hzero hclock hstamp hpast
  · exact not_oversized_of_between hback hwait (by omega) (by omega)

/-- **The snapshot of a run can be written unless the clock or a place is too long.** -/
theorem written_snapshot {source : String} {program : List Task}
    (h : Script.parse source = .ok program) (events : List Event) :
    let loop := (start program).replay events
    Written (loop.clock :: loop.places) loop.snapshot.json := by
  refine (Datum.written_json _).congr ⟨?_, ?_⟩
  · rintro ⟨n, hmem, hlong⟩
    rcases mem_numbers_snapshot.mp hmem with hplace | ⟨timer, htimer, hn⟩ | rfl
    · exact ⟨n, List.mem_cons_of_mem _ hplace, hlong⟩
    · refine ⟨_, List.mem_cons_self, ?_⟩
      by_contra hclock
      exact timer_small h events htimer hclock n hn hlong
    · exact ⟨_, List.mem_cons_self, hlong⟩
  · rintro ⟨n, hmem, hlong⟩
    rcases List.mem_cons.mp hmem with rfl | hplace
    · exact ⟨_, mem_numbers_snapshot.mpr (.inr (.inr rfl)), hlong⟩
    · exact ⟨n, mem_numbers_snapshot.mpr (.inl hplace), hlong⟩

end EventLoop

end LoopStepper
