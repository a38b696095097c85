import LoopStepper.Proofs.Places
import Mathlib.Order.Bounds.Basic

/-!
# Where the braces balance

A body ends at the first line behind which no brace is open, or with the range it is in. `BodyEnd`
says so with the number of braces that are open behind each line and nothing of the search. The
search is a loop over a running balance that stops early: all it has to keep is that the balance is
the number of braces open behind the last line it has seen (`closingFrom_bodyEnd`). As there is only
one such end (`BodyEnd.unique`), every fact about closing lines is a fact about `BodyEnd`.

The end does not depend on the range, but for this: a range that ends earlier cuts the body off
(`BodyEnd.narrow`). So a callback in the body of another one closes where it would close without the
body around it, or is cut off where that body ends.

Headline:
* **`closes_at_first_balance`**: what the search finds, in every range of every list of lines, and
  how the callbacks of a script lie in one another.
-/

namespace LoopStepper.Script

open LoopStepper.Text

/-! ## The rule -/

/-- The end of a body that is opened at `opening`, in a range up to `stop`, where `behind` says how
many braces are open behind a line. -/
inductive BodyEnd (behind : Int → Int) (opening stop : Int) : Int → Prop
  /-- The first line of the range behind which no brace is open. -/
  | balanced {close : Int}
      (hleast : IsLeast {index | opening < index ∧ index < stop ∧ behind index ≤ 0} close) :
      BodyEnd behind opening stop close
  /-- The end of the range, where there is no such line in it. -/
  | cutOff (hopen : ∀ index, opening < index → index < stop → 0 < behind index) :
      BodyEnd behind opening stop stop

namespace BodyEnd

variable {behind : Int → Int} {opening stop close : Int}

/-- In front of the end of a body a brace is open behind every line. -/
theorem open_before (h : BodyEnd behind opening stop close) {index : Int} (hfrom : opening < index)
    (hto : index < close) : 0 < behind index := by
  cases h with
  | balanced hleast =>
    by_contra hclosed
    have := hleast.2 ⟨hfrom, hto.trans hleast.1.2.1, not_lt.mp hclosed⟩
    omega
  | cutOff hopen => exact hopen index hfrom hto

/-- A body has one end in a range. -/
theorem unique {other : Int} (h : BodyEnd behind opening stop close)
    (hother : BodyEnd behind opening stop other) : close = other := by
  cases h with
  | balanced hleast =>
    cases hother with
    | balanced hother => exact hleast.unique hother
    | cutOff hopen =>
      have := hopen close hleast.1.1 hleast.1.2.1
      have := hleast.1.2.2
      omega
  | cutOff hopen =>
    cases hother with
    | balanced hother =>
      have := hopen other hother.1.1 hother.1.2.1
      have := hother.1.2.2
      omega
    | cutOff => rfl

/-- A line behind which a brace is open is no end. -/
theorem of_open (h : BodyEnd behind (opening + 1) stop close) (hopen : 0 < behind (opening + 1)) :
    BodyEnd behind opening stop close := by
  have hlater {index : Int} (hfrom : opening < index) (hclosed : behind index ≤ 0) :
      opening + 1 < index := by
    have hne : index ≠ opening + 1 := by
      rintro rfl
      omega
    omega
  cases h with
  | balanced hleast =>
    obtain ⟨⟨hfrom, hto, hclosed⟩, hlower⟩ := hleast
    exact .balanced ⟨⟨by omega, hto, hclosed⟩, fun index hindex =>
      hlower ⟨hlater hindex.1 hindex.2.2, hindex.2⟩⟩
  | cutOff hrest =>
    refine .cutOff fun index hfrom hto => not_le.mp fun hclosed => ?_
    have := hrest index (hlater hfrom hclosed) hto
    omega

/-- **A range that ends earlier** changes the end of a body only where it cuts the body off. -/
theorem narrow (h : BodyEnd behind opening stop close) {narrower : Int} (hle : narrower ≤ stop) :
    BodyEnd behind opening narrower (min narrower close) := by
  rcases lt_or_ge close narrower with hin | hout
  · rw [min_eq_right hin.le]
    cases h with
    | balanced hleast =>
      refine .balanced ⟨⟨hleast.1.1, hin, hleast.1.2.2⟩, fun index hindex => ?_⟩
      exact hleast.2 ⟨hindex.1, hindex.2.1.trans_le hle, hindex.2.2⟩
    | cutOff => omega
  · rw [min_eq_left hout]
    exact .cutOff fun index hfrom hto => h.open_before hfrom (hto.trans_le hout)

end BodyEnd

/-! ## The search -/

/-- **The search finds the end of the body**, where every line of the range can be looked up and
says how the number of open braces changes. -/
theorem closingFrom_bodyEnd {ε : Type} {balance : Int → Except ε Int} {behind : Int → Int}
    (opening : Int) (fuel : Nat)
    (h : ∀ index, opening < index → index ≤ opening + fuel →
      balance index = .ok (behind index - behind (index - 1))) :
    ∃ close, closingFrom balance (behind opening) (opening + 1) fuel = .ok close ∧
      BodyEnd behind opening (opening + 1 + fuel) close := by
  induction fuel generalizing opening with
  | zero =>
    refine ⟨opening + 1, rfl, ?_⟩
    rw [Nat.cast_zero, Int.add_zero]
    exact .cutOff fun index hfrom hto => by omega
  | succ fuel ih =>
    have hfirst : balance (opening + 1) = .ok (behind (opening + 1) - behind opening) := by
      rw [h (opening + 1) (by omega) (by omega), Int.add_sub_cancel]
    have hdepth : behind opening + (behind (opening + 1) - behind opening) =
        behind (opening + 1) := by
      omega
    have hstop : opening + 1 + ((fuel + 1 : Nat) : Int) = opening + 1 + 1 + fuel := by omega
    rw [closingFrom, hfirst, hstop]
    simp only [hdepth]
    by_cases hclosed : behind (opening + 1) ≤ 0
    · rw [if_pos hclosed]
      refine ⟨opening + 1, rfl, .balanced ⟨⟨by omega, by omega, hclosed⟩, fun index hindex => ?_⟩⟩
      exact hindex.1
    · rw [if_neg hclosed]
      obtain ⟨close, hfound, hend⟩ :=
        ih (opening + 1) fun index hfrom hto => h index (by omega) (by omega)
      exact ⟨close, hfound, hend.of_open (not_le.mp hclosed)⟩

/-- The line at an index of some lines; lines before the first one are counted from the end. -/
def lineAt (lines : Array Line) (index : Int) : Line :=
  lines.getD (index % lines.size).toNat []

/-- The lines behind the line `opening`, up to the line `last`. -/
def linesBehind (lines : Array Line) (opening last : Int) : List Line :=
  (List.range (last - opening).toNat).map fun (place : Nat) => lineAt lines (opening + 1 + place)

/-- The braces that are open behind the line `last`, where one is open behind the line `opening`:
one, and the open braces of the lines between, less their closing braces. -/
def openBehind (lines : Array Line) (opening last : Int) : Int :=
  1 + ((linesBehind lines opening last).flatten.count '\x7b' : Int) -
    (linesBehind lines opening last).flatten.count '\x7d'

section Lines

variable {lines : Array Line} {opening stop : Int}

@[simp] theorem openBehind_self : openBehind lines opening opening = 1 := by
  simp [openBehind, linesBehind]

theorem linesBehind_concat {index : Int} (h : opening < index) :
    linesBehind lines opening index =
      linesBehind lines opening (index - 1) ++ [lineAt lines index] := by
  have hlength : (index - opening).toNat = (index - 1 - opening).toNat + 1 := by omega
  have hlast : opening + 1 + ((index - 1 - opening).toNat : Int) = index := by omega
  rw [linesBehind, linesBehind, hlength, List.range_succ, List.map_append, List.map_singleton,
    hlast]

/-- Each line adds its balance to the braces that are open. -/
theorem openBehind_sub {index : Int} (h : opening < index) :
    openBehind lines opening index - openBehind lines opening (index - 1) =
      braceBalance (lineAt lines index) := by
  rw [openBehind, openBehind, linesBehind_concat h, List.flatten_append, List.flatten_singleton,
    List.count_append, List.count_append, braceBalance]
  omega

/-- A line that is reached from the front or from the end is looked up there. -/
theorem balanceAt_eq_lineAt {index : Int} (hfrom : -(lines.size : Int) ≤ index)
    (hto : index < lines.size) (hsize : (lines.size : Int) ≤ positionLimit) :
    balanceAt lines index = .ok (braceBalance (lineAt lines index)) := by
  have hlocate : locate lines.size index = .ok (index % lines.size).toNat := by
    unfold positionLimit at hsize
    unfold locate positionLimit
    rw [if_neg (by simp; omega)]
    by_cases hfront : 0 ≤ index
    · rw [if_pos hfront, if_pos hto, Int.emod_eq_of_lt hfront hto]
    · rw [if_neg hfront, if_pos (by omega), ← Int.add_emod_right,
        Int.emod_eq_of_lt (by omega) (by omega)]
  rw [balanceAt, hlocate]
  rfl

/-- A range is within reach if it is empty, or its first line is there, which is the one behind the
opening line: counted from the end, if need be. -/
def Reached (lines : Array Line) (opening stop : Int) : Prop :=
  stop ≤ opening + 1 ∨ -(lines.size : Int) ≤ opening + 1

/-- In a range within reach the search for a closing line finds the end of the body. -/
theorem closingLine_bodyEnd (hrange : opening < stop) (hstop : stop ≤ lines.size)
    (hsize : (lines.size : Int) ≤ positionLimit) (hreach : Reached lines opening stop) :
    ∃ close, closingLine lines opening stop = .ok close ∧
      BodyEnd (openBehind lines opening) opening stop close := by
  have hbalance : ∀ index, opening < index →
      index ≤ opening + ((stop - (opening + 1)).toNat : Int) →
      balanceAt lines index =
        .ok (openBehind lines opening index - openBehind lines opening (index - 1)) := by
    intro index hfrom hto
    have hfirst : -(lines.size : Int) ≤ index := by
      rcases hreach with hempty | hreach <;> omega
    rw [openBehind_sub hfrom, balanceAt_eq_lineAt hfirst (by omega) hsize]
  obtain ⟨close, hfound, hend⟩ := closingFrom_bodyEnd opening _ hbalance
  rw [openBehind_self] at hfound
  have hfuel : opening + 1 + ((stop - (opening + 1)).toNat : Int) = stop := by omega
  rw [hfuel] at hend
  exact ⟨close, by rw [closingLine, if_neg (by omega), hfound], hend⟩

/-- Where the range is beyond reach, the search fails at its first line. -/
theorem closingLine_of_not_reached (hreach : ¬ Reached lines opening stop) :
    ∃ error, locate lines.size (opening + 1) = .error error ∧
      closingLine lines opening stop = .error error := by
  obtain ⟨hsome, hfar⟩ := not_or.mp hreach
  have hlocate : ∃ error, locate lines.size (opening + 1) = .error error := by
    unfold locate
    split
    · exact ⟨_, rfl⟩
    · rw [if_neg (by omega), if_neg (by omega)]
      exact ⟨_, rfl⟩
  obtain ⟨error, hlocate⟩ := hlocate
  obtain ⟨fuel, hfuel⟩ : ∃ fuel, (stop - (opening + 1)).toNat = fuel + 1 :=
    ⟨(stop - (opening + 1)).toNat - 1, by omega⟩
  have hfirst : balanceAt lines (opening + 1) = .error error := by
    rw [balanceAt, hlocate]
    rfl
  refine ⟨error, hlocate, ?_⟩
  rw [closingLine, if_neg (by omega), hfuel, closingFrom, hfirst]

end Lines

/-! ## Lines given as a value -/

/-- Some lines as a list of texts. -/
def textsOf (lines : Array Line) : Datum :=
  .list (lines.toList.map fun line => .text (String.ofList line))

theorem closingFrom_mapError {ε ε' : Type} (f : ε → ε') (balance : Int → Except ε Int)
    (depth index : Int) (fuel : Nat) :
    closingFrom (fun index => (balance index).mapError f) depth index fuel =
      (closingFrom balance depth index fuel).mapError f := by
  induction fuel generalizing depth index with
  | zero => rfl
  | succ fuel ih =>
    rw [closingFrom, closingFrom]
    cases hbalance : balance index with
    | error error => rfl
    | ok change =>
      simp only [Except.mapError]
      split
      · rfl
      · exact ih _ _

theorem closingFrom_le {ε : Type} {balance : Int → Except ε Int} {depth index close : Int}
    {fuel : Nat} (h : closingFrom balance depth index fuel = .ok close) :
    close ≤ index + fuel := by
  induction fuel generalizing depth index with
  | zero =>
    have := Except.ok.inj h
    omega
  | succ fuel ih =>
    rw [closingFrom] at h
    cases hbalance : balance index with
    | error error =>
      rw [hbalance] at h
      cases h
    | ok change =>
      rw [hbalance] at h
      simp only at h
      split at h
      · have := Except.ok.inj h
        omega
      · have := ih h
        omega

theorem itemBalance_textsOf (lines : Array Line) (index : Int) :
    itemBalance (textsOf lines) ((textsOf lines).items?.getD []).toArray index =
      (balanceAt lines index).mapError (.position "list") := by
  have hitems : ((textsOf lines).items?.getD []).toArray =
      lines.map fun line => .text (String.ofList line) := by
    refine Array.toList_inj.mp ?_
    rw [Array.toList_map]
    rfl
  rw [hitems, itemBalance, textsOf, Datum.itemAt, Array.size_map, balanceAt]
  cases hlocate : locate lines.size index with
  | error error => rfl
  | ok place =>
    have hlt := locate_lt hlocate
    have hitem : (lines.map fun line => Datum.text (String.ofList line)).getD place .nothing =
        .text (String.ofList (lines.getD place [])) := by
      simp [Array.getD_eq_getD_getElem?, hlt]
    have hcount (c : Char) : (Datum.text (String.ofList (lines.getD place []))).count c =
        .ok ((lines.getD place []).count c) := by
      rw [Datum.count, String.toList_ofList]
    simp only [Except.mapError, Except.map, hitem]
    change (do
      let opened ← (Datum.text (String.ofList (lines.getD place []))).count '\x7b'
      let closed ← (Datum.text (String.ofList (lines.getD place []))).count '\x7d'
      pure ((opened : Int) - closed)) = _
    rw [hcount, hcount]
    rfl

/-- Lines and bounds that are given as values are searched in the same way. -/
theorem closingLineOf_textsOf (lines : Array Line) (opening stop : Int) :
    closingLineOf (textsOf lines) (.whole opening) (.whole stop) =
      ((closingLine lines opening stop).mapError (.position "list")).map .whole := by
  have hbalance : itemBalance (textsOf lines) ((textsOf lines).items?.getD []).toArray =
      fun index => (balanceAt lines index).mapError (.position "list") :=
    funext (itemBalance_textsOf lines)
  have hsearch : closingLineOf (textsOf lines) (.whole opening) (.whole stop) = do
      let found ← (closingFrom (balanceAt lines) 1 (opening + 1)
        (stop - (opening + 1)).toNat).mapError (.position "list")
      return if found < stop then .whole found else .whole stop := by
    rw [← closingFrom_mapError, ← hbalance]
    rfl
  rw [hsearch, closingLine]
  split
  · have hfuel : (stop - (opening + 1)).toNat = 0 := by omega
    rw [hfuel, closingFrom]
    change Except.ok (if opening + 1 < stop then _ else _) = _
    rw [if_neg (by omega)]
    rfl
  · cases hfound : closingFrom (balanceAt lines) 1 (opening + 1) (stop - (opening + 1)).toNat with
    | error error => rfl
    | ok close =>
      have hle := closingFrom_le hfound
      change Except.ok (if close < stop then _ else _) = Except.ok (Datum.whole close)
      split
      · rfl
      · rw [show stop = close by omega]

/-! ## One callback within another -/

/-- How the callbacks of a forest that is laid in some lines close. -/
structure Nests (lines : Array Line) (program : List Task) : Prop where
  /-- A callback closes at its closing line in the whole text, unless the range that it stands in
  ends before. -/
  own : ∀ placed ∈ placedTasks lines.toList lines.size program, placed.task.kind ≠ .log →
    ∃ close, closingLine lines placed.task.place lines.size = .ok close ∧
      (placed.bodyStop lines.toList : Int) = min (placed.stop : Int) close
  /-- A callback within the body of another one, at any depth, closes above the line where that body
  ends, or is cut off there, with a brace open behind every line from its own on. -/
  inner : ∀ outer ∈ placedTasks lines.toList lines.size program, outer.task.kind ≠ .log →
    ∀ inner ∈ placedTasks lines.toList (outer.bodyStop lines.toList) outer.task.body,
      inner.task.kind ≠ .log →
        inner.bodyStop lines.toList < outer.bodyStop lines.toList ∨
          inner.bodyStop lines.toList = outer.bodyStop lines.toList ∧
            ∀ index : Int, inner.task.place < index → index < outer.bodyStop lines.toList →
              0 < openBehind lines inner.task.place index

section Nests

variable {lines : Array Line} {start stop : Nat} {tasks : List Task} {placed : Placed}

/-- The recursive rule ends a body where its braces balance. -/
theorem closingIndex_bodyEnd {opening : Nat} (h : opening < stop) (hstop : stop ≤ lines.size)
    (hsize : (lines.size : Int) ≤ positionLimit) :
    BodyEnd (openBehind lines opening) opening stop (closingIndex lines.toList opening stop) := by
  have hreach : Reached lines opening stop := .inr (by omega)
  obtain ⟨close, hfound, hend⟩ := closingLine_bodyEnd (by omega) (by omega) hsize hreach
  rw [closingLine_eq_closingIndex h hstop hsize] at hfound
  rw [Except.ok.inj hfound]
  exact hend

/-- A callback ends where its body does in the range that it stands in. -/
theorem Laid.bodyEnd (h : Laid lines.toList start stop tasks) (hstop : stop ≤ lines.size)
    (hsize : (lines.size : Int) ≤ positionLimit)
    (hmem : placed ∈ placedTasks lines.toList stop tasks) (hkind : placed.task.kind ≠ .log) :
    BodyEnd (openBehind lines placed.task.place) placed.task.place placed.stop
      (placed.bodyStop lines.toList) := by
  obtain ⟨-, hplace, hle⟩ := h.body hmem hkind
  exact closingIndex_bodyEnd hplace (hle.trans hstop) hsize

/-- The callbacks of a forest that is laid in the lines of a text lie in one another. -/
theorem Laid.nests (h : Laid lines.toList 0 lines.size tasks)
    (hsize : (lines.size : Int) ≤ positionLimit) : Nests lines tasks := by
  refine ⟨fun placed hmem hkind => ?_, fun outer houter hkind inner hinner hinnerKind => ?_⟩
  · obtain ⟨-, hplace, hle⟩ := h.body hmem hkind
    have hend := h.bodyEnd le_rfl hsize hmem hkind
    have hlt := hplace.trans_le hle
    have hown := closingIndex_bodyEnd hlt le_rfl hsize
    exact ⟨_, closingLine_eq_closingIndex hlt le_rfl hsize, hend.unique (hown.narrow (by omega))⟩
  · obtain ⟨hbody, -, -⟩ := h.body houter hkind
    have houterEnd := h.bodyStop_bounds houter hkind
    have hend := hbody.bodyEnd (by omega) hsize hinner hinnerKind
    obtain ⟨-, -, hstop, hlast⟩ := hbody.bodyStop_bounds hinner hinnerKind
    -- the inner callback looks for its closing line only in front of the end of the outer body
    rcases Nat.lt_or_eq_of_le (hstop.trans hlast) with habove | hcut
    · exact .inl habove
    · refine .inr ⟨hcut, fun index hfrom hto => hend.open_before hfrom ?_⟩
      rwa [hcut]

end Nests

/-! ## Every list of lines -/

/-- What the search for the closing line of a body finds, in a range up to `stop`. -/
structure ClosingLine (lines : Array Line) (opening stop close : Int) : Prop where
  /-- The search finds it, also where lines and bounds are given as values. -/
  found : closingLine lines opening stop = .ok close
  foundInTexts : closingLineOf (textsOf lines) (.whole opening) (.whole stop) = .ok (.whole close)
  /-- It is the first line behind which no brace is open, or the end if there is none. -/
  first : BodyEnd (openBehind lines opening) opening stop close
  /-- In a range that ends earlier the same line is found, unless it ends before that line. -/
  narrower : ∀ narrower, opening < narrower → narrower ≤ stop →
    closingLine lines opening narrower = .ok (min narrower close)

theorem closingLine_spec {lines : Array Line} {opening stop : Int} (hrange : opening < stop)
    (hstop : stop ≤ lines.size) (hsize : (lines.size : Int) ≤ positionLimit)
    (hreach : Reached lines opening stop) : ∃ close, ClosingLine lines opening stop close := by
  obtain ⟨close, hfound, hend⟩ := closingLine_bodyEnd hrange hstop hsize hreach
  refine ⟨close, hfound, ?_, hend, fun narrower hfrom hto => ?_⟩
  · rw [closingLineOf_textsOf, hfound]
    rfl
  · have hreachNarrow : Reached lines opening narrower := by
      rcases hreach with hempty | hreach
      · exact .inl (by omega)
      · exact .inr hreach
    obtain ⟨other, hother, hotherEnd⟩ :=
      closingLine_bodyEnd hfrom (hto.trans hstop) hsize hreachNarrow
    rw [hother, hotherEnd.unique (hend.narrow hto)]

/-- **A body ends at the first line behind which no brace is open**, in every range of every list
of lines, of which there are no more than positions; a range that ends earlier only cuts it off. The
search fails only where the range begins beyond reach, further in front of the first line than there
are lines to count from the end. So in every script a callback closes above the end of the body that
it stands in, or is cut off there. -/
theorem closes_at_first_balance {lines : Array Line} (hsize : (lines.size : Int) ≤ positionLimit) :
    (∀ opening stop : Int, opening < stop → stop ≤ lines.size →
      (Reached lines opening stop → ∃ close, ClosingLine lines opening stop close) ∧
        (¬ Reached lines opening stop → ∃ error,
          locate lines.size (opening + 1) = .error error ∧
            closingLine lines opening stop = .error error)) ∧
      ∀ source program, rows source.toList = lines.toList → parse source = .ok program →
        Nests lines program := by
  constructor
  · intro opening stop hrange hstop
    exact ⟨closingLine_spec hrange hstop hsize, closingLine_of_not_reached⟩
  · intro source program hrows hparse
    have hlaid := laid_of_parse hparse
    rw [hrows, Array.length_toList] at hlaid
    exact hlaid.nests hsize

/-- The lines of a script whose last line closes two bodies at once. -/
def crowdedLines : Array Line :=
  #["setTimeout(() => \x7b".toList, "  // nothing".toList, "  queueMicrotask(() => \x7b".toList,
    "    console.log('one')".toList, "\x7d\x7d, 5); console.log('two')".toList]

/-- Both callbacks have the last line for their closing line, but the body of the inner one is cut
off with that of the outer one. -/
theorem closes_at_first_balance_crowded :
    (crowdedLines.size : Int) ≤ positionLimit ∧ ClosingLine crowdedLines 0 5 4 ∧
      ClosingLine crowdedLines 2 5 4 ∧ closingLine crowdedLines 2 3 = .ok 3 ∧
      Nests crowdedLines crowdedForest := by
  have hsize : (crowdedLines.size : Int) ≤ positionLimit := by decide
  obtain ⟨hranges, hscripts⟩ := closes_at_first_balance hsize
  have hclosing (opening : Int) (hopening : opening = 0 ∨ opening = 2)
      (hfound : closingLine crowdedLines opening 5 = .ok 4) :
      ClosingLine crowdedLines opening 5 4 := by
    have hreach : Reached crowdedLines opening 5 := .inr (by omega)
    obtain ⟨close, hclose⟩ := (hranges opening 5 (by omega) (by decide)).1 hreach
    obtain rfl := Except.ok.inj (hclose.found.symm.trans hfound)
    exact hclose
  have houter := hclosing 0 (.inl rfl) (by decide)
  have hinner := hclosing 2 (.inr rfl) (by decide)
  have hrows : rows crowdedScript.toList = crowdedLines.toList := by
    rw [crowdedScript, String.toList_intercalate]
    rfl
  exact ⟨hsize, houter, hinner, hinner.narrower 3 (by decide) (by decide),
    hscripts _ _ hrows parse_crowdedScript⟩

end LoopStepper.Script
