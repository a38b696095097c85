import LoopStepper.Proofs.Stripped
import LoopStepper.Script.Parse

/-!
# Reading by recursion

The rule for bodies is recursive: at a line that opens a callback, find the line that closes it,
read the lines between them in the same way, and go on behind it. `readRange` is that rule, over
the indices of a range of lines. The reader itself goes through the lines once, with the bodies
that are open on a stack.

The two are compared in two steps. `readForest` is the recursion over the list of lines that are
left, where a body is the front of that list. A reader with open bodies gives what the recursion
gives for the lines it has left, handed on to what the open bodies still have to do
(`readLines_eq_resume`); and the list left to the recursion is the range
(`readForest_eq_readRange`).

Headline:
* **`readLines_eq_readRange`**: over any range of any lines, the reader gives what the recursive
  rule gives, tasks, index and error.
-/

namespace LoopStepper

section Results

variable {ε ε' α β : Type}

theorem bind_eq_ok {result : Except ε α} {f : α → Except ε β} {b : β} :
    result >>= f = .ok b ↔ ∃ a, result = .ok a ∧ f a = .ok b := by
  cases result <;> simp [bind, Except.bind]

theorem mapError_eq_ok {result : Except ε α} {f : ε → ε'} {a : α} :
    result.mapError f = .ok a ↔ result = .ok a := by
  cases result with
  | error => exact ⟨nofun, nofun⟩
  | ok b =>
    constructor <;> intro h <;> exact congrArg Except.ok (Except.ok.inj h)

end Results

end LoopStepper

namespace LoopStepper.Script

open LoopStepper.Text

/-! ## The rule -/

/-- The braces that are open behind some lines, where `depth` are open before them. -/
def depthAfter (depth : Int) (lines : List (List Char)) : Int :=
  lines.foldl (fun depth line => depth + braceBalance line) depth

/-- The braces that are open behind the line `index`, where one is open behind the line
`opening`. -/
def depthBehind (lines : List (List Char)) (opening index : Nat) : Int :=
  depthAfter 1 ((lines.take (index + 1)).drop (opening + 1))

/-- The index of the line that closes the body opened at `opening`: the first one behind which no
brace is open, or `stop` if there is none before it. -/
def closingIndex (lines : List (List Char)) (opening stop : Nat) : Nat :=
  ((List.range' (opening + 1) (stop - (opening + 1))).find? fun index =>
    depthBehind lines opening index ≤ 0).getD stop

theorem closingIndex_bounds (lines : List (List Char)) {opening stop : Nat} (h : opening < stop) :
    opening < closingIndex lines opening stop ∧ closingIndex lines opening stop ≤ stop := by
  unfold closingIndex
  cases hfind : (List.range' (opening + 1) (stop - (opening + 1))).find? fun index =>
      depthBehind lines opening index ≤ 0 with
  | none => exact ⟨h, Nat.le_refl _⟩
  | some index =>
    have := List.mem_range'_1.mp (List.mem_of_find?_eq_some hfind)
    rw [Option.getD_some]
    omega

/-- What a reading gives: the tasks, the index behind them, and the number of tasks finished. -/
structure Reading where
  tasks : List Task
  next : Nat
  count : Nat

/-- A reading with one more task in front. -/
def Reading.push (task : Task) (reading : Reading) : Reading :=
  { reading with tasks := task :: reading.tasks }

/-- The delay of a callback: a timeout has that of its closing line, and none counts as zero. -/
def delayOf (callback : Callback) (closing : Option (List Char)) :
    Except NumeralError (Option Int) :=
  match callback with
  | .timeout => (closing.elim (.ok 0) readDelay).map fun n => some (n : Int)
  | .immediate => .ok (some 0)
  | .promise | .microtask | .nextTick => .ok none

/-- The task of a callback that is opened at a line. -/
def callbackTask (callback : Callback) (index number : Nat) (delay : Option Int)
    (children : List Task) : Task where
  id := taskId number
  kind := callback.kind
  content := callback.label
  delay := delay
  children := some children
  line := some (index + 1)

/-- The recursive rule: reads the lines from `start` up to `stop`, with `count` tasks finished
before. -/
def readRange (lines : List (List Char)) (start stop count : Nat) : Except NumeralError Reading :=
  if start < stop then
    match Role.of (strip (lines.getD start [])) with
    | .inert => readRange lines (start + 1) stop count
    | .prints message => do
      let later ← readRange lines (start + 1) stop (count + 1)
      return later.push (printTask count start message)
    | .opens callback => do
      let close := closingIndex lines start stop
      let body ← readRange lines (start + 1) close count
      let delay ← delayOf callback (if close < stop then lines[close]? else none)
      let later ← readRange lines (close + 1) stop (body.count + 1)
      return later.push (callbackTask callback start body.count delay body.tasks)
  else .ok { tasks := [], next := start, count }
termination_by stop - start
decreasing_by
  · omega
  · omega
  · have := closingIndex_bounds lines ‹start < stop›; omega
  · have := closingIndex_bounds lines ‹start < stop›; omega

/-! ## The recursion on the lines that are left -/

/-- The recursive rule over the list of lines that are left, the first of which has the index
`index`. -/
def readForest (lines : List Line) (index count : Nat) : Except NumeralError Reading :=
  match lines with
  | [] => .ok { tasks := [], next := index, count }
  | line :: rest =>
    match Role.of line with
    | .inert => readForest rest (index + 1) count
    | .prints message => do
      let later ← readForest rest (index + 1) (count + 1)
      return later.push (printTask count index message)
    | .opens callback => do
      let length := bodyLength 1 rest
      let body ← readForest (rest.take length) (index + 1) count
      let delay ← delayOf callback (rest.drop length).head?
      let later ← readForest (rest.drop length).tail (index + 1 + length + 1) (body.count + 1)
      return later.push (callbackTask callback index body.count delay body.tasks)
termination_by lines.length
decreasing_by
  · simp
  · simp
  · have := bodyLength_le 1 rest
    simp only [List.length_take, List.length_cons]
    omega
  · simp only [List.length_tail, List.length_drop, List.length_cons]
    omega

/-- What the open bodies still have to do, the innermost first, where its `children` have been
read. -/
def resume (bodies : List OpenBody) (children : List Task) (next count : Nat) :
    Except NumeralError (List Task × Nat) :=
  match bodies with
  | [] => .ok (children, next)
  | body :: bodies => do
    let delay ← body.delay
    let later ← readForest body.rest.tail (body.closed + 1) (count + 1)
    resume bodies (body.before.reverse ++ body.task count delay children :: later.tasks)
      later.next later.count

theorem OpenBody.delay_eq (body : OpenBody) :
    body.delay = delayOf body.callback body.rest.head? := by
  obtain ⟨callback, _, _, rest, _⟩ := body
  cases callback <;> cases rest <;> rfl

/-- **A reader with open bodies** gives what the recursion gives for the lines that are left, handed
on to the open bodies. -/
theorem readLines_eq_resume (lines : List Line) (index : Nat) (done : List Task)
    (bodies : List OpenBody) (count : Nat) :
    readLines lines index done bodies count =
      readForest lines index count >>= fun later =>
        resume bodies (done.reverse ++ later.tasks) later.next later.count := by
  fun_induction readLines lines index done bodies count with
  | case1 index done bodies count line rest hrole ih =>
    rw [ih, readForest, hrole]
  | case2 index done bodies count line rest message hrole ih =>
    rw [ih, readForest, hrole]
    simp only [bind_assoc, pure_bind, Reading.push, List.reverse_cons, List.append_assoc,
      List.singleton_append]
  | case3 index done bodies count line rest callback hrole length ih =>
    rw [ih, readForest, hrole]
    simp only [bind_assoc, pure_bind, resume, OpenBody.delay_eq, Reading.push, List.reverse_nil,
      List.nil_append]
    rfl
  | case4 index done count =>
    rw [readForest]
    exact congrArg (fun tasks => Except.ok (tasks, index)) (List.append_nil _).symm
  | case5 index done count body bodies error herror =>
    rw [readForest]
    change _ = resume (body :: bodies) (done.reverse ++ []) index count
    rw [resume, herror]
    rfl
  | case6 index done count body bodies delay hdelay ih =>
    simp only [List.unattach_reverse, List.unattach_attach] at ih
    rw [ih, readForest]
    change _ = resume (body :: bodies) (done.reverse ++ []) index count
    rw [resume, hdelay, List.append_nil]
    simp only [List.reverse_cons, List.append_assoc, List.singleton_append]
    rfl

/-! ## The list that is left is the range -/

/-- The length of a body is the number of lines in front of the first one behind which no brace is
open. -/
theorem bodyLength_eq_find (depth : Int) (lines : List (List Char)) :
    bodyLength depth lines = ((List.range lines.length).find? fun place =>
      depthAfter depth (lines.take (place + 1)) ≤ 0).getD lines.length := by
  induction lines generalizing depth with
  | nil => rfl
  | cons line lines ih =>
    rw [bodyLength, List.length_cons, List.range_succ_eq_map, List.find?_cons]
    by_cases hclose : depth + braceBalance line ≤ 0
    · simp [hclose, depthAfter]
    · rw [if_neg hclose, ih, List.find?_map]
      have hlater : ∀ place, depthAfter depth ((line :: lines).take (place + 1 + 1)) =
          depthAfter (depth + braceBalance line) (lines.take (place + 1)) := fun _ => rfl
      have hfirst : depthAfter depth ((line :: lines).take (0 + 1)) = depth + braceBalance line :=
        rfl
      simp only [hclose, hfirst, hlater, Function.comp_def, Nat.succ_eq_add_one, decide_false]
      cases (List.range lines.length).find? _ <;> rfl

/-- A body reaches from behind its opening line to its closing index. -/
theorem closingIndex_eq {lines : List (List Char)} {opening stop : Nat} (h : opening < stop)
    (hstop : stop ≤ lines.length) :
    closingIndex lines opening stop =
      opening + 1 + bodyLength 1 ((lines.take stop).drop (opening + 1)) := by
  have hlength : ((lines.take stop).drop (opening + 1)).length = stop - (opening + 1) := by
    rw [List.length_drop, List.length_take, Nat.min_eq_left hstop]
  have hdepth : ∀ place ∈ List.range (stop - (opening + 1)),
      depthBehind lines opening (opening + 1 + place) =
        depthAfter 1 (((lines.take stop).drop (opening + 1)).take (place + 1)) := by
    intro place hplace
    have hlt := List.mem_range.mp hplace
    unfold depthBehind
    rw [List.take_drop, List.take_take, Nat.min_eq_left (by omega), ← Nat.add_assoc]
  have hfind : (List.range (stop - (opening + 1))).find?
        ((fun index => decide (depthBehind lines opening index ≤ 0)) ∘ (opening + 1 + ·)) =
      (List.range (stop - (opening + 1))).find? fun place =>
        depthAfter 1 (((lines.take stop).drop (opening + 1)).take (place + 1)) ≤ 0 := by
    rw [← List.head?_filter, ← List.head?_filter]
    refine congrArg List.head? (List.filter_congr fun place hplace => ?_)
    rw [Function.comp_apply, hdepth place hplace]
  unfold closingIndex
  rw [bodyLength_eq_find, hlength, List.range'_eq_map_range, List.find?_map, hfind]
  cases (List.range (stop - (opening + 1))).find? _ with
  | none => rw [Option.map_none, Option.getD_none, Option.getD_none]; omega
  | some place => rfl

/-- A line within a sequence that positions can reach is looked at from the front. -/
theorem balanceAt_eq {lines : Array Line} {index : Nat} (h : index < lines.size)
    (hsize : (lines.size : Int) ≤ positionLimit) :
    balanceAt lines index = .ok (braceBalance lines[index]) := by
  have hlocate : locate lines.size index = .ok index := by
    unfold positionLimit at hsize
    unfold locate positionLimit
    rw [if_neg (by simp; omega), if_pos (by omega), if_pos (by omega), Int.toNat_natCast]
  rw [balanceAt, hlocate, Array.getElem_eq_getD []]
  rfl

theorem closingFrom_balanceAt {lines : Array Line} (hsize : (lines.size : Int) ≤ positionLimit)
    (depth : Int) {index fuel : Nat} (h : index + fuel ≤ lines.size) :
    closingFrom (balanceAt lines) depth index fuel =
      .ok ((index + bodyLength depth ((lines.toList.drop index).take fuel) : Nat) : Int) := by
  induction fuel generalizing depth index with
  | zero => rw [List.take_zero]; rfl
  | succ fuel ih =>
    have hlt : index < lines.toList.length := by
      rw [Array.length_toList]
      omega
    rw [closingFrom, balanceAt_eq (by omega) hsize, List.drop_eq_getElem_cons hlt,
      List.take_succ_cons, bodyLength, Array.getElem_toList]
    by_cases hclose : depth + braceBalance lines[index] ≤ 0
    · simp [hclose]
    · have hbound : index + 1 + fuel ≤ lines.size := by omega
      have hnext := ih (depth + braceBalance lines[index]) hbound
      simp only [hclose, if_false]
      rw [← Int.natCast_succ, hnext]
      congr 2
      omega

/-- The search for a closing line finds the closing index, in a range of lines that positions can
reach. -/
theorem closingLine_eq_closingIndex {lines : Array Line} {opening stop : Nat} (h : opening < stop)
    (hstop : stop ≤ lines.size) (hsize : (lines.size : Int) ≤ positionLimit) :
    closingLine lines opening stop = .ok (closingIndex lines.toList opening stop : Int) := by
  have hfuel : ((stop : Int) - (opening + 1)).toNat = stop - (opening + 1) := by omega
  rw [closingLine, if_neg (by omega), hfuel, ← Int.natCast_succ,
    closingFrom_balanceAt hsize 1 (by omega), closingIndex_eq h (by simpa using hstop),
    List.drop_take]

theorem bodyLength_map_strip (depth : Int) (lines : List (List Char)) :
    bodyLength depth (lines.map strip) = bodyLength depth lines := by
  induction lines generalizing depth with
  | nil => rfl
  | cons line lines ih => rw [List.map_cons, bodyLength, bodyLength, braceBalance_strip, ih]

theorem delayOf_map_strip (callback : Callback) (closing : Option (List Char)) :
    delayOf callback (closing.map strip) = delayOf callback closing := by
  cases callback <;> cases closing <;> simp [delayOf, readDelay_strip]

/-- A range that is not empty has its first line in front. -/
theorem range_eq_cons {lines : List (List Char)} {start stop : Nat} (h : start < stop)
    (hstop : stop ≤ lines.length) :
    (lines.take stop).drop start = lines.getD start [] :: (lines.take stop).drop (start + 1) := by
  have hlt : start < (lines.take stop).length := by
    rw [List.length_take, Nat.min_eq_left hstop]
    exact h
  rw [List.drop_eq_getElem_cons hlt, List.getElem_take, List.getElem_eq_getD []]

/-- The line at an index of a range, if the range reaches that far. -/
theorem range_head? (lines : List (List Char)) (index stop : Nat) :
    ((lines.take stop).drop index).head? = if index < stop then lines[index]? else none := by
  rw [List.head?_drop, List.getElem?_take]

/-- The recursion on the lines of a range is the recursive rule. -/
theorem readForest_eq_readRange (lines : List (List Char)) (start : Nat) {stop : Nat}
    (hstop : stop ≤ lines.length) (count : Nat) :
    readForest (((lines.take stop).drop start).map strip) start count =
      readRange lines start stop count := by
  fun_induction readRange lines start stop count with
  | case1 start stop count hlt hrole ih =>
    rw [range_eq_cons hlt hstop, List.map_cons, readForest, hrole]
    exact ih hstop
  | case2 start stop count hlt message hrole ih =>
    rw [range_eq_cons hlt hstop, List.map_cons, readForest, hrole]
    simp only [ih hstop]
  | case3 start stop count hlt callback hrole close ihbody ihlater =>
    have hclose : close = start + 1 + bodyLength 1 ((lines.take stop).drop (start + 1)) :=
      closingIndex_eq hlt hstop
    have hle : close ≤ stop := (closingIndex_bounds lines hlt).2
    have hbody : (((lines.take stop).drop (start + 1)).take
          (bodyLength 1 ((lines.take stop).drop (start + 1)))) =
        (lines.take close).drop (start + 1) := by
      rw [List.take_drop, ← hclose, List.take_take, Nat.min_eq_left hle]
    have hrest : (((lines.take stop).drop (start + 1)).drop
          (bodyLength 1 ((lines.take stop).drop (start + 1)))) = (lines.take stop).drop close := by
      rw [List.drop_drop, ← hclose]
    rw [range_eq_cons hlt hstop, List.map_cons, readForest, hrole]
    simp only [bodyLength_map_strip, ← List.map_take, ← List.map_drop, hbody, hrest, ← hclose,
      List.head?_map, delayOf_map_strip, range_head?, ← List.map_tail, List.tail_drop]
    rw [ihbody (Nat.le_trans hle hstop)]
    simp only [ihlater _ hstop]
  | case4 start stop count hge =>
    rw [List.drop_of_length_le (by rw [List.length_take]; omega), List.map_nil, readForest]

/-- **The reader follows the recursive rule**, over any range of any lines: it gives the same tasks
and the same index behind them, or fails in the same way. -/
theorem readLines_eq_readRange (lines : List (List Char)) (start : Nat) {stop : Nat}
    (hstop : stop ≤ lines.length) (count : Nat) :
    readLines (((lines.take stop).drop start).map strip) start [] [] count =
      (readRange lines start stop count).map fun reading => (reading.tasks, reading.next) := by
  rw [readLines_eq_resume, readForest_eq_readRange lines start hstop]
  cases readRange lines start stop count <;> rfl

/-- A script is read by the recursion on its lines. -/
theorem parse_eq_readForest (source : String) :
    parse source = (readForest (linesOf source) 0 0).map Reading.tasks := by
  rw [parse, readLines_eq_resume]
  cases readForest (linesOf source) 0 0 <;> rfl

/-- A script is the range of all its lines. -/
theorem parse_eq_readRange (source : String) :
    parse source =
      (readRange (rows source.toList) 0 (rows source.toList).length 0).map Reading.tasks := by
  have hforest := readForest_eq_readRange (rows source.toList) 0 (Nat.le_refl _) 0
  rw [List.take_length, List.drop_zero, ← linesOf] at hforest
  rw [parse_eq_readForest, hforest]

/-- A callback with one print call in its body. -/
def shortBody : List (List Char) :=
  ["queueMicrotask(() => \x7b".toList, "  console.log('one')".toList, "\x7d)".toList]

/-- Where the range ends before the closing line, the body is cut off there, and the index behind it
is beyond the range. -/
theorem readLines_eq_readRange_unclosed :
    2 ≤ shortBody.length ∧
      readLines (((shortBody.take 2).drop 0).map strip) 0 [] [] 3 =
        (readRange shortBody 0 2 3).map (fun reading => (reading.tasks, reading.next)) ∧
      readRange shortBody 0 2 3 = .ok
        { next := 3
          count := 5
          tasks :=
            [{ id := "task-4", kind := .microtask, content := "queueMicrotask", line := some 1,
               children := some
                [{ id := "task-3", kind := .log, content := "one", line := some 2 }] }] } := by
  have hopens : Role.of (strip (shortBody.getD 0 [])) = .opens .microtask := by decide
  have hprints : Role.of (strip (shortBody.getD 1 [])) = .prints "one" := by decide
  have hclose : closingIndex shortBody 0 2 = 2 := by decide
  have hend : ∀ start count, 2 ≤ start →
      readRange shortBody start 2 count = .ok { tasks := [], next := start, count } := by
    intro start count hstart
    rw [readRange, if_neg (Nat.not_lt.mpr hstart)]
  have hbody : readRange shortBody 1 2 3 = .ok
      { next := 2
        count := 4
        tasks := [{ id := "task-3", kind := .log, content := "one", line := some 2 }] } := by
    rw [readRange, if_pos (by decide), hprints]
    simp only [hend 2 4 (by decide)]
    rfl
  refine ⟨by decide, readLines_eq_readRange shortBody 0 (by decide) 3, ?_⟩
  rw [readRange, if_pos (by decide), hopens]
  simp only [hclose, hbody, fun count => hend (2 + 1) count (by decide)]
  rfl

end LoopStepper.Script
