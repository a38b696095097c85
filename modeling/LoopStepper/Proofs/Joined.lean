import LoopStepper.Proofs.Completion
import LoopStepper.Proofs.Inserted
import LoopStepper.Proofs.Printed
import Mathlib.Data.List.GetD

/-!
# Scripts put together

A script can be read in parts: where every callback on the top level of the first part has its
closing line in that part, what is read from the whole is what is read from the one part, followed
by what is read from the other. Three things make it so. Where a body closes is decided by the lines
up to there, so lines behind change nothing (`closingIndex_append`). The lines of a range are read
without a look at those behind it (`readRange_append_left`). And a reading that begins at another
line, with another number of tasks complete, differs in nothing but lines and ids
(`readForest_behind`).

Inside the callbacks of the first part bodies may be cut off, and in the second part anything may be
left open.

Headline:
* **`parse_join`**: the law for texts with a line feed between them.
-/

namespace LoopStepper

/-! ## Tasks with other ids -/

section Renamed

variable (g : String → String)

mutual

/-- A task with the ids replaced, at every depth. -/
def Task.renamed : Task → Task
  | ⟨id, kind, content, delay, children, line⟩ =>
    ⟨g id, kind, content, delay, renamedBody children, line⟩

/-- A body with the ids replaced. -/
def renamedBody : Option (List Task) → Option (List Task)
  | none => none
  | some tasks => some (renamedForest tasks)

/-- A forest with the ids replaced. -/
def renamedForest : List Task → List Task
  | [] => []
  | task :: tasks => task.renamed :: renamedForest tasks

end

end Renamed

namespace Script

open LoopStepper.Text

/-! ## Reading behind other tasks -/

/-- The number in the id of a task. -/
def idNumber (id : String) : Nat :=
  digitsValue (id.toList.drop "task-".length)

theorem idNumber_taskId (number : Nat) : idNumber (taskId number) = number := by
  rw [idNumber, taskId, String.toList_append]
  exact digitsValue_toString number

/-- The id of a task with so many more tasks complete before it. -/
def laterId (count : Nat) (id : String) : String :=
  taskId (idNumber id + count)

theorem laterId_taskId (count number : Nat) :
    laterId count (taskId number) = taskId (number + count) := by
  rw [laterId, idNumber_taskId]

/-- A reading with so many more tasks complete before it. -/
def Reading.later (more : Nat) (reading : Reading) : Reading :=
  { reading with
    tasks := renamedForest (laterId more) reading.tasks
    count := reading.count + more }

theorem Reading.later_push (more : Nat) (task : Task) (reading : Reading) :
    (reading.push task).later more = (reading.later more).push (task.renamed (laterId more)) := by
  rw [Reading.push, Reading.later, renamedForest]
  rfl

theorem renamed_printTask (more number index : Nat) (message : String) :
    (printTask number index message).renamed (laterId more) =
      printTask (number + more) index message := by
  rw [printTask, Task.renamed, laterId_taskId]
  rfl

theorem renamed_callbackTask (more : Nat) (callback : Callback) (index number : Nat)
    (delay : Option Int) (body : List Task) :
    (callbackTask callback index number delay body).renamed (laterId more) =
      callbackTask callback index (number + more) delay (renamedForest (laterId more) body) := by
  rw [callbackTask, Task.renamed, laterId_taskId, renamedBody]
  rfl

/-- The reading of a callback, where its body and what is behind it are read with more tasks
complete. -/
theorem later_opens {more index : Nat} {callback : Callback} {closing : Option Line}
    {rest : Reading → Except NumeralError Reading}
    (hrest : ∀ body, rest (body.later more) = (rest body).map (Reading.later more))
    (body : Except NumeralError Reading) :
    (do
      let body ← body.map (Reading.later more)
      let delay ← delayOf callback closing
      let later ← rest body
      return later.push (callbackTask callback index body.count delay body.tasks)) =
      (do
        let body ← body
        let delay ← delayOf callback closing
        let later ← rest body
        return later.push (callbackTask callback index body.count delay body.tasks) :
        Except NumeralError Reading).map (Reading.later more) := by
  cases body with
  | error error => rfl
  | ok body =>
    change (delayOf callback closing >>= fun delay => rest (body.later more) >>= _) = _
    rw [hrest]
    cases delayOf callback closing with
    | error error => rfl
    | ok delay =>
      cases hlater : rest body with
      | error error =>
        simp only [bind, Except.bind, hlater]
        rfl
      | ok later =>
        simp only [bind, Except.bind, hlater]
        refine congrArg Except.ok ?_
        rw [Reading.later_push, renamed_callbackTask]
        rfl

/-- **Reading with more tasks complete** gives the same tasks with later ids. -/
theorem readForest_later (more : Nat) (lines : List Line) (index count : Nat) :
    readForest lines index (count + more) =
      (readForest lines index count).map (Reading.later more) := by
  fun_induction readForest lines index count with
  | case1 index count =>
    rw [readForest]
    rfl
  | case2 index count line rest hrole ih => rw [readForest, hrole, ← ih]
  | case3 index count line rest message hrole ih =>
    rw [readForest, hrole]
    simp only [Nat.add_right_comm count more 1, ih]
    cases readForest rest (index + 1) (count + 1) with
    | error error => rfl
    | ok later =>
      refine congrArg Except.ok ?_
      rw [Reading.later_push, renamed_printTask]
  | case4 index count line rest callback hrole length ihbody ihlater =>
    rw [readForest, hrole]
    dsimp only
    rw [ihbody]
    refine later_opens (fun body => ?_) _
    rw [← ihlater body, Nat.add_right_comm body.count 1 more]
    rfl

/-- A forest that is read behind so many lines, with so many tasks complete before it. -/
def forestBehind (lines tasks : Nat) (forest : List Task) : List Task :=
  renumberedForest (fun line => line + lines) (renamedForest (laterId tasks) forest)

/-- **Reading behind other lines and other tasks** gives the same forest, with all of its lines and
ids raised. -/
theorem readForest_behind {lines : List Line} {reading : Reading}
    (h : readForest lines 0 0 = .ok reading) (index count : Nat) :
    (readForest lines index count).map Reading.tasks =
      .ok (forestBehind index count reading.tasks) := by
  have hlater := readForest_later count lines 0 0
  rw [h, Nat.zero_add] at hlater
  have hshifts : Shifts (fun line => line + (index : Int)) lines.length 0 index := by
    intro k _
    push_cast
    omega
  have hshifted := readForest_shifted lines 0 count index hshifts
  rw [hshifted.tasks, hlater]
  rfl

/-! ## Reading with lines behind -/

/-- A callback is no task that prints. -/
theorem Callback.kind_ne_log (callback : Callback) : callback.kind ≠ .log := by
  cases callback <;> nofun

/-- Lines behind a body that is closed do not matter. -/
theorem bodyLength_append {depth : Int} {front : List Line}
    (h : bodyLength depth front < front.length) (back : List Line) :
    bodyLength depth (front ++ back) = bodyLength depth front := by
  induction front generalizing depth with
  | nil => exact absurd h (Nat.not_lt_zero _)
  | cons line front ih =>
    rw [List.cons_append, bodyLength, bodyLength]
    rw [bodyLength, List.length_cons] at h
    split
    · rfl
    · next hopen =>
      rw [if_neg hopen] at h
      rw [ih (Nat.lt_of_succ_lt_succ h)]

section Append

variable {front : List (List Char)} {start count : Nat}

/-- **A body that is closed in front of some lines is closed there.** -/
theorem closingIndex_append {opening : Nat} (hopening : opening < front.length)
    (h : closingIndex front opening front.length < front.length) (back : List (List Char)) :
    closingIndex (front ++ back) opening (front ++ back).length =
      closingIndex front opening front.length := by
  have hlt : opening < (front ++ back).length := by
    rw [List.length_append]
    omega
  have hdrop : (front ++ back).drop (opening + 1) = front.drop (opening + 1) ++ back :=
    List.drop_append_of_le_length hopening
  rw [closingIndex_eq hopening le_rfl, List.take_length] at h ⊢
  have hlength : (front.drop (opening + 1)).length = front.length - (opening + 1) :=
    List.length_drop
  rw [closingIndex_eq hlt le_rfl, List.take_length, hdrop, bodyLength_append (by omega)]

/-- The lines of a range are read without those behind it. -/
theorem readRange_append_left {stop : Nat} (hstop : stop ≤ front.length) (back : List (List Char)) :
    readRange (front ++ back) start stop count = readRange front start stop count := by
  have hle : stop ≤ (front ++ back).length := by
    rw [List.length_append]
    omega
  rw [← readForest_eq_readRange _ _ hle, ← readForest_eq_readRange _ _ hstop,
    List.take_append_of_le_length hstop]

/-- The lines behind some others are read from their index on. -/
theorem readForest_eq_readRange_append (front back : List (List Char)) (count : Nat) :
    readForest (back.map strip) front.length count =
      readRange (front ++ back) front.length (front ++ back).length count := by
  have hforest := readForest_eq_readRange (front ++ back) front.length le_rfl count
  rwa [List.take_length, List.drop_left] at hforest

/-- **Reading on.** Where the callbacks on the top level of a range are all closed in it, what is
read from the range and the lines behind it is what is read from the range, followed by what is read
from these lines. -/
theorem readRange_append (back : List (List Char)) :
    ∀ reading, readRange front start front.length count = .ok reading → start ≤ front.length →
      (∀ task ∈ reading.tasks, task.kind ≠ .log →
        closingIndex front task.place front.length < front.length) →
      readRange (front ++ back) start (front ++ back).length count =
        (readRange (front ++ back) front.length (front ++ back).length reading.count).map
          (Reading.prepend reading.tasks) := by
  have hle : front.length ≤ (front ++ back).length := by
    rw [List.length_append]
    omega
  generalize hstop : front.length = stop
  fun_induction readRange front start stop count with
  | case1 start stop count hlt hrole ih =>
    intro reading h _ hclosed
    subst hstop
    have hlater := ih rfl reading h hlt hclosed
    have hline := List.getD_append front back [] start hlt
    generalize readRange (front ++ back) front.length _ reading.count = behind at hlater ⊢
    rw [readRange, if_pos (hlt.trans_le hle), hline, hrole]
    exact hlater
  | case2 start stop count hlt message hrole ih =>
    intro reading h _ hclosed
    subst hstop
    obtain ⟨later, hread, h⟩ := bind_eq_ok.mp h
    obtain rfl := Except.ok.inj h
    have hlater := ih rfl later hread hlt fun task hmem =>
      hclosed task (List.mem_cons_of_mem _ hmem)
    have hline := List.getD_append front back [] start hlt
    change _ = (readRange (front ++ back) front.length _ later.count).map _
    generalize readRange (front ++ back) front.length _ later.count = behind at hlater ⊢
    rw [readRange, if_pos (hlt.trans_le hle), hline, hrole]
    dsimp only
    rw [hlater]
    cases behind <;> rfl
  | case3 start stop count hlt callback hrole close ihbody ihlater =>
    intro reading h _ hclosed
    subst hstop
    obtain ⟨body, hbody, h⟩ := bind_eq_ok.mp h
    obtain ⟨delay, hdelay, h⟩ := bind_eq_ok.mp h
    obtain ⟨later, hread, h⟩ := bind_eq_ok.mp h
    obtain rfl := Except.ok.inj h
    have hclose : close < front.length := by
      have hfirst := hclosed _ List.mem_cons_self callback.kind_ne_log
      rwa [place_callbackTask] at hfirst
    have hlater := ihlater body rfl later hread hclose fun task hmem =>
      hclosed task (List.mem_cons_of_mem _ hmem)
    have hline := List.getD_append front back [] start hlt
    have hclosing : (front ++ back)[close]? = front[close]? := List.getElem?_append_left hclose
    rw [if_pos hclose] at hdelay
    change _ = (readRange (front ++ back) front.length _ later.count).map _
    generalize readRange (front ++ back) front.length _ later.count = behind at hlater ⊢
    rw [readRange, if_pos (hlt.trans_le hle), hline, hrole]
    dsimp only
    rw [closingIndex_append hlt hclose, if_pos (hclose.trans_le hle), hclosing,
      readRange_append_left hclose.le, hbody]
    change (delayOf callback front[close]? >>= fun delay =>
      readRange (front ++ back) (close + 1) _ (body.count + 1) >>= _) = _
    rw [hdelay, hlater]
    cases behind <;> rfl
  | case4 start stop count hge =>
    intro reading h hend _
    subst hstop
    obtain rfl := Except.ok.inj h
    obtain rfl : start = front.length := le_antisymm hend (not_lt.mp hge)
    change _ = (readRange (front ++ back) front.length _ count).map _
    cases readRange (front ++ back) front.length _ count <;> rfl

end Append

/-! ## Texts -/

/-- The callbacks on the top level of a forest, which is read from some lines, have their closing
lines among them. -/
def Closed (lines : List (List Char)) (tasks : List Task) : Prop :=
  ∀ task ∈ tasks, task.kind ≠ .log → closingIndex lines task.place lines.length < lines.length

/-- **Scripts can be put together.** If every callback on the top level of one script is closed in
it, then the script with a line feed and another script behind it is read as the tasks of the one,
followed by those of the other, whose lines are raised by the lines of the one and whose ids are
raised by its tasks. -/
theorem parse_join {first second : String} {program other : List Task}
    (hfirst : parse first = .ok program) (hsecond : parse second = .ok other)
    (hclosed : Closed (rows first.toList) program) :
    parse (first ++ "\n" ++ second) = .ok
      (program ++
        forestBehind (rows first.toList).length (forestTasks program).length other) := by
  obtain ⟨reading, hread, rfl, hcompletes⟩ := completes_of_parse hfirst
  obtain ⟨later, hlater, rfl, -⟩ := completes_of_parse hsecond
  have hrows : rows (first ++ "\n" ++ second).toList = rows first.toList ++ rows second.toList := by
    rw [String.toList_append, String.toList_append, List.append_assoc]
    exact rows_append_newline first.toList second.toList
  have hrange : readRange (rows first.toList) 0 (rows first.toList).length 0 = .ok reading :=
    (readForest_eq_readRange_append [] _ 0).symm.trans hread
  have hon := readRange_append (rows second.toList) reading hrange (Nat.zero_le _) hclosed
  have hbehind := readForest_behind hlater (rows first.toList).length reading.count
  rw [← readForest_eq_readRange_append, ← linesOf] at hon
  rw [parse_eq_readRange, hrows, hon]
  generalize readForest (linesOf second) (rows first.toList).length reading.count = result
    at hbehind ⊢
  cases result with
  | error error => cases hbehind
  | ok rest =>
    have htasks : rest.tasks = _ := Except.ok.inj hbehind
    have hcount : reading.count = (forestTasks reading.tasks).length := by
      rw [hcompletes.count, Nat.zero_add]
    refine congrArg Except.ok ?_
    rw [Reading.prepend, htasks, hcount]

/-- A script with a callback that is never closed. -/
def openScript : String :=
  "\n".intercalate ["process.nextTick(() => \x7b", "  console.log('three')"]

/-- Its forest. -/
def openForest : List Task :=
  [{ id := "task-1", kind := .microtask, content := "process.nextTick", line := some 1,
     children := some [{ id := "task-0", kind := .log, content := "three", line := some 2 }] }]

theorem parse_openScript : parse openScript = .ok openForest := by
  rw [parse, linesOf, openScript, String.toList_intercalate]
  with_unfolding_all rfl

/-- The first script has a body that is cut off inside the callback of its top level, the second one
ends inside a body. -/
theorem parse_join_crowded :
    parse crowdedScript = .ok crowdedForest ∧ parse openScript = .ok openForest ∧
      Closed (rows crowdedScript.toList) crowdedForest ∧
      parse (crowdedScript ++ "\n" ++ openScript) = .ok
        (crowdedForest ++
          [{ id := "task-4", kind := .microtask, content := "process.nextTick", line := some 6,
             children := some
              [{ id := "task-3", kind := .log, content := "three", line := some 7 }] }]) := by
  have hclosed : Closed (rows crowdedScript.toList) crowdedForest := by
    refine List.forall_mem_singleton.mpr fun _ => ?_
    decide +kernel
  have hlines : (rows crowdedScript.toList).length = 5 := by decide +kernel
  have hjoin := parse_join parse_crowdedScript parse_openScript hclosed
  rw [hlines] at hjoin
  exact ⟨parse_crowdedScript, parse_openScript, hclosed, hjoin.trans rfl⟩

end Script

end LoopStepper
