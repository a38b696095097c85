import LoopStepper.Proofs.Descent
import LoopStepper.Proofs.Parsed
import Mathlib.Algebra.Order.Ring.Int

/-!
# What becomes of a line

Each line of a script has one part in what is read: a task stands on it, or it closes a callback, or
it is inert. `Laid` follows the recursive rule through a range of lines and keeps nothing but the
lines; everything here is shown by induction on it.

Where a body ends is not written in the forest. `placedTasks` lists the tasks of a forest again,
each with the end of the range that it stands in, so that the closing line of a callback can be
looked up from it.

Headline:
* **`lines_accounted`**: the part of every line of every script, and the lines between which the
  tasks of a body stand (`Accounted`).
-/

namespace LoopStepper

/-- The index of the line that a task stands on. -/
def Task.place (task : Task) : Nat :=
  (task.line.getD 0 - 1).toNat

namespace Script

open LoopStepper.Text

/-! ## Roles -/

/-- A line from which nothing is read: without the blanks at its ends it is empty or a comment, or
it holds no print call and opens no callback. -/
def Inert (line : List Char) : Prop :=
  strip line = [] ∨ isComment (strip line) = true ∨
    message? (strip line) = none ∧ callback? (strip line) = none

/-- A line is inert if that is its role. -/
theorem inert_iff (line : List Char) : Inert line ↔ Role.of (strip line) = .inert := by
  unfold Inert
  generalize strip line = text
  constructor
  · rintro (rfl | hcomment | ⟨hmessage, hcallback⟩)
    · exact Role.of_nil
    · exact if_pos hcomment
    · unfold Role.of
      split
      · rfl
      · rw [hmessage, hcallback]
  · unfold Role.of
    intro h
    split at h
    · next hcomment => exact .inr (.inl hcomment)
    · split at h
      · cases h
      · next hmessage =>
        split at h
        · cases h
        · next hcallback => exact .inr (.inr ⟨hmessage, hcallback⟩)

/-- What a role says of the task on its line. -/
def Role.Makes (task : Task) : Role → Prop
  | .inert => False
  | .prints message => task.kind = .log ∧ task.content = message ∧ task.body = []
  | .opens callback => task.kind = callback.kind ∧ task.content = callback.label

/-! ## The ranges of a text -/

/-- Some tasks are laid in the lines from `start` up to `stop`. -/
inductive Laid (lines : List (List Char)) : Nat → Nat → List Task → Prop
  | done {start stop : Nat} (hge : stop ≤ start) : Laid lines start stop []
  | inert {start stop : Nat} {tasks : List Task} (hlt : start < stop)
      (hrole : Role.of (strip (lines.getD start [])) = .inert)
      (hlater : Laid lines (start + 1) stop tasks) : Laid lines start stop tasks
  | prints {start stop number : Nat} {message : String} {tasks : List Task} (hlt : start < stop)
      (hrole : Role.of (strip (lines.getD start [])) = .prints message)
      (hlater : Laid lines (start + 1) stop tasks) :
      Laid lines start stop (printTask number start message :: tasks)
  | opens {start stop number : Nat} {callback : Callback} {delay : Option Int}
      {body tasks : List Task} (hlt : start < stop)
      (hrole : Role.of (strip (lines.getD start [])) = .opens callback)
      (hbody : Laid lines (start + 1) (closingIndex lines start stop) body)
      (hlater : Laid lines (closingIndex lines start stop + 1) stop tasks) :
      Laid lines start stop (callbackTask callback start number delay body :: tasks)

/-- What is read from a range is laid in it. -/
theorem laid_of_readRange (lines : List (List Char)) (start stop count : Nat) :
    ∀ reading, readRange lines start stop count = .ok reading →
      Laid lines start stop reading.tasks := by
  fun_induction readRange lines start stop count with
  | case1 start stop count hlt hrole ih =>
    intro reading h
    exact .inert hlt hrole (ih reading h)
  | case2 start stop count hlt message hrole ih =>
    intro reading h
    obtain ⟨later, hlater, h⟩ := bind_eq_ok.mp h
    obtain rfl := Except.ok.inj h
    exact .prints hlt hrole (ih later hlater)
  | case3 start stop count hlt callback hrole close ihbody ihlater =>
    intro reading h
    obtain ⟨body, hbody, h⟩ := bind_eq_ok.mp h
    obtain ⟨delay, hdelay, h⟩ := bind_eq_ok.mp h
    obtain ⟨later, hlater, h⟩ := bind_eq_ok.mp h
    obtain rfl := Except.ok.inj h
    exact .opens hlt hrole (ihbody body hbody) (ihlater body later hlater)
  | case4 start stop count hge =>
    intro reading h
    obtain rfl := Except.ok.inj h
    exact .done (Nat.not_lt.mp hge)

/-- A script is laid in its lines. -/
theorem laid_of_parse {source : String} {program : List Task} (h : parse source = .ok program) :
    Laid (rows source.toList) 0 (rows source.toList).length program := by
  rw [parse_eq_readRange] at h
  cases hread : readRange (rows source.toList) 0 (rows source.toList).length 0 with
  | error error =>
    rw [hread] at h
    cases h
  | ok reading =>
    rw [hread] at h
    obtain rfl := Except.ok.inj h
    exact laid_of_readRange _ _ _ _ reading hread

@[simp] theorem place_printTask (number index : Nat) (message : String) :
    (printTask number index message).place = index := by
  simp [Task.place, printTask]

@[simp] theorem line_printTask (number index : Nat) (message : String) :
    (printTask number index message).line = some ((index : Int) + 1) := rfl

@[simp] theorem body_printTask (number index : Nat) (message : String) :
    (printTask number index message).body = [] := rfl

@[simp] theorem place_callbackTask (callback : Callback) (index number : Nat) (delay : Option Int)
    (body : List Task) : (callbackTask callback index number delay body).place = index := by
  simp [Task.place, callbackTask]

@[simp] theorem line_callbackTask (callback : Callback) (index number : Nat) (delay : Option Int)
    (body : List Task) :
    (callbackTask callback index number delay body).line = some ((index : Int) + 1) := rfl

@[simp] theorem body_callbackTask (callback : Callback) (index number : Nat) (delay : Option Int)
    (body : List Task) : (callbackTask callback index number delay body).body = body := rfl

/-- A task stands on the line that makes it. -/
structure Stands (lines : List (List Char)) (task : Task) : Prop where
  line : task.line = some ((task.place : Int) + 1)
  role : (Role.of (strip (lines.getD task.place []))).Makes task

section Laid

variable {lines : List (List Char)} {start stop index : Nat} {tasks : List Task}

/-- The tasks of a range stand on lines of it. -/
theorem Laid.bounds (h : Laid lines start stop tasks) {task : Task}
    (hmem : task ∈ forestTasks tasks) : start ≤ task.place ∧ task.place < stop := by
  induction h with
  | done => exact absurd hmem (by simp)
  | inert hlt hrole hlater ih =>
    have := ih hmem
    omega
  | @prints start stop number message tasks hlt hrole hlater ih =>
    simp only [forestTasks_cons, body_printTask, forestTasks_nil, List.nil_append,
      List.mem_cons] at hmem
    rcases hmem with rfl | hmem
    · rw [place_printTask]
      omega
    · have := ih hmem
      omega
  | @opens start stop number callback delay body tasks hlt hrole hbody hlater ihbody ihlater =>
    have hclose := closingIndex_bounds lines hlt
    simp only [forestTasks_cons, body_callbackTask, List.mem_cons, List.mem_append] at hmem
    rcases hmem with rfl | hmem | hmem
    · rw [place_callbackTask]
      omega
    · have := ihbody hmem
      omega
    · have := ihlater hmem
      omega

theorem Laid.stands (h : Laid lines start stop tasks) :
    ∀ task ∈ forestTasks tasks, Stands lines task := by
  induction h with
  | done => simp
  | inert hlt hrole hlater ih => exact ih
  | @prints start stop number message tasks hlt hrole hlater ih =>
    simp only [forestTasks_cons, body_printTask, forestTasks_nil, List.nil_append,
      List.forall_mem_cons]
    refine ⟨⟨by rw [place_printTask]; rfl, ?_⟩, ih⟩
    rw [place_printTask, hrole]
    exact ⟨rfl, rfl, rfl⟩
  | @opens start stop number callback delay body tasks hlt hrole hbody hlater ihbody ihlater =>
    simp only [forestTasks_cons, body_callbackTask, List.forall_mem_cons, List.forall_mem_append]
    refine ⟨⟨by rw [place_callbackTask]; rfl, ?_⟩, ihbody, ihlater⟩
    rw [place_callbackTask, hrole]
    exact ⟨rfl, rfl⟩

/-- The tasks of a range stand further and further down, each above those in its body. -/
theorem Laid.ascending (h : Laid lines start stop tasks) :
    (forestTasks tasks).Pairwise fun task later => task.place < later.place := by
  induction h with
  | done => simp
  | inert hlt hrole hlater ih => exact ih
  | @prints start stop number message tasks hlt hrole hlater ih =>
    simp only [forestTasks_cons, body_printTask, forestTasks_nil, List.nil_append,
      List.pairwise_cons, place_printTask]
    exact ⟨fun later hmem => (hlater.bounds hmem).1, ih⟩
  | @opens start stop number callback delay body tasks hlt hrole hbody hlater ihbody ihlater =>
    have hclose := closingIndex_bounds lines hlt
    simp only [forestTasks_cons, body_callbackTask, List.pairwise_cons, List.pairwise_append,
      place_callbackTask, List.mem_append]
    refine ⟨?_, ihbody, ihlater, fun task hin later hmem => ?_⟩
    · rintro later (hmem | hmem)
      · exact (hbody.bounds hmem).1
      · have := (hlater.bounds hmem).1
        omega
    · have := (hbody.bounds hin).2
      have := (hlater.bounds hmem).1
      omega

end Laid

/-! ## Where bodies end -/

/-- A task and the end of the range that it stands in. -/
structure Placed where
  task : Task
  stop : Nat

namespace Placed

/-- Where the body of a callback ends: at its closing line, or else with the range around it. -/
def bodyStop (lines : List (List Char)) (placed : Placed) : Nat :=
  closingIndex lines placed.task.place placed.stop

/-- Whether a line closes a callback. -/
def closes (lines : List (List Char)) (index : Nat) (placed : Placed) : Bool :=
  placed.task.kind ≠ .log ∧ placed.bodyStop lines = index ∧ index < placed.stop

end Placed

/-- The tasks of a forest that is laid in a range up to `stop`, each with the end of the range that
it stands in: for a task of a body that is the end of the body. -/
def placedTasks (lines : List (List Char)) (stop : Nat) : List Task → List Placed
  | [] => []
  | task :: tasks =>
    ⟨task, stop⟩ :: (placedTasks lines (closingIndex lines task.place stop) task.body ++
      placedTasks lines stop tasks)
termination_by tasks => forestVisits tasks
decreasing_by
  · rw [forestVisits, Task.visits_eq]; omega
  · rw [forestVisits, Task.visits_eq]; omega

/-- They are the tasks of the forest. -/
theorem placedTasks_task (lines : List (List Char)) (stop : Nat) (tasks : List Task) :
    (placedTasks lines stop tasks).map Placed.task = forestTasks tasks := by
  fun_induction placedTasks lines stop tasks with
  | case1 stop => rfl
  | case2 stop task tasks ihbody ihtasks =>
    rw [List.map_cons, List.map_append, ihbody, ihtasks, forestTasks_cons]

/-- The number of tasks of a forest that stand on a line. -/
def tasksOn (tasks : List Task) (index : Nat) : Nat :=
  (forestTasks tasks).countP fun task => task.line = some ((index : Int) + 1)

/-- The number of callbacks of a forest that a line closes. -/
def closersOn (lines : List (List Char)) (stop : Nat) (tasks : List Task) (index : Nat) : Nat :=
  (placedTasks lines stop tasks).countP (Placed.closes lines index)

section Placed

variable {lines : List (List Char)} {start stop index : Nat} {tasks : List Task} {placed : Placed}

/-- A callback of a range has its body laid between its own line and the end of the body. -/
theorem Laid.body (h : Laid lines start stop tasks) (hmem : placed ∈ placedTasks lines stop tasks)
    (hkind : placed.task.kind ≠ .log) :
    Laid lines (placed.task.place + 1) (placed.bodyStop lines) placed.task.body ∧
      placed.task.place < placed.stop ∧ placed.stop ≤ stop := by
  induction h with
  | done => exact absurd hmem (by simp [placedTasks])
  | inert hlt hrole hlater ih => exact ih hmem
  | @prints start stop number message tasks hlt hrole hlater ih =>
    simp only [placedTasks, body_printTask, List.nil_append, List.mem_cons] at hmem
    rcases hmem with rfl | hmem
    · exact absurd rfl hkind
    · exact ih hmem
  | @opens start stop number callback delay body tasks hlt hrole hbody hlater ihbody ihlater =>
    simp only [placedTasks, body_callbackTask, place_callbackTask, List.mem_cons,
      List.mem_append] at hmem
    rcases hmem with rfl | hmem | hmem
    · simp only [Placed.bodyStop, place_callbackTask, body_callbackTask]
      exact ⟨hbody, hlt, le_rfl⟩
    · obtain ⟨hlaid, hplace, hstop⟩ := ihbody hmem
      exact ⟨hlaid, hplace, hstop.trans (closingIndex_bounds lines hlt).2⟩
    · exact ihlater hmem

/-- A placed task is a task of the forest. -/
theorem mem_of_placed (hmem : placed ∈ placedTasks lines stop tasks) :
    placed.task ∈ forestTasks tasks := by
  rw [← placedTasks_task lines stop]
  exact List.mem_map_of_mem hmem

/-- A callback ends below its line and not below its range. -/
theorem Laid.bodyStop_bounds (h : Laid lines start stop tasks)
    (hmem : placed ∈ placedTasks lines stop tasks) (hkind : placed.task.kind ≠ .log) :
    start ≤ placed.task.place ∧ placed.task.place < placed.bodyStop lines ∧
      placed.bodyStop lines ≤ placed.stop ∧ placed.stop ≤ stop := by
  obtain ⟨-, hplace, hstop⟩ := h.body hmem hkind
  obtain ⟨hbelow, hle⟩ := closingIndex_bounds lines hplace
  exact ⟨(h.bounds (mem_of_placed hmem)).1, hbelow, hle, hstop⟩

/-- **What stands between the two ends of a callback is in its body.** -/
theorem Laid.mem_body (h : Laid lines start stop tasks)
    (hmem : placed ∈ placedTasks lines stop tasks) (hkind : placed.task.kind ≠ .log) {task : Task}
    (htask : task ∈ forestTasks tasks) (hfrom : placed.task.place < task.place)
    (hto : task.place < placed.bodyStop lines) : task ∈ forestTasks placed.task.body := by
  induction h with
  | done => exact absurd htask (by simp)
  | inert hlt hrole hlater ih => exact ih hmem htask
  | @prints start stop number message tasks hlt hrole hlater ih =>
    simp only [placedTasks, body_printTask, List.nil_append, List.mem_cons] at hmem
    simp only [forestTasks_cons, body_printTask, forestTasks_nil, List.nil_append,
      List.mem_cons] at htask
    rcases hmem with rfl | hmem
    · exact absurd rfl hkind
    · rcases htask with rfl | htask
      · have := hlater.bodyStop_bounds hmem hkind
        rw [place_printTask] at hfrom
        omega
      · exact ih hmem htask
  | @opens start stop number callback delay body tasks hlt hrole hbody hlater ihbody ihlater =>
    simp only [placedTasks, body_callbackTask, place_callbackTask, List.mem_cons,
      List.mem_append] at hmem
    simp only [forestTasks_cons, body_callbackTask, List.mem_cons, List.mem_append] at htask
    rcases hmem with rfl | hmem | hmem
    · simp only [Placed.bodyStop, place_callbackTask] at hfrom hto
      rcases htask with rfl | htask | htask
      · exact absurd hfrom (by simp)
      · exact htask
      · have := (hlater.bounds htask).1
        omega
    · have hends := hbody.bodyStop_bounds hmem hkind
      rcases htask with rfl | htask | htask
      · rw [place_callbackTask] at hfrom
        omega
      · exact ihbody hmem htask
      · have := (hlater.bounds htask).1
        omega
    · have hends := hlater.bodyStop_bounds hmem hkind
      rcases htask with rfl | htask | htask
      · rw [place_callbackTask] at hfrom
        have := closingIndex_bounds lines hlt
        omega
      · have := (hbody.bounds htask).2
        omega
      · exact ihlater hmem htask

/-! ## The part of a line -/

/-- The part that a line has in the tasks of a range. -/
inductive Part (lines : List (List Char)) (stop : Nat) (tasks : List Task) (index : Nat) : Prop
  /-- One task stands on it, and it closes nothing. -/
  | stood (hon : tasksOn tasks index = 1) (hclosed : closersOn lines stop tasks index = 0)
  /-- It closes one callback, and no task stands on it. -/
  | closing (hon : tasksOn tasks index = 0) (hclosed : closersOn lines stop tasks index = 1)
  /-- Neither, and then nothing could be read from it. -/
  | inert (hon : tasksOn tasks index = 0) (hclosed : closersOn lines stop tasks index = 0)
      (hinert : Inert (lines.getD index []))

/-- No task of a range stands on a line outside. -/
theorem Laid.tasksOn_outside (h : Laid lines start stop tasks)
    (hout : index < start ∨ stop ≤ index) : tasksOn tasks index = 0 := by
  refine List.countP_eq_zero.mpr fun task hmem => ?_
  have hplace := h.bounds hmem
  rw [decide_eq_true_iff, (h.stands task hmem).line]
  intro heq
  have := Option.some.inj heq
  omega

/-- No line outside a range closes a callback of it, nor does its first line. -/
theorem Laid.closersOn_outside (h : Laid lines start stop tasks)
    (hout : index ≤ start ∨ stop ≤ index) : closersOn lines stop tasks index = 0 := by
  refine List.countP_eq_zero.mpr fun placed hmem hcloses => ?_
  obtain ⟨hkind, hstop, hlt⟩ := of_decide_eq_true hcloses
  have hends := h.bodyStop_bounds hmem hkind
  omega

theorem tasksOn_print (number start : Nat) (message : String) (tasks : List Task) (index : Nat) :
    tasksOn (printTask number start message :: tasks) index =
      (if start = index then 1 else 0) + tasksOn tasks index := by
  simp [tasksOn, List.countP_cons, Nat.add_comm]

theorem tasksOn_callback (callback : Callback) (start number : Nat) (delay : Option Int)
    (body tasks : List Task) (index : Nat) :
    tasksOn (callbackTask callback start number delay body :: tasks) index =
      (if start = index then 1 else 0) + tasksOn body index + tasksOn tasks index := by
  simp only [tasksOn, forestTasks_cons, body_callbackTask, line_callbackTask, List.countP_cons,
    List.countP_append, Option.some.injEq, add_left_inj, Nat.cast_inj, decide_eq_true_eq]
  omega

theorem closersOn_print (lines : List (List Char)) (stop number start : Nat) (message : String)
    (tasks : List Task) (index : Nat) :
    closersOn lines stop (printTask number start message :: tasks) index =
      closersOn lines stop tasks index := by
  simp [closersOn, placedTasks, Placed.closes, printTask, Task.body]

theorem closersOn_callback (lines : List (List Char)) (stop : Nat) (callback : Callback)
    (start number : Nat) (delay : Option Int) (body tasks : List Task) (index : Nat) :
    closersOn lines stop (callbackTask callback start number delay body :: tasks) index =
      (if closingIndex lines start stop = index ∧ index < stop then 1 else 0) +
        closersOn lines (closingIndex lines start stop) body index +
        closersOn lines stop tasks index := by
  have hkind : callback.kind ≠ .log := by cases callback <;> nofun
  simp only [closersOn, placedTasks, body_callbackTask, place_callbackTask, List.countP_cons,
    List.countP_append, Placed.closes, Placed.bodyStop, decide_eq_true_eq]
  simp only [callbackTask, ne_eq, hkind, not_false_eq_true, true_and]
  omega

/-- The part of a line depends on the tasks on it and the callbacks it closes. -/
theorem Part.congr {others : List Task} {later : Nat} (h : Part lines stop tasks index)
    (hon : tasksOn others index = tasksOn tasks index)
    (hclosed : closersOn lines later others index = closersOn lines stop tasks index) :
    Part lines later others index := by
  cases h with
  | stood hone hnone => exact .stood (hon.trans hone) (hclosed.trans hnone)
  | closing hnone hone => exact .closing (hon.trans hnone) (hclosed.trans hone)
  | inert hnone hnot hinert => exact .inert (hon.trans hnone) (hclosed.trans hnot) hinert

/-- **Every line of a range has one part.** -/
theorem Laid.part (h : Laid lines start stop tasks) (hfrom : start ≤ index) (hto : index < stop) :
    Part lines stop tasks index := by
  induction h with
  | done hge => omega
  | @inert start stop tasks hlt hrole hlater ih =>
    rcases Nat.eq_or_lt_of_le hfrom with rfl | hmore
    · exact .inert (hlater.tasksOn_outside (by omega)) (hlater.closersOn_outside (by omega))
        ((inert_iff _).mpr hrole)
    · exact ih hmore hto
  | @prints start stop number message tasks hlt hrole hlater ih =>
    have hon := tasksOn_print number start message tasks index
    have hclosed := closersOn_print lines stop number start message tasks index
    rcases Nat.eq_or_lt_of_le hfrom with rfl | hmore
    · rw [if_pos rfl, hlater.tasksOn_outside (by omega)] at hon
      rw [hlater.closersOn_outside (by omega)] at hclosed
      exact .stood hon hclosed
    · rw [if_neg hmore.ne, Nat.zero_add] at hon
      exact (ih hmore hto).congr hon hclosed
  | @opens start stop number callback delay body tasks hlt hrole hbody hlater ihbody ihlater =>
    have hclose := closingIndex_bounds lines hlt
    have hon := tasksOn_callback callback start number delay body tasks index
    have hclosed := closersOn_callback lines stop callback start number delay body tasks index
    -- the line is the opening line, a line of the body, the closing line or a line behind it
    rcases Nat.eq_or_lt_of_le hfrom with rfl | hmore
    · rw [if_pos rfl, hbody.tasksOn_outside (by omega), hlater.tasksOn_outside (by omega)] at hon
      rw [if_neg (by omega), hbody.closersOn_outside (by omega),
        hlater.closersOn_outside (by omega)] at hclosed
      exact .stood hon hclosed
    · rw [if_neg hmore.ne, Nat.zero_add] at hon
      rcases lt_trichotomy index (closingIndex lines start stop) with hbelow | rfl | habove
      · rw [hlater.tasksOn_outside (by omega), Nat.add_zero] at hon
        rw [if_neg (by omega), hlater.closersOn_outside (by omega), Nat.zero_add,
          Nat.add_zero] at hclosed
        exact (ihbody hmore hbelow).congr hon hclosed
      · rw [hbody.tasksOn_outside (by omega), hlater.tasksOn_outside (by omega)] at hon
        rw [if_pos ⟨rfl, hto⟩, hbody.closersOn_outside (by omega),
          hlater.closersOn_outside (by omega)] at hclosed
        exact .closing hon hclosed
      · rw [hbody.tasksOn_outside (by omega), Nat.zero_add] at hon
        rw [if_neg (by omega), hbody.closersOn_outside (by omega), Nat.zero_add] at hclosed
        exact (ihlater habove hto).congr hon hclosed

end Placed

/-! ## Scripts -/

/-- What becomes of the lines of a text from which some tasks are read. -/
structure Accounted (lines : List (List Char)) (program : List Task) : Prop where
  /-- Every line has one part: a task stands on it, or it closes a callback, or it is inert. -/
  part : ∀ index < lines.length, Part lines lines.length program index
  /-- Every task stands on a line of the text, and it is what the line says. -/
  stands : ∀ task ∈ forestTasks program, task.place < lines.length ∧ Stands lines task
  /-- The tasks, each before those in its body, stand further and further down. -/
  ascending : (forestTasks program).Pairwise fun task later => task.place < later.place
  /-- Every callback has in its body the tasks that stand below its line and above the end of its
  body, and no others. This is the closing line, or the end of the range around it. -/
  enclosed : ∀ placed ∈ placedTasks lines lines.length program, placed.task.kind ≠ .log →
    placed.task.place < placed.bodyStop lines ∧ placed.bodyStop lines ≤ placed.stop ∧
      ∀ task ∈ forestTasks program, task ∈ forestTasks placed.task.body ↔
        placed.task.place < task.place ∧ task.place < placed.bodyStop lines

/-- **Every line of a script is accounted for.** -/
theorem lines_accounted {source : String} {program : List Task} (h : parse source = .ok program) :
    Accounted (rows source.toList) program := by
  have hlaid := laid_of_parse h
  refine ⟨fun index hlt => hlaid.part (Nat.zero_le _) hlt, ?_, hlaid.ascending, ?_⟩
  · intro task hmem
    exact ⟨(hlaid.bounds hmem).2, hlaid.stands task hmem⟩
  · intro placed hmem hkind
    obtain ⟨-, hbelow, hle, -⟩ := hlaid.bodyStop_bounds hmem hkind
    refine ⟨hbelow, hle, fun task htask => ⟨fun hin => ?_, fun ⟨hfrom, hto⟩ => ?_⟩⟩
    · exact (hlaid.body hmem hkind).1.bounds hin
    · exact hlaid.mem_body hmem hkind htask hfrom hto

/-- A script whose last line closes two bodies at once, and holds a print call. -/
def crowdedScript : String :=
  "\n".intercalate [
    "setTimeout(() => \x7b",
    "  // nothing",
    "  queueMicrotask(() => \x7b",
    "    console.log('one')",
    "\x7d\x7d, 5); console.log('two')"]

/-- Its forest: the inner body is cut off where the outer one ends. -/
def crowdedForest : List Task :=
  [{ id := "task-2", kind := .timer, content := "setTimeout", delay := some 5, line := some 1,
     children := some
       [{ id := "task-1", kind := .microtask, content := "queueMicrotask", line := some 3,
          children := some
            [{ id := "task-0", kind := .log, content := "one", line := some 4 }] }] }]

theorem parse_crowdedScript : parse crowdedScript = .ok crowdedForest := by
  rw [parse, linesOf, crowdedScript, String.toList_intercalate]
  with_unfolding_all rfl

theorem lines_accounted_crowded :
    parse crowdedScript = .ok crowdedForest ∧
      Accounted (rows crowdedScript.toList) crowdedForest :=
  ⟨parse_crowdedScript, lines_accounted parse_crowdedScript⟩

end Script

end LoopStepper
