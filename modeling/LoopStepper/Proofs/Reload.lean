import LoopStepper.Proofs.Restart
import LoopStepper.Proofs.Stripped

/-!
# Loading a script that was saved

A script is written as it is and read with its line breaks unified, while its lines end at line
feeds only. So what is loaded is what was saved if that has no carriage return, and only then
(`unifyBreaks_eq_self`). It has none itself, and is the same from then on.

Carriage returns that stand in front of line feeds do not matter for the lines: each is the last
character of its row, and blank (`rows_unifyBreaks`, `strip_chomp`). Such a script has the same
forest when it is loaded (`parse_reloaded`). A carriage return anywhere else stood inside a line and
ends it now.

Headlines:
* **`reload_of_save`**: what is loaded from a file in which a script was saved.
* **`reload_divides_line`**: a script of one line that is loaded as two lines.
-/

namespace LoopStepper

namespace Text

variable {cs : List Char}

/-! ## Carriage returns -/

/-- Each carriage return of a text stands in front of a line feed. -/
def Paired : List Char → Prop
  | [] => True
  | c :: cs => (c = '\r' → cs.head? = some '\n') ∧ Paired cs

instance decidablePaired : (cs : List Char) → Decidable (Paired cs)
  | [] => instDecidableTrue
  | c :: cs =>
    have := decidablePaired cs
    inferInstanceAs (Decidable ((c = '\r' → cs.head? = some '\n') ∧ Paired cs))

/-- A row without a carriage return at its end. -/
def chomp (row : List Char) : List Char :=
  if row.getLast? = some '\r' then row.dropLast else row

theorem chomp_cons {c : Char} (h : c ≠ '\r') (row : List Char) :
    chomp (c :: row) = c :: chomp row := by
  cases row with
  | nil => simp [chomp, h]
  | cons d row =>
    unfold chomp
    rw [List.getLast?_cons_cons, List.dropLast_cons_cons]
    split <;> rfl

theorem strip_chomp (row : List Char) : strip (chomp row) = strip row := by
  unfold chomp
  split
  · next hlast =>
    obtain ⟨front, rfl⟩ := List.getLast?_eq_some_iff.mp hlast
    have hblank : ∀ c ∈ ['\r'], isBlank c = true := List.forall_mem_singleton.mpr (by decide)
    rw [List.dropLast_concat, strip_append_blanks hblank]
  · rfl

/-! ## Unified line breaks -/

/-- The flag says that the text begins with a line feed. -/
theorem foldr_step_flag (cs : List Char) :
    (cs.foldr unifyBreaks.step ([], false)).2 = (cs.head? = some '\n') := by
  cases cs with
  | nil => simp
  | cons c cs =>
    rw [List.foldr_cons, unifyBreaks.step]
    by_cases hc : c = '\r'
    · simp [hc]
    · simp [hc]

theorem unifyBreaks_cons {c : Char} (h : c ≠ '\r') (cs : List Char) :
    unifyBreaks (c :: cs) = c :: unifyBreaks cs := by
  unfold unifyBreaks
  rw [List.foldr_cons, unifyBreaks.step, if_neg h]

theorem unifyBreaks_return (cs : List Char) :
    unifyBreaks ('\r' :: cs) =
      if cs.head? = some '\n' then unifyBreaks cs else '\n' :: unifyBreaks cs := by
  have hflag := foldr_step_flag cs
  unfold unifyBreaks
  rw [List.foldr_cons, unifyBreaks.step, if_pos rfl]
  simp only [hflag]

/-- No carriage return is left. -/
theorem notMem_unifyBreaks (cs : List Char) : '\r' ∉ unifyBreaks cs := by
  induction cs with
  | nil => exact List.not_mem_nil
  | cons c cs ih =>
    by_cases hc : c = '\r'
    · rw [hc, unifyBreaks_return]
      split
      · exact ih
      · exact List.not_mem_cons_of_ne_of_not_mem (by decide) ih
    · rw [unifyBreaks_cons hc]
      exact List.not_mem_cons_of_ne_of_not_mem (Ne.symm hc) ih

/-- **Only a text without carriage returns is left as it is.** -/
theorem unifyBreaks_eq_self : unifyBreaks cs = cs ↔ '\r' ∉ cs :=
  ⟨fun heq => heq ▸ notMem_unifyBreaks cs, Tree.unifyBreaks_of_notMem⟩

/-- Where carriage returns stand in front of line feeds, the rows lose nothing else. -/
theorem rows_unifyBreaks (h : Paired cs) : rows (unifyBreaks cs) = (rows cs).map chomp := by
  induction cs with
  | nil => rfl
  | cons c cs ih =>
    have ih := ih h.2
    by_cases hreturn : c = '\r'
    · subst hreturn
      have hfeed : cs.head? = some '\n' := h.1 rfl
      obtain ⟨rest, rfl⟩ := List.head?_eq_some_iff.mp hfeed
      have hrows : rows ('\r' :: '\n' :: rest) = pushFront '\r' (rows ('\n' :: rest)) :=
        rows_cons (by decide) _
      -- the row that ends here is empty but for the carriage return, and loses that
      rw [unifyBreaks_return, if_pos hfeed, ih, hrows, rows_newline]
      rfl
    · rw [unifyBreaks_cons hreturn]
      by_cases hfeed : c = '\n'
      · rw [hfeed, rows_newline, rows_newline, ih]
        rfl
      · rw [rows_cons hfeed, rows_cons hfeed, ih]
        obtain ⟨row, later, hrows⟩ := List.exists_cons_of_ne_nil (rows_ne_nil cs)
        rw [hrows, List.map_cons, pushFront, pushFront, List.map_cons, chomp_cons hreturn]

end Text

namespace Script

/-- A script as it is read from a file. -/
def reloaded (source : String) : String :=
  String.ofList (Text.unifyBreaks source.toList)

theorem toList_reloaded (source : String) :
    (reloaded source).toList = Text.unifyBreaks source.toList :=
  String.toList_ofList

theorem reloaded_eq_self {source : String} : reloaded source = source ↔ '\r' ∉ source.toList := by
  rw [← Text.unifyBreaks_eq_self, ← toList_reloaded, String.toList_inj]

theorem reloaded_reloaded (source : String) : reloaded (reloaded source) = reloaded source := by
  rw [reloaded_eq_self, toList_reloaded]
  exact Text.notMem_unifyBreaks _

/-- **A script whose carriage returns stand in front of line feeds has the same forest** when it is
loaded. -/
theorem parse_reloaded {source : String} (h : Text.Paired source.toList) :
    parse (reloaded source) = parse source := by
  have hlines : linesOf (reloaded source) = linesOf source := by
    rw [linesOf, toList_reloaded, Text.rows_unifyBreaks h, List.map_map, linesOf]
    exact List.map_congr_left fun row _ => Text.strip_chomp row
  rw [parse, hlines, parse]

end Script

namespace Bench

/-! ## Two print calls -/

/-- The first files and the first session with a script. -/
def opened (source : String) (program : List Task) : Bench where
  session := Session.fresh Session.plainOptions source program 100 1000 .still

theorem start_opened {source : String} {program : List Task}
    (h : Script.parse source = .ok program) :
    Session.start Session.plainOptions (some source) {} =
      .ok ((opened source program).session, {}) :=
  Session.start_eq_ok.mpr ⟨_, _, _, _, _, rfl, rfl, ⟨rfl, rfl, rfl⟩, h, rfl⟩

/-- A path beside the one that the options name. -/
def copyPath : Path :=
  Path.ofString "copy.js"

/-- What comes of saving the script there. -/
def copied (source : String) (program : List Task) : Bench :=
  Bench.after (saveScriptTo (some copyPath)) (opened source program)

theorem saveScriptTo_opened (source : String) (program : List Task) :
    saveScriptTo (some copyPath) (opened source program) =
      .ok (some copyPath) (copied source program) := by
  obtain ⟨files, hfiles⟩ : ∃ files, Tree.saveText {} copyPath source = (files, true) :=
    ⟨_, Tree.saveText_of_save rfl⟩
  have hrun : saveScriptTo (some copyPath) (opened source program) =
      .ok (some copyPath) { opened source program with files } :=
    Session.saveText_of_saved hfiles
  rw [copied, Bench.after, hrun]

def feedBetween : String :=
  "console.log('a');\nconsole.log('b');"

def pairBetween : String :=
  "console.log('a');\r\nconsole.log('b');"

def returnBetween : String :=
  "console.log('a');\rconsole.log('b');"

/-- What is read from two lines with a print call each. -/
def twoMessages : List Task :=
  [Script.printTask 0 0 "a", Script.printTask 1 1 "b"]

/-- What is read from one line with both. -/
def oneMessage : List Task :=
  [Script.printTask 0 0 "a"]

theorem parse_feedBetween : Script.parse feedBetween = .ok twoMessages := by
  have hroles : (Script.linesOf feedBetween).map Script.Role.of = ["a", "b"].map .prints := by
    decide
  exact Script.parse_of_prints hroles

theorem parse_returnBetween : Script.parse returnBetween = .ok oneMessage := by
  have hroles : (Script.linesOf returnBetween).map Script.Role.of = ["a"].map .prints := by
    decide
  exact Script.parse_of_prints hroles

theorem reloaded_pairBetween : Script.reloaded pairBetween = feedBetween := by
  decide

theorem reloaded_returnBetween : Script.reloaded returnBetween = feedBetween := by
  decide

/-! ## Saving and loading -/

variable {target : Option Path} {path : Path} {bench after : Bench}

/-- A script is saved: to a path that is given, or where the options say. -/
def Saves (target : Option Path) (bench : Bench) (path : Path) (after : Bench) : Prop :=
  saveScriptTo target bench = .ok (some path) after ∨ saveScript bench = .ok (some path) after

/-- What is saved is the source. -/
theorem Saves.saved (h : Saves target bench path after) :
    bench.files.saveText path bench.session.simulator.source = (after.files, true) ∧
      after.session = bench.session := by
  rcases h with hgiven | hoptions
  · exact (Session.saved_of_saveText hgiven).2
  · exact (Session.saved_of_saveScript hoptions).2

/-- A name of the path loads what is in the file. -/
theorem loadScript_of_named {name : String} {text : Option String} (hname : named name = some path)
    (h : bench.files.loadScript path = .ok text) : loadScript name bench = .ok text bench := by
  unfold named at hname
  split at hname
  · cases hname
  · next hnamed =>
    obtain rfl := Option.some.inj hname
    rw [loadScript, if_neg hnamed, h]

/-- **Loading a script that was saved.** Whatever the script is and wherever it was saved, what is
loaded from there is the script with its line breaks unified. That is the script itself if it has no
carriage return, and only then; it can be saved and loaded again without a change; and it has the
same forest, or cannot be read for the same reason, if each carriage return stands in front of a
line feed. -/
theorem reload_of_save (h : Saves target bench path after) :
    let source := bench.session.simulator.source
    after.session = bench.session ∧
      after.files.loadScript path = .ok (some (Script.reloaded source)) ∧
      (∀ name, named name = some path →
        loadScript name after = .ok (some (Script.reloaded source)) after) ∧
      (Script.reloaded source = source ↔ '\r' ∉ source.toList) ∧
      Script.reloaded (Script.reloaded source) = Script.reloaded source ∧
      (Text.Paired source.toList →
        Script.parse (Script.reloaded source) = Script.parse source) := by
  obtain ⟨hfiles, hsession⟩ := h.saved
  have hload := Tree.loadScript_of_saved hfiles
  exact ⟨hsession, hload, fun name hname => loadScript_of_named hname hload,
    Script.reloaded_eq_self, Script.reloaded_reloaded _, Script.parse_reloaded⟩

theorem reload_of_save_paired :
    Saves (some copyPath) (opened pairBetween twoMessages) copyPath
        (copied pairBetween twoMessages) ∧
      (copied pairBetween twoMessages).files.loadScript copyPath = .ok (some feedBetween) ∧
      Text.Paired pairBetween.toList ∧ Script.parse pairBetween = .ok twoMessages := by
  have hsaved : Saves (some copyPath) (opened pairBetween twoMessages) copyPath
      (copied pairBetween twoMessages) := .inl (saveScriptTo_opened _ _)
  have hpaired : Text.Paired pairBetween.toList := by decide
  obtain ⟨-, hload, -, -, -, hforest⟩ := reload_of_save hsaved
  have hforest : Script.parse (Script.reloaded pairBetween) = Script.parse pairBetween :=
    hforest hpaired
  rw [reloaded_pairBetween, parse_feedBetween] at hforest
  exact ⟨hsaved, hload.trans (congrArg (Except.ok ∘ some) reloaded_pairBetween), hpaired,
    hforest.symm⟩

/-- **A script of one line is loaded as two**, and its second message comes to light. -/
theorem reload_divides_line :
    Session.start Session.plainOptions (some returnBetween) {} =
        .ok ((opened returnBetween oneMessage).session, {}) ∧
      (opened returnBetween oneMessage).session.simulator.source = returnBetween ∧
      saveScriptTo (some copyPath) (opened returnBetween oneMessage) =
        .ok (some copyPath) (copied returnBetween oneMessage) ∧
      (copied returnBetween oneMessage).files.loadScript copyPath = .ok (some feedBetween) ∧
      feedBetween ≠ returnBetween ∧
      Script.parse feedBetween ≠ Script.parse returnBetween := by
  have hsaved : Saves (some copyPath) (opened returnBetween oneMessage) copyPath
      (copied returnBetween oneMessage) := .inl (saveScriptTo_opened _ _)
  have hload := Tree.loadScript_of_saved hsaved.saved.1
  have hforest : Script.parse feedBetween ≠ Script.parse returnBetween := by
    rw [parse_feedBetween, parse_returnBetween]
    exact fun heq => nomatch (List.cons.inj (Except.ok.inj heq)).2
  exact ⟨start_opened parse_returnBetween, rfl, saveScriptTo_opened _ _,
    hload.trans (congrArg (Except.ok ∘ some) reloaded_returnBetween),
    fun heq => hforest (congrArg Script.parse heq), hforest⟩

end Bench

end LoopStepper
