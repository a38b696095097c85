import LoopStepper.Proofs.Readable
import LoopStepper.Script.Sample

/-!
# Sample scripts are read

A delay cannot have more digits than its line has characters, so a text of at most `maxDigits`
characters can always be read (`parse_of_short`). The sample scripts, whatever their complexity and
their features, are far shorter than that: at most seven parts, and none of them longer than a
callback with two others in its body.

Headline:
* **`parse_sample`**: every sample script is read.
-/

namespace LoopStepper.Script

open LoopStepper.Text

/-! ## Short texts -/

/-- What follows a word is no longer than the text. -/
theorem length_after? {word cs rest : List Char} (h : after? word cs = some rest) :
    rest.length ≤ cs.length := by
  fun_induction after? word cs with
  | case1 cs =>
    cases h
    exact Nat.le_refl _
  | case2 => cases h
  | case3 word c cs ih => exact Nat.le_succ_of_le (ih h)
  | case4 => cases h

theorem length_dropBlanks (cs : List Char) : (dropBlanks cs).length ≤ cs.length :=
  (List.dropWhile_sublist _).length_le

/-- A delay has no more digits than there are characters. -/
theorem length_delayDigits? {cs digits : List Char} (h : delayDigits? cs = some digits) :
    digits.length ≤ cs.length := by
  obtain ⟨behind, hbehind, h⟩ := Option.bind_eq_some_iff.mp h
  obtain ⟨_, -, h⟩ := Option.bind_eq_some_iff.mp h
  have hdigits : (dropBlanks behind).takeWhile isDecimal = digits := by
    split at h
    · cases h
    · exact Option.some.inj h
  calc digits.length ≤ (dropBlanks behind).length :=
        hdigits ▸ (List.takeWhile_sublist _).length_le
    _ ≤ behind.length := length_dropBlanks behind
    _ ≤ cs.length := length_after? hbehind

theorem length_leftmost? {cs digits : List Char} (h : leftmost? delayDigits? cs = some digits) :
    digits.length ≤ cs.length := by
  induction cs with
  | nil => exact length_delayDigits? h
  | cons c cs ih =>
    rw [leftmost?] at h
    split at h
    · next found hfound =>
      cases h
      exact length_delayDigits? hfound
    · exact Nat.le_succ_of_le (ih h)

theorem length_of_mem_rows {row cs : List Char} (h : row ∈ rows cs) : row.length ≤ cs.length := by
  induction cs generalizing row with
  | nil =>
    rw [rows_nil, List.mem_singleton] at h
    exact h ▸ Nat.le_refl _
  | cons c cs ih =>
    by_cases hc : c = '\n'
    · rw [hc, rows_newline] at h
      rcases List.mem_cons.mp h with rfl | h
      · exact Nat.zero_le _
      · exact Nat.le_succ_of_le (ih h)
    · rw [rows_cons hc] at h
      cases hrows : rows cs with
      | nil => exact absurd hrows (rows_ne_nil cs)
      | cons first later =>
        rw [hrows, pushFront] at h
        rw [hrows] at ih
        rcases List.mem_cons.mp h with rfl | h
        · exact Nat.succ_le_succ (ih List.mem_cons_self)
        · exact Nat.le_succ_of_le (ih (List.mem_cons_of_mem _ h))

/-- The line that closes a callback is one of the text. -/
theorem closing_mem {lines : List (List Char)} {start stop : Nat} {span : Span}
    (h : span ∈ spans lines start stop) {line : List Char} (hline : span.closing = some line) :
    line ∈ lines := by
  fun_induction spans lines start stop with
  | case1 start stop hlt hrole ih => exact ih h
  | case2 start stop hlt message hrole ih => exact ih h
  | case3 start stop hlt callback hrole close ihbody ihlater =>
    rcases List.mem_cons.mp h with rfl | h
    · dsimp only at hline
      split at hline
      · exact List.mem_of_getElem? hline
      · cases hline
    · rcases List.mem_append.mp h with h | h
      · exact ihbody h
      · exact ihlater h
  | case4 => cases h

/-- **A text of no more characters than a numeral may have digits is read.** -/
theorem parse_of_short {source : String} (h : source.length ≤ maxDigits) :
    ∃ program, parse source = .ok program := by
  have hall := accounts_parse source
  cases hread : parse source with
  | ok program => exact ⟨program, rfl⟩
  | error error =>
    rw [hread] at hall
    obtain ⟨span, hmem, digits, hdigits, hmany, -⟩ := hall
    unfold Span.digits? at hdigits
    split at hdigits
    · obtain ⟨line, hclosing, hdigits⟩ := Option.bind_eq_some_iff.mp hdigits
      have hrow := length_of_mem_rows (closing_mem hmem hclosing)
      have hfew := length_leftmost? hdigits
      rw [String.length_toList] at hrow
      omega
    · cases hdigits

/-! ## How long a sample is -/

theorem length_intercalate_le {α : Type} (separator : List α) (parts : List (List α)) {bound : Nat}
    (h : ∀ part ∈ parts, part.length ≤ bound) :
    (separator.intercalate parts).length ≤ parts.length * (bound + separator.length) := by
  induction parts with
  | nil => exact Nat.le_of_eq (Nat.zero_mul _).symm
  | cons part parts ih =>
    have hpart := h part List.mem_cons_self
    have hlater := ih fun later hmem => h later (List.mem_cons_of_mem _ hmem)
    cases parts with
    | nil =>
      simp only [List.intercalate, List.intersperse, List.flatten_singleton, List.length_singleton]
      omega
    | cons next parts =>
      have hjoin : separator.intercalate (part :: next :: parts) =
          part ++ (separator ++ separator.intercalate (next :: parts)) := by
        simp [List.intercalate]
      rw [hjoin, List.length_append, List.length_append, List.length_cons, Nat.succ_mul]
      omega

theorem length_bodyLine (indent : String) (features : Features) (message : String) :
    (bodyLine indent features message).length ≤ indent.length + message.length + 16 := by
  have hcall : "console.log('".length = 13 := by decide
  have hend : "');".length = 3 := by decide
  have hcomment : "// code".length = 7 := by decide
  unfold bodyLine
  split
  · change (indent ++ "console.log('" ++ message ++ "');").length ≤ _
    simp only [String.length_append, hcall, hend]
    omega
  · change (indent ++ "// code").length ≤ _
    rw [String.length_append, hcomment]
    omega

theorem length_block (callback : Callback) (indent body : String) :
    (callback.block indent body).length ≤ 2 * indent.length + body.length + 38 := by
  have hopening : callback.opening.length ≤ 22 := by cases callback <;> decide
  have hending : callback.ending.length ≤ 5 := by cases callback <;> decide
  have harrow : "(() => \x7b\n".length = 9 := by decide
  have hnewline : "\n".length = 1 := by decide
  have hclose : "\x7d".length = 1 := by decide
  rw [Callback.block]
  simp only [String.length_append, harrow, hnewline, hclose]
  omega

theorem length_nested (features : Features) (feature : Feature) (callback : Callback)
    (message : String) :
    (nested features feature callback message).length ≤ message.length + 62 := by
  unfold nested
  split
  · have hline := length_bodyLine "    " features message
    have hblock := length_block callback "  " (bodyLine "    " features message)
    have hindent : "    ".length = 4 := by decide
    have houter : "  ".length = 2 := by decide
    omega
  · exact Nat.zero_le _

theorem length_heading (features : Features) (message : String) :
    (heading features message).length ≤ message.length + 19 := by
  have hcall : "  console.log('".length = 15 := by decide
  have hend : "');\n".length = 4 := by decide
  unfold heading
  split
  · change ("  console.log('" ++ message ++ "');\n").length ≤ _
    simp only [String.length_append, hcall, hend]
    omega
  · exact Nat.zero_le _

theorem length_timeoutBody (features : Features) : (timeoutBody features).length ≤ 250 := by
  have hheading := length_heading features "Timeout 1"
  have hpromise := length_nested features .promise .promise "Promise inside Timeout"
  have htick := length_nested features .nextTick .nextTick "Next Tick inside Timeout"
  have hfirst : "Timeout 1".length = 9 := by decide
  have hsecond : "Promise inside Timeout".length = 22 := by decide
  have hthird : "Next Tick inside Timeout".length = 24 := by decide
  have hnewline : "\n".length = 1 := by decide
  unfold timeoutBody
  split <;> simp only [String.length_append, hnewline, String.length_empty] <;> omega

/-- A sample has at most five callbacks beside its first and its last line, and none is long. -/
structure Brief (parts : List String) : Prop where
  few : parts.length ≤ 5
  short : ∀ part ∈ parts, part.length ≤ 300

theorem brief_simpleParts (features : Features) : Brief (simpleParts features) := by
  have hmessages : ∀ block ∈ simpleBlocks, block.2.2.length ≤ 9 := by decide
  refine ⟨List.length_filterMap_le _ _, fun part hmem => ?_⟩
  obtain ⟨⟨feature, callback, message⟩, hblock, hpart⟩ := List.mem_filterMap.mp hmem
  have hmessage : message.length ≤ 9 := hmessages _ hblock
  have hline := length_bodyLine "  " features message
  have hlong := length_block callback "" (bodyLine "  " features message)
  have hindent : "  ".length = 2 := by decide
  have hnone : "".length = 0 := by decide
  dsimp only at hpart
  split at hpart
  · cases hpart
    omega
  · cases hpart

/-- A body with a message and one callback in it. -/
theorem length_outerBody (features : Features) (title message : String) (feature : Feature)
    (callback : Callback) :
    (heading features title ++ nested features feature callback message).length ≤
      title.length + message.length + 81 := by
  have hheading := length_heading features title
  have hnested := length_nested features feature callback message
  rw [String.length_append]
  omega

theorem brief_complexParts (features : Features) : Brief (complexParts features) := by
  have htimeout := length_timeoutBody features
  have hpromise := length_outerBody features "Promise 1" "Timeout inside Promise" .timeout .timeout
  have himmediate := length_outerBody features "Immediate 1" "Microtask inside Immediate"
    .microtask .microtask
  have hfirst : "Promise 1".length = 9 := by decide
  have hsecond : "Timeout inside Promise".length = 22 := by decide
  have hthird : "Immediate 1".length = 11 := by decide
  have hfourth : "Microtask inside Immediate".length = 26 := by decide
  have hnone : "".length = 0 := by decide
  refine ⟨Nat.le_trans (List.length_filterMap_le _ _) (Nat.le_add_right 3 2), fun part hmem => ?_⟩
  obtain ⟨⟨feature, callback, body⟩, hblock, hpart⟩ := List.mem_filterMap.mp hmem
  have hbody : body.length ≤ 250 := by
    simp only [List.mem_cons, Prod.mk.injEq, List.not_mem_nil, or_false] at hblock
    rcases hblock with ⟨-, -, rfl⟩ | ⟨-, -, rfl⟩ | ⟨-, -, rfl⟩
    · exact htimeout
    · omega
    · omega
  have hlong := length_block callback "" body
  dsimp only at hpart
  split at hpart
  · cases hpart
    omega
  · cases hpart

/-- The line at the beginning or the end of a sample, if messages are on. -/
theorem length_edge (features : Features) {message : String} (hmessage : message.length ≤ 5) :
    let edge := if features .log then [s!"console.log('{message}');"] else []
    edge.length ≤ 1 ∧ ∀ part ∈ edge, part.length ≤ 300 := by
  have hcall : "console.log('".length = 13 := by decide
  have hend : "');".length = 3 := by decide
  dsimp only
  split
  · refine ⟨Nat.le_refl 1, fun part hmem => ?_⟩
    have hpart : part = "console.log('" ++ message ++ "');" := List.mem_singleton.mp hmem
    rw [hpart, String.length_append, String.length_append, hcall, hend]
    omega
  · exact ⟨Nat.zero_le 1, nofun⟩

theorem length_joined (features : Features) {parts : List String} (h : Brief parts) :
    let edge (message : String) := if features .log then [s!"console.log('{message}');"] else []
    ("\n\n".intercalate (edge "Start" ++ parts ++ edge "End")).length ≤ 2114 := by
  intro edge
  have hedge (message : String) (hmessage : message.length ≤ 5) :
      (edge message).length ≤ 1 ∧ ∀ part ∈ edge message, part.length ≤ 300 :=
    length_edge features hmessage
  obtain ⟨hfirst, hstart⟩ := hedge "Start" (by decide)
  obtain ⟨hlast, hend⟩ := hedge "End" (by decide)
  have hseparator : "\n\n".toList.length = 2 := by decide
  have hbound : ∀ part ∈ (edge "Start" ++ parts ++ edge "End").map String.toList,
      part.length ≤ 300 := by
    intro part hmem
    obtain ⟨text, htext, rfl⟩ := List.mem_map.mp hmem
    rw [String.length_toList]
    rcases List.mem_append.mp htext with htext | htext
    · rcases List.mem_append.mp htext with htext | htext
      · exact hstart text htext
      · exact h.short text htext
    · exact hend text htext
  have hjoined := length_intercalate_le "\n\n".toList _ hbound
  have hfew := h.few
  rw [← String.length_toList, String.toList_intercalate]
  simp only [List.length_map, List.length_append, hseparator] at hjoined
  omega

theorem length_sample (complexity : Complexity) (features : Features) :
    (sample complexity features).length ≤ 2114 := by
  cases complexity with
  | simple => exact length_joined features (brief_simpleParts features)
  | complex => exact length_joined features (brief_complexParts features)

/-- **Every sample script is read.** -/
theorem parse_sample (complexity : Complexity) (features : Features) :
    ∃ program, parse (sample complexity features) = .ok program :=
  parse_of_short (Nat.le_trans (length_sample complexity features) (by decide))

end LoopStepper.Script
