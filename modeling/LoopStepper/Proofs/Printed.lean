import LoopStepper.Proofs.Descent

/-!
# Reading undoes printing

An outline is what a script does, without ids and lines: print calls and callbacks, to any depth.
It is printed with one construct a line, a callback as the line that opens it, its body, and the
line that closes it, each line behind an indentation of its own.

Three things are known of a printed line: it has no blanks at its ends, so the indentation is
stripped off again (`IsPlain`), its role is what it was printed for (`Role.of_logLine`,
`Role.of_openingLine`), and its braces are balanced, or open or close one body. So the body of a
callback is as long as it was printed (`bodyLength_lines`), and the recursive rule goes through a
printed outline as the outline is built (`readForest_lines`).

Headline:
* **`parse_print`**: a printed outline is read as the forest of its constructs, with ids in the
  order in which they end and the lines on which they stand.
-/

namespace LoopStepper.Script

open LoopStepper.Text

/-! ## Outlines -/

/-- A message that can be printed between single quotes: it has a character, no line feed and no
single quote, and as many open braces as closing ones. -/
structure Message where
  text : String
  nonempty : text.toList ≠ []
  oneLine : '\n' ∉ text.toList
  unquoted : '\'' ∉ text.toList
  balanced : text.toList.count '\x7b' = text.toList.count '\x7d'

/-- A delay in milliseconds that can be read again from its digits. -/
structure Delay where
  ms : Nat
  readable : (toString ms).toList.length ≤ maxDigits

/-- How a callback is registered. -/
inductive Registration where
  | timeout (delay : Delay)
  | immediate
  | promise
  | microtask
  | nextTick

/-- What a script does: nothing more, or a print call and what follows it, or a callback with its
body and what follows it. A print call may end with a semicolon or not. -/
inductive Outline where
  | done
  | log (message : Message) (semicolon : Bool) (later : Outline)
  | call (registration : Registration) (body later : Outline)

/-- What a line begins with: blanks, but no line feed. -/
structure Indent where
  blanks : List Char
  blank : ∀ c ∈ blanks, isBlank c = true
  oneLine : '\n' ∉ blanks

/-! ## Printing -/

/-- The name under which a callback is registered. -/
def Registration.name : Registration → String
  | .timeout _ => "setTimeout"
  | .immediate => "setImmediate"
  | .promise => "Promise.resolve().then"
  | .microtask => "queueMicrotask"
  | .nextTick => "process.nextTick"

/-- The line that opens a body. -/
def Registration.openingLine (registration : Registration) : Line :=
  registration.name.toList ++ "(() => \x7b".toList

/-- The line that closes a body: that of a timeout has its delay. -/
def Registration.closingLine : Registration → Line
  | .timeout delay => "\x7d, ".toList ++ (toString delay.ms).toList ++ ");".toList
  | .immediate | .promise | .microtask | .nextTick => "\x7d);".toList

/-- The line of a print call. -/
def logLine (message : Message) (semicolon : Bool) : Line :=
  "console.log('".toList ++ message.text.toList ++ (if semicolon then "');" else "')").toList

/-- The lines of an outline without their indentation. -/
def Outline.lines : Outline → List Line
  | .done => []
  | .log message semicolon later => logLine message semicolon :: later.lines
  | .call registration body later =>
    registration.openingLine :: (body.lines ++ registration.closingLine :: later.lines)

/-- The text of an outline, with the given indentation for each line. -/
def Outline.print (outline : Outline) (indent : Nat → Indent) : String :=
  String.ofList (unrows (outline.lines.mapIdx fun index line => (indent index).blanks ++ line))

/-! ## The forest of an outline -/

/-- The kind of the task that registers a callback. -/
def Registration.kind : Registration → TaskKind
  | .timeout _ | .immediate => .timer
  | .promise | .microtask | .nextTick => .microtask

/-- The content of the task that registers a callback. -/
def Registration.label : Registration → String
  | .timeout _ => "setTimeout"
  | .immediate => "setImmediate"
  | .promise => "Promise.then"
  | .microtask => "queueMicrotask"
  | .nextTick => "process.nextTick"

/-- The delay of the task that registers a callback: microtasks have none. -/
def Registration.delay : Registration → Option Int
  | .timeout delay => some delay.ms
  | .immediate => some 0
  | .promise | .microtask | .nextTick => none

/-- The number of constructs of an outline. -/
def Outline.size : Outline → Nat
  | .done => 0
  | .log _ _ later => later.size + 1
  | .call _ body later => body.size + later.size + 1

/-- The forest of an outline that is printed behind `index` lines, where `count` constructs have
ended before it. A callback ends after its body, and its line is the one that opens it. -/
def Outline.tasks (index count : Nat) : Outline → List Task
  | .done => []
  | .log message _ later =>
    { id := taskId count, kind := .log, content := message.text, line := some (index + 1) } ::
      later.tasks (index + 1) (count + 1)
  | .call registration body later =>
    { id := taskId (count + body.size), kind := registration.kind, content := registration.label,
      delay := registration.delay, children := some (body.tasks (index + 1) count),
      line := some (index + 1) } ::
      later.tasks (index + 1 + body.lines.length + 1) (count + body.size + 1)

/-! ## Printed lines -/

/-- The way of registering that a line opens. -/
def Registration.callback : Registration → Callback
  | .timeout _ => .timeout
  | .immediate => .immediate
  | .promise => .promise
  | .microtask => .microtask
  | .nextTick => .nextTick

theorem after?_append_self (word rest : List Char) : after? word (word ++ rest) = some rest := by
  induction word with
  | nil => rfl
  | cons c word ih => simp [after?, ih]

theorem leftmost?_of_eq_some {α : Type} {pattern : List Char → Option α} {cs : List Char} {a : α}
    (h : pattern cs = some a) : leftmost? pattern cs = some a := by
  cases cs with
  | nil => rw [leftmost?, h]
  | cons c cs => rw [leftmost?, h]

/-- A text without the quote ends at the first quote behind it. -/
theorem untilClose?_append {quote : Char} {text : List Char} (h : quote ∉ text)
    (rest : List Char) : untilClose? quote (text ++ quote :: ')' :: rest) = some text := by
  induction text with
  | nil => simp [untilClose?]
  | cons c text ih =>
    have hc : c ≠ quote := fun heq => h (heq ▸ List.mem_cons_self)
    rw [List.cons_append, untilClose?, ih fun hmem => h (List.mem_cons_of_mem c hmem)]
    simp [hc]

theorem messageBody?_append {quote : Char} {text : List Char} (hne : text ≠ []) (h : quote ∉ text)
    (rest : List Char) : messageBody? quote (text ++ quote :: ')' :: rest) = some text := by
  obtain ⟨c, text, rfl⟩ := List.exists_cons_of_ne_nil hne
  have htext : quote ∉ text := fun hmem => h (List.mem_cons_of_mem c hmem)
  rw [List.cons_append, messageBody?, untilClose?_append htext]
  rfl

theorem logLine_eq (message : Message) (semicolon : Bool) :
    logLine message semicolon = "console.log(".toList ++ '\'' ::
      (message.text.toList ++ '\'' :: ')' :: if semicolon then [';'] else []) := by
  have hopen : "console.log('".toList = "console.log(".toList ++ ['\''] := by decide
  have hclose : (if semicolon then "');" else "')").toList =
      '\'' :: ')' :: if semicolon then [';'] else [] := by
    cases semicolon <;> decide
  unfold logLine
  rw [hopen, hclose, List.append_assoc, List.append_assoc]
  rfl

/-- **A printed message is read**, whatever code it looks like. -/
theorem Role.of_logLine (message : Message) (semicolon : Bool) :
    Role.of (logLine message semicolon) = .prints message.text := by
  have hcall : printCall? (logLine message semicolon) = some message.text.toList := by
    rw [logLine_eq, printCall?, after?_append_self]
    exact messageBody?_append message.nonempty message.unquoted _
  have hcode : isComment (logLine message semicolon) = false := by
    rw [logLine_eq]
    rfl
  rw [Role.of, hcode, message?, leftmost?_of_eq_some hcall, if_neg Bool.false_ne_true]
  exact congrArg Role.prints String.ofList_toList

theorem openingLine_eq (registration : Registration) : registration.openingLine =
    registration.callback.opening.toList ++ "(() => \x7b".toList := by
  cases registration <;> rfl

theorem Role.of_openingLine (registration : Registration) :
    Role.of registration.openingLine = .opens registration.callback := by
  rw [openingLine_eq]
  cases registration.callback <;> decide

/-! ### The delay of a timeout -/

theorem toList_toString (n : Nat) : (toString n).toList = Nat.toDigits 10 n :=
  String.toList_ofList

theorem isDigit_of_mem_toString {n : Nat} {c : Char} (h : c ∈ (toString n).toList) :
    c.isDigit = true :=
  Nat.isDigit_of_mem_toDigits (b := 10) (n := n) (by decide) (by decide) (toList_toString n ▸ h)

/-- The digits of a number stand for it. -/
theorem digitsValue_toString (n : Nat) : digitsValue (toString n).toList = n := by
  have hfold : ∀ (cs : List Char) (init : Nat), (∀ c ∈ cs, c.isDigit = true) →
      cs.foldl (fun n c => 10 * n + (digitValue? c).getD 0) init = Nat.ofDigitChars 10 cs init := by
    intro cs
    induction cs with
    | nil => exact fun _ _ => rfl
    | cons c cs ih =>
      intro init h
      rw [List.foldl_cons, ih _ fun d hd => h d (List.mem_cons_of_mem c hd),
        digitValue?_of_isDigit (h c List.mem_cons_self)]
      rfl
  rw [digitsValue, hfold _ _ fun c hc => isDigit_of_mem_toString hc, toList_toString]
  exact Nat.ofDigitChars_toDigits (by decide) (by decide)

theorem isBlank_of_isDigit {c : Char} (h : c.isDigit = true) : isBlank c = false := by
  have hlow : 48 ≤ c.toNat := (Char.isDigit_iff_toNat.mp h).1
  have hhigh : c.toNat ≤ 57 := (Char.isDigit_iff_toNat.mp h).2
  simp [isBlank]
  omega

/-- The line that closes the body of a timeout, with the digits of its delay. -/
def delayLine (digits : List Char) : Line :=
  "\x7d, ".toList ++ digits ++ ");".toList

theorem delayLine_eq (digits : List Char) :
    delayLine digits = '\x7d' :: ',' :: ' ' :: (digits ++ [')', ';']) := rfl

theorem closingLine_timeout (delay : Delay) :
    (Registration.timeout delay).closingLine = delayLine (toString delay.ms).toList := rfl

/-- Digits between the comma and the parenthesis of a closing line are its delay. -/
theorem readDelay_delayLine {digits : List Char} (hne : digits ≠ [])
    (h : ∀ c ∈ digits, c.isDigit = true) : readDelay (delayLine digits) = readDigits digits := by
  have hblanks : dropBlanks (' ' :: (digits ++ [')', ';'])) = digits ++ [')', ';'] := by
    have hspace : ∀ c ∈ [' '], isBlank c = true := List.forall_mem_singleton.mpr (by decide)
    refine (dropBlanks_blanks_append hspace _).trans (dropBlanks_eq_self fun c hc => ?_)
    obtain ⟨d, tail, rfl⟩ := List.exists_cons_of_ne_nil hne
    obtain rfl := Option.some.inj hc
    exact isBlank_of_isDigit (h d List.mem_cons_self)
  have hparen : dropBlanks [')', ';'] = [')', ';'] := by decide
  have hdecimal : ∀ c ∈ digits, isDecimal c = true := fun c hc => isDecimal_of_isDigit (h c hc)
  have hend : ¬isDecimal ')' = true := by decide
  have hdigits : digitsBehind? (' ' :: (digits ++ [')', ';'])) = some digits := by
    rw [digitsBehind?, hblanks, List.takeWhile_append_of_pos hdecimal,
      List.dropWhile_append_of_pos hdecimal, List.takeWhile_cons_of_neg hend,
      List.dropWhile_cons_of_neg hend, List.append_nil, hparen]
    simp [after?, hne]
  have hdelay : delayDigits? (delayLine digits) = some digits := by
    rw [delayLine_eq]
    exact (delayDigits?_eq _).trans hdigits
  rw [readDelay, leftmost?_of_eq_some hdelay]

/-- **A printed delay is read.** -/
theorem delayOf_closingLine (registration : Registration) :
    delayOf registration.callback (some registration.closingLine) = .ok registration.delay := by
  cases registration with
  | timeout delay =>
    have hne : (toString delay.ms).toList ≠ [] := by
      rw [toList_toString]
      exact Nat.toDigits_ne_nil
    have hread : readDelay (Registration.timeout delay).closingLine = .ok delay.ms := by
      rw [closingLine_timeout, readDelay_delayLine hne fun c hc => isDigit_of_mem_toString hc,
        readDigits, if_neg (Nat.not_lt.mpr delay.readable), digitsValue_toString]
    simp only [Registration.callback, delayOf, Option.elim_some, hread]
    rfl
  | immediate | promise | microtask | nextTick => rfl

/-! ### Indentation -/

/-- A line that stands alone and has no blanks at its ends. -/
structure IsPlain (line : Line) : Prop where
  stripped : strip line = line
  oneLine : '\n' ∉ line

/-- A line without line feeds is plain if it begins and ends with no blank. -/
theorem isPlain_of_edges {front mid back : List Char} {c d : Char} (hfirst : front.head? = some c)
    (hc : isBlank c = false) (hlast : back.getLast? = some d) (hd : isBlank d = false)
    (hfront : '\n' ∉ front) (hmid : '\n' ∉ mid) (hback : '\n' ∉ back) :
    IsPlain (front ++ mid ++ back) where
  stripped := by
    refine strip_eq_self (fun e he => ?_) fun e he => ?_
    · rw [List.append_assoc, List.head?_append, hfirst, Option.some_or] at he
      exact Option.some.inj he ▸ hc
    · rw [List.getLast?_append, hlast, Option.some_or] at he
      exact Option.some.inj he ▸ hd
  oneLine := by
    rw [List.mem_append, List.mem_append]
    rintro ((hmem | hmem) | hmem)
    · exact hfront hmem
    · exact hmid hmem
    · exact hback hmem

theorem isPlain_logLine (message : Message) : (semicolon : Bool) →
    IsPlain (logLine message semicolon)
  | true => isPlain_of_edges (c := 'c') (d := ';') (by decide) (by decide) (by decide) (by decide)
    (by decide) message.oneLine (by decide)
  | false => isPlain_of_edges (c := 'c') (d := ')') (by decide) (by decide) (by decide) (by decide)
    (by decide) message.oneLine (by decide)

theorem isPlain_openingLine (registration : Registration) : IsPlain registration.openingLine := by
  rw [openingLine_eq]
  cases registration.callback <;> exact ⟨by decide, by decide⟩

theorem isPlain_delayLine {digits : List Char} (h : ∀ c ∈ digits, c.isDigit = true) :
    IsPlain (delayLine digits) := by
  have hdigits : '\n' ∉ digits := fun hmem => absurd (h _ hmem) (by decide)
  exact isPlain_of_edges (c := '\x7d') (d := ';') (by decide) (by decide) (by decide) (by decide)
    (by decide) hdigits (by decide)

theorem isPlain_closingLine (registration : Registration) : IsPlain registration.closingLine := by
  cases registration with
  | timeout delay =>
    rw [closingLine_timeout]
    exact isPlain_delayLine fun c hc => isDigit_of_mem_toString hc
  | immediate | promise | microtask | nextTick => exact ⟨by decide, by decide⟩

theorem isPlain_of_mem_lines {outline : Outline} {line : Line} (h : line ∈ outline.lines) :
    IsPlain line := by
  induction outline with
  | done => exact absurd h List.not_mem_nil
  | log message semicolon later ih =>
    rcases List.mem_cons.mp h with rfl | h
    · exact isPlain_logLine message semicolon
    · exact ih h
  | call registration body later ihbody ihlater =>
    simp only [Outline.lines, List.mem_cons, List.mem_append] at h
    rcases h with rfl | h | rfl | h
    · exact isPlain_openingLine registration
    · exact ihbody h
    · exact isPlain_closingLine registration
    · exact ihlater h

/-- The lines of a printed outline are read without their indentation. -/
theorem linesOf_print {outline : Outline} (hne : outline.lines ≠ []) (indent : Nat → Indent) :
    linesOf (outline.print indent) = outline.lines := by
  have hrows : ∀ row ∈ outline.lines.mapIdx fun index line => (indent index).blanks ++ line,
      '\n' ∉ row := by
    intro row hrow
    obtain ⟨index, hindex, rfl⟩ := List.mem_mapIdx.mp hrow
    rw [List.mem_append, not_or]
    exact ⟨(indent index).oneLine, (isPlain_of_mem_lines (List.getElem_mem hindex)).oneLine⟩
  have hsplit : rows (unrows (outline.lines.mapIdx fun index line =>
        (indent index).blanks ++ line)) =
      outline.lines.mapIdx fun index line => (indent index).blanks ++ line := by
    obtain ⟨first, later, heq⟩ := List.exists_cons_of_ne_nil
      (l := outline.lines.mapIdx fun index line => (indent index).blanks ++ line)
      (by simpa using hne)
    rw [heq] at hrows ⊢
    exact rows_unrows hrows
  rw [linesOf, Outline.print, String.toList_ofList, hsplit]
  refine List.ext_getElem (by simp) fun index hindex hlines => ?_
  rw [List.getElem_map, List.getElem_mapIdx, strip_blanks_append (indent index).blank]
  exact (isPlain_of_mem_lines (List.getElem_mem hlines)).stripped

/-! ### The braces of printed lines -/

theorem braceBalance_append (front back : List Char) :
    braceBalance (front ++ back) = braceBalance front + braceBalance back := by
  simp only [braceBalance, List.count_append, Int.natCast_add]
  omega

/-- A balanced text between two others adds nothing. -/
theorem braceBalance_between {front mid back : List Char} {a b : Int}
    (hfront : braceBalance front = a) (hmid : braceBalance mid = 0)
    (hback : braceBalance back = b) :
    braceBalance (front ++ mid ++ back) = a + b := by
  rw [braceBalance_append, braceBalance_append, hfront, hmid, hback, Int.add_zero]

theorem braceBalance_logLine (message : Message) (semicolon : Bool) :
    braceBalance (logLine message semicolon) = 0 := by
  have hmessage : braceBalance message.text.toList = 0 := by
    rw [braceBalance, message.balanced, Int.sub_self]
  cases semicolon with
  | true => exact braceBalance_between (a := 0) (b := 0) (by decide) hmessage (by decide)
  | false => exact braceBalance_between (a := 0) (b := 0) (by decide) hmessage (by decide)

theorem braceBalance_openingLine (registration : Registration) :
    braceBalance registration.openingLine = 1 := by
  rw [openingLine_eq]
  cases registration.callback <;> decide

theorem braceBalance_delayLine {digits : List Char} (h : ∀ c ∈ digits, c.isDigit = true) :
    braceBalance (delayLine digits) = -1 := by
  have hnone : ∀ c, c.isDigit = false → digits.count c = 0 := fun c hc =>
    List.count_eq_zero.mpr fun hmem => Bool.false_ne_true (hc.symm.trans (h c hmem))
  have hdigits : braceBalance digits = 0 := by
    rw [braceBalance, hnone _ (by decide), hnone _ (by decide)]
    rfl
  have hline : braceBalance ("\x7d, ".toList ++ digits ++ ");".toList) = -1 + 0 :=
    braceBalance_between (by decide) hdigits (by decide)
  exact hline

theorem braceBalance_closingLine (registration : Registration) :
    braceBalance registration.closingLine = -1 := by
  cases registration with
  | timeout delay =>
    rw [closingLine_timeout]
    exact braceBalance_delayLine fun c hc => isDigit_of_mem_toString hc
  | immediate | promise | microtask | nextTick => decide

theorem bodyLength_cons_of_pos {depth : Int} {line : Line} (h : 0 < depth + braceBalance line)
    (lines : List Line) :
    bodyLength depth (line :: lines) = bodyLength (depth + braceBalance line) lines + 1 := by
  rw [bodyLength, if_neg (by omega)]

/-- **The lines of an outline close no body that is open around them.** -/
theorem bodyLength_lines (outline : Outline) {depth : Int} (h : 0 < depth) (rest : List Line) :
    bodyLength depth (outline.lines ++ rest) = outline.lines.length + bodyLength depth rest := by
  induction outline generalizing depth rest with
  | done => rw [Outline.lines, List.nil_append, List.length_nil, Nat.zero_add]
  | log message semicolon later ih =>
    have hbalance := braceBalance_logLine message semicolon
    rw [Outline.lines, List.cons_append, bodyLength_cons_of_pos (by omega), hbalance, Int.add_zero,
      ih h, List.length_cons]
    omega
  | call registration body later ihbody ihlater =>
    have hopen := braceBalance_openingLine registration
    have hclose := braceBalance_closingLine registration
    rw [Outline.lines, List.cons_append, List.append_assoc, List.cons_append,
      bodyLength_cons_of_pos (by omega), hopen, ihbody (by omega),
      bodyLength_cons_of_pos (by omega), hclose, Int.add_neg_cancel_right, ihlater h,
      List.length_cons, List.length_append, List.length_cons]
    omega

/-! ## The forest is read -/

/-- The task that a registration is read as. -/
theorem callbackTask_callback (registration : Registration) (index number : Nat)
    (delay : Option Int) (children : List Task) :
    callbackTask registration.callback index number delay children =
      { id := taskId number, kind := registration.kind, content := registration.label, delay,
        children := some children, line := some (index + 1) } := by
  cases registration <;> rfl

/-- A reading with more tasks in front. -/
def Reading.prepend (tasks : List Task) (reading : Reading) : Reading :=
  { reading with tasks := tasks ++ reading.tasks }

/-- **The recursive rule goes through a printed outline** and on with what follows it. -/
theorem readForest_lines (outline : Outline) (rest : List Line) (index count : Nat) :
    readForest (outline.lines ++ rest) index count =
      (readForest rest (index + outline.lines.length) (count + outline.size)).map
        (·.prepend (outline.tasks index count)) := by
  induction outline generalizing rest index count with
  | done =>
    change readForest rest index count = (readForest rest index count).map _
    cases readForest rest index count <;> rfl
  | log message semicolon later ih =>
    rw [Outline.lines, List.cons_append, readForest, Role.of_logLine]
    simp only [ih]
    have hnext : index + 1 + later.lines.length = index + (later.lines.length + 1) := by omega
    have hcount : count + 1 + later.size = count + (later.size + 1) := by omega
    rw [List.length_cons, Outline.size, hnext, hcount]
    cases readForest rest _ _ <;> rfl
  | call registration body later ihbody ihlater =>
    have hbody : readForest body.lines (index + 1) count = .ok
        { tasks := body.tasks (index + 1) count, next := index + 1 + body.lines.length,
          count := count + body.size } := by
      have h := ihbody [] (index + 1) count
      rw [List.append_nil, readForest] at h
      rw [h, Except.map, Reading.prepend, List.append_nil]
    have hlength : bodyLength 1 (body.lines ++ registration.closingLine :: (later.lines ++ rest)) =
        body.lines.length := by
      rw [bodyLength_lines body (by decide), bodyLength, braceBalance_closingLine]
      rfl
    have hlines : (Outline.call registration body later).lines ++ rest =
        registration.openingLine ::
          (body.lines ++ registration.closingLine :: (later.lines ++ rest)) := by
      rw [Outline.lines, List.cons_append, List.append_assoc, List.cons_append]
    have hnext : index + (Outline.call registration body later).lines.length =
        index + 1 + body.lines.length + 1 + later.lines.length := by
      rw [Outline.lines, List.length_cons, List.length_append, List.length_cons]
      omega
    have hcount : count + (Outline.call registration body later).size =
        count + body.size + 1 + later.size := by
      rw [Outline.size]
      omega
    rw [hlines, hnext, hcount, readForest, Role.of_openingLine]
    simp only [hlength, List.take_left, List.drop_left, List.head?_cons, List.tail_cons, hbody,
      delayOf_closingLine, ihlater, callbackTask_callback]
    change (Except.map _ (readForest rest _ _) >>= fun reading => _) = _
    cases readForest rest _ _ <;> rfl

/-- **Reading undoes printing**: whatever the indentation, a printed outline is read as its
forest. -/
theorem parse_print (outline : Outline) (indent : Nat → Indent) :
    parse (outline.print indent) = .ok (outline.tasks 0 0) := by
  by_cases hne : outline.lines = []
  · cases outline with
    | done =>
      have hlines : linesOf (Outline.done.print indent) = [[]] := by
        rw [linesOf, Outline.print, String.toList_ofList]
        rfl
      rw [parse, hlines, readLines_eq_resume, readForest, Role.of_nil, readForest]
      rfl
    | log message semicolon later => exact absurd hne (List.cons_ne_nil _ _)
    | call registration body later => exact absurd hne (List.cons_ne_nil _ _)
  · have hread := readForest_lines outline [] 0 0
    rw [List.append_nil, readForest] at hread
    rw [parse, linesOf_print hne, readLines_eq_resume, hread]
    change Except.ok (([] : List Task).reverse ++ (outline.tasks 0 0 ++ [])) = _
    rw [List.append_nil]
    rfl

/-- A timeout around a message that looks like code, with one blank in front of each line. -/
example : (Outline.call (.timeout ⟨250, by decide⟩)
    (.log ⟨"setTimeout(() => \x7b\x7d, 7)", by decide, by decide, by decide, by decide⟩ true .done)
    .done).print (fun _ => ⟨[' '], List.forall_mem_singleton.mpr (by decide), by decide⟩) =
      " setTimeout(() => \x7b\n console.log('setTimeout(() => \x7b\x7d, 7)');\n \x7d, 250);" := by
  decide

end LoopStepper.Script
