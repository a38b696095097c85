import LoopStepper.Proofs.Deeds
import LoopStepper.Proofs.Opening

/-!
# What a dialogue comes to

The lines that are typed at the console fall into passages: a line of blanks, a command, or a script
that is entered, which takes a line that asks to edit, the lines of the script and one that holds a
dot. Behind them the dialogue closes: the lines are used up, or one says to leave and those behind
it are not read, or they are used up while a script is entered. Passages carry the proofs that
their lines are such lines, so `Conversation` is all that can be typed (`exists_conversation`).

Each passage does to the bench what `Passage.next` says: a command is handled once, and what comes
of it only makes a difference to the reply; a script is what the session is reset to. The console is
at its prompt again behind a passage, whatever has come of it (`foldlM_passage`), and so a dialogue
is these actions, one after the other.

Headline:
* **`run_folds`**: what the console does with any lines, and that the subscriptions are the same
  before and after it.
-/

namespace LoopStepper

namespace Bench

/-- A bench on which more is said, in this order. -/
def tell (bench : Bench) (utterances : List Utterance) : Bench :=
  { bench with said := utterances.reverse ++ bench.said }

theorem tell_tell (bench : Bench) (utterances later : List Utterance) :
    (bench.tell utterances).tell later = bench.tell (utterances ++ later) := by
  simp [tell]

end Bench

namespace Console

open Text Bench

/-! ## Passages -/

/-- A line that says to leave, in any case. -/
def IsExit (line : String) : Prop :=
  lowerString (stripped line) ∈ exitWords

/-- A line that asks to enter a script, in any case. -/
def IsEdit (line : String) : Prop :=
  lowerString (stripped line) = "/edit"

/-- A line that ends a script. -/
def IsDot (line : String) : Prop :=
  stripped line = "."

instance (line : String) : Decidable (IsExit line) :=
  inferInstanceAs (Decidable (_ ∈ exitWords))

instance (line : String) : Decidable (IsEdit line) :=
  inferInstanceAs (Decidable (_ = _))

instance (line : String) : Decidable (IsDot line) :=
  inferInstanceAs (Decidable (_ = _))

/-- Lines that the console takes together, from one prompt for a command to the next. -/
inductive Passage where
  | blank (line : String) (hblank : stripped line = "")
  | command (line : String) (hfilled : stripped line ≠ "") (hexit : ¬ IsExit line)
      (hedit : ¬ IsEdit line)
  /-- A script that is entered, between the line that asks for it and a dot. -/
  | script (opening : String) (lines : List String) (dot : String) (hopening : IsEdit opening)
      (hlines : ∀ line ∈ lines, ¬ IsDot line) (hdot : IsDot dot)

/-- How a dialogue ends. -/
inductive Closing where
  /-- There are no more lines. -/
  | exhausted
  /-- A line says to leave, and the lines behind it are not read. -/
  | left (line : String) (unread : List String) (hexit : IsExit line)
  /-- There are no more lines, but a script is not finished. -/
  | cut (opening : String) (lines : List String) (hopening : IsEdit opening)
      (hlines : ∀ line ∈ lines, ¬ IsDot line)

/-- All that is typed at the console. -/
structure Conversation where
  passages : List Passage
  closing : Closing

/-- The lines of a passage. -/
def Passage.lines : Passage → List String
  | .blank line _ => [line]
  | .command line _ _ _ => [line]
  | .script opening lines dot _ _ _ => opening :: lines ++ [dot]

/-- The lines behind the passages. -/
def Closing.lines : Closing → List String
  | .exhausted => []
  | .left line unread _ => line :: unread
  | .cut opening lines _ _ => opening :: lines

/-- The lines of a conversation. -/
def Conversation.lines (conversation : Conversation) : List String :=
  conversation.passages.flatMap Passage.lines ++ conversation.closing.lines

/-- A script ends at the first dot, if there is one. -/
theorem exists_dot (lines : List String) :
    (∃ entry dot later, lines = entry ++ dot :: later ∧ (∀ line ∈ entry, ¬ IsDot line) ∧
      IsDot dot) ∨ ∀ line ∈ lines, ¬ IsDot line := by
  induction lines with
  | nil => exact .inr (List.forall_mem_nil _)
  | cons line lines ih =>
    by_cases hdot : IsDot line
    · exact .inl ⟨[], line, lines, rfl, List.forall_mem_nil _, hdot⟩
    · rcases ih with ⟨entry, dot, later, rfl, hentry, hend⟩ | hnone
      · exact .inl ⟨line :: entry, dot, later, rfl, List.forall_mem_cons.mpr ⟨hdot, hentry⟩, hend⟩
      · exact .inr (List.forall_mem_cons.mpr ⟨hdot, hnone⟩)

/-- **Any lines are a conversation.** -/
theorem exists_conversation (lines : List String) :
    ∃ conversation : Conversation, conversation.lines = lines := by
  -- by the number of lines: a script takes several
  induction hlength : lines.length using Nat.strongRecOn generalizing lines with | ind n ih =>
  have hmore (passage : Passage) {later : List String} (hlater : later.length < n) :
      ∃ conversation : Conversation, conversation.lines = passage.lines ++ later := by
    obtain ⟨⟨passages, closing⟩, rfl⟩ := ih _ hlater later rfl
    exact ⟨⟨passage :: passages, closing⟩, by simp [Conversation.lines]⟩
  cases lines with
  | nil => exact ⟨⟨[], .exhausted⟩, rfl⟩
  | cons line lines =>
    rw [List.length_cons] at hlength
    by_cases hblank : stripped line = ""
    · exact hmore (.blank line hblank) (by omega)
    by_cases hexit : IsExit line
    · exact ⟨⟨[], .left line lines hexit⟩, rfl⟩
    by_cases hedit : IsEdit line
    · rcases exists_dot lines with ⟨entry, dot, later, rfl, hentry, hdot⟩ | hnone
      · rw [List.length_append, List.length_cons] at hlength
        have hlater : later.length < n := by omega
        have hlines := hmore (.script line entry dot hedit hentry hdot) hlater
        rwa [Passage.lines, List.append_assoc, List.singleton_append, List.cons_append] at hlines
      · exact ⟨⟨[], .cut line lines hedit hnone⟩, rfl⟩
    · exact hmore (.command line hblank hexit hedit) (by omega)

/-! ## What passages do -/

/-- The reply to a command line. One that fails has a reply of its own. -/
def replyOf : EStateM.Result SessionError Bench (Option String) → String
  | .ok (some reply) _ => reply
  | .ok none _ => "Not a command. Use /help to list commands or /edit to enter a script."
  | .error _ _ => "Internal error while handling a command."

/-- What is said of a script that was entered. -/
def loadedOf (source : String) : EStateM.Result SessionError Bench Unit → String
  | .ok () _ => "Script loaded.\n" ++ Report.listing source none
  | .error _ _ => "Internal error while loading the script."

/-- What is said while a script is entered, up to the prompt that finds its end. -/
def editing (lines : List String) : List Utterance :=
  [.prompt ">>> ", .line "Enter the script. Finish with a line containing only '.'"] ++
    List.replicate lines.length (.prompt "... ") ++ [.prompt "... "]

/-- What a passage does. -/
def Passage.next (bench : Bench) : Passage → Bench
  | .blank _ _ => bench.tell [.prompt ">>> "]
  | .command line _ _ _ =>
    let handle := Command.handle (stripped line) true
    let asked := bench.tell [.prompt ">>> "]
    (after handle asked).tell [.line (replyOf (handle asked))]
  | .script _ lines _ _ _ _ =>
    let source := "\n".intercalate lines
    let reset := Bench.reset (some source) false
    let asked := bench.tell (editing lines)
    (after reset asked).tell [.line (loadedOf source (reset asked))]

/-- What the end of a dialogue does: something is said, and that is all. -/
def Closing.next (bench : Bench) : Closing → Bench
  | .exhausted | .left _ _ _ => bench.tell [.prompt ">>> "]
  | .cut _ lines _ _ =>
    bench.tell (editing lines ++ [.newline, .line "Edit cancelled.", .prompt ">>> "])

/-! ## The dialogue -/

variable {bench middle : Bench} {dialogue next : Dialogue} {input : Input} {inputs : List Input}

/-- One exchange, and the others behind it. -/
theorem foldlM_exchange (h : exchange dialogue input bench = .ok next middle) :
    (input :: inputs).foldlM exchange dialogue bench = inputs.foldlM exchange next middle := by
  rw [List.foldlM_cons]
  simp only [bind, EStateM.bind, h]

theorem exchange_commanding (input : Input) (bench : Bench) :
    exchange .commanding input bench = react .commanding input (bench.tell [.prompt ">>> "]) := rfl

theorem exchange_editing (collected : List String) (input : Input) (bench : Bench) :
    exchange (.editing collected) input bench =
      react (.editing collected) input (bench.tell [.prompt "... "]) := rfl

theorem obey_blank {line : String} (hblank : line = "") (bench : Bench) :
    obey line bench = .ok .commanding bench := by
  subst hblank
  rfl

/-- A line is filled if its lower case is. -/
theorem isEmpty_of_lowerString {line : String} (h : lowerString line ≠ "") :
    ¬ line.isEmpty = true := by
  intro hempty
  obtain rfl := String.isEmpty_iff.mp hempty
  exact h rfl

theorem obey_exit {line : String} (hexit : lowerString line ∈ exitWords) (bench : Bench) :
    obey line bench = .ok .closed bench := by
  have hfilled : lowerString line ≠ "" := by
    intro hempty
    rw [hempty] at hexit
    exact absurd hexit (by decide)
  unfold obey
  rw [if_neg (isEmpty_of_lowerString hfilled), if_pos (List.contains_iff_mem.mpr hexit)]
  rfl

theorem obey_edit {line : String} (hedit : lowerString line = "/edit") (bench : Bench) :
    obey line bench = .ok (.editing [])
      (bench.tell [.line "Enter the script. Finish with a line containing only '.'"]) := by
  have hfilled : lowerString line ≠ "" := by
    rw [hedit]
    decide
  have hexit : ¬ exitWords.contains (lowerString line) = true := by
    rw [hedit]
    decide
  unfold obey
  rw [if_neg (isEmpty_of_lowerString hfilled), if_neg hexit, if_pos hedit]
  rfl

theorem obey_command {line : String} (hfilled : line ≠ "") (hexit : lowerString line ∉ exitWords)
    (hedit : lowerString line ≠ "/edit") (bench : Bench) :
    obey line bench = .ok .commanding ((after (Command.handle line true) bench).tell
      [.line (replyOf (Command.handle line true bench))]) := by
  unfold obey
  rw [if_neg (mt String.isEmpty_iff.mp hfilled), if_neg (mt List.contains_iff_mem.mp hexit),
    if_neg hedit]
  simp only [bind, EStateM.bind, command, after]
  cases Command.handle line true bench with
  | ok reply middle => cases reply <;> rfl
  | error error middle => rfl

/-- A line of a script. -/
theorem react_line {line : String} (hline : ¬ IsDot line) (collected : List String)
    (bench : Bench) :
    react (.editing collected) (.line line) bench = .ok (.editing (line :: collected)) bench := by
  have hmore : ¬ stripped line = "." := hline
  simp only [react, if_neg hmore]
  rfl

/-- A script that is entered is what the session is reset to. -/
theorem accept_eq (source : String) (bench : Bench) :
    accept source bench = .ok () ((after (Bench.reset (some source) false) bench).tell
      [.line (loadedOf source (Bench.reset (some source) false bench))]) := by
  unfold accept
  simp only [bind, EStateM.bind, attempt, after]
  cases Bench.reset (some source) false bench <;> rfl

theorem react_dot {dot : String} (hdot : IsDot dot) (collected : List String) (bench : Bench) :
    react (.editing collected) (.line dot) bench =
      let source := "\n".intercalate collected.reverse
      .ok .commanding ((after (Bench.reset (some source) false) bench).tell
        [.line (loadedOf source (Bench.reset (some source) false bench))]) := by
  have hend : stripped dot = "." := hdot
  simp only [react, if_pos hend, bind, EStateM.bind, accept_eq]
  rfl

/-- Lines of a script, none of which ends it. -/
theorem foldlM_lines {lines : List String} (hlines : ∀ line ∈ lines, ¬ IsDot line)
    (collected : List String) (bench : Bench) :
    (lines.map Input.line ++ inputs).foldlM exchange (.editing collected) bench =
      inputs.foldlM exchange (.editing (lines.reverse ++ collected))
        (bench.tell (List.replicate lines.length (.prompt "... "))) := by
  induction lines generalizing collected bench with
  | nil => rfl
  | cons line lines ih =>
    obtain ⟨hline, hlater⟩ := List.forall_mem_cons.mp hlines
    have hfirst := (exchange_editing collected (.line line) bench).trans
      (react_line hline collected _)
    rw [List.map_cons, List.cons_append, foldlM_exchange hfirst, ih hlater, tell_tell]
    simp [List.replicate_succ]

/-- The line that asks to enter a script, the lines of the script, and the prompt behind them. -/
theorem foldlM_editing {opening : String} {lines : List String} (hopening : IsEdit opening)
    (hlines : ∀ line ∈ lines, ¬ IsDot line) (input : Input) (bench : Bench) :
    (Input.line opening :: (lines.map Input.line ++ input :: inputs)).foldlM exchange .commanding
        bench =
      (react (.editing lines.reverse) input >>= fun dialogue => inputs.foldlM exchange dialogue)
        (bench.tell (editing lines)) := by
  have hopen := (exchange_commanding (.line opening) bench).trans (obey_edit hopening _)
  rw [foldlM_exchange hopen, foldlM_lines hlines, List.append_nil, List.foldlM_cons]
  change (react (.editing lines.reverse) input >>= fun dialogue => inputs.foldlM exchange dialogue)
    (Bench.tell _ [.prompt "... "]) = _
  simp only [tell_tell]
  rfl

/-- **Behind a passage the console is at its prompt again**, whatever has come of it. -/
theorem foldlM_passage (passage : Passage) (bench : Bench) :
    (passage.lines.map Input.line ++ inputs).foldlM exchange .commanding bench =
      inputs.foldlM exchange .commanding (passage.next bench) := by
  cases passage with
  | blank line hblank =>
    exact foldlM_exchange ((exchange_commanding (.line line) bench).trans (obey_blank hblank _))
  | command line hfilled hexit hedit =>
    exact foldlM_exchange
      ((exchange_commanding (.line line) bench).trans (obey_command hfilled hexit hedit _))
  | script opening lines dot hopening hlines hdot =>
    have hlines : (Passage.script opening lines dot hopening hlines hdot).lines.map Input.line ++
        inputs = .line opening :: (lines.map Input.line ++ .line dot :: inputs) := by
      simp [Passage.lines]
    rw [hlines, foldlM_editing hopening (by assumption)]
    simp only [bind, EStateM.bind, react_dot hdot, List.reverse_reverse]
    rfl

/-- **A dialogue that is closed says nothing any more.** -/
theorem foldlM_closed (inputs : List Input) (bench : Bench) :
    inputs.foldlM exchange .closed bench = .ok .closed bench := by
  induction inputs with
  | nil => rfl
  | cons input inputs ih => exact (foldlM_exchange rfl).trans ih

/-- The input ends behind the lines that close a dialogue, for a script that is being entered and
for the prompt. -/
theorem foldlM_closing (closing : Closing) (bench : Bench) :
    (closing.lines.map Input.line ++ [Input.endOfInput, Input.endOfInput]).foldlM exchange
      .commanding bench = .ok .closed (closing.next bench) := by
  cases closing with
  | exhausted => rfl
  | left line unread hexit =>
    have hleave := (exchange_commanding (.line line) bench).trans (obey_exit hexit _)
    exact (foldlM_exchange hleave).trans (foldlM_closed _ _)
  | cut opening lines hopening hlines =>
    refine (foldlM_editing hopening hlines .endOfInput bench).trans ?_
    have hcancel : react (.editing lines.reverse) .endOfInput (bench.tell (editing lines)) =
        .ok .commanding (bench.tell (editing lines ++ [.newline, .line "Edit cancelled."])) := by
      rw [← tell_tell]
      rfl
    have hleave : exchange .commanding .endOfInput
        (bench.tell (editing lines ++ [.newline, .line "Edit cancelled."])) =
          .ok .closed ((bench.tell (editing lines ++ [.newline, .line "Edit cancelled."])).tell
            [.prompt ">>> "]) := rfl
    simp only [bind, EStateM.bind, hcancel]
    rw [foldlM_exchange hleave, tell_tell, List.append_assoc]
    rfl

/-! ## Whole dialogues -/

/-- A bench whose console has opened: it has greeted, and the echo listens. -/
def opened (bench : Bench) : Bench :=
  let simulator := bench.session.simulator.subscribe Echo.subscription
  { bench.tell [.line greeting] with session := { bench.session with simulator } }

/-- A bench whose console has closed: the echo listens no more. -/
def shut (bench : Bench) : Bench :=
  let simulator := bench.session.simulator.unsubscribe Echo.subscription
  { bench with session := { bench.session with simulator } }

/-- What a conversation does: its passages one after the other, and its end. -/
def Conversation.outcome (conversation : Conversation) (bench : Bench) : Bench :=
  shut (conversation.closing.next (conversation.passages.foldl Passage.next (opened bench)))

theorem foldlM_passages (passages : List Passage) (bench : Bench) :
    ((passages.flatMap Passage.lines).map Input.line ++ inputs).foldlM exchange .commanding bench =
      inputs.foldlM exchange .commanding (passages.foldl Passage.next bench) := by
  induction passages generalizing bench with
  | nil => rfl
  | cons passage passages ih =>
    rw [List.flatMap_cons, List.map_append, List.append_assoc, foldlM_passage, ih,
      List.foldl_cons]

/-- **The console does with lines what their conversation does.** -/
theorem run_conversation (conversation : Conversation) (bench : Bench) :
    run (conversation.lines.map .line) bench = .ok () (conversation.outcome bench) := by
  have hdialogue : (conversation.lines.map Input.line ++
      [Input.endOfInput, Input.endOfInput]).foldlM exchange .commanding (opened bench) =
        .ok .closed (conversation.closing.next
          (conversation.passages.foldl Passage.next (opened bench))) := by
    rw [Conversation.lines, List.map_append, List.append_assoc, foldlM_passages, foldlM_closing]
  have hbegin : begin bench = .ok .commanding (opened bench) := rfl
  simp only [run, bind, EStateM.bind, hbegin, hdialogue]
  rfl

/-! ## Subscriptions -/

end Console

namespace Simulator

variable {sim after : Simulator} {request : Request} {reply : Reply} {change : Option Change}
  {outcome : Outcome Reply}

/-- Ordinary requests leave the subscriptions alone, whether they are answered or fail. -/
theorem Effect.subscribers_of_ordinary (effect : Effect sim request reply change after)
    (h : request.isOrdinary = true) : after.subscribers = sim.subscribers := by
  cases effect with
  | subscribe | unsubscribe | failNext => cases h
  | step | tick | reset | play | pause | replay | pausing | playing | setSpeed | autoplay
    | dropped => rfl

theorem Called.subscribers_of_ordinary (hcalled : Called sim request outcome)
    (h : request.isOrdinary = true) : outcome.simulator.subscribers = sim.subscribers := by
  cases hcalled with
  | quiet effect | told effect | untold effect => exact effect.subscribers_of_ordinary h
  | injected | unread | unreplayed | sizeless | speedless => rfl

end Simulator

namespace Bench

/-- Who subscribes at a bench. -/
def subscribers (bench : Bench) : List String :=
  bench.session.simulator.subscribers

@[simp] theorem subscribers_tell (bench : Bench) (utterances : List Utterance) :
    (bench.tell utterances).subscribers = bench.subscribers := rfl

theorem subscribers_perform (bench : Bench) {deed : Deed} (husual : deed.Usual) :
    (bench.perform deed).subscribers = bench.subscribers := by
  cases deed with
  | say | save | choose | enable => rfl
  | ask request =>
    rw [perform, after_operate]
    exact (Simulator.called _ request).subscribers_of_ordinary husual.1
  | look =>
    rw [perform, after_operate]
    change bench.session.simulator.view.simulator.subscribers = _
    unfold Simulator.view Simulator.guarded
    split <;> rfl
  | restart source autoplay =>
    rw [perform, after_reset, subscribers, Session.reset_simulator]
    exact (Simulator.called bench.session.simulator
      (.reset source autoplay)).subscribers_of_ordinary rfl
  | move source target =>
    unfold perform
    dsimp only
    split <;> rfl

/-- **What is put together from usual deeds leaves the subscriptions alone.** -/
theorem Composed.subscribers {α : Type} {act : Act α} (h : Composed act) (bench : Bench) :
    (after act bench).subscribers = bench.subscribers := by
  obtain ⟨deeds, husual, hdeeds⟩ := h bench
  rw [hdeeds]
  refine performAll_invariant (motive := fun later => later.subscribers = bench.subscribers)
    Deed.Usual (fun later deed hdeed hsame => ?_) rfl husual
  rw [subscribers_perform later hdeed, hsame]

end Bench

namespace Console

open Bench

theorem subscribers_next (bench : Bench) (passage : Passage) :
    (passage.next bench).subscribers = bench.subscribers := by
  cases passage with
  | blank => rfl
  | command line =>
    rw [Passage.next, subscribers_tell, (Command.composed_handle (stripped line) true).subscribers,
      subscribers_tell]
  | script _ lines =>
    rw [Passage.next, subscribers_tell, (composed_reset _ false).subscribers, subscribers_tell]

theorem subscribers_foldl_next (bench : Bench) (passages : List Passage) :
    (passages.foldl Passage.next bench).subscribers = bench.subscribers := by
  induction passages generalizing bench with
  | nil => rfl
  | cons passage passages ih => rw [List.foldl_cons, ih, subscribers_next]

/-- The end of a dialogue leaves the session as it is. -/
theorem session_closing (closing : Closing) (bench : Bench) :
    (closing.next bench).session = bench.session := by
  cases closing <;> rfl

/-- **The console is a fold over the lines that are typed.** Any lines are a conversation: passages
and a closing. Whatever the bench, the console does what this conversation does, and does not fail:
it opens, takes the passages one after the other, each of which is a blank line, a command that is
handled once, or a script that the session is reset to, and shuts. A conversation that closes inside
a script leaves the session as the passages left it. If the echo was not listening before, the
subscriptions are the same after it. -/
theorem run_folds (lines : List String) (bench : Bench) :
    (∃ conversation : Conversation, conversation.lines = lines) ∧
    ∀ conversation : Conversation, conversation.lines = lines →
      let reached := conversation.passages.foldl Passage.next (opened bench)
      let closed := conversation.closing.next reached
      run (lines.map .line) bench = .ok () (shut closed) ∧ closed.session = reached.session ∧
      (Echo.subscription ∉ bench.subscribers → (shut closed).subscribers = bench.subscribers) := by
  refine ⟨exists_conversation lines, ?_⟩
  rintro conversation rfl reached closed
  have hsession : closed.session = reached.session := session_closing _ _
  refine ⟨run_conversation conversation bench, hsession, fun hnew => ?_⟩
  have hreached : reached.subscribers = bench.subscribers ++ [Echo.subscription] :=
    subscribers_foldl_next _ _
  have hclosed : closed.subscribers = bench.subscribers ++ [Echo.subscription] := by
    rw [subscribers, hsession]
    exact hreached
  change closed.subscribers.erase Echo.subscription = bench.subscribers
  rw [hclosed, List.erase_append_right _ hnew, List.erase_cons_head, List.append_nil]

/-- Lines that leave behind a script, in which the same word is no more than a line. -/
def typed : List String :=
  ["/Step 2", " ", " /EDIT", "console.log('B');", "/quit", " . ", "hello", " /Exit ", "/reset"]

/-- What they are. -/
def typing : Conversation where
  passages := [
    .command "/Step 2" (by decide) (by decide) (by decide),
    .blank " " (by decide),
    .script " /EDIT" ["console.log('B');", "/quit"] " . " (by decide) (by decide) (by decide),
    .command "hello" (by decide) (by decide) (by decide)]
  closing := .left " /Exit " ["/reset"] (by decide)

theorem run_folds_typed :
    let bench : Bench := { session := Session.printerSession }
    typing.lines = typed ∧ Echo.subscription ∉ bench.subscribers ∧
    ∃ after, run (typed.map .line) bench = .ok () after ∧ after.subscribers = [] ∧
      after.session.simulator.source = "console.log('B');\n/quit" ∧
      after.session.simulator.generation = 2 := by
  intro bench
  have hlines : typing.lines = typed := rfl
  have hnew : Echo.subscription ∉ bench.subscribers := List.not_mem_nil
  obtain ⟨hrun, -, hsubscribers⟩ := (run_folds typed bench).2 typing hlines
  exact ⟨hlines, hnew, _, hrun, hsubscribers hnew, by decide +kernel, by decide +kernel⟩

end Console

end LoopStepper
