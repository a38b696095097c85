import LoopStepper.Proofs.Conservation
import LoopStepper.Proofs.Deeds
import LoopStepper.Proofs.Opening

/-!
# The prediction game can be won

A game is dealt from the messages of the script, and a shuffle only changes their order
(`shuffle_perm`), as does a move (`move?_perm`). A new script comes with a new game, and a script
that cannot be read with neither. So the items of a guess are those of the script at every moment
of a session; `Session.Tied` is the invariant, with what it needs of the simulator in `Tracks`.

A run of the script prints each of its messages once (`output_perm_of_finished`), and moves reach
every order of the items (`exists_moves`): the item that belongs to the first place is moved there,
then the one that belongs to the second, and so on.

Headline:
* **`winnable`**: whatever was done in a session, the items are those of its script, and when the
  run is finished some moves make the guess correct.
-/

namespace LoopStepper

/-! ## Shuffles -/

namespace Shuffler

variable {α : Type}

theorem exchange_perm (items : Array α) (i j : Nat) : (exchange items i j).Perm items := by
  unfold exchange Array.swapIfInBounds
  split
  · split
    · exact Array.swap_perm _ _
    · exact .refl _
  · exact .refl _

theorem exchangeAll_perm (items : Array α) (twister : Twister) (last : Nat) :
    (exchangeAll items twister last).1.Perm items := by
  induction last generalizing items twister with
  | zero => exact .refl _
  | succ last ih =>
    exact (ih _ _).trans (exchange_perm items _ _)

/-- **A shuffle changes nothing but the order.** -/
theorem shuffle_perm (items : List α) (shuffler : Shuffler) :
    (shuffler.shuffle items).1.Perm items := by
  cases shuffler with
  | still => exact .refl _
  | seeded twister => exact (exchangeAll_perm items.toArray twister _).toList

end Shuffler

/-! ## Moves -/

namespace Prediction

/-- The items of a new game are the messages of the script. -/
theorem deal_perm (program : List Task) (shuffler : Shuffler) :
    (deal program shuffler).1.items.Perm (gatherMessages program) :=
  shuffler.shuffle_perm _

/-- A move keeps the items. -/
theorem move?_perm {game moved : Prediction} {source target : Int}
    (h : game.move? source target = some moved) : moved.items.Perm game.items := by
  unfold move? at h
  dsimp only at h
  split at h
  · next hin =>
    split at h
    · next item hitem =>
      obtain rfl := Option.some.inj h
      obtain ⟨hlt, rfl⟩ := List.getElem?_eq_some_iff.mp hitem
      refine (List.perm_insertIdx _ _ ?_).trans (List.getElem_cons_eraseIdx_perm hlt)
      rw [List.length_eraseIdx_of_lt hlt]
      omega
    · cases h
  · cases h

/-- The guess after moves from places to places, if there is each of them in its turn. -/
def moveAll (game : Prediction) (moves : List (Int × Int)) : Option Prediction :=
  moves.foldlM (fun game move => game.move? move.1 move.2) game

/-- An item is moved forwards, to the end of what is in its place already. -/
theorem move?_forward (placed front back : List String) (item : String) :
    move? ⟨placed ++ (front ++ item :: back)⟩ ↑(placed.length + front.length) ↑placed.length =
      some ⟨placed ++ item :: (front ++ back)⟩ := by
  have hin : (0 : Int) ≤ ↑(placed.length + front.length) ∧
      (↑(placed.length + front.length) : Int) < ↑(placed ++ (front ++ item :: back)).length ∧
      (0 : Int) ≤ ↑placed.length ∧
      (↑placed.length : Int) < ↑(placed ++ (front ++ item :: back)).length := by
    simp only [List.length_append, List.length_cons]
    omega
  have hitem : (placed ++ (front ++ item :: back))[placed.length + front.length]? = some item := by
    rw [← List.append_assoc, ← List.length_append, List.getElem?_append_right le_rfl, Nat.sub_self]
    rfl
  have herase : (placed ++ (front ++ item :: back)).eraseIdx (placed.length + front.length) =
      placed ++ (front ++ back) := by
    rw [← List.append_assoc, ← List.length_append, List.eraseIdx_append_of_length_le le_rfl,
      Nat.sub_self, List.eraseIdx_cons_zero, List.append_assoc]
  have hinsert : (placed ++ (front ++ back)).insertIdx placed.length item =
      placed ++ item :: (front ++ back) :=
    List.modifyTailIdx_add (List.cons item) 0 placed (front ++ back)
  unfold move?
  dsimp only
  rw [if_pos hin, Int.toNat_natCast, Int.toNat_natCast, hitem, herase]
  exact congrArg (fun items => some (Prediction.mk items)) hinsert

/-- **Moves reach every order of the items**, where what is placed already stays. -/
theorem exists_moves (placed : List String) {items target : List String}
    (h : items.Perm target) :
    ∃ moves, moveAll ⟨placed ++ items⟩ moves = some ⟨placed ++ target⟩ := by
  induction target generalizing placed items with
  | nil =>
    obtain rfl := h.eq_nil
    exact ⟨[], rfl⟩
  | cons item target ih =>
    obtain ⟨front, back, rfl⟩ := List.append_of_mem (h.symm.subset List.mem_cons_self)
    have hrest : (front ++ back).Perm target := (List.perm_middle.symm.trans h).cons_inv
    obtain ⟨moves, hmoves⟩ := ih (placed ++ [item]) hrest
    refine ⟨(↑(placed.length + front.length), ↑placed.length) :: moves, ?_⟩
    rw [moveAll, List.foldlM_cons, move?_forward]
    rw [List.append_assoc, List.append_assoc] at hmoves
    exact hmoves

/-! ## Verdicts -/

/-- A guess of the right length is the output if it has the right message in each place. -/
theorem marksOf_all {items output : List String} (h : items.length = output.length) :
    (∀ mark ∈ marksOf items output, mark = true) ↔ items = output := by
  induction items generalizing output with
  | nil =>
    obtain rfl := List.length_eq_zero_iff.mp h.symm
    simp [marksOf]
  | cons item items ih =>
    cases output with
    | nil => cases h
    | cons text output =>
      rw [marksOf, List.forall_mem_cons, ih (Nat.succ.inj h), beq_iff_eq, List.cons.injEq]

/-- **A guess of the right length is correct exactly if every mark is true.** -/
theorem correct_iff_marks (game : Prediction) {output : List String}
    (h : game.items.length = output.length) :
    (game.verdict output).correct = true ↔ ∀ mark ∈ (game.verdict output).marks, mark = true := by
  rw [verdict, marksOf_all h]
  exact beq_iff_eq

end Prediction

/-! ## Runs -/

/-- **A finished run has printed the messages of its script**, each of them as often. -/
theorem EventLoop.output_perm_of_finished {source : String} {program : List Task}
    (h : Script.parse source = .ok program) {events : List Event}
    (hfin : ((EventLoop.start program).replay events).finished = true) :
    ((EventLoop.start program).replay events).output.Perm (gatherMessages program) := by
  have hsettled := EventLoop.replay_settled program events hfin
  have hran := (EventLoop.replay_ahead_perm (EventLoop.leafy_of_parse h) events).flatMap_right
    Task.ownMessage
  rw [List.flatMap_append, ← EventLoop.replay_output, ← EventLoop.messagesAhead_eq,
    hsettled.messagesAhead, List.append_nil] at hran
  rwa [gatherMessages_eq]

namespace Request

/-- A request that starts nothing over but what a toggle starts over, and leaves announcing
alone. -/
def isFair : Request → Bool
  | .reset _ _ | .failNext .announce => false
  | _ => true

theorem isFair_of_isOrdinary {request : Request} (hordinary : request.isOrdinary = true)
    (hreset : request.isReset = false) : request.isFair = true := by
  cases request with
  | reset => cases hreset
  | failNext => cases hordinary
  | step | tick | play | pause | toggle | setSpeed | autoplayStep | subscribe | unsubscribe => rfl

end Request

namespace Simulator

/-- A simulator runs a script that was read, and it is this one that it would read again. -/
structure Tracks (sim : Simulator) : Prop where
  ran : ∃ text events, Script.parse text = .ok sim.program ∧
    sim.loop = (EventLoop.start sim.program).replay events
  /-- The source may be a text that cannot be read. -/
  reread : ∀ program, Script.parse sim.source = .ok program → program = sim.program
  /-- Nothing is started over without an answer. -/
  told : .announce ∉ sim.faults

variable {sim after : Simulator} {request : Request} {reply : Reply} {change : Option Change}

namespace Tracks

/-- A simulator that just started with a text that was read. -/
theorem created {source : String} {program : List Task} {tickMs intervalMs : Int}
    {autoplay : Bool} (hread : Script.parse source = .ok program) :
    ((Simulator.created source program tickMs intervalMs).restarted source program
      autoplay).Tracks where
  ran := ⟨source, [], hread, rfl⟩
  reread _ hagain := Except.ok.inj (hagain.symm.trans hread)
  told := List.not_mem_nil

/-- One more event of the run. -/
theorem event (h : sim.Tracks) (event : Event) (running : Bool) :
    Tracks { sim with loop := sim.loop.apply event, running } where
  ran := by
    obtain ⟨text, events, hread, hloop⟩ := h.ran
    refine ⟨text, events ++ [event], hread, ?_⟩
    change sim.loop.apply event = (events ++ [event]).foldl EventLoop.apply _
    rw [List.foldl_append, hloop]
    rfl
  reread := h.reread
  told := h.told

/-- A fresh start. -/
theorem restarted (h : sim.Tracks) {source : String} {program : List Task} {autoplay : Bool}
    (hread : Script.parse source = .ok program) :
    (sim.restarted source program autoplay).Tracks where
  ran := ⟨source, [], hread, rfl⟩
  reread _ hagain := Except.ok.inj (hagain.symm.trans hread)
  told := h.told

/-- What a fair request does; a replay is one of the same program. -/
theorem effect (h : sim.Tracks) (effect : Effect sim request reply change after)
    (hfair : request.isFair = true) : after.Tracks ∧ after.program = sim.program := by
  cases effect with
  | step | autoplay => exact ⟨h.event .step _, rfl⟩
  | tick => exact ⟨h.event (.tick _) _, rfl⟩
  | reset => cases hfair
  | replay hfin hread => exact ⟨h.restarted hread, h.reread _ hread⟩
  | @failNext operation =>
    refine ⟨{ h with told := fun hmem => ?_ }, rfl⟩
    rcases List.mem_insert_iff.mp hmem with rfl | hmem
    · cases hfair
    · exact h.told hmem
  | pausing | playing | play | pause | setSpeed | dropped | subscribe | unsubscribe =>
    exact ⟨{ h with }, rfl⟩

/-- A fair request, whether it is answered or fails. -/
theorem answer (h : sim.Tracks) (hfair : request.isFair = true) :
    (sim.answer request).simulator.Tracks ∧
      (sim.answer request).simulator.program = sim.program := by
  have hcalled : Called sim request (sim.answer request) := called sim request
  generalize sim.answer request = outcome at hcalled ⊢
  cases hcalled with
  | quiet effect | told effect => exact h.effect effect hfair
  | untold _ hmuted => exact absurd hmuted h.told
  | injected =>
    exact ⟨{ h with told := fun hmem => h.told (List.mem_of_mem_erase hmem) }, rfl⟩
  | unread => cases hfair
  | unreplayed | sizeless | speedless => exact ⟨h, rfl⟩

/-- A reset that fails keeps the program that it found. -/
theorem reset (h : sim.Tracks) (source : Option String) (autoplay : Bool) :
    (sim.reset source autoplay).simulator.Tracks ∧
      ((sim.reset source autoplay).result = .ok () ∨
        (sim.reset source autoplay).simulator.program = sim.program) := by
  by_cases hfault : .reset ∈ sim.faults
  · rw [Simulator.reset, guarded, if_pos hfault]
    exact ⟨{ h with told := fun hmem => h.told (List.mem_of_mem_erase hmem) }, .inr rfl⟩
  · cases hread : Script.parse (source.getD sim.source) with
    | error error =>
      rw [sim.reset_of_unread source autoplay hfault hread]
      refine ⟨{ h with reread := fun program hagain => ?_ }, .inr rfl⟩
      cases hread.symm.trans hagain
    | ok program =>
      have htold : .announce ∉ (sim.restarted (source.getD sim.source) program autoplay).faults :=
        h.told
      rw [sim.reset_of_read source autoplay hfault hread, announce, guarded, if_neg htold]
      exact ⟨h.restarted hread, .inl rfl⟩

theorem view (h : sim.Tracks) :
    sim.view.simulator.Tracks ∧ sim.view.simulator.program = sim.program := by
  unfold Simulator.view guarded
  split
  · exact ⟨{ h with told := fun hmem => h.told (List.mem_of_mem_erase hmem) }, rfl⟩
  · exact ⟨h, rfl⟩

end Tracks

end Simulator

/-! ## Sessions -/

namespace Session

/-- The guess is one at the messages of the script that runs. -/
structure Tied (session : Session) : Prop where
  tracks : session.simulator.Tracks
  items : session.prediction.items.Perm (gatherMessages session.simulator.program)

theorem tied_deal {session : Session} (h : session.simulator.Tracks) : session.deal.Tied :=
  ⟨h, Prediction.deal_perm _ _⟩

namespace Tied

variable {session : Session}

/-- The same program goes on, and the game with it. -/
theorem keep (h : session.Tied) {sim : Simulator}
    (hsim : sim.Tracks ∧ sim.program = session.simulator.program) :
    Tied { session with simulator := sim } :=
  ⟨hsim.1, hsim.2 ▸ h.items⟩

/-- A fresh start comes with a new game, unless it fails. -/
theorem reset (h : session.Tied) (source : Option String) (autoplay : Bool) :
    (session.reset source autoplay).2.1.Tied := by
  obtain ⟨htracks, hprogram⟩ := h.tracks.reset source autoplay
  unfold Session.reset
  dsimp only
  split
  · next failure hfailed =>
    refine h.keep ⟨htracks, ?_⟩
    rcases hprogram with hok | hprogram
    · cases hok.symm.trans hfailed
    · exact hprogram
  · exact tied_deal htracks

/-- A deed that is no unfair request. -/
theorem perform {bench : Bench} (h : bench.session.Tied) (deed : Deed)
    (hfair : ∀ request, deed = .ask request → request.isFair = true) :
    (bench.perform deed).session.Tied := by
  cases deed with
  | say | save | choose | enable => exact { h with }
  | ask request =>
    rw [Bench.perform, Bench.after_operate]
    exact h.keep (h.tracks.answer (hfair request rfl))
  | look =>
    rw [Bench.perform, Bench.after_operate]
    exact h.keep h.tracks.view
  | restart source autoplay =>
    rw [Bench.perform, Bench.after_reset]
    exact h.reset source autoplay
  | move source target =>
    unfold Bench.perform
    dsimp only
    split
    · next moved hmove => exact ⟨h.tracks, (Prediction.move?_perm hmove).trans h.items⟩
    · exact h

/-- **In a session whose run is finished the game can be won.** -/
theorem won (h : session.Tied) (hfin : session.simulator.loop.finished = true) :
    (∃ moves won, session.prediction.moveAll moves = some won ∧
      (won.verdict session.simulator.loop.output).correct = true) ∧
    ((session.prediction.verdict session.simulator.loop.output).correct = true ↔
      ∀ mark ∈ (session.prediction.verdict session.simulator.loop.output).marks, mark = true) := by
  obtain ⟨text, events, hread, hloop⟩ := h.tracks.ran
  have houtput : session.simulator.loop.output.Perm (gatherMessages session.simulator.program) := by
    rw [hloop] at hfin ⊢
    exact EventLoop.output_perm_of_finished hread hfin
  have hperm : session.prediction.items.Perm session.simulator.loop.output :=
    h.items.trans houtput.symm
  obtain ⟨moves, hmoves⟩ := Prediction.exists_moves [] hperm
  exact ⟨⟨moves, _, hmoves, beq_self_eq_true _⟩, Prediction.correct_iff_marks _ hperm.length_eq⟩

end Tied

/-- However a session begins, its game is tied to its script. -/
theorem tied_of_begins {options : Options} {source : Option String} {files : Tree}
    {session : Session} (h : Begins options source files session) : session.Tied := by
  have hstarted {begun : Session} {later : Tree}
      (hstart : start options source files = .ok (begun, later)) : begun.Tied := by
    obtain ⟨text, tickMs, intervalMs, shuffler, program, -, -, -, hread, rfl⟩ :=
      start_eq_ok.mp hstart
    exact tied_deal (Simulator.Tracks.created hread)
  cases h with
  | started hstart => exact hstarted hstart
  | shuffled shuffler hstart => exact tied_deal (hstarted hstart).tracks

/-- **The game stays tied to the script and can always be won.** Whatever commands, entries and
requests a session has seen, whether they succeeded or failed, the items of the guess are the
messages of the script that runs, each as often. When the run is finished, some moves between places
that exist make the guess correct; and it is correct exactly if every mark is true. -/
theorem winnable {options : Options} {source : Option String} {files : Tree} (bench : Bench)
    {turns : List Turn} (hbegins : Begins options source files bench.session)
    (hturns : ∀ request, .ask request ∈ turns → request.isFair = true) :
    let session := (bench.playAll turns).session
    let output := session.simulator.loop.output
    session.prediction.items.Perm (gatherMessages session.simulator.program) ∧
      (session.simulator.loop.finished = true →
        (∃ moves won, session.prediction.moveAll moves = some won ∧
          (won.verdict output).correct = true) ∧
        ((session.prediction.verdict output).correct = true ↔
          ∀ mark ∈ (session.prediction.verdict output).marks, mark = true)) := by
  have htied : (bench.playAll turns).session.Tied := by
    refine Bench.playAll_invariant (motive := fun bench => bench.session.Tied)
      (fun deed => ∀ request, deed = .ask request → request.isFair = true)
      (fun bench deed hfair h => h.perform deed hfair) (fun deed husual request heq => ?_)
      (tied_of_begins hbegins) (fun request hmem fair heq => ?_)
    · subst heq
      exact Request.isFair_of_isOrdinary husual.1 husual.2
    · exact Deed.ask.inj heq ▸ hturns request hmem
  exact ⟨htied.items, htied.won⟩

/-- A session with a script of five messages. -/
def nestedSession : Session :=
  fresh plainOptions Script.nestedScript Script.nestedForest 100 1000 .still

theorem start_nested :
    start plainOptions (some Script.nestedScript) {} = .ok (nestedSession, {}) :=
  start_eq_ok.mpr ⟨_, _, _, _, _, rfl, rfl, ⟨rfl, rfl, rfl⟩, Script.parse_nestedScript, rfl⟩

/-- A guess is changed while the script has just begun to run and a tick fails. -/
def firstTurns : List Turn :=
  [.command "/predict move 5 1" true, .ask .step, .ask (.tick (some (.other "list"))),
    .command "/predict move 1 6" true]

/-- A script with a message in a timer. -/
def secondScript : String :=
  "\n".intercalate [
    "console.log('x');",
    "setTimeout(() => \x7b",
    "  console.log('y');",
    "\x7d, 50);",
    "console.log('z');"]

/-- Another script is entered, the new guess is changed, and the script runs to its end, partly by
itself. -/
def secondTurns : List Turn :=
  [.entry secondScript, .command "/predict move 3 1" true, .command "/run" true,
    .ask (.autoplayStep none), .command "/step 3" true, .command "/tick 50" true,
    .ask (.tick none), .command "/step 4" true]

/-- Two games are played in a row. The second guess is not right yet, and can be made so. -/
theorem winnable_busy :
    Begins plainOptions (some Script.nestedScript) {} nestedSession ∧
    (∀ request, .ask request ∈ firstTurns ++ secondTurns → request.isFair = true) ∧
    let first := (Bench.playAll { session := nestedSession } firstTurns).session
    let session := (Bench.playAll { session := nestedSession } (firstTurns ++ secondTurns)).session
    let output := session.simulator.loop.output
    first.prediction.items = ["five", "one", "two", "three", "four"] ∧
      session.prediction.items = ["z", "x", "y"] ∧ output = ["x", "z", "y"] ∧
      session.simulator.loop.finished = true ∧
      session.prediction.items.Perm (gatherMessages session.simulator.program) ∧
      (∃ moves won, session.prediction.moveAll moves = some won ∧
        (won.verdict output).correct = true) ∧
      ((session.prediction.verdict output).correct = true ↔
        ∀ mark ∈ (session.prediction.verdict output).marks, mark = true) := by
  have hbegins : Begins plainOptions (some Script.nestedScript) {} nestedSession :=
    .started start_nested
  have hfair : ∀ request, .ask request ∈ firstTurns ++ secondTurns → request.isFair = true := by
    intro request hmem
    simp only [firstTurns, secondTurns, List.cons_append, List.nil_append, List.mem_cons,
      List.not_mem_nil, Turn.ask.injEq, reduceCtorEq, false_or, or_false] at hmem
    rcases hmem with rfl | rfl | rfl | rfl <;> rfl
  have hfirst : let session := (Bench.playAll { session := nestedSession } firstTurns).session
      session.prediction.items = ["five", "one", "two", "three", "four"] := by
    decide +kernel
  have hlast : let session :=
        (Bench.playAll { session := nestedSession } (firstTurns ++ secondTurns)).session
      session.prediction.items = ["z", "x", "y"] ∧
        session.simulator.loop.output = ["x", "z", "y"] ∧
        session.simulator.loop.finished = true := by
    decide +kernel
  obtain ⟨hitems, houtput, hfin⟩ := hlast
  obtain ⟨hperm, hwon⟩ := winnable { session := nestedSession } hbegins hfair
  exact ⟨hbegins, hfair, hfirst, hitems, houtput, hfin, hperm, hwon hfin⟩

end Session

end LoopStepper
