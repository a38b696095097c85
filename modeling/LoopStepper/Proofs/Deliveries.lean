import LoopStepper.Proofs.History
import LoopStepper.Simulator.Audience

/-!
# Subscribers that fail

A subscriber works while the simulator is still at an operation, and may fail in the middle of it.
Here that is followed as it happens: a `Performance` is an operation in front of an audience, with a
failure of a subscriber as an exception that would cut the operation short and be the answer of the
caller. `publish` catches such an exception before the next subscriber has its turn, and it is
shown to come to what `Audience.deliver` says (`publish_run`), which has no exceptions.

An audience is any function of a memory of its own, so that it may fail at any notice, by any plan.
It has no simulator to call. All who subscribed are handed one snapshot, which each of them may edit
before the next one has it, also one who fails then; `HandedAround` says how it went from hand to
hand. What a call comes to is a `Sight`: the answer of the caller, the simulator, and which
subscription was handed what, in order.

Headline:
* **`subscribers_isolated`**: what any calls come to is the same as if nobody failed, and among
  audiences that do not edit snapshots it is always the same. Each answered step, tick, reset and
  toggle that replays, and each step of an automatic run that was made, hands one snapshot of the
  new state to each subscription in order; nothing else hands out any.
-/

namespace LoopStepper

/-! ## Operations in front of an audience -/

/-- What can cut an operation short. -/
inductive Interruption where
  /-- The operation itself fails. -/
  | failure (failure : Failure)
  /-- A subscriber fails. -/
  | subscriber (name : String)

/-- A snapshot in the hands of a subscription. -/
structure Delivery where
  subscriber : String
  change : Change
  /-- The snapshot as it was handed over. -/
  found : Datum
  /-- The snapshot as the subscriber left it. -/
  left : Datum

/-- A simulator, the memory of its audience, the snapshot that is handed around, and what was handed
to whom so far. -/
structure Stage (μ : Type) where
  simulator : Simulator
  memory : μ
  snapshot : Datum := .nothing
  handed : List Delivery := []

/-- Something that is done in front of an audience. -/
abbrev Performance (μ : Type) := EStateM Interruption (Stage μ)

/-- What a call comes to. -/
structure Sight where
  result : Except Interruption Answer
  simulator : Simulator
  received : List Delivery

/-! ## Runs that do not fail -/

section
variable {ε σ α β : Type}

theorem bind_run {act : EStateM ε σ α} {next : α → EStateM ε σ β} {before after : σ} {a : α}
    (h : act.run before = .ok a after) : (act >>= next).run before = (next a).run after := by
  simp only [EStateM.run, bind, EStateM.bind] at h ⊢
  rw [h]

theorem caught_run {act : EStateM ε σ α} {handler : ε → EStateM ε σ α} {before after : σ} {e : ε}
    (h : act.run before = .error e after) :
    (tryCatch act handler).run before = (handler e).run after := by
  simp only [EStateM.run, tryCatch, tryCatchThe, MonadExceptOf.tryCatch, EStateM.tryCatch] at h ⊢
  rw [h]
  rfl

theorem uncaught_run {act : EStateM ε σ α} {handler : ε → EStateM ε σ α} {before after : σ} {a : α}
    (h : act.run before = .ok a after) : (tryCatch act handler).run before = .ok a after := by
  simp only [EStateM.run, tryCatch, tryCatchThe, MonadExceptOf.tryCatch, EStateM.tryCatch] at h ⊢
  rw [h]

/-- Visits that all succeed succeed together. -/
theorem forM_run {visit : α → EStateM ε σ Unit} {move : σ → α → σ}
    (h : ∀ a s, (visit a).run s = .ok () (move s a)) (as : List α) (s : σ) :
    (as.forM visit).run s = .ok () (as.foldl move s) := by
  induction as generalizing s with
  | nil => rfl
  | cons a as ih => exact (bind_run (h a s)).trans (ih _)

end

/-! ## The audience at work -/

namespace Audience

variable {μ ν : Type}

/-- Hands the snapshot to a subscriber, who fails after having worked on it and on the memory. -/
def tell (audience : Audience μ) (notice : Notice) (name : String) : Performance μ Unit := do
  let stage ← get
  let reception := audience name { notice with snapshot := stage.snapshot } stage.memory
  let left := reception.edited.getD stage.snapshot
  let delivery : Delivery :=
    { subscriber := name, change := notice.change, found := stage.snapshot, left }
  set { stage with
    memory := reception.memory
    snapshot := left
    handed := stage.handed ++ [delivery] }
  if reception.failed then throw (.subscriber name)

/-- Hands the snapshot of a notice to all it is for, each of whom may fail. -/
def publish (audience : Audience μ) (notice : Notice) : Performance μ Unit := do
  modify fun stage => { stage with snapshot := notice.snapshot }
  notice.subscribers.forM fun name => tryCatch (audience.tell notice name) fun _ => pure ()

/-- Answers a call, and publishes what there is to tell before the caller has the answer. -/
def attend (audience : Audience μ) (call : Call) : Performance μ Answer := do
  let outcome := (← get).simulator.call call
  modify fun stage => { stage with simulator := outcome.simulator }
  outcome.notices.forM audience.publish
  match outcome.result with
  | .ok answer => return answer
  | .error failure => throw (.failure failure)

/-- What calls come to, one after the other. One that is cut short does not keep the others from
being made. -/
def watch (audience : Audience μ) : List Call → Simulator → μ → List Sight
  | [], _, _ => []
  | call :: calls, simulator, memory =>
    match (audience.attend call).run { simulator, memory } with
    | .ok answer stage =>
      { result := .ok answer, simulator := stage.simulator, received := stage.handed } ::
        audience.watch calls stage.simulator stage.memory
    | .error interruption stage =>
      { result := .error interruption, simulator := stage.simulator, received := stage.handed } ::
        audience.watch calls stage.simulator stage.memory

/-- The audience that does the same and never fails. -/
def calm (audience : Audience μ) : Audience μ := fun name notice memory =>
  { audience name notice memory with failed := false }

/-- Nobody in the audience edits a snapshot. -/
def Discreet (audience : Audience μ) : Prop :=
  ∀ name notice memory, (audience name notice memory).edited = none

/-! ## No failure of a subscriber gets out -/

/-- The stage after a subscriber has worked. -/
def heard (audience : Audience μ) (notice : Notice) (stage : Stage μ) (name : String) : Stage μ :=
  let reception := audience name { notice with snapshot := stage.snapshot } stage.memory
  let left := reception.edited.getD stage.snapshot
  let delivery : Delivery :=
    { subscriber := name, change := notice.change, found := stage.snapshot, left }
  { stage with
    memory := reception.memory
    snapshot := left
    handed := stage.handed ++ [delivery] }

theorem tell_run (audience : Audience μ) (notice : Notice) (name : String) (stage : Stage μ) :
    (audience.tell notice name).run stage =
      if (audience name { notice with snapshot := stage.snapshot } stage.memory).failed then
        .error (.subscriber name) (audience.heard notice stage name)
      else .ok () (audience.heard notice stage name) := by
  change (if (audience name { notice with snapshot := stage.snapshot } stage.memory).failed then
    throw (.subscriber name) else pure () : Performance μ Unit).run
      (audience.heard notice stage name) = _
  split <;> rfl

/-- A subscriber who fails leaves what it did until then, and nothing else. -/
theorem tell_caught (audience : Audience μ) (notice : Notice) (name : String) (stage : Stage μ) :
    (tryCatch (audience.tell notice name) fun _ => pure () : Performance μ Unit).run stage =
      .ok () (audience.heard notice stage name) := by
  have hrun := audience.tell_run notice name stage
  cases hfailed :
    (audience name { notice with snapshot := stage.snapshot } stage.memory).failed with
  | true =>
    rw [if_pos hfailed] at hrun
    exact caught_run hrun
  | false =>
    rw [if_neg (ne_true_of_eq_false hfailed)] at hrun
    exact uncaught_run hrun

/-- What is handed out when subscriptions are served. -/
def deliveries (audience : Audience μ) (notice : Notice) : List String → μ → List Delivery
  | [], _ => []
  | name :: names, memory =>
    let reception := audience name notice memory
    let passed := notice.edit reception.edited
    { subscriber := name, change := notice.change, found := notice.snapshot,
      left := passed.snapshot } :: audience.deliveries passed names reception.memory

theorem foldl_heard (audience : Audience μ) (notice : Notice) (names : List String)
    (stage : Stage μ) :
    let found := { notice with snapshot := stage.snapshot }
    names.foldl (audience.heard notice) stage =
      { stage with
        memory := (audience.serve found names stage.memory).memory
        snapshot := (audience.serve found names stage.memory).notice.snapshot
        handed := stage.handed ++ audience.deliveries found names stage.memory } := by
  induction names generalizing stage with
  | nil => simp [serve, deliveries]
  | cons name names ih =>
    rw [List.foldl_cons, ih]
    simp [heard, deliveries, Notice.edit]

/-- The stage after a notice was published. -/
def published (audience : Audience μ) (stage : Stage μ) (notice : Notice) : Stage μ :=
  { stage with
    memory := (audience.deliver stage.memory notice).memory
    snapshot := (audience.deliver stage.memory notice).notice.snapshot
    handed := stage.handed ++ audience.deliveries notice notice.subscribers stage.memory }

theorem published_eq_foldl (audience : Audience μ) (stage : Stage μ) (notice : Notice) :
    audience.published stage notice =
      notice.subscribers.foldl (audience.heard notice)
        { stage with snapshot := notice.snapshot } := by
  rw [foldl_heard]
  rfl

/-- Publishing a notice never fails, and comes to its delivery. -/
theorem publish_run (audience : Audience μ) (notice : Notice) (stage : Stage μ) :
    (audience.publish notice).run stage = .ok () (audience.published stage notice) := by
  rw [published_eq_foldl]
  exact forM_run (audience.tell_caught notice) notice.subscribers _

/-- The stage after an operation with the given outcome. -/
def attended (audience : Audience μ) (memory : μ) (outcome : Outcome Answer) : Stage μ :=
  outcome.notices.foldl audience.published { simulator := outcome.simulator, memory }

theorem simulator_foldl_published (audience : Audience μ) (notices : List Notice)
    (stage : Stage μ) :
    (notices.foldl audience.published stage).simulator = stage.simulator := by
  induction notices generalizing stage with
  | nil => rfl
  | cons notice notices ih => exact ih _

/-- The caller of an operation gets what the operation results in. -/
theorem attend_run (audience : Audience μ) (call : Call) (sim : Simulator) (memory : μ) :
    (audience.attend call).run { simulator := sim, memory } =
      match (sim.call call).result with
      | .ok answer => .ok answer (audience.attended memory (sim.call call))
      | .error failure => .error (.failure failure) (audience.attended memory (sim.call call)) := by
  have hpublished : ((sim.call call).notices.forM audience.publish).run
      { simulator := (sim.call call).simulator, memory } =
        .ok () (audience.attended memory (sim.call call)) :=
    forM_run (fun notice stage => audience.publish_run notice stage) _ _
  change ((sim.call call).notices.forM audience.publish >>= fun _ =>
    match (sim.call call).result with
    | .ok answer => pure answer
    | .error failure => throw (.failure failure) : Performance μ Answer).run
      { simulator := (sim.call call).simulator, memory } = _
  rw [bind_run hpublished]
  split <;> rfl

/-- What is seen of an operation with the given outcome. -/
def sight (audience : Audience μ) (memory : μ) (outcome : Outcome Answer) : Sight where
  result := outcome.result.mapError .failure
  simulator := outcome.simulator
  received := (audience.attended memory outcome).handed

theorem watch_cons (audience : Audience μ) (call : Call) (calls : List Call) (sim : Simulator)
    (memory : μ) :
    audience.watch (call :: calls) sim memory =
      audience.sight memory (sim.call call) :: audience.watch calls (sim.call call).simulator
        (audience.attended memory (sim.call call)).memory := by
  have hrun := audience.attend_run call sim memory
  have hsim : (audience.attended memory (sim.call call)).simulator = (sim.call call).simulator :=
    simulator_foldl_published _ _ _
  rw [watch, hrun, sight]
  cases (sim.call call).result <;>
    · dsimp only
      rw [hsim]
      rfl

/-! ## Audiences that differ -/

/-- To fail is not to do anything. -/
theorem published_calm (audience : Audience μ) : audience.calm.published = audience.published := by
  funext stage notice
  rw [published_eq_foldl, published_eq_foldl]
  rfl

theorem attended_calm (audience : Audience μ) (memory : μ) (outcome : Outcome Answer) :
    audience.calm.attended memory outcome = audience.attended memory outcome := by
  rw [attended, attended, published_calm]

theorem watch_calm (audience : Audience μ) (calls : List Call) (sim : Simulator) (memory : μ) :
    audience.calm.watch calls sim memory = audience.watch calls sim memory := by
  induction calls generalizing sim memory with
  | nil => rfl
  | cons call calls ih => rw [watch_cons, watch_cons, sight, sight, attended_calm, ih]

/-- A delivery of a snapshot that is left as it is. -/
def plain (change : Change) (snapshot : Datum) (name : String) : Delivery where
  subscriber := name
  change := change
  found := snapshot
  left := snapshot

theorem deliveries_of_discreet {audience : Audience μ} (h : audience.Discreet) (notice : Notice)
    (names : List String) (memory : μ) :
    audience.deliveries notice names memory = names.map (plain notice.change notice.snapshot) := by
  induction names generalizing memory with
  | nil => rfl
  | cons name names ih =>
    rw [deliveries, h, Notice.edit, Option.getD_none, ih]
    rfl

theorem handed_of_discreet {audience : Audience μ} (h : audience.Discreet) (notices : List Notice)
    (stage : Stage μ) :
    (notices.foldl audience.published stage).handed =
      stage.handed ++ notices.flatMap fun notice =>
        notice.subscribers.map (plain notice.change notice.snapshot) := by
  induction notices generalizing stage with
  | nil => simp
  | cons notice notices ih =>
    rw [List.foldl_cons, ih, published, deliveries_of_discreet h]
    simp

/-- Audiences that do not edit snapshots are handed the same ones. -/
theorem watch_of_discreet {audience : Audience μ} {other : Audience ν} (h : audience.Discreet)
    (hother : other.Discreet) (calls : List Call) (sim : Simulator) (memory : μ) (otherMemory : ν) :
    audience.watch calls sim memory = other.watch calls sim otherMemory := by
  induction calls generalizing sim memory otherMemory with
  | nil => rfl
  | cons call calls ih =>
    have hsight (outcome : Outcome Answer) :
        audience.sight memory outcome = other.sight otherMemory outcome := by
      rw [sight, sight, attended, attended, handed_of_discreet h, handed_of_discreet hother]
    rw [watch_cons, watch_cons, hsight, ih]

end Audience

/-! ## Who is handed what -/

/-- The change that an answered call has made known. -/
def Call.change : Call → Answer → Option Change
  | .ask .step, _ => some .step
  | .ask (.tick _), _ => some .tick
  | .ask (.reset _ _), _ => some .reset
  | .ask .toggle, .reply reply =>
    if reply = .text Simulator.Toggled.replay.label then some .reset else none
  | .ask (.autoplayStep _), .reply reply => if reply = .flag true then some .step else none
  | _, _ => none

/-- The subscriptions after an answered call. -/
def Call.subscriptions (names : List String) : Call → List String
  | .ask (.subscribe name) => names ++ [name]
  | .ask (.unsubscribe name) => names.erase name
  | _ => names

/-- A snapshot is handed to subscriptions in order, and each finds it as the one before has left
it. -/
inductive HandedAround (change : Change) : Datum → List String → List Delivery → Prop
  | nil {snapshot : Datum} : HandedAround change snapshot [] []
  | cons {snapshot left : Datum} {name : String} {names : List String} {later : List Delivery}
      (rest : HandedAround change left names later) :
      HandedAround change snapshot (name :: names)
        ({ subscriber := name, change, found := snapshot, left } :: later)

/-- A snapshot that nobody edits is the same in all hands. -/
theorem HandedAround.eq_map {change : Change} {snapshot : Datum} {names : List String}
    {received : List Delivery} (h : HandedAround change snapshot names received)
    (hleft : ∀ delivery ∈ received, delivery.left = delivery.found) :
    received = names.map (Audience.plain change snapshot) := by
  induction h with
  | nil => rfl
  | @cons snapshot left name names later rest ih =>
    obtain ⟨hfirst, hlater⟩ := List.forall_mem_cons.mp hleft
    obtain rfl : left = snapshot := hfirst
    rw [ih hlater]
    rfl

theorem Audience.handedAround_deliveries {μ : Type} (audience : Audience μ) (notice : Notice)
    (names : List String) (memory : μ) :
    HandedAround notice.change notice.snapshot names
      (audience.deliveries notice names memory) := by
  induction names generalizing notice memory with
  | nil => exact .nil
  | cons name names ih => exact .cons (ih (notice.edit (audience name notice memory).edited) _)

/-- A call tells those who subscribed what they are to hear. -/
structure Tells (before : Simulator) (call : Call) (sight : Sight) : Prop where
  /-- A change is told once to each subscription, in order, with a snapshot of the new state. -/
  told : ∀ answer change, sight.result = .ok answer → call.change answer = some change →
    HandedAround change sight.simulator.loop.snapshot sight.simulator.subscribers sight.received
  /-- It is the same snapshot for all of them, unless one of them edits it. -/
  unedited : ∀ answer change, sight.result = .ok answer → call.change answer = some change →
    (∀ delivery ∈ sight.received, delivery.left = delivery.found) →
      sight.received =
        sight.simulator.subscribers.map (Audience.plain change sight.simulator.loop.snapshot)
  /-- Where nothing has changed, or the operation failed, nothing is told. -/
  untold : (∀ answer, sight.result = .ok answer → call.change answer = none) → sight.received = []
  /-- The subscriptions are those that calls for it have made and not ended. -/
  answered : ∀ answer, sight.result = .ok answer →
    sight.simulator.subscribers = call.subscriptions before.subscribers
  refused : ∀ interruption, sight.result = .error interruption →
    sight.simulator.subscribers = before.subscribers

/-- A call is the operation by itself, and tells of it. -/
structure Undisturbed (before : Simulator) (call : Call) (sight : Sight) : Prop
    extends Tells before call sight where
  result_eq : sight.result = (before.call call).result.mapError .failure
  simulator_eq : sight.simulator = (before.call call).simulator

/-- Calls, one after the other, are the operations by themselves. -/
inductive Account : Simulator → List Call → List Sight → Prop
  | nil {sim : Simulator} : Account sim [] []
  | cons {sim : Simulator} {call : Call} {calls : List Call} {sight : Sight} {sights : List Sight}
      (first : Undisturbed sim call sight) (rest : Account sight.simulator calls sights) :
      Account sim (call :: calls) (sight :: sights)

namespace Simulator

variable {sim after : Simulator} {request : Request} {reply : Reply} {change : Option Change}

/-- The reply tells whether a call has made a change. -/
theorem Effect.change_eq (effect : Effect sim request reply change after) :
    (Call.ask request).change (.reply reply) = change := by
  cases effect <;> rfl

theorem Effect.subscribers_eq (effect : Effect sim request reply change after) :
    after.subscribers = (Call.ask request).subscriptions sim.subscribers := by
  cases effect <;> rfl

/-- Only a call that makes no change is about subscriptions. -/
theorem Effect.subscribers_of_change (effect : Effect sim request reply change after)
    (h : change ≠ none) : after.subscribers = sim.subscribers := by
  cases effect <;> first | rfl | exact absurd rfl h

section

variable {μ : Type} (audience : Audience μ) (memory : μ)

/-- An operation that fails before it is made. -/
theorem tells_failure {call : Call} {failure : Failure}
    (h : after.subscribers = sim.subscribers) :
    Tells sim call (audience.sight memory { result := .error failure, simulator := after }) where
  told _ _ hok := nomatch hok
  unedited _ _ hok := nomatch hok
  untold _ := rfl
  answered _ hok := nomatch hok
  refused _ _ := h

/-- An operation that makes no change. -/
theorem tells_quiet {call : Call} {answer : Answer} (hchange : call.change answer = none)
    (hsubscribers : after.subscribers = call.subscriptions sim.subscribers) :
    Tells sim call (audience.sight memory { result := .ok answer, simulator := after }) where
  told := by
    rintro _ change ⟨⟩ hsome
    cases hchange.symm.trans hsome
  unedited := by
    rintro _ change ⟨⟩ hsome
    cases hchange.symm.trans hsome
  untold _ := rfl
  answered := by
    rintro _ ⟨⟩
    exact hsubscribers
  refused _ herror := nomatch herror

/-- A change that is made known. -/
theorem tells_change {call : Call} {answer : Answer} {change : Change}
    (hchange : call.change answer = some change)
    (hsubscribers : after.subscribers = call.subscriptions sim.subscribers) :
    Tells sim call (audience.sight memory
      { result := .ok answer, simulator := after, notices := [after.notice change] }) := by
  have htold : HandedAround change after.loop.snapshot after.subscribers (audience.sight memory
      { result := .ok answer, simulator := after, notices := [after.notice change] }).received :=
    audience.handedAround_deliveries (after.notice change) _ memory
  refine ⟨?_, ?_, fun hnone => ?_, ?_, fun _ herror => nomatch herror⟩
  · rintro _ other ⟨⟩ hother
    cases hchange.symm.trans hother
    exact htold
  · rintro _ other ⟨⟩ hother
    cases hchange.symm.trans hother
    exact htold.eq_map
  · cases hchange.symm.trans (hnone _ rfl)
  · rintro _ ⟨⟩
    exact hsubscribers

/-- The step lemma: whatever comes of a request, it is told as it should. -/
theorem tells_of_called {outcome : Outcome Reply} (h : Called sim request outcome) :
    Tells sim (.ask request) (audience.sight memory (outcome.map .reply)) := by
  cases h with
  | quiet effect => exact tells_quiet audience memory effect.change_eq effect.subscribers_eq
  | told effect hann => exact tells_change audience memory effect.change_eq effect.subscribers_eq
  | untold effect =>
    exact tells_failure audience memory (effect.subscribers_of_change (Option.some_ne_none _))
  | injected | unread | unreplayed | sizeless | speedless =>
    exact tells_failure audience memory rfl

theorem tells_look (sim : Simulator) :
    Tells sim .look (audience.sight memory (sim.call .look)) := by
  change Tells sim .look (audience.sight memory (sim.view.map .state))
  unfold view guarded
  split
  · exact tells_failure audience memory rfl
  · exact tells_quiet audience memory rfl rfl

theorem undisturbed (sim : Simulator) (call : Call) :
    Undisturbed sim call (audience.sight memory (sim.call call)) where
  toTells := by
    cases call with
    | ask request => exact tells_of_called audience memory (called sim request)
    | look => exact tells_look audience memory sim
  result_eq := rfl
  simulator_eq := rfl

end

end Simulator

namespace Audience

variable {μ ν : Type}

/-- The run lemma: no audience disturbs any of the calls. -/
theorem account_watch (audience : Audience μ) (calls : List Call) (sim : Simulator) (memory : μ) :
    Account sim calls (audience.watch calls sim memory) := by
  induction calls generalizing sim memory with
  | nil => exact .nil
  | cons call calls ih =>
    rw [watch_cons]
    exact .cons (Simulator.undisturbed audience memory sim call) (ih _ _)

/-- **Subscribers are isolated**: what any calls come to in front of an audience that fails whenever
it likes is the same as in front of one that does the same and never fails; if it edits no
snapshots, the same as in front of any other that edits none. All answers and states are those of
the operations by themselves, and each change is told once to each subscription, with a snapshot of
the new state that goes from hand to hand. -/
theorem subscribers_isolated (audience : Audience μ) (other : Audience ν) (calls : List Call)
    (sim : Simulator) (memory : μ) (otherMemory : ν) :
    audience.watch calls sim memory = audience.calm.watch calls sim memory ∧
      Account sim calls (audience.watch calls sim memory) ∧
      (audience.Discreet → other.Discreet →
        audience.watch calls sim memory = other.watch calls sim otherMemory) :=
  ⟨(audience.watch_calm calls sim memory).symm, audience.account_watch calls sim memory,
    fun h hother => watch_of_discreet h hother calls sim memory otherMemory⟩

/-- An audience that writes down who was told, and in which one fails each time. -/
def recording : Audience (List String) := fun name _ names =>
  { memory := name :: names, failed := name == "bad" }

/-- An audience that does not listen. -/
def deaf : Audience Unit := fun _ _ memory => { memory }

/-- One that fails each time is told as often as it subscribed, and so is the one in between; one
that subscribes later is told from then on. -/
theorem subscribers_isolated_recording :
    let sim := { Simulator.printer with subscribers := ["bad", "log", "bad"] }
    let calls : List Call :=
      [.ask .step, .ask .pause, .ask (.unsubscribe "bad"), .ask (.subscribe "late"), .ask .step]
    (recording.watch calls sim []).map (·.received.map Delivery.subscriber) =
        [["bad", "log", "bad"], [], [], [], ["log", "bad", "late"]] ∧
      recording.Discreet ∧ deaf.Discreet ∧
      recording.watch calls sim [] = recording.calm.watch calls sim [] ∧
      Account sim calls (recording.watch calls sim []) ∧
      recording.watch calls sim [] = deaf.watch calls sim () := by
  have htold : (recording.watch
      [.ask .step, .ask .pause, .ask (.unsubscribe "bad"), .ask (.subscribe "late"), .ask .step]
      { Simulator.printer with subscribers := ["bad", "log", "bad"] } []).map
        (·.received.map Delivery.subscriber) =
      [["bad", "log", "bad"], [], [], [], ["log", "bad", "late"]] := by decide +kernel
  intro sim calls
  have hrecording : recording.Discreet := fun _ _ _ => rfl
  have hdeaf : deaf.Discreet := fun _ _ _ => rfl
  obtain ⟨hcalm, haccount, hother⟩ := subscribers_isolated recording deaf calls sim [] ()
  exact ⟨htold, hrecording, hdeaf, hcalm, haccount, hother hrecording hdeaf⟩

/-- A subscriber who takes everything out of the snapshot and then fails leaves nothing to those who
are served later, and the state as it is. -/
example :
    let emptying : Audience Unit := fun name _ memory =>
      if name == "bad" then { memory, edited := some .nothing, failed := true } else { memory }
    let sim := { Simulator.printer with subscribers := ["log", "bad", "log"] }
    (emptying.watch [.ask .step] sim ()).map (·.received.map Delivery.found) =
        [[sim.loop.step.snapshot, sim.loop.step.snapshot, .nothing]] ∧
      (emptying.watch [.ask .step] sim ()).map (·.simulator.loop) = [sim.loop.step] :=
  ⟨rfl, rfl⟩

end Audience

end LoopStepper
