import LoopStepper.Proofs.Countdown

/-!
# Timers do not overtake each other

The timers of a run are followed on their way: they are registered (`registered`), ticks move them
to the macrotask queue (`moved`), where they are seen as entries (`promoted`), and steps push their
frames (`begun`). Two facts carry the order from one place to the next:

* the timers that were moved and those that wait are together those registered
  (`moved_waiting_perm`), so a timer registered before another either was moved already or still
  waits in front of it;
* the queue is first in, first out: the frames that were pushed and those of the entries that are
  queued are together the frames of the entries in the order in which they were queued
  (`promoted_frames`).

`Leads a b l` says that every `b` of a list has an `a` in front of it.

Headline:
* **`no_overtaking`**: of two timers of a script, the one that is registered first and whose
  deadline is not the later one is moved first and gets its frame first.
-/

namespace LoopStepper

open Script

/-! ## Order in a list -/

section Leads

variable {α β : Type} {a b : α} {l later : List α}

/-- Every `b` of a list has an `a` in front of it. -/
def Leads (a b : α) (l : List α) : Prop :=
  ∀ front back, l = front ++ b :: back → a ∈ front

theorem leads_of_notMem (h : b ∉ l) : Leads a b l := by
  rintro front back rfl
  exact absurd (List.mem_append_right front List.mem_cons_self) h

/-- A list that goes on keeps the order if each `b` of what follows has an `a` somewhere in
front. -/
theorem Leads.append (h : Leads a b l)
    (hlater : ∀ front back, later = front ++ b :: back → a ∈ l ++ front) :
    Leads a b (l ++ later) := by
  intro front back heq
  rcases List.append_eq_append_iff.mp heq with ⟨mid, rfl, hmid⟩ | ⟨mid, rfl, hmid⟩
  · exact hlater mid back hmid
  · cases mid with
    | nil =>
      rw [List.nil_append] at hmid
      have := hlater [] back hmid.symm
      simpa using this
    | cons c mid =>
      obtain ⟨rfl, rfl⟩ := List.cons.inj hmid
      exact h front mid rfl

/-- The first part of a list keeps its order. -/
theorem Leads.of_append (h : Leads a b (l ++ later)) : Leads a b l := by
  rintro front back rfl
  refine h front (back ++ later) ?_
  rw [List.append_assoc, List.cons_append]

/-- A function that takes the value of `b` nowhere else keeps the order. -/
theorem Leads.map {f : α → β} (hf : ∀ c ∈ l, f c = f b → c = b) (h : Leads a b l) :
    Leads (f a) (f b) (l.map f) := by
  intro front back heq
  obtain ⟨before, after, rfl, rfl, hafter⟩ := List.map_eq_append_iff.mp heq
  obtain ⟨c, rest, rfl, hc, rfl⟩ := List.map_eq_cons_iff.mp hafter
  have hcb : c = b := hf c (List.mem_append_right before List.mem_cons_self) hc
  subst hcb
  exact List.mem_map_of_mem (h before rest rfl)

/-- Elements that are left out do not disturb the order. -/
theorem leads_of_filter {p : α → Bool} (hb : p b = true) (h : Leads a b (l.filter p)) :
    Leads a b l := by
  rintro front back rfl
  rw [List.filter_append, List.filter_cons_of_pos hb] at h
  exact (List.mem_filter.mp (h _ _ rfl)).1

/-- Two elements of a list without repetition do not stand in both orders. -/
theorem not_sublist_swap (hl : l.Nodup) (h : [a, b].Sublist l) : ¬ [b, a].Sublist l := by
  induction l with
  | nil => exact absurd h (by simp)
  | cons c l ih =>
    obtain ⟨hc, hl⟩ := List.nodup_cons.mp hl
    intro hswap
    cases h with
    | cons _ h =>
      cases hswap with
      | cons _ hswap => exact ih hl h hswap
      | cons_cons _ hswap => exact hc (h.subset (by simp))
    | cons_cons _ h =>
      cases hswap with
      | cons _ hswap => exact hc (hswap.subset (by simp))
      | cons_cons _ hswap => exact hc (h.subset (by simp))

/-- In a part of such a list, what stands in front of an element stands in front of it. -/
theorem mem_front_of_sublist {front back : List α} (hl : l.Nodup) (h : [a, b].Sublist l)
    (hpart : (front ++ b :: back).Sublist l) (ha : a ∈ front ++ b :: back) : a ∈ front := by
  rcases List.mem_append.mp ha with ha | ha
  · exact ha
  · refine absurd ?_ (not_sublist_swap hl h)
    rcases List.mem_cons.mp ha with rfl | ha
    · exact h
    · have hba : [b, a].Sublist (b :: back) := (List.singleton_sublist.mpr ha).cons_cons b
      exact (hba.trans (List.sublist_append_right front _)).trans hpart

/-- Two elements of a list stand in its first part if the second one does. -/
theorem pair_sublist_of_append (h : [a, b].Sublist (l ++ later)) (hb : b ∉ later) :
    [a, b].Sublist l := by
  obtain ⟨front, back, heq, hfront, hback⟩ := List.sublist_append_iff.mp h
  rcases front with _ | ⟨c, _ | ⟨d, front⟩⟩
  · rw [List.nil_append] at heq
    subst heq
    exact absurd (hback.subset (by simp)) hb
  · obtain ⟨-, rfl⟩ : a = c ∧ [b] = back := by simpa using heq
    exact absurd (hback.subset (by simp)) hb
  · obtain ⟨rfl, rfl, rfl, -⟩ : a = c ∧ b = d ∧ front = [] ∧ back = [] := by simpa using heq
    exact hfront

end Leads

namespace EventLoop

/-! ## From the timer table to the queue -/

/-- The timers that an event moves to the macrotask queue, as they were registered. -/
def movedBy (loop : EventLoop) : Event → List PendingTimer
  | .step => []
  | .tick _ => (loop.pending.filter (·.isDue)).map PendingTimer.fresh

/-- The timers moved to the macrotask queue along a run of a forest. -/
def moved (program : List Task) (events : List Event) : List PendingTimer :=
  trace movedBy (start program) events

/-- The entries put into the macrotask queue along a run of a forest. -/
def promoted (program : List Task) (events : List Event) : List Task :=
  trace promotedBy (start program) events

/-- What is put into the macrotask queue are the entries of the timers that are moved. -/
theorem promotedBy_eq (loop : EventLoop) (event : Event) :
    loop.promotedBy event = (loop.movedBy event).map (·.promoted) := by
  unfold promotedBy
  cases event with
  | step => exact List.drop_eq_nil_of_le loop.stepped.macrotasks.length_le
  | tick ms =>
    rw [movedBy, apply, advance, List.drop_left, List.map_map]
    rfl

theorem promoted_eq (program : List Task) (events : List Event) :
    promoted program events = (moved program events).map (·.promoted) := by
  unfold promoted moved
  generalize start program = loop
  induction events generalizing loop with
  | nil => rfl
  | cons event events ih => rw [trace, trace, List.map_append, promotedBy_eq, ih]

/-- **The timers moved and those that wait are together those registered.** -/
theorem moved_waiting_perm (program : List Task) (events : List Event) :
    (moved program events ++ ((start program).replay events).waiting).Perm
      (registered program events) := by
  unfold moved registered
  induction events using run_induction with
  | init => exact .refl _
  | step events ih =>
    rw [trace_concat, trace_concat, replay_step, movedBy, List.append_nil, waiting_step,
      ← List.append_assoc]
    exact ih.append_right _
  | tick events ms ih =>
    rw [trace_concat, trace_concat, replay_tick, registeredBy_tick, List.append_nil, movedBy,
      waiting_advance, List.append_assoc, ← List.map_append]
    exact (((List.filter_append_perm _ _).map _).append_left _).trans ih

/-- A timer that waits is moved together with every timer whose deadline is not before its own. -/
theorem mem_movedBy_of_deadline {loop : EventLoop} (htimed : Timed loop) {ms : Int}
    {a b : PendingTimer} (ha : a ∈ loop.waiting) (hb : b ∈ loop.movedBy (.tick ms))
    (hdue : a.deadline ≤ b.deadline) : a ∈ loop.movedBy (.tick ms) := by
  obtain ⟨first, hfirst, rfl⟩ := List.mem_map.mp ha
  obtain ⟨second, hsecond, rfl⟩ := List.mem_map.mp hb
  obtain ⟨hmem, hisDue⟩ := List.mem_filter.mp hsecond
  have hclock := (htimed.isDue_iff hmem).mp hisDue
  rw [PendingTimer.fresh_deadline, PendingTimer.fresh_deadline] at hdue
  refine List.mem_map_of_mem (List.mem_filter.mpr ⟨hfirst, ?_⟩)
  exact (htimed.isDue_iff hfirst).mpr (hdue.trans hclock)

/-- **Moved in order**: of two registered timers, the one registered first is moved first, unless
its deadline is the later one. -/
theorem moved_leads {program : List Task} {events : List Event} {a b : PendingTimer}
    (hnodup : (registered program events).Nodup)
    (horder : [a, b].Sublist (registered program events)) (hdue : a.deadline ≤ b.deadline) :
    Leads a b (moved program events) := by
  induction events using run_induction with
  | init => exact leads_of_notMem List.not_mem_nil
  | step events ih =>
    have hperm := moved_waiting_perm program events
    unfold registered at hnodup horder
    rw [trace_concat, ← registered] at hnodup horder
    rw [moved, trace_concat, ← moved, movedBy, List.append_nil]
    by_cases hb : b ∈ moved program events
    · -- what was moved is not registered now
      have hold : b ∈ registered program events := hperm.subset (List.mem_append_left _ hb)
      have hnew := (List.nodup_append.mp hnodup).2.2 b hold b
      exact ih hnodup.of_append_left (pair_sublist_of_append horder fun hmem => hnew hmem rfl)
    · exact leads_of_notMem hb
  | tick events ms ih =>
    have hperm := moved_waiting_perm program events
    unfold registered at hnodup horder
    rw [trace_concat, registeredBy_tick, List.append_nil, ← registered] at hnodup horder
    rw [moved, trace_concat, ← moved]
    refine (ih hnodup horder).append fun front back heq => ?_
    have ha : a ∈ moved program events ++ ((start program).replay events).waiting :=
      hperm.mem_iff.mpr (horder.subset List.mem_cons_self)
    rcases List.mem_append.mp ha with ha | ha
    · exact List.mem_append_left front ha
    · -- `a` still waits where `b` is moved, so it is moved with `b` and stands in front of it
      refine List.mem_append_right _ ?_
      have hpart : (front ++ b :: back).Sublist (registered program events) := by
        rw [← heq]
        exact (List.filter_sublist.map _).trans (pending_sublist program events)
      refine mem_front_of_sublist hnodup horder hpart ?_
      rw [← heq]
      exact mem_movedBy_of_deadline (replay_timed program events) ha
        (heq ▸ List.mem_append_right front List.mem_cons_self) hdue

/-! ## From the queue to the call stack -/

/-- The frames pushed along a run of a forest. -/
def begun (program : List Task) (events : List Event) : List Frame :=
  trace begunBy (start program) events

/-- What a step pushes for a timer is the frame of the first entry of the macrotask queue, and the
entry leaves the queue. -/
theorem timer_frames_step (loop : EventLoop) :
    (loop.begunBy .step).filter (fun frame => frame.kind = .timer) ++
      loop.step.macrotasks.map timerFrame = loop.macrotasks.map timerFrame := by
  unfold begunBy
  rw [apply]
  have h := loop.stepped
  generalize loop.executedBy .step = ran at h
  generalize loop.step = next at h ⊢
  cases h with
  | rest hfin => simp
  | leave hlive hstack hend => simp [hstack]
  | execute hlive hstack hnext => simp [hstack]
  | microtask hlive hstack hmicros => simp [enter, Frame.ofEntry, hstack]
  | macrotask hlive hstack hmicros hmacros =>
    simp [enter, timerFrame, Frame.ofEntry, hstack, hmacros]
  | finish hlive hstack hmicros hmacros hpending => simp
  | wait hlive hstack hmicros hmacros hpending => simp

/-- A tick pushes no frame. -/
theorem begunBy_tick (loop : EventLoop) (ms : Int) : loop.begunBy (.tick ms) = [] := by
  simp [begunBy, apply, advance]

/-- **First in, first out**: the frames pushed for timers, and those of the entries in the queue,
are the frames of the entries in the order in which they were queued. -/
theorem promoted_frames (program : List Task) (events : List Event) :
    (promoted program events).map timerFrame =
      (begun program events).filter (fun frame => frame.kind = .timer) ++
        ((start program).replay events).macrotasks.map timerFrame := by
  unfold promoted begun
  induction events using run_induction with
  | init => rfl
  | step events ih =>
    rw [trace_concat, trace_concat, replay_step, List.map_append, List.filter_append, ih,
      promotedBy_eq, movedBy, List.map_nil, List.map_nil, List.append_nil, List.append_assoc,
      timer_frames_step]
  | tick events ms ih =>
    rw [trace_concat, trace_concat, replay_tick, List.map_append, List.filter_append, ih,
      begunBy_tick, List.filter_nil, List.append_nil, List.append_assoc, ← List.map_append]
    congr 2
    rw [promotedBy_eq, movedBy, List.map_map, advance]
    rfl

/-! ## Scripts -/

section Scripts

variable {source : String} {program : List Task}

/-- No timer of a script is registered twice. -/
theorem registered_ids_nodup (h : parse source = .ok program) (events : List Event) :
    ((registered program events).map (·.task.id)).Nodup := by
  have hids : (registered program events).map (·.task.id) =
      ((executed program events).filter fun task => task.kind = .timer).map Task.id := by
    rw [← registered_tasks, List.map_map]
    rfl
  rw [hids]
  exact (executed_ids_nodup h events).sublist (List.filter_sublist.map Task.id)

/-- **No timer is overtaken.** Let `a` be registered before `b`, and let the deadline of `a` not be
after that of `b`. Then whenever `b` was moved to the macrotask queue, `a` was moved in front of it,
by an earlier tick or by the same one; and whenever the frame of `b` was pushed, that of `a` was
pushed before. A timer is known by its id, which no other registered timer has. -/
theorem no_overtaking (h : parse source = .ok program) (events : List Event) {a b : PendingTimer}
    (horder : [a, b].Sublist (registered program events)) (hdue : a.deadline ≤ b.deadline) :
    Leads a.promoted b.promoted (promoted program events) ∧
      Leads (timerFrame a.promoted) (timerFrame b.promoted) (begun program events) ∧
      ((registered program events).map (·.task.id)).Nodup := by
  have hids := registered_ids_nodup h events
  have hleads := moved_leads hids.of_map horder hdue
  have hb : b ∈ registered program events := horder.subset (by simp)
  have hsame : ∀ c ∈ moved program events, c.task.id = b.task.id → c = b := fun c hc heq =>
    List.inj_on_of_nodup_map hids
      ((moved_waiting_perm program events).subset (List.mem_append_left _ hc)) hb heq
  refine ⟨?_, ?_, hids⟩
  · rw [promoted_eq]
    refine hleads.map fun c hc heq => ?_
    have hid := congrArg Task.id heq
    exact hsame c hc hid
  · have hframes : Leads (timerFrame a.promoted) (timerFrame b.promoted)
        ((promoted program events).map timerFrame) := by
      rw [promoted_eq, List.map_map]
      refine hleads.map fun c hc heq => ?_
      have hid := congrArg Frame.id heq
      exact hsame c hc hid
    rw [promoted_frames] at hframes
    exact leads_of_filter (by simp [timerFrame, Frame.ofEntry]) hframes.of_append

/-- The timers of `nestedForest` on the top level, as `halfRun` registers them. -/
def nestedTimers : PendingTimer × PendingTimer :=
  ({ task := nestedForest[1], createdAt := 0, remaining := 5 },
    { task := nestedForest[2], createdAt := 3, remaining := 5 })

theorem no_overtaking_nested :
    [nestedTimers.1, nestedTimers.2].Sublist
        (registered nestedForest (halfRun ++ restOfRun)) ∧
      nestedTimers.1.deadline ≤ nestedTimers.2.deadline ∧
      (promoted nestedForest (halfRun ++ restOfRun)).map Task.id = ["task-6", "task-8", "task-5"] ∧
      Leads nestedTimers.1.promoted nestedTimers.2.promoted
        (promoted nestedForest (halfRun ++ restOfRun)) :=
  have horder : [nestedTimers.1, nestedTimers.2].Sublist
      (registered nestedForest (halfRun ++ restOfRun)) :=
    .cons_cons _ (.cons_cons _ (List.nil_sublist _))
  have hdue : nestedTimers.1.deadline ≤ nestedTimers.2.deadline := by decide
  ⟨horder, hdue, rfl, (no_overtaking parse_nestedScript _ horder hdue).1⟩

end Scripts

end EventLoop

end LoopStepper
