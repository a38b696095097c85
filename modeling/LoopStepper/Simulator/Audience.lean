import LoopStepper.Simulator.Basic

/-!
# Subscribers

How a notice reaches those it is for. Each subscription is served in order. A subscriber works on a
memory that all of them share, and may fail; a failure is counted and does not keep the others from
being served, nor does it reach the simulator. The snapshot of a notice goes from hand to hand: who
edits it, edits it for those who are served later.
-/

namespace LoopStepper

/-- A copy of a notice for each subscription it goes to, in order. -/
def Notice.copies (notice : Notice) : List (String × Notice) :=
  notice.subscribers.map fun name => (name, notice)

/-- The notice with its snapshot edited. -/
def Notice.edit (notice : Notice) (edited : Option Datum) : Notice :=
  { notice with snapshot := edited.getD notice.snapshot }

/-- What comes of serving one subscription. -/
structure Reception (μ : Type) where
  memory : μ
  /-- What the subscriber has made of the snapshot, if it has edited it. -/
  edited : Option Datum := none
  failed : Bool := false

/-- How subscribers react to a notice, by name. -/
abbrev Audience (μ : Type) := String → Notice → μ → Reception μ

/-- What is left when subscriptions were served. -/
structure Service (μ : Type) where
  memory : μ
  notice : Notice
  /-- The subscriptions that failed, in order. -/
  failed : List String := []

namespace Audience

variable {μ : Type}

/-- Serves subscriptions in order. -/
def serve (audience : Audience μ) (notice : Notice) : List String → μ → Service μ
  | [], memory => { memory, notice }
  | name :: names, memory =>
    let reception := audience name notice memory
    let service := audience.serve (notice.edit reception.edited) names reception.memory
    if reception.failed then { service with failed := name :: service.failed } else service

@[simp] theorem serve_cons_memory (audience : Audience μ) (notice : Notice) (name : String)
    (names : List String) (memory : μ) :
    (audience.serve notice (name :: names) memory).memory =
      (audience.serve (notice.edit (audience name notice memory).edited) names
        (audience name notice memory).memory).memory := by
  rw [serve]
  split <;> rfl

@[simp] theorem serve_cons_notice (audience : Audience μ) (notice : Notice) (name : String)
    (names : List String) (memory : μ) :
    (audience.serve notice (name :: names) memory).notice =
      (audience.serve (notice.edit (audience name notice memory).edited) names
        (audience name notice memory).memory).notice := by
  rw [serve]
  split <;> rfl

/-- Delivers a notice to all it is for. -/
def deliver (audience : Audience μ) (memory : μ) (notice : Notice) : Service μ :=
  audience.serve notice notice.subscribers memory

/-- Delivers notices in order. -/
def deliverAll (audience : Audience μ) (memory : μ) (notices : List Notice) : μ :=
  notices.foldl (fun memory notice => (audience.deliver memory notice).memory) memory

end Audience

end LoopStepper
