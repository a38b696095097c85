import LoopStepper.Simulator.Audience

/-!
# Vigils

Without a dialogue the main thread only waits for the script to finish, while background loops make
the steps and the ticks. It subscribes, turns the automatic run on, looks once whether the script is
finished already, and then sleeps until it is woken; its subscription wakes it on a notice of a
finished script.

A vigil goes through moves, of the main thread and of the background loops, in any order. An
operation holds the simulator until all whom it has to tell were told, one after the other, and no
other operation begins in that time; a look at the simulator, and being woken, need no hold of it. A
move that cannot be made yet changes nothing.
-/

namespace LoopStepper

namespace Vigil

/-- How far the main thread has come. -/
inductive Station where
  | subscribing
  | starting
  | looking
  /-- It has looked, and wakes itself if it found the script finished. -/
  | deciding (finished : Bool)
  | waiting
  deriving DecidableEq, Repr

/-- Something that happens during a vigil. -/
inductive Move where
  /-- The main thread goes on. -/
  | main
  /-- A step of the automatic run, planned in a generation. -/
  | step (generation : Int)
  /-- A tick of the clock loop. -/
  | tick (ms : Int)
  /-- One subscription more is told of the last change. -/
  | deliver
  deriving DecidableEq, Repr

end Vigil

/-- The main thread, the simulator it waits for, and what is told in this moment. -/
structure Vigil where
  simulator : Simulator
  station : Vigil.Station := .subscribing
  /-- Whether the main thread was woken. -/
  woken : Bool := false
  /-- Who is still to be told of the last change, and what. -/
  underway : List (String × Notice) := []

namespace Vigil

/-- The name under which the main thread subscribes. -/
def subscription : String := "finished"

/-- An operation, if none holds the simulator. -/
def acquire (vigil : Vigil) (operation : Vigil → Vigil) : Vigil :=
  if vigil.underway.isEmpty then operation vigil else vigil

/-- The vigil after an operation of a background loop, all of whose notices are still to be told. -/
def after {α : Type} (vigil : Vigil) (outcome : Outcome α) : Vigil :=
  { vigil with
    simulator := outcome.simulator
    underway := outcome.notices.flatMap Notice.copies }

/-- What the main thread does next. -/
def goOn (vigil : Vigil) : Vigil :=
  match vigil.station with
  | .subscribing => vigil.acquire fun vigil =>
    { vigil with simulator := vigil.simulator.subscribe subscription, station := .starting }
  | .starting => vigil.acquire fun vigil =>
    { vigil with simulator := vigil.simulator.play.simulator, station := .looking }
  | .looking => { vigil with station := .deciding vigil.simulator.loop.finished }
  | .deciding finished => { vigil with woken := vigil.woken || finished, station := .waiting }
  | .waiting => vigil

/-- Tells the next subscription. That of the main thread wakes it if the script is finished. -/
def deliver (vigil : Vigil) : Vigil :=
  match vigil.underway with
  | [] => vigil
  | (name, notice) :: rest =>
    { vigil with
      woken := vigil.woken || (name == subscription && notice.loop.finished)
      underway := rest }

/-- Makes a move. -/
def make (vigil : Vigil) : Move → Vigil
  | .main => vigil.goOn
  | .step generation => vigil.acquire fun vigil =>
    vigil.after (vigil.simulator.autoplayStep generation)
  | .tick ms => vigil.acquire fun vigil => vigil.after (vigil.simulator.tick (some (.whole ms)))
  | .deliver => vigil.deliver

/-- Makes moves in order. -/
def run (vigil : Vigil) (moves : List Move) : Vigil :=
  moves.foldl make vigil

/-- Tells all who are still to be told. -/
def settle (vigil : Vigil) : Vigil :=
  vigil.run (List.replicate vigil.underway.length .deliver)

/-- One round of the background loops: a step of the automatic run, and a tick. -/
def round (vigil : Vigil) : Vigil :=
  let stepped := (vigil.make (.step vigil.simulator.generation)).settle
  (stepped.make (.tick stepped.simulator.tickMs)).settle

/-- Rounds until the main thread is woken. -/
def rounds : (left : Nat) → Vigil → Vigil
  | 0, vigil => vigil
  | left + 1, vigil => if vigil.woken then vigil else rounds left vigil.round

end Vigil

end LoopStepper
