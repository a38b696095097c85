import LoopStepper.Random.Twister

/-!
# Shuffling

A list is shuffled from its end to its start: each place is exchanged with one that is chosen at
random among the places up to it. A shuffler without a seed leaves lists as they are.
-/

namespace LoopStepper

/-- A source of shuffles. -/
inductive Shuffler where
  | still
  | seeded (twister : Twister)

namespace Shuffler

/-- The shuffler for a seed that may be missing. -/
def ofSeed? : Option Int → Shuffler
  | none => .still
  | some seed => .seeded (.ofSeed seed)

/-- Exchanges the items at two places; nothing changes if one of them does not exist. -/
def exchange {α : Type} (items : Array α) (i j : Nat) : Array α :=
  items.swapIfInBounds i j

/-- Places `last` down to one are each exchanged with a place at or before them. -/
def exchangeAll {α : Type} (items : Array α) (twister : Twister) : (last : Nat) → Array α × Twister
  | 0 => (items, twister)
  | last + 1 =>
    let (place, twister) := twister.below (last + 2)
    exchangeAll (exchange items (last + 1) place) twister last

/-- The list in a new order, and the shuffler for the next list. -/
def shuffle {α : Type} (items : List α) : Shuffler → List α × Shuffler
  | .still => (items, .still)
  | .seeded twister =>
    let (shuffled, twister) := exchangeAll items.toArray twister (items.length - 1)
    (shuffled.toList, .seeded twister)

end Shuffler

end LoopStepper
