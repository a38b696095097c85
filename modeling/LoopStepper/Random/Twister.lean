/-!
# A source of random words

The Mersenne twister with 624 words of 32 bits, seeded from a whole number of any size. The words
of the seed are mixed into a fixed starting state, so that every word of the seed changes every
word of the state.
-/

namespace LoopStepper

/-- The number of words in the state of a twister. -/
def Twister.size : Nat := 624

/-- A twister: its state and the position of the next word to give out. -/
structure Twister where
  words : Array UInt32
  position : Nat

namespace Twister

/-- The state that a single word starts from. -/
def ofWord (seed : UInt32) : Array UInt32 :=
  (List.range (size - 1)).foldl (fun words i =>
    let last := words.getD i 0
    words.push ((last ^^^ (last >>> 30)) * 1812433253 + UInt32.ofNat (i + 1))) #[seed]

/-- The number of values of a word. -/
def wordValues : Nat := 4294967296

/-- The words of a number, the lowest first; zero has one word. -/
def seedWords (seed : Nat) : List UInt32 :=
  if seed < wordValues then [UInt32.ofNat seed]
  else UInt32.ofNat (seed % wordValues) :: seedWords (seed / wordValues)
termination_by seed
decreasing_by
  unfold wordValues at *; omega

/-- One step of mixing: the word at `i` is combined with the one before it, which a factor
scrambles. The first word of the state is kept equal to the last one when the end is passed. -/
def mixStep (factor : UInt32) (combine : UInt32 → UInt32 → UInt32)
    (state : Array UInt32 × Nat) : Array UInt32 × Nat :=
  let (words, i) := state
  let last := words.getD (i - 1) 0
  let words := words.setIfInBounds i
    (combine (words.getD i 0) ((last ^^^ (last >>> 30)) * factor))
  if size ≤ i + 1 then (words.setIfInBounds 0 (words.getD (size - 1) 0), 1) else (words, i + 1)

/-- A twister for a seed, whose sign does not matter. -/
def ofSeed (seed : Int) : Twister :=
  let key := (seedWords seed.natAbs).toArray
  let rounds := max size key.size
  let mixed := (List.range rounds).foldl (fun state j =>
    mixStep 1664525 (fun word last => (word ^^^ last) + key.getD (j % key.size) 0 +
      UInt32.ofNat (j % key.size)) state) (ofWord 19650218, 1)
  let mixed := (List.range (size - 1)).foldl (fun state _ =>
    mixStep 1566083941 (fun word last => (word ^^^ last) - UInt32.ofNat state.2) state) mixed
  { words := mixed.1.setIfInBounds 0 0x80000000, position := size }

/-- The state after all its words were given out. -/
def refresh (words : Array UInt32) : Array UInt32 :=
  (List.range size).foldl (fun words i =>
    let y := (words.getD i 0 &&& 0x80000000) ||| (words.getD ((i + 1) % size) 0 &&& 0x7FFFFFFF)
    let twist : UInt32 := if y &&& 1 = 1 then 0x9908B0DF else 0
    words.setIfInBounds i (words.getD ((i + 397) % size) 0 ^^^ (y >>> 1) ^^^ twist)) words

/-- The bits of a word spread out. -/
def temper (y : UInt32) : UInt32 :=
  let y := y ^^^ (y >>> 11)
  let y := y ^^^ ((y <<< 7) &&& 0x9D2C5680)
  let y := y ^^^ ((y <<< 15) &&& 0xEFC60000)
  y ^^^ (y >>> 18)

/-- The next word. -/
def next (twister : Twister) : UInt32 × Twister :=
  let twister := if size ≤ twister.position then ⟨refresh twister.words, 0⟩ else twister
  (temper (twister.words.getD twister.position 0),
    { twister with position := twister.position + 1 })

/-- The most words that are drawn for one bounded number. More than half of the draws fit, so it is
never reached in practice. -/
def maxDraws : Nat := 10000

/-- A number below `bound`, from words cut to `bits` bits; words that are too large are passed
over. -/
def draw (bound bits : Nat) (twister : Twister) : (draws : Nat) → Nat × Twister
  | 0 => (0, twister)
  | draws + 1 =>
    let (word, twister) := twister.next
    let number := word.toNat >>> (32 - bits)
    if number < bound then (number, twister) else draw bound bits twister draws

/-- A number below `bound`, each as likely as the others. -/
def below (twister : Twister) (bound : Nat) : Nat × Twister :=
  draw bound (bound.log2 + 1) twister maxDraws

end Twister

end LoopStepper
