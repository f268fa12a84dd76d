/-!
# Random choice

Random words come from the ChaCha stream with twelve rounds, whose key is expanded from a seed of 64
bits. A generator is its key and the number of words drawn, so that equal seeds and equal numbers of
draws give equal choices.

A choice among `n` draws words until the product of one with `n` falls into the part of the range
that is fair to all choices, and takes its high half. How many words it may refuse is bounded here
(`Rng.refusals`), since nothing is known of the words that are still to come.
-/

namespace ActionGraph

/-- A generator of random words. -/
structure Rng where
  key : Vector UInt32 8
  /-- How many words have been drawn. -/
  drawn : Nat
  deriving DecidableEq, Repr

namespace Rng

/-! ### Seeds -/

/-- The next state of the generator that expands a seed. -/
def nextSeed (state : UInt64) : UInt64 := state * 6364136223846793005 + 11634580027462260723

/-- The word rotated to the left. -/
def rotateLeft (x : UInt32) (n : UInt32) : UInt32 := (x <<< n) ||| (x >>> (32 - n))

/-- The word that a state of the seed generator gives. -/
def seedWord (state : UInt64) : UInt32 :=
  let mixed := (((state >>> 18) ^^^ state) >>> 27).toUInt32
  let turn := (state >>> 59).toUInt32
  if turn = 0 then mixed else rotateLeft mixed (32 - turn)

/-- The first `n` states behind a seed. -/
def seedStates (seed : UInt64) : Nat → List UInt64
  | 0 => []
  | n + 1 => nextSeed seed :: seedStates (nextSeed seed) n

theorem length_seedStates (seed : UInt64) (n : Nat) : (seedStates seed n).length = n := by
  induction n generalizing seed with
  | zero => rfl
  | succ n ih => simp [seedStates, ih]

def ofSeed (seed : UInt64) : Rng :=
  ⟨⟨((seedStates seed 8).map seedWord).toArray, by simp [length_seedStates]⟩, 0⟩

/-! ### The stream -/

/-- A block of the stream. -/
abbrev Block := Vector UInt32 16

/-- Adds one word to a second and turns a third by what comes out. -/
def mix (b : Block) (x y z : Fin 16) (turn : UInt32) : Block :=
  let b := b.set x (b[x] + b[y])
  b.set z (rotateLeft (b[z] ^^^ b[x]) turn)

def quarterRound (b : Block) (w x y z : Fin 16) : Block :=
  let b := mix b w x z 16
  let b := mix b y z x 12
  let b := mix b w x z 8
  mix b y z x 7

/-- Two rounds, along the columns and along the diagonals. -/
def doubleRound (b : Block) : Block :=
  let b := quarterRound b 0 4 8 12
  let b := quarterRound b 1 5 9 13
  let b := quarterRound b 2 6 10 14
  let b := quarterRound b 3 7 11 15
  let b := quarterRound b 0 5 10 15
  let b := quarterRound b 1 6 11 12
  let b := quarterRound b 2 7 8 13
  quarterRound b 3 4 9 14

/-- The words that open every block. -/
def constants : Vector UInt32 4 := #v[0x61707865, 0x3320646e, 0x79622d32, 0x6b206574]

/-- The block from which the block at `counter` is made. -/
def initialBlock (key : Vector UInt32 8) (counter : UInt64) : Block :=
  constants ++ key ++ (#v[counter.toUInt32, (counter >>> 32).toUInt32, 0, 0] : Vector UInt32 4)

/-- The block at `counter`, after twelve rounds. -/
def block (key : Vector UInt32 8) (counter : UInt64) : Block :=
  let start := initialBlock key counter
  let mixed := (List.range 6).foldl (fun b _ => doubleRound b) start
  Vector.zipWith (· + ·) mixed start

def next (g : Rng) : UInt32 × Rng :=
  let place : Fin 16 := ⟨g.drawn % 16, Nat.mod_lt _ (by decide)⟩
  ((block g.key (UInt64.ofNat (g.drawn / 16))).get place, { g with drawn := g.drawn + 1 })

/-! ### Choice -/

/-- The last number that is fair to `n` choices in the low half of a product: as many whole shares
of a word as fit, less one. -/
def zone (n : Nat) : Nat := (n <<< (31 - n.log2)) - 1

/-- The share of a word that falls to a choice among `n`, by its high half. -/
def share (word : UInt32) (n : Nat) : Nat := word.toNat * n / UInt32.size

/-- Whether a word is fair to `n` choices. -/
def isFair (word : UInt32) (n : Nat) : Bool := word.toNat * n % UInt32.size ≤ zone n

/-- Draws words until one is fair. Each is refused with a chance below one half, so that hardly more
than a few are needed. When `more` have been refused, the next one is taken, whether it is fair or
not. -/
def draw (n : Nat) : (more : Nat) → Rng → Nat × Rng
  | 0, g => (share g.next.1 n, g.next.2)
  | more + 1, g =>
    if isFair g.next.1 n then (share g.next.1 n, g.next.2) else draw n more g.next.2

/-- How many words a choice may refuse before it takes an unfair one. The bound makes a difference
only for a stream with that many unfair words in a row. -/
def refusals : Nat := 256

/-- Chooses an item of a list; nothing is drawn for an empty one. -/
def choose {α : Type} (g : Rng) (items : List α) : Option α × Rng :=
  if items.isEmpty then (none, g)
  else
    let (index, g) := draw items.length refusals g
    (items[index]?, g)

theorem share_lt {n : Nat} (h : 0 < n) (word : UInt32) : share word n < n :=
  Nat.div_lt_of_lt_mul (Nat.mul_lt_mul_of_lt_of_le word.toNat_lt (Nat.le_refl n) h)

theorem draw_lt {n : Nat} (h : 0 < n) (more : Nat) (g : Rng) : (draw n more g).1 < n := by
  induction more generalizing g with
  | zero => exact share_lt h _
  | succ more ih =>
    rw [draw]
    split
    · exact share_lt h _
    · exact ih _

end Rng

end ActionGraph
