/-
This file draws numbers from streams. A source of numbers has one stream for every seed, and nobody
who draws from it may rely on more than that a draw lies below its bound. The source that runs is a
cipher. A seed of 64 bits is stretched to a key of eight words; the key feeds a stream cipher of
twelve rounds whose blocks are counted from 0. A draw takes two words of the stream as one number of
64 bits. To draw below a bound without bias, such numbers are multiplied by the bound until the
lower half of the product falls inside the zone that holds a whole multiple of the bound; the upper
half is the result.
-/

namespace StepSequencer.Pattern

/-! ### Sources of numbers -/

/-- A source of numbers. A seed always gives the same stream. What a draw gives, and where in the
stream the next one begins, depends on nothing but the place of the draw and its bound. -/
structure NumberSource where
  /-- A place in a stream. -/
  Place : Type
  /-- The beginning of the stream of a seed. -/
  ofSeed : UInt64 → Place
  /-- Draws a number below a bound, and goes on to the next place. -/
  below : Nat → Place → Nat × Place
  below_lt {bound : Nat} (positive : 0 < bound) (place : Place) : (below bound place).1 < bound

/-! ### A stream cipher -/

/-- Rotates a word of 32 bits to the left. -/
def rotateLeft (word : UInt32) (amount : UInt32) : UInt32 :=
  word <<< amount ||| word >>> (32 - amount)

/-- Rotates a word of 32 bits to the right by at most 31. -/
def rotateRight (word : UInt32) (amount : UInt32) : UInt32 :=
  if amount = 0 then word else word >>> amount ||| word <<< (32 - amount)

/-- The next state of the generator that stretches a seed. -/
def stretchStep (state : UInt64) : UInt64 :=
  state * 6364136223846793005 + 11634580027462260723

/-- The word that a state of the stretching generator gives. -/
def stretchWord (state : UInt64) : UInt32 :=
  rotateRight (((state >>> 18 ^^^ state) >>> 27).toUInt32) (state >>> 59).toUInt32

/-- The words that follow a state of the stretching generator. -/
def stretch : Nat → UInt64 → List UInt32
  | 0, _ => []
  | count + 1, state => stretchWord (stretchStep state) :: stretch count (stretchStep state)

/-- The key that a seed stands for. -/
def keyOfSeed (seed : UInt64) : List UInt32 := stretch 8 seed

/-- The sixteen words that the cipher mixes. -/
abbrev Block := Vector UInt32 16

/-- Mixes four words of a block. -/
def quarterRound (block : Block) (a b c d : Fin 16) : Block :=
  let block := block.set a (block[a] + block[b])
  let block := block.set d (rotateLeft (block[d] ^^^ block[a]) 16)
  let block := block.set c (block[c] + block[d])
  let block := block.set b (rotateLeft (block[b] ^^^ block[c]) 12)
  let block := block.set a (block[a] + block[b])
  let block := block.set d (rotateLeft (block[d] ^^^ block[a]) 8)
  let block := block.set c (block[c] + block[d])
  block.set b (rotateLeft (block[b] ^^^ block[c]) 7)

/-- A round over the columns and a round over the diagonals. -/
def doubleRound (block : Block) : Block :=
  let block := quarterRound block 0 4 8 12
  let block := quarterRound block 1 5 9 13
  let block := quarterRound block 2 6 10 14
  let block := quarterRound block 3 7 11 15
  let block := quarterRound block 0 5 10 15
  let block := quarterRound block 1 6 11 12
  let block := quarterRound block 2 7 8 13
  quarterRound block 3 4 9 14

/-- The block that is mixed for a count: four constants, the key, the count, and two zeros. -/
def startBlock (key : List UInt32) (count : UInt64) : Block :=
  let word (index : Nat) : UInt32 := key.getD index 0
  #v[0x61707865, 0x3320646e, 0x79622d32, 0x6b206574,
    word 0, word 1, word 2, word 3, word 4, word 5, word 6, word 7,
    count.toUInt32, (count >>> 32).toUInt32, 0, 0]

/-- Twelve rounds. -/
def mix (block : Block) : Block := Nat.repeat doubleRound 6 block

/-- The words of the stream for a count: the mixed block plus the block that was mixed. -/
def streamBlock (key : List UInt32) (count : UInt64) : List UInt32 :=
  let start := startBlock key count
  (Vector.zipWith (· + ·) (mix start) start).toList

/-- A place in the stream of a key: the words that are left of the last block, and the count of the
next block. -/
structure Draws where
  key : List UInt32
  pending : List UInt32
  count : UInt64

/-- The start of the stream of a seed. -/
def Draws.ofSeed (seed : UInt64) : Draws := ⟨keyOfSeed seed, [], 0⟩

/-- Takes the next 64 bits, the lower word first. -/
def Draws.next (draws : Draws) : UInt64 × Draws :=
  match draws.pending with
  | low :: high :: rest =>
    (low.toUInt64 ||| high.toUInt64 <<< 32, { draws with pending := rest })
  | _ =>
    match streamBlock draws.key draws.count with
    | low :: high :: rest =>
      (low.toUInt64 ||| high.toUInt64 <<< 32, ⟨draws.key, rest, draws.count + 1⟩)
    | _ => (0, draws)

/-- The largest lower half of a product that is accepted when drawing below a bound. -/
def acceptedZone (bound : Nat) : Nat := bound * Nat.pow 2 (63 - bound.log2) - 1

/-- Draws a number below a bound, giving up after a number of refused draws. -/
def Draws.belowWithin (bound : Nat) : Nat → Draws → Nat × Draws
  | 0, draws => (0, draws)
  | tries + 1, draws =>
    let (value, later) := draws.next
    let product := value.toNat * bound
    if product % Nat.pow 2 64 ≤ acceptedZone bound then (product / Nat.pow 2 64, later)
    else belowWithin bound tries later

/-- Draws a number below a positive bound. A draw is refused with a chance of less than one half, so
that a thousand refusals in a row do not happen. -/
def Draws.below (bound : Nat) (draws : Draws) : Nat × Draws := draws.belowWithin bound 1000

theorem Draws.belowWithin_lt {bound : Nat} (positive : 0 < bound) (tries : Nat) (draws : Draws) :
    (draws.belowWithin bound tries).1 < bound := by
  induction tries generalizing draws with
  | zero => exact positive
  | succ tries inductionHypothesis =>
    rw [belowWithin]
    dsimp only
    split
    · exact Nat.div_lt_of_lt_mul (Nat.mul_lt_mul_of_pos_right draws.next.1.toNat_lt positive)
    · exact inductionHypothesis _

/-- The streams of the cipher. -/
def cipherSource : NumberSource where
  Place := Draws
  ofSeed := Draws.ofSeed
  below := Draws.below
  below_lt positive place := place.belowWithin_lt positive 1000

end StepSequencer.Pattern
