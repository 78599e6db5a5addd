import Lockstep.Cell
import Lockstep.Random.Keystream
import Lockstep.Random.Source

/-!
Seeded random numbers.

A number below `range` is made from a keystream word by multiplying the two and keeping what
carries over into the next word. Words whose product falls into the uneven rest of the word range
are passed over, so that every number is made from equally many words.
-/
namespace Lockstep

/-- A generator of random numbers: a keystream and how much of it has been read. -/
structure Seeded where
  seed : UInt64
  key : StreamKey
  position : Nat
  deriving DecidableEq

namespace Seeded

/-- The generator of a seed. -/
def new (seed : UInt64) : Seeded :=
  ⟨seed, .ofSeed seed, 0⟩

/-- Reads the next word of the keystream. -/
def nextWord (generator : Seeded) : UInt64 × Seeded :=
  (generator.key.word generator.position, { generator with position := generator.position + 1 })

/-- Reads words one after another. -/
def words : Nat → Seeded → List UInt64
  | 0, _ => []
  | count + 1, generator =>
    let (word, generator) := generator.nextWord
    word :: words count generator

/-- The largest product of `range` and a power of two that is no more than `wordCount`. -/
def zone (range : Nat) : Nat :=
  range <<< (63 - Nat.log2 range)

/-- The number below `range` that a word makes. -/
def scale (range : Nat) (word : UInt64) : Nat :=
  word.toNat * range / wordCount

/-- The words that numbers are made from. -/
def accepts (range : Nat) (word : UInt64) : Bool :=
  word.toNat * range % wordCount < zone range

/-- How many words a keystream has before it repeats: eight for each value of the block counter. -/
def period : Nat := 8 * wordCount

/-- The number below `range` made from the first accepted word, of at most `attempts`. -/
def search (range : Nat) : (attempts : Nat) → Seeded → Option Nat × Seeded
  | 0, generator => (none, generator)
  | attempts + 1, generator =>
    let (word, generator) := generator.nextWord
    if accepts range word then (some (scale range word), generator)
    else search range attempts generator

/-- A number from `min` to `max`. Where there is no choice, nothing is read. A keystream that is
refused for a whole period would be refused for ever; the answer is then `min`. -/
def uniform (generator : Seeded) (min max : Nat) : Nat × Seeded :=
  if max ≤ min then (min, generator)
  else
    let (offset, generator) := search (max - min + 1) period generator
    (min + offset.getD 0, generator)

/-- Seeded generators as a source of random numbers. -/
def source : Source Seeded :=
  ⟨uniform⟩

end Seeded

/-- Seeds for `count` runs, fixed by a master seed. -/
def deriveSeeds (master : UInt64) (count : Nat) : List UInt64 :=
  (Seeded.new master).words count

end Lockstep
