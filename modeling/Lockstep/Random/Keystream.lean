/-!
The keystream that seeded random numbers are taken from.

A seed is stretched to a key of eight words; the key and a block counter are mixed by eight rounds
of the ChaCha function to blocks of sixteen words of 32 bits. Read in order and in pairs, the words
of the blocks are the keystream: an endless row of words of 64 bits, fixed by the seed.
-/
namespace Lockstep

/-- The state of the mixing function: four rows of four words. -/
abbrev Block := Vector UInt32 16

/-- Rotates a word to the left. -/
def rotateLeft (word amount : UInt32) : UInt32 :=
  (word <<< amount) ||| (word >>> (32 - amount))

namespace Block

/-- Adds a word to another, and turns a third by the sum. -/
def mix (block : Block) (sum addend turned : Fin 16) (amount : UInt32) : Block :=
  let total := block[sum] + block[addend]
  (block.set sum total).set turned (rotateLeft (block[turned] ^^^ total) amount)

/-- Mixes four words of the block. -/
def quarterRound (block : Block) (a b c d : Fin 16) : Block :=
  (((block.mix a b d 16).mix c d b 12).mix a b d 8).mix c d b 7

/-- Mixes the columns of the block and then its diagonals. -/
def doubleRound (block : Block) : Block :=
  let block := (((block.quarterRound 0 4 8 12).quarterRound 1 5 9 13).quarterRound 2 6 10 14)
    |>.quarterRound 3 7 11 15
  (((block.quarterRound 0 5 10 15).quarterRound 1 6 11 12).quarterRound 2 7 8 13)
    |>.quarterRound 3 4 9 14

/-- Eight rounds, and the block they started from added to their result. -/
def scramble (block : Block) : Block :=
  let mixed := block.doubleRound.doubleRound.doubleRound.doubleRound
  Vector.zipWith (· + ·) block mixed

end Block

/-- The key of a keystream. -/
abbrev StreamKey := Vector UInt32 8

namespace StreamKey

/-- The state of the seed's generator after it. -/
def nextSeedState (state : UInt64) : UInt64 :=
  state * 6364136223846793005 + 11634580027462260723

/-- The word of a state: some of its middle bits, turned by its highest. -/
def seedWord (state : UInt64) : UInt32 :=
  let folded := (((state >>> 18) ^^^ state) >>> 27).toUInt32
  let amount := (state >>> 59).toUInt32
  (folded >>> amount) ||| (folded <<< ((32 - amount) &&& 31))

/-- Stretches a seed to a key. -/
def ofSeed (seed : UInt64) : StreamKey :=
  let states := Vector.ofFn fun position : Fin 8 => position.val.fold (fun _ _ => nextSeedState)
    (nextSeedState seed)
  states.map seedWord

/-- The block of a counter. -/
def block (key : StreamKey) (counter : UInt64) : Block :=
  let constants : Vector UInt32 4 := #v[0x61707865, 0x3320646e, 0x79622d32, 0x6b206574]
  let position : Vector UInt32 4 := #v[counter.toUInt32, (counter >>> 32).toUInt32, 0, 0]
  Block.scramble (constants ++ key ++ position)

/-- The keystream word at a position: two words of a block, the first of them the lower half. -/
def word (key : StreamKey) (position : Nat) : UInt64 :=
  let block := key.block (UInt64.ofNat (position / 8))
  let low := block[2 * (position % 8)]
  let high := block[2 * (position % 8) + 1]
  (high.toUInt64 <<< 32) ||| low.toUInt64

end StreamKey

end Lockstep
