import Lockstep.Buffer

/-!
The message pool: a fixed number of buffers, handed out and given back.

A buffer is named by its slot. Slots are created on demand and used again, the one given back last
first. `peak` is the greatest number of buffers in use at once since the pool was last reset.
-/
namespace Lockstep

/-- A message buffer. -/
structure Message where
  payload : Cells
  /-- The node that sent it. -/
  source : Nat
  /-- The node it goes to. -/
  destination : Nat
  /-- The tick it arrives in. -/
  arrival : Nat
  deriving DecidableEq

/-- A message of zeros with no sender or receiver set. -/
def Message.blank (size : Nat) : Message :=
  ⟨Cells.zeros size, 0, 0, 0⟩

/-- The buffers of a network. -/
structure Pool where
  /-- Every buffer created so far, by slot. -/
  slots : Array Message
  /-- The slots that are not in use, the next to hand out first. -/
  free : List Nat
  capacity : Nat
  payloadSize : Nat
  inUse : Nat
  peak : Nat
  deriving DecidableEq

namespace Pool

/-- A pool of `capacity` buffers, none of them created yet. -/
def new (capacity payloadSize : Nat) : Pool :=
  ⟨#[], [], capacity, payloadSize, 0, 0⟩

/-- How many more buffers the pool can hand out. -/
def available (pool : Pool) : Nat :=
  pool.capacity - pool.inUse

/-- The message in a slot. -/
def message (pool : Pool) (slot : Nat) : Except Breach Message :=
  match pool.slots[slot]? with
  | some message => .ok message
  | none => .error .outOfBounds

/-- The pool with another message in a slot. -/
def setMessage (pool : Pool) (slot : Nat) (message : Message) : Except Breach Pool :=
  if slot < pool.slots.size then
    .ok { pool with slots := pool.slots.setIfInBounds slot message }
  else .error .outOfBounds

/-- Counts a buffer as in use. -/
def countUse (pool : Pool) : Pool :=
  { pool with inUse := pool.inUse + 1, peak := max pool.peak (pool.inUse + 1) }

/-- Hands out a buffer with a message of zeros, or nothing if all are in use. A slot used again
keeps the length its payload had. -/
def allocate (pool : Pool) : Except Breach (Option (Nat × Pool)) :=
  if pool.capacity ≤ pool.inUse then .ok none
  else
    match pool.free with
    | slot :: free => do
      let stale ← pool.message slot
      let cleared ← { pool with free }.setMessage slot (.blank stale.payload.size)
      return some (slot, cleared.countUse)
    | [] =>
      let slots := pool.slots.push (.blank pool.payloadSize)
      .ok (some (pool.slots.size, { pool with slots }.countUse))

/-- Copies payload and sender from one slot to another whose payload is as long. -/
def copyMessage (pool : Pool) (donor copy : Nat) : Except Breach Pool := do
  if donor = copy then throw .outOfBounds
  let source ← pool.message donor
  let target ← pool.message copy
  if source.payload.size = target.payload.size then
    pool.setMessage copy { target with payload := source.payload, source := source.source }
  else throw .lengthMismatch

/-- Hands out a buffer with the payload and sender of another, or nothing if all are in use. -/
def duplicate (pool : Pool) (donor : Nat) : Except Breach (Option (Nat × Pool)) := do
  match ← pool.allocate with
  | none => return none
  | some (copy, pool) => return some (copy, ← pool.copyMessage donor copy)

/-- Takes a buffer back. -/
def release (pool : Pool) (slot : Nat) : Except Breach Pool := do
  let inUse ← Breach.checkedSub pool.inUse 1
  return { pool with free := slot :: pool.free, inUse }

/-- Takes the buffers of a list back, in its order. -/
def releaseAll (pool : Pool) (slots : List Nat) : Except Breach Pool :=
  slots.foldlM release pool

/-- Takes every buffer back at once and forgets the peak. Slots are handed out again in the order
they were created. -/
def reset (pool : Pool) : Pool :=
  { pool with free := List.range pool.slots.size, inUse := 0, peak := 0 }

end Pool

end Lockstep
