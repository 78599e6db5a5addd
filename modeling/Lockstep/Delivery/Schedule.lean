import Lockstep.Fault

/-!
The delivery schedule: which buffers arrive in which tick.

Buffers wait in buckets, one for each arrival tick that has any, in ascending order of ticks.
Within a bucket they keep the order they were scheduled in. The storage of an emptied bucket is
set aside and used for the next new one.
-/
namespace Lockstep

/-- Buffers on their way, by arrival tick. -/
structure Schedule where
  /-- The ticks with waiting buffers, ascending, each with its slots in scheduling order. -/
  buckets : List (Nat × Array Nat)
  /-- Emptied buckets kept for their storage. -/
  spare : List (Array Nat)
  /-- How many buffers wait. -/
  inFlight : Nat
  deriving DecidableEq

namespace Schedule

/-- A schedule with nothing on its way. -/
def empty : Schedule :=
  ⟨[], [], 0⟩

/-- Adds a slot to the bucket of a tick. A new bucket, made from `fresh`, goes to its place in the
order. The answer tells whether `fresh` was used. -/
def insert (tick slot : Nat) (fresh : Array Nat) :
    List (Nat × Array Nat) → List (Nat × Array Nat) × Bool
  | [] => ([(tick, fresh.push slot)], true)
  | (due, bucket) :: later =>
    if tick < due then ((tick, fresh.push slot) :: (due, bucket) :: later, true)
    else if tick = due then ((due, bucket.push slot) :: later, false)
    else
      let (later, used) := insert tick slot fresh later
      ((due, bucket) :: later, used)

/-- Schedules a slot for a tick. -/
def schedule (waiting : Schedule) (tick slot : Nat) : Schedule :=
  let (buckets, used) := insert tick slot (waiting.spare.headD #[]) waiting.buckets
  { buckets
    spare := if used then waiting.spare.tail else waiting.spare
    inFlight := waiting.inFlight + 1 }

/-- Hands over the slots due in a tick, in scheduling order. -/
def drain (waiting : Schedule) (tick : Nat) : Except Breach (List Nat × Schedule) :=
  match waiting.buckets.find? (·.1 == tick) with
  | none => .ok ([], waiting)
  | some (_, bucket) => do
    let inFlight ← Breach.checkedSub waiting.inFlight bucket.size
    return (bucket.toList,
      { buckets := waiting.buckets.filter (·.1 != tick)
        spare := bucket.shrink 0 :: waiting.spare
        inFlight })

/-- Hands over every slot, by tick and then in scheduling order. -/
def clear (waiting : Schedule) : List Nat × Schedule :=
  (waiting.buckets.flatMap (·.2.toList),
    { buckets := []
      spare := waiting.buckets.foldl (fun spare bucket => bucket.2.shrink 0 :: spare) waiting.spare
      inFlight := 0 })

/-- How many ticks have waiting buffers. -/
def pendingTicks (waiting : Schedule) : Nat :=
  waiting.buckets.length

end Schedule

end Lockstep
