import Lockstep.Network.Basic
import Lockstep.Network.Report

/-!
Dispatch: how a message gets from an outbox onto its way.

Every destination gets a buffer of its own, with a delay of its own.
-/
namespace Lockstep

/-- The last tick there is. No message arrives later. -/
def lastTick : Nat := wordCount - 1

namespace Network

variable {ρ σ : Type}

/-- Addresses a buffer and schedules it, after a delay drawn from the window. -/
def scheduleOne (network : Network ρ σ) (tick slot destination : Nat) (state : State ρ σ) :
    Except Breach (State ρ σ) := do
  let (delay, random) :=
    network.source.draw state.random network.config.minDelay network.config.maxDelay
  let arrival := min (tick + delay) lastTick
  let message ← state.pool.message slot
  let pool ← state.pool.setMessage slot { message with destination, arrival }
  return { state with
    pool, random
    schedule := state.schedule.schedule arrival slot
    tally := { state.tally with sent := state.tally.sent + 1 } }

/-- Schedules the message of a slot for every destination. The last gets the buffer itself and the
others get copies, made in order. If the pool runs out, the buffer is given back and what was
scheduled stays. -/
def scheduleCopies (network : Network ρ σ) (tick sender slot : Nat) :
    List Nat → State ρ σ → Stoppable ρ σ (State ρ σ)
  | [], state => do
    let pool ← guarded (state.pool.release slot)
    return { state with pool }
  | [destination], state => guarded (network.scheduleOne tick slot destination state)
  | destination :: rest, state => do
    match ← guarded (state.pool.duplicate slot) with
    | none =>
      let pool ← guarded (state.pool.release slot)
      throw (.failure { state with pool } sender (.resourceExhausted pool.capacity))
    | some (copy, pool) =>
      let state ← guarded (network.scheduleOne tick copy destination { state with pool })
      network.scheduleCopies tick sender slot rest state

/-- Sends the message of a slot where the router says. Nodes the network does not have are left
out. -/
def dispatch (network : Network ρ σ) (tick sender slot : Nat) (state : State ρ σ) :
    Stoppable ρ σ (State ρ σ) := do
  let message ← guarded (state.pool.message slot)
  let count := state.nodes.size
  let destinations := (network.router sender message.payload count).filter (· < count)
  network.scheduleCopies tick sender slot destinations state

end Network

end Lockstep
