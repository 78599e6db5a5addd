import Lockstep.Network.Dispatch

/-!
Ticks of a network.

A tick steps every node in order, each step followed at once by the dispatch of its message, and
then delivers what is due in the next tick. The first step or dispatch that fails ends the tick
where it is.
-/
namespace Lockstep

namespace Network

variable {ρ σ : Type}

/-- The cause that a failed step is reported with. -/
def causeOf (pool : Pool) : StepError → FailureCause
  | .fault fault => .programFault fault
  | .poolExhausted => .resourceExhausted pool.capacity

/-- The turn of one node in a tick: its step, and the dispatch of what it sends. -/
def turn (network : Network ρ σ) (tick : Nat) (state : State ρ σ) (index : Nat) :
    Stoppable ρ σ (State ρ σ) := do
  let node ← guarded (state.node index)
  let stepped ← guarded
    (node.step network.table (network.program index) state.pool state.shared)
  let (outbox, node) := stepped.node.takeOutbox
  let state := { state with pool := stepped.pool, shared := stepped.shared }
  match stepped.outcome with
  | .failed error => throw (.failure (state.setNode index stepped.node) index
      (causeOf stepped.pool error))
  | _ =>
    let state := state.setNode index node
    match outbox with
    | none => return state
    | some slot => network.dispatch tick index slot state

/-- The turns of all nodes, in order. -/
def turns (network : Network ρ σ) (tick : Nat) (state : State ρ σ) :
    Stoppable ρ σ (State ρ σ) :=
  (List.range state.nodes.size).foldlM (network.turn tick) state

/-- Hands a buffer that is due to its destination, or drops it if that node has terminated. -/
def deliverOne (state : State ρ σ) (slot : Nat) : Except Breach (State ρ σ) := do
  let message ← state.pool.message slot
  let node ← state.node message.destination
  if node.isTerminated then
    let pool ← state.pool.release slot
    return { state with
      pool, tally := { state.tally with dropped := state.tally.dropped + 1 } }
  else
    let state := state.setNode message.destination (node.enqueue slot)
    return { state with
      tally := { state.tally with delivered := state.tally.delivered + 1 } }

/-- Delivers every buffer due in a tick, in scheduling order. -/
def deliverDue (tick : Nat) (state : State ρ σ) : Except Breach (State ρ σ) := do
  let (due, schedule) ← state.schedule.drain tick
  due.foldlM deliverOne { state with schedule }

/-- No node changed in its latest step. -/
def State.isIdle (state : State ρ σ) : Bool :=
  state.nodes.all fun node => node.last == some .unchanged

/-- Counts a finished tick as idle or not. -/
def State.countTick (state : State ρ σ) : State ρ σ :=
  if state.isIdle then
    { state with
      tally := { state.tally with
        idleTicks := state.tally.idleTicks + 1, idleStreak := state.tally.idleStreak + 1 } }
  else { state with tally := { state.tally with idleStreak := 0 } }

/-- One tick. -/
def tick (network : Network ρ σ) (number : Nat) (state : State ρ σ) :
    Stoppable ρ σ (State ρ σ) := do
  let state ← network.turns number state
  let state ← guarded (deliverDue (number + 1) state)
  return state.countTick

end Network

end Lockstep
