import Lockstep.Network.Tick

/-!
Runs of a network, from its start to a report.

A run ends when its ticks are used up, when every node has halted, when the network has been idle
for long enough, or at the first failure.
-/
namespace Lockstep

namespace Network

variable {ρ σ : Type}

/-- Every node has halted. -/
def State.allTerminated (state : State ρ σ) : Bool :=
  state.nodes.all Node.isTerminated

/-- The network has been idle for as long as its settings ask for, and no message is left. -/
def quiescent (network : Network ρ σ) (state : State ρ σ) : Bool :=
  match network.config.quiescence with
  | none => false
  | some window => decide (window ≤ state.tally.idleStreak) && state.pool.inUse == 0

/-- The report of a node. -/
def reportNode (node : Node) : NodeReport where
  index := node.place.index
  finalState := node.memory.current
  idleStepCount := node.idle
  messagesSent := node.sent
  messagesReceived := node.received
  halted := node.isTerminated

/-- Messages that were in the queues of nodes when they halted. -/
def State.droppedByNodes (state : State ρ σ) : Nat :=
  state.nodes.toList.foldl (fun total node => total + node.dropped) 0

/-- The report of a run that has come to this state. -/
def State.report (state : State ρ σ) (outcome : RunOutcome) (ticksRun : Nat) : RunResult where
  outcome
  ticksRun
  nodes := state.nodes.toList.map reportNode
  stats :=
    { messagesSent := state.tally.sent
      messagesDelivered := state.tally.delivered
      messagesDropped := state.tally.dropped + state.droppedByNodes
      peakInFlight := state.pool.peak
      idleTicks := state.tally.idleTicks
      consecutiveIdleTicks := state.tally.idleStreak }

/-- Starts one node over, with the nodes before it done. -/
def beginNode (table : SymbolTable) (before : Array Node × Pool) (node : Node) :
    Except Breach (Array Node × Pool) := do
  let (node, pool) ← node.begin table before.2
  return (before.1.push node, pool)

/-- Gives back every buffer and starts every node over. What earlier runs left in the buffers and
in the random state stays. -/
def begin (network : Network ρ σ) (state : State ρ σ) : Except Breach (State ρ σ) := do
  let (waiting, schedule) := state.schedule.clear
  let pool ← state.pool.releaseAll waiting
  let (nodes, pool) ← state.nodes.toList.foldlM (beginNode network.table) (#[], pool)
  return { state with nodes, schedule, pool := pool.reset, tally := {} }

/-- Runs at most `remaining` more ticks, the first of which is `number`. -/
def advance (network : Network ρ σ) :
    (remaining number : Nat) → State ρ σ → Except Breach (RunResult × State ρ σ)
  | 0, number, state => .ok (state.report .completed number, state)
  | remaining + 1, number, state =>
    match network.tick number state with
    | .error (.breach breach) => .error breach
    | .error (.failure state node cause) =>
      .ok (state.report (.failed number node cause) number, state)
    | .ok state =>
      if state.allTerminated || network.quiescent state then
        .ok (state.report .completed (number + 1), state)
      else network.advance remaining (number + 1) state

/-- A run of at most `maxTicks` ticks, from the start. -/
def run (network : Network ρ σ) (maxTicks : Nat) (state : State ρ σ) :
    Except Breach (RunResult × State ρ σ) := do
  let state ← network.begin state
  network.advance maxTicks 0 state

end Network

end Lockstep
