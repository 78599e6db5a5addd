import Lockstep.Delivery.Pool
import Lockstep.Node.Memory
import Lockstep.Program.Basic

/-!
A node: its memory, its queue of messages and its part in each tick.

Messages wait in the queue until the node consumes them, one in each tick, and in the outbox until
the network sends them on. Both hold buffers of the message pool.
-/
namespace Lockstep

/-- Where a node is in its life. -/
inductive Lifecycle where
  | uninitialized
  | ready
  /-- The node's program has halted. -/
  | terminated
  deriving DecidableEq

/-- Why a step failed. -/
inductive StepError where
  | fault (fault : Fault)
  /-- There was no buffer for the message to send. -/
  | poolExhausted
  deriving DecidableEq

/-- What came of a step. -/
inductive StepOutcome where
  | unchanged
  | changed
  | failed (error : StepError)
  deriving DecidableEq

/-- The outcome of two things together: the first failure, else a change if either is one. -/
def StepOutcome.combine : StepOutcome → StepOutcome → StepOutcome
  | .failed error, _ => .failed error
  | _, .failed error => .failed error
  | .changed, _ => .changed
  | _, .changed => .changed
  | .unchanged, .unchanged => .unchanged

/-- The outcome is a failure. -/
def StepOutcome.isError : StepOutcome → Bool
  | .failed _ => true
  | _ => false

/-- A node of a network. -/
structure Node where
  place : Place
  memory : Memory
  /-- Messages delivered and not yet consumed, by slot, the oldest first. -/
  pending : List Nat
  /-- The message to be sent, by slot. -/
  outbox : Option Nat
  state : Lifecycle
  /-- Steps that changed nothing. -/
  idle : Nat
  /-- Messages sent, each counted once however many nodes it goes to. -/
  sent : Nat
  received : Nat
  /-- Messages that were in the queue when the node halted. -/
  dropped : Nat
  /-- What came of the latest step. -/
  last : Option StepOutcome
  deriving DecidableEq

namespace Node

/-- A node that has not begun. -/
def new (table : SymbolTable) (place : Place) : Node where
  place
  memory := .new table
  pending := []
  outbox := none
  state := .uninitialized
  idle := 0
  sent := 0
  received := 0
  dropped := 0
  last := none

/-- The node has halted. -/
def isTerminated (node : Node) : Bool :=
  node.state == .terminated

/-- Gives all buffers of the node back to the pool, the queue first. -/
def discardMessages (node : Node) (pool : Pool) : Except Breach (Node × Pool) := do
  let pool ← pool.releaseAll node.pending
  let pool ← pool.releaseAll node.outbox.toList
  return ({ node with pending := [], outbox := none }, pool)

/-- Starts the node over. -/
def begin (table : SymbolTable) (node : Node) (pool : Pool) : Except Breach (Node × Pool) := do
  let (node, pool) ← node.discardMessages pool
  let memory ← node.memory.begin table node.place.index node.place.count
  return ({ node with
    memory, state := .ready, idle := 0, sent := 0, received := 0, dropped := 0, last := none }, pool)

/-- Adds a message to the queue. -/
def enqueue (node : Node) (slot : Nat) : Node :=
  { node with pending := node.pending ++ [slot] }

/-- Takes the message out of the outbox. -/
def takeOutbox (node : Node) : Option Nat × Node :=
  (node.outbox, { node with outbox := none })

end Node

end Lockstep
