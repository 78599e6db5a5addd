import Lockstep.Node.Basic

/-!
Steps: what a node does in a tick.

In a step a node takes one message from its queue, rolls its memory, runs its program on it and, if
asked to, puts a message into its outbox. A step that changes nothing is idle.
-/
namespace Lockstep.Node

/-- A step's outcome is noted on the node. -/
def finish (node : Node) (outcome : StepOutcome) : Node :=
  { node with last := some outcome }

/-- Delivers the oldest message of the queue to memory and gives its buffer back. The outcome is a
change if there was one. -/
def consume (table : SymbolTable) (node : Node) (pool : Pool) :
    Except Breach (StepOutcome × Node × Pool) :=
  match node.pending with
  | [] => .ok (.unchanged, node, pool)
  | slot :: pending => do
    let message ← pool.message slot
    let memory ← node.memory.deliver table message.payload
    let pool ← pool.release slot
    return (.changed, { node with memory, pending, received := node.received + 1 }, pool)

/-- Puts the prepared message into the outbox, or answers nothing if there is no buffer for it. -/
def post (table : SymbolTable) (node : Node) (pool : Pool) :
    Except Breach (Option (Node × Pool)) := do
  match ← pool.allocate with
  | none => return none
  | some (slot, pool) =>
    let payload ← node.memory.payload table
    let message ← pool.message slot
    if message.payload.size = payload.size then
      let pool ← pool.setMessage slot { message with payload, source := node.place.index }
      return some ({ node with outbox := some slot, sent := node.sent + 1 }, pool)
    else throw .lengthMismatch

/-- The node takes no further part. Messages in its queue are dropped. -/
def terminate (node : Node) (pool : Pool) : Except Breach (Node × Pool) := do
  let pool ← pool.releaseAll node.pending
  return ({ node with
    state := .terminated, pending := [], dropped := node.dropped + node.pending.length }, pool)

/-- Ends a step that did not fail: an idle one is counted. -/
def settle (node : Node) (outcome : StepOutcome) : Node :=
  { node with
    idle := if outcome = StepOutcome.unchanged then node.idle + 1 else node.idle }.finish outcome

/-- What is left of a step when the program has ended without a fault: the message goes to the
outbox, a halt takes effect and the outcome is noted. -/
def conclude (table : SymbolTable) (node : Node) (pool : Pool) (consumed : StepOutcome)
    (sends halts : Bool) : Except Breach (StepOutcome × Node × Pool) := do
  let change ← node.memory.hasPendingChange table
  let outcome := if change then consumed.combine .changed else consumed
  let posted ← if sends then node.post table pool else .ok (some (node, pool))
  match posted with
  | none => return (.failed .poolExhausted, node.finish (.failed .poolExhausted), pool)
  | some (node, pool) =>
    let outcome := if sends then outcome.combine .changed else outcome
    let (node, pool) ← if halts then node.terminate pool else .ok (node, pool)
    return (outcome, node.settle outcome, pool)

/-- What a step leaves behind. -/
structure Stepped (σ : Type) where
  outcome : StepOutcome
  node : Node
  pool : Pool
  /-- The state the programs share. -/
  shared : σ

/-- The node's part in a tick. A terminated node is idle. -/
def step {σ : Type} (table : SymbolTable) (program : Program σ) (node : Node) (pool : Pool)
    (shared : σ) : Except Breach (Stepped σ) :=
  match node.state with
  | .uninitialized => .error (.notStarted node.place.index)
  | .terminated => .ok ⟨.unchanged, node.settle .unchanged, pool, shared⟩
  | .ready => do
    let (consumed, node, pool) ← node.consume table pool
    let ((shared, signal), memory, requested) ←
      (program node.place shared).run table (node.memory.roll table) false
    let node := { node with memory }
    match signal with
    | .fault fault =>
      return ⟨.failed (.fault fault), node.finish (.failed (.fault fault)), pool, shared⟩
    | signal =>
      let (outcome, node, pool) ←
        node.conclude table pool consumed (requested || signal == .send) (signal == .halt)
      return ⟨outcome, node, pool, shared⟩

end Lockstep.Node
