import Lockstep.Program.Interaction

/-!
Programs: what a node runs once a tick.
-/
namespace Lockstep

/-- How a program ends its tick. -/
inductive Signal where
  | continue
  /-- Sends the prepared message. -/
  | send
  /-- Takes no further part in the run. -/
  | halt
  | fault (fault : Fault)
  deriving DecidableEq

/-- Where a program runs. -/
structure Place where
  /-- The number of the node. -/
  index : Nat
  /-- How many nodes the network has. -/
  count : Nat
  deriving DecidableEq

/-- A program that may keep a state of its own between calls. The programs of a network share one
state, so that they can also affect each other behind its back. -/
abbrev Program (σ : Type) := Place → σ → Interaction (σ × Signal)

/-- A program that depends on nothing but what it sees of its node. -/
def Program.ofView {σ : Type} (act : Place → Interaction Signal) : Program σ := fun place state =>
  (act place).bind fun signal => .done (state, signal)

end Lockstep
