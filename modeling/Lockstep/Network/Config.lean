import Lockstep.Fault

/-!
The settings of a network and the reasons to refuse them.

`NetworkConfig.validate` answers the first reason in a fixed order: nodes, delay window, capacity.
-/
namespace Lockstep

/-- What makes a symbol table inconsistent. -/
inductive TableDefect where
  /-- A symbol's number is not its position. -/
  | misnumbered
  /-- A section or a special symbol lies outside the table. -/
  | outside
  /-- The policies kept for each cell are not those of its symbol. -/
  | policies
  deriving DecidableEq

/-- The wording of a table defect. -/
def TableDefect.message : TableDefect → String
  | .misnumbered => "symbol ids do not match cell positions"
  | .outside => "symbol range outside the table"
  | .policies => "cell policies disagree with symbols"

/-- Why a network cannot be built. -/
inductive ConfigError where
  | noNodes
  | invalidDelay (min max : Nat)
  | zeroCapacity
  | programCount (expected got : Nat)
  | payloadMismatch (send receive : Nat)
  | inconsistentTable (defect : TableDefect)
  deriving DecidableEq

/-- The wording of a refusal. -/
def ConfigError.message : ConfigError → String
  | .noNodes => "network must have at least one node"
  | .invalidDelay min max =>
    "invalid delay window [" ++ toString min ++ ", " ++ toString max ++
      "]: require 0 < min <= max"
  | .zeroCapacity => "max_pending_messages must be at least 1"
  | .programCount expected got =>
    "expected " ++ toString expected ++ " programs, got " ++ toString got
  | .payloadMismatch send receive =>
    "send range has " ++ toString send ++ " symbols but receive range has " ++ toString receive
  | .inconsistentTable defect => "inconsistent symbol table: " ++ defect.message

/-- The settings of a network. -/
structure NetworkConfig where
  /-- How many nodes there are. -/
  nodeCount : Nat := 3
  /-- The least number of ticks a message travels. -/
  minDelay : Nat := 1
  /-- The greatest number of ticks a message travels. -/
  maxDelay : Nat := 3
  /-- How many message buffers the pool has. -/
  capacity : Nat := 64
  /-- After how many idle ticks in a row a run ends early, if it ever does. -/
  quiescence : Option Nat := none
  deriving DecidableEq

/-- A network needs a node, a delay window that starts after zero and is not empty, and a message
buffer. -/
def NetworkConfig.validate (config : NetworkConfig) : Except ConfigError Unit :=
  if config.nodeCount = 0 then .error .noNodes
  else if config.minDelay = 0 ∨ config.maxDelay < config.minDelay then
    .error (.invalidDelay config.minDelay config.maxDelay)
  else if config.capacity = 0 then .error .zeroCapacity
  else .ok ()

end Lockstep
