import Lockstep.Delivery.Router
import Lockstep.Delivery.Schedule
import Lockstep.Network.Report
import Lockstep.Node.Step
import Lockstep.Random.Source
import Lockstep.Table.Validity

/-!
Networks: nodes on a common clock, with what carries messages between them.

A `Network` holds what a run does not change; a `Network.State` what it does.
-/
namespace Lockstep

/-- The fixed parts of a network. Its random source works on states of type `ρ`, and its programs
share a state of type `σ`. -/
structure Network (ρ σ : Type) where
  table : SymbolTable
  config : NetworkConfig
  /-- The program of each node. -/
  program : Nat → Program σ
  router : Router
  source : Source ρ

namespace Network

variable {ρ σ : Type}

/-- A network whose settings and table are valid. -/
def build (table : SymbolTable) (config : NetworkConfig) (program : Nat → Program σ)
    (router : Router) (source : Source ρ) : Except ConfigError (Network ρ σ) := do
  config.validate
  table.validate
  return { table, config, program, router, source }

/-- A network with a program of its own for each node. There must be as many programs as nodes. -/
def buildWith (table : SymbolTable) (config : NetworkConfig) (programs : List (Program σ))
    (router : Router) (source : Source ρ) : Except ConfigError (Network ρ σ) :=
  if programs.length ≠ config.nodeCount then
    .error (.programCount config.nodeCount programs.length)
  else
    build table config
      (fun node => programs[node]?.getD (.ofView fun _ => .done .continue)) router source

/-- What is counted during a run. -/
structure Tally where
  /-- Copies of messages scheduled. -/
  sent : Nat := 0
  /-- Messages put into a queue. -/
  delivered : Nat := 0
  /-- Messages that came due for a terminated node. -/
  dropped : Nat := 0
  idleTicks : Nat := 0
  /-- Idle ticks since the last that was not. -/
  idleStreak : Nat := 0
  deriving DecidableEq

/-- The parts of a network that a run changes. -/
structure State (ρ σ : Type) where
  nodes : Array Node
  pool : Pool
  schedule : Schedule
  random : ρ
  /-- The state the programs share. -/
  shared : σ
  tally : Tally

/-- The state before the first run. -/
def initial (network : Network ρ σ) (random : ρ) (shared : σ) : State ρ σ where
  nodes := Array.ofFn fun index : Fin network.config.nodeCount =>
    Node.new network.table ⟨index, network.config.nodeCount⟩
  pool := .new network.config.capacity network.table.payloadSize
  schedule := .empty
  random
  shared
  tally := {}

/-- What keeps a tick from going on. -/
inductive Stop (ρ σ : Type) where
  | breach (breach : Breach)
  /-- A step or dispatch of `node` failed, and left this state behind. -/
  | failure (state : State ρ σ) (node : Nat) (cause : FailureCause)

/-- Work that may be stopped. -/
abbrev Stoppable (ρ σ : Type) := Except (Stop ρ σ)

/-- Work that can only break a contract. -/
def guarded {α : Type} (work : Except Breach α) : Stoppable ρ σ α :=
  work.mapError .breach

/-- The node of a number. -/
def State.node (state : State ρ σ) (index : Nat) : Except Breach Node :=
  match state.nodes[index]? with
  | some node => .ok node
  | none => .error .outOfBounds

/-- The state with another node at a number. -/
def State.setNode (state : State ρ σ) (index : Nat) (node : Node) : State ρ σ :=
  { state with nodes := state.nodes.setIfInBounds index node }

end Network

end Lockstep
