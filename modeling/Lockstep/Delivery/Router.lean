import Lockstep.Buffer

/-!
Routers: where a message goes.

A router is given the sender, the words of the message and the number of nodes, and names the
destinations in the order they are served. It may name a node twice, the sender, or a node the
network does not have; the network drops the last. A router is a function without state: programs
and random sources carry one from call to call, but a router asked the same answers the same.

Within a network the sender is one of its nodes, and every router has an answer. An `Addressing`
names a router that can also be asked about any sender and any number of nodes: `resolve` finds
that there is no answer where the arithmetic leaves the words.
-/
namespace Lockstep

/-- The destinations of a message, from its sender, its words and the number of nodes. -/
abbrev Router := (sender : Nat) → (payload : Cells) → (nodeCount : Nat) → List Nat

namespace Router

/-- Every node but the sender, ascending. -/
def broadcast : Router := fun sender _ nodeCount =>
  (List.range nodeCount).filter (· != sender)

/-- The next node, the first coming after the last. A node on its own has no next. -/
def ring : Router := fun sender _ nodeCount =>
  if 1 < nodeCount then [(sender + 1) % nodeCount] else []

/-- The node a word names: its remainder by the number of nodes, never negative. The number of
nodes is itself read as a word. -/
def addressee (word : Cell) (nodeCount : Nat) : Nat :=
  (word.toInt % (Cell.ofCount nodeCount).toInt).toNat

/-- The node named by the message word at `offset`. There is none if the message is too short, if
there are no nodes, or if the word names the sender. -/
def directed (offset : Nat) : Router := fun sender payload nodeCount =>
  match payload[offset]? with
  | none => []
  | some word =>
    if nodeCount = 0 then []
    else if addressee word nodeCount = sender then [] else [addressee word nodeCount]

/-- The same destinations for every message. -/
def fixed (destinations : List Nat) : Router := fun _ _ _ => destinations

end Router

/-- The ways to address messages. -/
inductive Addressing where
  | ring
  | broadcast
  | directed (offset : Nat)
  | fixed (destinations : List Nat)
  deriving DecidableEq

namespace Addressing

/-- The router that addresses messages this way. -/
def router : Addressing → Router
  | .ring => Router.ring
  | .broadcast => Router.broadcast
  | .directed offset => Router.directed offset
  | .fixed destinations => Router.fixed destinations

/-- The arithmetic leaves the words: the greatest number has no successor, and the least word has
no remainder by minus one, because their quotient is no word. It takes a sender outside the
network, or a number of nodes that reads as minus one, to ask for either. -/
def overflows (addressing : Addressing) (sender : Nat) (payload : Cells) (nodeCount : Nat) :
    Bool :=
  match addressing with
  | .ring => decide (1 < nodeCount) && sender + 1 == wordCount
  | .directed offset =>
    payload[offset]? == some Int64.minValue && nodeCount != 0 && Cell.ofCount nodeCount == -1
  | _ => false

/-- The destinations of a message from any sender, in a network of any size. -/
def resolve (addressing : Addressing) (sender : Nat) (payload : Cells) (nodeCount : Nat) :
    Except Breach (List Nat) :=
  if addressing.overflows sender payload nodeCount then .error .wordOverflow
  else .ok (addressing.router sender payload nodeCount)

end Addressing

end Lockstep
