import Lockstep.Node.Memory

/-!
Interactions: all that a program may do with its node.

A program sees its node through a few operations on memory. An `Interaction` is the tree of all
that it may do with them: each node of the tree is an operation, and its branches are the possible
answers. Whatever uses the operations and comes to an end is such a tree, and nothing else can
reach the node.
-/
namespace Lockstep

/-- Use of a node's memory that ends with a result. -/
inductive Interaction (α : Type) : Type where
  | done (result : α)
  /-- Reads a cell of this tick. -/
  | read (symbol : SymbolId) (next : Cell → Interaction α)
  /-- Reads a cell prepared for the next tick. -/
  | readNext (symbol : SymbolId) (next : Cell → Interaction α)
  /-- Writes a cell for the next tick. The answer is the fault of a refused write. -/
  | write (symbol : SymbolId) (word : Cell) (next : Option Fault → Interaction α)
  /-- Asks for the prepared message to be sent. -/
  | requestSend (next : Unit → Interaction α)

namespace Interaction

/-- One interaction after another. -/
def bind {α β : Type} (first : Interaction α) (second : α → Interaction β) : Interaction β :=
  match first with
  | .done result => second result
  | .read symbol next => .read symbol fun word => (next word).bind second
  | .readNext symbol next => .readNext symbol fun word => (next word).bind second
  | .write symbol word next => .write symbol word fun refused => (next refused).bind second
  | .requestSend next => .requestSend fun answer => (next answer).bind second

instance : Monad Interaction where
  pure := .done
  bind := bind

/-- Plays an interaction on a node's memory. The answer holds the result, the memory left behind
and whether a send was requested. -/
def run {α : Type} (table : SymbolTable) :
    Interaction α → Memory → (requested : Bool) → Except Breach (α × Memory × Bool)
  | .done result, memory, requested => .ok (result, memory, requested)
  | .read symbol next, memory, requested =>
    (next (memory.read symbol)).run table memory requested
  | .readNext symbol next, memory, requested =>
    (next (memory.readNext symbol)).run table memory requested
  | .write symbol word next, memory, requested => do
    match ← memory.write table symbol word with
    | .ok memory => (next none).run table memory requested
    | .error fault => (next (some fault)).run table memory requested
  | .requestSend next, memory, _ => (next ()).run table memory true

end Interaction

end Lockstep
