import Lockstep.Buffer

/-!
Symbol tables: which cells a node has, what each is called and how it behaves.

A table is a list of symbols, each with its cell, and the sections that the network and the
programs find their cells by.
-/
namespace Lockstep

/-- The word a cell starts a simulation with. -/
inductive InitialValue where
  | zero
  | constant (word : Cell)
  /-- The number of the node. -/
  | nodeIndex
  /-- How many nodes the network has. -/
  | nodeCount
  deriving DecidableEq

/-- The starting word on one node of a network. -/
def InitialValue.resolve (initial : InitialValue) (index count : Nat) : Cell :=
  match initial with
  | .zero => 0
  | .constant word => word
  | .nodeIndex => Cell.ofCount index
  | .nodeCount => Cell.ofCount count

/-- What a symbol is for. -/
inductive SymbolKind where
  | constant
  /-- A word of the message to send. -/
  | send
  /-- A word of the message received. -/
  | receive
  /-- One in a tick that received a message, and zero in any other. -/
  | incomingFlag
  /-- The node's number of itself. -/
  | nodeId
  /-- For the program's own use. -/
  | var
  /-- Added by the caller. -/
  | user
  deriving DecidableEq

/-- How a cell is called and how it behaves. -/
structure SymbolSpec where
  name : String
  /-- The cell keeps its word from one tick to the next. -/
  copyToNext : Bool
  /-- Programs may not write to the cell. -/
  writeProtected : Bool
  initial : InitialValue
  deriving DecidableEq

/-- A cell that keeps its word, is open to programs and starts as zero. -/
def SymbolSpec.var (name : String) : SymbolSpec :=
  ⟨name, true, false, .zero⟩

/-- A cell that keeps the word it starts with. -/
def SymbolSpec.constant (name : String) (word : Cell) : SymbolSpec :=
  ⟨name, true, true, .constant word⟩

/-- An entry of a symbol table. -/
structure Symbol where
  id : SymbolId
  name : String
  kind : SymbolKind
  copyToNext : Bool
  writeProtected : Bool
  initial : InitialValue
  deriving DecidableEq

/-- The cells of every node, with the sections they belong to. -/
structure SymbolTable where
  symbols : List Symbol
  constants : Span
  send : Span
  receive : Span
  incoming : SymbolId
  nodeId : SymbolId
  vars : Span
  /-- Which cells keep their word, by position. -/
  copyPolicy : Array Bool
  /-- Which cells programs may not write to, by position. -/
  protection : Array Bool
  deriving DecidableEq

namespace SymbolTable

/-- How many cells a node has. -/
def size (table : SymbolTable) : Nat :=
  table.symbols.length

/-- The words a message has. -/
def payloadSize (table : SymbolTable) : Nat :=
  table.send.length

/-- The span of a section. -/
def span (table : SymbolTable) : TableSection → Span
  | .constant => table.constants
  | .send => table.send
  | .receive => table.receive
  | .var => table.vars

/-- The symbol at a position of a section. It is a breach to ask for more than the section has. -/
def symbolAt (table : SymbolTable) (part : TableSection) (position : Nat) :
    Except Breach SymbolId :=
  if position < (table.span part).length then .ok ((table.span part).start + position)
  else .error (.noSuchSymbol part position (table.span part).length)

/-- The first symbol of a name. -/
def find? (table : SymbolTable) (name : String) : Option SymbolId :=
  (table.symbols.find? (·.name == name)).map (·.id)

/-- The entry of a symbol number. -/
def get? (table : SymbolTable) (symbol : SymbolId) : Option Symbol :=
  table.symbols[symbol]?

end SymbolTable

end Lockstep
