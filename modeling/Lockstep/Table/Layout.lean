import Lockstep.Table.Basic

/-!
Layouts: tables made from counts.

A table made by `SymbolTable.create` lays its sections out one after another: constants, send
words, receive words, the incoming flag, the node's own number, variables, and the extras of the
caller.
-/
namespace Lockstep

/-- How many symbols of each section a table is to have. -/
structure TableLayout where
  variableCount : Nat := 2
  needsConstants : Bool := true
  /-- How many words a message has. A table always has room for one. -/
  sendReceivePairs : Nat := 1
  deriving DecidableEq

namespace TableLayout

/-- The words a message has. -/
def payloadSize (layout : TableLayout) : Nat :=
  max layout.sendReceivePairs 1

/-- The constants every node can read, if the layout asks for them. -/
def constantSpecs (layout : TableLayout) : List SymbolSpec :=
  if layout.needsConstants then
    [⟨"zero", true, true, .constant 0⟩, ⟨"one", true, true, .constant 1⟩,
      ⟨"node_count", true, true, .nodeCount⟩]
  else []

/-- Words to send start each tick as zero. -/
def sendSpecs (layout : TableLayout) : List SymbolSpec :=
  (List.range layout.payloadSize).map fun i => ⟨"send" ++ toString i, false, false, .zero⟩

/-- Received words are set by delivery alone and last one tick. -/
def receiveSpecs (layout : TableLayout) : List SymbolSpec :=
  (List.range layout.payloadSize).map fun i => ⟨"recv" ++ toString i, false, true, .zero⟩

/-- The flag is raised by delivery alone and lasts one tick. -/
def incomingSpec : SymbolSpec :=
  ⟨"incoming", false, true, .zero⟩

/-- The node's number starts as its position; programs may replace it. -/
def nodeIdSpec : SymbolSpec :=
  ⟨"node_id", true, false, .nodeIndex⟩

/-- Variables are the programs' own and start as zero. -/
def variableSpecs (layout : TableLayout) : List SymbolSpec :=
  (List.range layout.variableCount).map fun i => .var ("var" ++ toString i)

/-- All entries of a table in the order of its sections. -/
def entries (layout : TableLayout) (extras : List SymbolSpec) : List (SymbolKind × SymbolSpec) :=
  layout.constantSpecs.map (.constant, ·) ++ layout.sendSpecs.map (.send, ·) ++
    layout.receiveSpecs.map (.receive, ·) ++ [(.incomingFlag, incomingSpec)] ++
    [(.nodeId, nodeIdSpec)] ++ layout.variableSpecs.map (.var, ·) ++ extras.map (.user, ·)

/-- Where the send words start: after the constants. -/
def sendStart (layout : TableLayout) : Nat :=
  if layout.needsConstants then 3 else 0

end TableLayout

/-- The entry at a position of a table. -/
def Symbol.ofEntry (entry : SymbolKind × SymbolSpec) (position : Nat) : Symbol where
  id := position
  name := entry.2.name
  kind := entry.1
  copyToNext := entry.2.copyToNext
  writeProtected := entry.2.writeProtected
  initial := entry.2.initial

namespace SymbolTable

/-- The table of a layout, with the caller's extras last. -/
def create (layout : TableLayout) (extras : List SymbolSpec) : SymbolTable :=
  let symbols := (layout.entries extras).zipIdx.map fun (entry, position) =>
    Symbol.ofEntry entry position
  let sendStart := layout.sendStart
  let receiveStart := sendStart + layout.payloadSize
  let incoming := receiveStart + layout.payloadSize
  { symbols
    constants := ⟨0, sendStart⟩
    send := ⟨sendStart, receiveStart⟩
    receive := ⟨receiveStart, incoming⟩
    incoming
    nodeId := incoming + 1
    vars := ⟨incoming + 2, incoming + 2 + layout.variableCount⟩
    copyPolicy := (symbols.map (·.copyToNext)).toArray
    protection := (symbols.map (·.writeProtected)).toArray }

/-- The table that scenarios run on: two variables, the constants and messages of one word. -/
def standard : SymbolTable :=
  create {} []

end SymbolTable

end Lockstep
