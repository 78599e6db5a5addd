import Lockstep.Table.Basic

/-!
The memory of a node: what it reads in this tick, and what it is getting ready for the next.

Programs read `current` and write `next`. `Memory.roll` makes the prepared cells current; of the
new `next`, a cell keeps its word if its policy says so and is zero otherwise.
-/
namespace Lockstep

/-- The two rows of cells of a node. -/
structure Memory where
  current : Cells
  next : Cells
  deriving DecidableEq

namespace Memory

/-- Memory for a table, all zero. -/
def new (table : SymbolTable) : Memory where
  current := Cells.zeros table.size
  next := Cells.zeros table.size

/-- Gives the cell of a symbol its starting word. -/
def seed (index count : Nat) (cells : Cells) (symbol : Symbol) : Except Breach Cells :=
  cells.put symbol.id (symbol.initial.resolve index count)

/-- Takes the cell of a symbol over from `current` if it keeps its word or only the network
writes it. -/
def keep (current cells : Cells) (symbol : Symbol) : Except Breach Cells :=
  if symbol.copyToNext || symbol.writeProtected then do
    cells.put symbol.id (← current.fetch symbol.id)
  else .ok cells

/-- Every cell gets its starting word. The next tick gets the words of the cells that keep theirs
and of those that only the network writes; the others start it as zero. -/
def begin (table : SymbolTable) (index count : Nat) (memory : Memory) :
    Except Breach Memory := do
  let current ← table.symbols.foldlM (seed index count) (Cells.zeros memory.current.size)
  let next ← table.symbols.foldlM (keep current) (Cells.zeros memory.next.size)
  return { current, next }

/-- What becomes of a cell that had `stale` two rows ago and `fresh` in the row now current. A cell
without a policy keeps what the exchange of the rows left there. -/
def carry (policy : Option Bool) (fresh : Option Cell) (stale : Cell) : Cell :=
  match fresh, policy with
  | some word, some true => word
  | some _, some false => 0
  | _, _ => stale

/-- A new tick: the prepared cells become current. -/
def roll (table : SymbolTable) (memory : Memory) : Memory where
  current := memory.next
  next := memory.current.mapIdx fun i stale => carry table.copyPolicy[i]? memory.next[i]? stale

/-- The word a symbol has in this tick. Symbols outside memory read as zero. -/
def read (memory : Memory) (symbol : SymbolId) : Cell :=
  memory.current[symbol]?.getD 0

/-- The word prepared for a symbol. Symbols outside memory read as zero. -/
def readNext (memory : Memory) (symbol : SymbolId) : Cell :=
  memory.next[symbol]?.getD 0

/-- A program's write. It is the program's fault if the symbol is unknown or protected, and then
no cell changes. -/
def write (table : SymbolTable) (symbol : SymbolId) (word : Cell) (memory : Memory) :
    Except Breach (Except Fault Memory) :=
  match table.protection[symbol]? with
  | none => .ok (.error (.unknownSymbol symbol))
  | some true => .ok (.error (.writeProtected symbol))
  | some false => do
    let next ← memory.next.put symbol word
    return .ok { memory with next }

/-- A message arrives: its words go to the receive cells and the incoming flag is raised. -/
def deliver (table : SymbolTable) (payload : Cells) (memory : Memory) :
    Except Breach Memory := do
  let next ← memory.next.overwrite table.receive payload
  let next ← next.put table.incoming 1
  return { memory with next }

/-- The words a message sent now would carry. -/
def payload (table : SymbolTable) (memory : Memory) : Except Breach Cells :=
  memory.next.slice table.send

/-- Some cell that programs may write to is about to change. Cells are looked at in order up to
the first that is. -/
def hasPendingChange (table : SymbolTable) (memory : Memory) : Except Breach Bool :=
  table.symbols.anyM fun symbol =>
    if symbol.writeProtected then pure false
    else do
      let prepared ← memory.next.fetch symbol.id
      let held ← memory.current.fetch symbol.id
      return prepared != held

end Memory

end Lockstep
