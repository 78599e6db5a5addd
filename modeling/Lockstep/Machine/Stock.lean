import Lockstep.Machine.Instr
import Lockstep.Table.Basic

/-!
Stock programs: two leader elections, and programs that bring out one behaviour of the network.

Each is made for a table, because the cells it uses are those the table gives its symbols. It is a
breach to make one for a table that lacks a section it needs.
-/
namespace Lockstep.Bytecode

/-- Every tick the node sends the greatest node number it knows. It starts with its own and learns
from each message. -/
def leaderElection (table : SymbolTable) : Except Breach Bytecode := do
  let id := table.nodeId
  let received ← table.symbolAt .receive 0
  let outgoing ← table.symbolAt .send 0
  return ofCode #[
    .load id,
    .load table.incoming,
    .jumpIfZero 5,
    .load received,
    .max,
    .dup,
    .store id,
    .store outgoing,
    .send]

/-- As `leaderElection`, but the node sends only in its first tick and when it has learnt a greater
number. Variable 0 tells whether the first tick is over. -/
def leaderElectionOnChange (table : SymbolTable) : Except Breach Bytecode := do
  let id := table.nodeId
  let started ← table.symbolAt .var 0
  let received ← table.symbolAt .receive 0
  let outgoing ← table.symbolAt .send 0
  return ofCode #[
    -- the greatest number known
    .load id,
    .load table.incoming,
    .jumpIfZero 5,
    .load received,
    .max,
    .dup,
    .store id,
    -- nothing to tell: it is the old one, and that has been sent
    .dup,
    .load id,
    .eq,
    .load started,
    .mul,
    .jumpIfZero 15,
    .pop,
    .jump 19,
    -- tell it
    .store outgoing,
    .push 1,
    .store started,
    .send]

/-- Does nothing. -/
def silent : Bytecode :=
  ofCode #[]

/-- Sends the node's number every tick. -/
def flood (table : SymbolTable) : Except Breach Bytecode := do
  let outgoing ← table.symbolAt .send 0
  return ofCode #[.nodeIndex, .store outgoing, .send]

/-- Counts ticks in variable 0 and divides by zero in tick number `tick`. -/
def faultAt (table : SymbolTable) (tick : Nat) : Except Breach Bytecode := do
  let counter ← table.symbolAt .var 0
  return ofCode #[
    .load counter,
    .push 1,
    .add,
    .store counter,
    .push (Cell.ofCount tick),
    .load counter,
    .sub,
    .jumpIfZero 9,
    .jump 12,
    .push 1,
    .push 0,
    .div]

end Lockstep.Bytecode
