import Lockstep.Program.Basic

/-!
Scripted programs: fixed lists of actions, one list for each call.

A script counts its calls, over all nodes that share it and over all runs, and plays the entry of
that number. They are for trying out a network by hand.
-/
namespace Lockstep

/-- An action of a script. -/
inductive ScriptAction where
  | write (symbol : SymbolId) (word : Cell)
  /-- Writes the sum of a cell of this tick and a word. -/
  | copy (source target : SymbolId) (add : Cell)
  /-- Writes the sum of a prepared cell and a word. -/
  | copyNext (source target : SymbolId) (add : Cell)
  /-- Writes the number of the node. -/
  | nodeIndex (target : SymbolId)
  /-- Writes the number of nodes. -/
  | nodeCount (target : SymbolId)
  | requestSend
  /-- Ends the call with a signal. -/
  | signal (signal : Signal)
  deriving DecidableEq

/-- What a script does in each of its calls. -/
structure Script where
  entries : Array (List ScriptAction)
  /-- After the last entry comes the first again. Otherwise nothing more happens. -/
  loops : Bool
  deriving DecidableEq

namespace Script

/-- Writes a word and goes on, or ends the call with the fault of the write. -/
def writeThen (symbol : SymbolId) (word : Cell) (rest : Interaction Signal) :
    Interaction Signal :=
  .write symbol word fun
    | some fault => .done (.fault fault)
    | none => rest

/-- Plays the actions of an entry in order. -/
def play (place : Place) : List ScriptAction → Interaction Signal
  | [] => .done .continue
  | .write symbol word :: rest => writeThen symbol word (play place rest)
  | .copy source target add :: rest =>
    .read source fun word => writeThen target (word + add) (play place rest)
  | .copyNext source target add :: rest =>
    .readNext source fun word => writeThen target (word + add) (play place rest)
  | .nodeIndex target :: rest => writeThen target (Cell.ofCount place.index) (play place rest)
  | .nodeCount target :: rest => writeThen target (Cell.ofCount place.count) (play place rest)
  | .requestSend :: rest => .requestSend fun _ => play place rest
  | .signal signal :: _ => .done signal

/-- The entry for a call. -/
def entry (script : Script) (call : Nat) : List ScriptAction :=
  let position := if script.loops then call % script.entries.size else call
  script.entries[position]?.getD []

/-- The script as a program. Its calls are counted at `counter` among the counters of all
scripts. -/
def program (script : Script) (counter : Nat) : Program (Array Nat) := fun place counts =>
  let call := counts[counter]?.getD 0
  (play place (script.entry call)).bind fun signal =>
    .done (counts.setIfInBounds counter (call + 1), signal)

end Script

end Lockstep
