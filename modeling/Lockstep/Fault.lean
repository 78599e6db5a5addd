import Lockstep.Cell

/-!
What can go wrong, told apart by whose mistake it is.

A `Fault` is a program's own: it ends the run it happens in and is reported. A `Breach` is a
caller's: an operation was used outside its contract, and there is no state to go on from.
-/
namespace Lockstep

/-- A mistake of a node's program. -/
inductive Fault where
  /-- The program wrote to a cell it may only read. -/
  | writeProtected (symbol : SymbolId)
  /-- The program named a symbol the table does not have. -/
  | unknownSymbol (symbol : SymbolId)
  /-- An instruction needs more operands than the stack holds. -/
  | stackUnderflow
  /-- The stack has no room for another word. -/
  | stackOverflow
  /-- A division or remainder by zero. -/
  | divisionByZero
  /-- A jump past the end of the code. -/
  | invalidJump (target : Nat)
  /-- The program was stopped because it ran too many instructions. -/
  | budgetExhausted (budget : Nat)
  /-- A fault a program raises in its own words. -/
  | custom (reason : String)
  deriving DecidableEq

/-- The wording of a fault. -/
def Fault.message : Fault → String
  | .writeProtected symbol => "write to protected symbol " ++ symbol.text
  | .unknownSymbol symbol => "unknown symbol " ++ symbol.text
  | .stackUnderflow => "stack underflow"
  | .stackOverflow => "stack overflow"
  | .divisionByZero => "division by zero"
  | .invalidJump target => "invalid jump target " ++ toString target
  | .budgetExhausted budget => "instruction budget of " ++ toString budget ++ " exhausted"
  | .custom reason => "program fault: " ++ reason

/-- The sections of a symbol table whose symbols are asked for by position. -/
inductive TableSection where
  | constant
  | send
  | receive
  | var
  deriving DecidableEq

/-- How a symbol of the section is called in messages. -/
def TableSection.label : TableSection → String
  | .constant => "constant"
  | .send => "send symbol"
  | .receive => "receive symbol"
  | .var => "variable"

/-- A contract that a caller broke. -/
inductive Breach where
  /-- A position outside the buffer. -/
  | outOfBounds
  /-- A span that ends before it starts, or past the end of the buffer. -/
  | badSpan
  /-- A copy between buffers of different lengths. -/
  | lengthMismatch
  /-- A counter taken below zero. -/
  | counterUnderflow
  /-- A sum or a quotient that is no word. -/
  | wordOverflow
  /-- A request for symbol `position` of a section that has only `count` of them. -/
  | noSuchSymbol (part : TableSection) (position count : Nat)
  /-- A step of a node whose simulation has not begun. -/
  | notStarted (node : Nat)
  /-- More workers than can be counted. -/
  | tooManyWorkers (limit : Nat)
  deriving DecidableEq

/-- The wording of a breach that is checked for by name. The others have none. -/
def Breach.message? : Breach → Option String
  | .noSuchSymbol part position count =>
    some (part.label ++ " " ++ toString position ++ " out of range (0.." ++ toString count ++ ")")
  | .notStarted node => some ("node " ++ toString node ++ " stepped before begin_simulation")
  | _ => none

/-- Takes `amount` off a counter that must hold at least as much. -/
def Breach.checkedSub (counter amount : Nat) : Except Breach Nat :=
  if amount ≤ counter then .ok (counter - amount) else .error .counterUnderflow

end Lockstep
