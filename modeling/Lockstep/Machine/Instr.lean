import Lockstep.Cell

/-!
The instructions of the stack machine that node programs are written for.
-/
namespace Lockstep

/-- An instruction. Two-operand instructions take the word below the top as their first. -/
inductive Instr where
  | push (word : Cell)
  /-- Pushes a cell of this tick. -/
  | load (symbol : SymbolId)
  /-- Pushes a cell prepared for the next tick. -/
  | loadNext (symbol : SymbolId)
  /-- Writes the top to a cell of the next tick. -/
  | store (symbol : SymbolId)
  | nodeIndex
  | dup
  | pop
  | swap
  | add
  | sub
  | mul
  /-- Quotient, rounded towards zero. -/
  | div
  /-- Remainder, with the sign of the first operand. -/
  | mod
  | max
  | min
  | eq
  | lt
  | not
  | jump (target : Nat)
  | jumpIfZero (target : Nat)
  /-- Asks for the prepared message to be sent. -/
  | send
  | halt
  deriving DecidableEq

/-- A program for the stack machine. -/
structure Bytecode where
  code : Array Instr
  /-- How many instructions a call may execute. -/
  budget : Nat
  deriving DecidableEq

namespace Machine

/-- How many words the stack holds. -/
def stackDepth : Nat := 64

/-- The budget of a program that sets none. -/
def defaultBudget : Nat := 1024

end Machine

/-- A program with the default budget. -/
def Bytecode.ofCode (code : Array Instr) : Bytecode :=
  ⟨code, Machine.defaultBudget⟩

end Lockstep
