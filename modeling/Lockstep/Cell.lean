/-!
The words a node computes with, and the numbers that name them.

A node's memory is a row of cells, one for each symbol of its table. The number of a symbol is
the position of its cell.
-/
namespace Lockstep

/-- A cell holds a signed word of 64 bits. Arithmetic on it wraps. -/
abbrev Cell := Int64

/-- How many words there are: two to the power of 64. -/
def wordCount : Nat := 18446744073709551616

/-- How many words are negative: two to the power of 63. -/
def negativeCount : Nat := 9223372036854775808

/-- The number of a symbol, and the position of its cell in node memory. -/
abbrev SymbolId := Nat

/-- A symbol's number as it is written in messages. -/
def SymbolId.text (symbol : SymbolId) : String :=
  "s" ++ toString symbol

/-- A count read as a word. Counts from `negativeCount` on wrap to negative words. -/
def Cell.ofCount (count : Nat) : Cell :=
  Int64.ofNat count

/-- The word of a truth value: one or zero. -/
def Cell.ofBool (holds : Bool) : Cell :=
  if holds then 1 else 0

end Lockstep
