import Lockstep.Fault

/-!
Checked access to rows of cells.

Every access answers the cells or a `Breach`. A `Span` names a stretch of a row by its two ends;
it may be given by a table that nobody has checked, so its ends may be the wrong way round.
-/
namespace Lockstep

/-- The positions from `start` up to, but not including, `stop`. -/
structure Span where
  start : Nat
  stop : Nat
  deriving DecidableEq

/-- How many positions the span holds. A span whose ends are swapped holds none. -/
def Span.length (span : Span) : Nat :=
  span.stop - span.start

/-- The span lies in a row of `size` cells and its ends are the right way round. -/
def Span.Within (span : Span) (size : Nat) : Prop :=
  span.start ≤ span.stop ∧ span.stop ≤ size

instance (span : Span) (size : Nat) : Decidable (span.Within size) :=
  inferInstanceAs (Decidable (_ ∧ _))

/-- A row of cells. -/
abbrev Cells := Array Cell

namespace Cells

/-- A row of zeros. -/
def zeros (size : Nat) : Cells :=
  Array.replicate size 0

/-- The word at a position of the row. -/
def fetch (cells : Cells) (position : Nat) : Except Breach Cell :=
  match cells[position]? with
  | some word => .ok word
  | none => .error .outOfBounds

/-- The row with another word at a position. -/
def put (cells : Cells) (position : Nat) (word : Cell) : Except Breach Cells :=
  if position < cells.size then .ok (cells.setIfInBounds position word) else .error .outOfBounds

/-- The words of a span. -/
def slice (cells : Cells) (span : Span) : Except Breach Cells :=
  if span.Within cells.size then .ok (cells.extract span.start span.stop) else .error .badSpan

/-- The row with `words` in place of a span of the same length. -/
def overwrite (cells : Cells) (span : Span) (words : Cells) : Except Breach Cells :=
  if span.Within cells.size then
    if words.size = span.length then
      .ok (cells.extract 0 span.start ++ words ++ cells.extract span.stop cells.size)
    else .error .lengthMismatch
  else .error .badSpan

end Cells

end Lockstep
