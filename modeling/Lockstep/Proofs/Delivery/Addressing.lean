import Lockstep.Delivery.Router

/-!
The arithmetic of the routers.

For a sender of the network, and as many nodes as there are words to number them, no router leaves
the words: what `Addressing.resolve` checks for does not occur.
-/
namespace Lockstep

/-- A count below the first negative word is read as itself. -/
theorem Cell.toInt_ofCount {count : Nat} (small : count < negativeCount) :
    (Cell.ofCount count).toInt = count :=
  Int64.toInt_ofNat_of_lt small

namespace Addressing

/-- A sender of the network asks its router for nothing that is no word. -/
theorem resolve_of_lt {nodeCount sender : Nat} (few : nodeCount < negativeCount)
    (inside : sender < nodeCount) (addressing : Addressing) (payload : Cells) :
    addressing.resolve sender payload nodeCount =
      .ok (addressing.router sender payload nodeCount) := by
  have within : addressing.overflows sender payload nodeCount = false := by
    cases addressing with
    | ring =>
      have smaller : negativeCount < wordCount := by decide
      have last : (sender + 1 == wordCount) = false := beq_eq_false_iff_ne.mpr (by omega)
      rw [overflows, last, Bool.and_false]
    | directed offset =>
      have positive : (Cell.ofCount nodeCount == -1) = false := by
        refine beq_eq_false_iff_ne.mpr fun same => ?_
        have word := congrArg Int64.toInt same
        rw [Cell.toInt_ofCount few, show (-1 : Cell).toInt = -1 from rfl] at word
        omega
      rw [overflows, positive, Bool.and_false]
    | broadcast | fixed destinations => rfl
  rw [resolve, within, if_neg Bool.false_ne_true]

end Addressing

end Lockstep
