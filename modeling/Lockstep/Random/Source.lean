/-!
Sources of random numbers.
-/
namespace Lockstep

/-- A way to draw numbers, as a function of a state. A draw is asked for with the least and the
greatest number wanted; a source may answer any other. -/
structure Source (ρ : Type) where
  draw : ρ → (min max : Nat) → Nat × ρ

/-- Answers the numbers of a list in turn, over and over, whatever is asked for. The state counts
the draws. An empty list answers the least number wanted. -/
def Source.cycle (numbers : List Nat) : Source Nat where
  draw count min _ := (numbers[count % numbers.length]?.getD min, count + 1)

end Lockstep
