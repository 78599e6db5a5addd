import Lockstep.Random.Seeded

/-!
Seeded numbers keep to the window they are drawn from.
-/
namespace Lockstep.Seeded

theorem scale_lt {range : Nat} (positive : 0 < range) (word : UInt64) :
    scale range word < range := by
  refine Nat.div_lt_of_lt_mul ?_
  exact Nat.mul_lt_mul_of_pos_right word.toNat_lt positive

/-- What a search finds is below the range. -/
theorem search_lt {range offset : Nat} (positive : 0 < range) (attempts : Nat) (generator : Seeded)
    (found : (search range attempts generator).1 = some offset) : offset < range := by
  induction attempts generalizing generator with
  | zero => cases found
  | succ attempts ih =>
    unfold search at found
    dsimp only at found
    split at found
    · cases found
      exact scale_lt positive _
    · exact ih _ found

/-- A draw from a window that is not empty lies in it. -/
theorem draw_within {min max : Nat} (ordered : min ≤ max) (generator : Seeded) :
    min ≤ (source.draw generator min max).1 ∧ (source.draw generator min max).1 ≤ max := by
  change min ≤ (uniform generator min max).1 ∧ (uniform generator min max).1 ≤ max
  unfold uniform
  split
  · exact ⟨Nat.le_refl _, ordered⟩
  · dsimp only
    refine ⟨Nat.le_add_right _ _, ?_⟩
    cases found : (search (max - min + 1) period generator).1 with
    | none => simpa using ordered
    | some offset =>
      have := search_lt (Nat.succ_pos _) period generator found
      rw [Option.getD_some]
      omega

end Lockstep.Seeded
