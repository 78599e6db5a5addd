import Lockstep.Proofs.Network.Plain

/-!
Programs that depend on their views alone.

Such a program neither looks at the state that programs share nor changes it. So the step of its
station is the same in every network that knows the same table, whatever the programs of that network
share (`step_sharing`).
-/
namespace Lockstep

variable {σ τ : Type} {table : SymbolTable} {act : Place → Interaction Signal} {full : Bool}

/-- The same performance among programs that share another state. -/
def Performance.sharing (shared : τ) (performance : Performance σ) : Performance τ where
  consumed := performance.consumed
  station := performance.station
  shared
  signal := performance.signal
  requested := performance.requested

namespace Station

/-- The same step among programs that share another state. -/
def Stepped.sharing (shared : τ) (stepped : Stepped σ) : Stepped τ where
  outcome := stepped.outcome
  station := stepped.station
  outgoing := stepped.outgoing
  shared

theorem conclude_sharing (performance : Performance σ) (shared : τ) :
    conclude table full (performance.sharing shared) =
      (conclude table full performance).sharing shared := by
  have sends : (performance.sharing shared).sends = performance.sends := rfl
  cases unsent : performance.sends && full with
  | true =>
    simp only [conclude, sends, unsent, if_true]
    rfl
  | false =>
    simp only [conclude, sends, unsent, Bool.false_eq_true, if_false]
    rfl

/-- A program that depends on its view alone does the same whatever the programs share. -/
theorem step_sharing (station : Station) (before : σ) (shared : τ) :
    station.step table (.ofView act) full shared =
      (station.step table (.ofView act) full before).sharing shared := by
  have performed : station.perform table (.ofView act) shared =
      (station.perform table (.ofView act) before).sharing shared := by
    simp only [perform, Interaction.play_ofView]
    rfl
  unfold step
  split
  · rfl
  · rw [performed]
    dsimp only [Performance.sharing]
    split
    · rfl
    · exact conclude_sharing _ shared

end Station

end Lockstep
