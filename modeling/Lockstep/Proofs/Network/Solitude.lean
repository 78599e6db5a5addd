import Lockstep.Proofs.Network.Effects

/-!
Networks in which nobody sends.

If no station is sent anything, the turns of a tick are the steps of the stations and nothing else,
so that what the steps keep up of each station by itself is kept up by the tick (`Alone.turns`), and
there is nothing to deliver at its end (`Alone.next`).
-/
namespace Lockstep.Network

variable {ρ σ : Type} {network : Network ρ σ} {Holds : (clock index : Nat) → Station → Prop}
  {tally : Tally} {tick taken : Nat} {scene : Scene ρ σ}

/-- What holds without messages in a tick in which so many turns have been taken. `Holds` is told the
tick of a station's next step. -/
structure Alone (network : Network ρ σ) (Holds : (clock index : Nat) → Station → Prop)
    (tally : Tally) (tick taken : Nat) (scene : Scene ρ σ) : Prop where
  sound : scene.Sound network
  transit : scene.transit = []
  tally : scene.tally = tally
  stations : ∀ (index : Nat) (station : Station), scene.stations[index]? = some station →
    Holds (if index < taken then tick + 1 else tick) index station

namespace Alone

theorem turns (alone : network.Alone Holds tally tick 0 scene) (valid : network.table.Valid)
    (steps : ∀ (index : Nat) (middle : Scene ρ σ) (station : Station),
      middle.Sound network → middle.stations[index]? = some station → Holds tick index station →
      ∃ outcome after shared, (∀ error, outcome ≠ .failed error) ∧
        network.plainStep station middle index = ⟨outcome, after, none, shared⟩ ∧
        Holds (tick + 1) index after) :
    ∃ after, network.plainTurns tick scene = .ok after ∧
      network.Alone Holds tally tick network.config.nodeCount after := by
  rw [← alone.sound.count]
  refine Leads.exists_ok (plainTurns_leads (network.Alone Holds tally tick) ?_ alone)
  intro index middle inside before
  rw [alone.sound.count] at inside
  obtain ⟨station, found⟩ := before.sound.found inside
  have holds := before.stations index station found
  rw [if_neg (Nat.lt_irrefl index)] at holds
  obtain ⟨outcome, after, shared, lasting, stepped, kept⟩ :=
    steps index middle station before.sound found holds
  have sound := before.sound.turn valid tick inside
  rw [plainTurn_eq network tick found, stepped,
    endTurn_silent network tick index _ lasting rfl] at sound ⊢
  exact ⟨sound, before.transit, before.tally, forall_set Holds kept before.stations⟩

/-- At the end of a tick nothing is delivered, and the tick is counted. -/
theorem next (alone : network.Alone Holds tally tick network.config.nodeCount scene)
    {counted : Tally} (counts : scene.countTick.tally = counted) :
    network.Alone Holds counted (tick + 1) 0 (scene.deliverDue (tick + 1)).countTick := by
  have quiet : scene.deliverDue (tick + 1) = scene := by
    cases scene
    have transit := alone.transit
    subst transit
    rfl
  obtain ⟨stations, transit, -⟩ := countTick_rest scene
  rw [quiet]
  refine ⟨alone.sound.countTick, transit.trans alone.transit, counts, fun index station found => ?_⟩
  rw [stations] at found
  have inside := (List.getElem?_eq_some_iff.mp found).1
  rw [alone.sound.count] at inside
  have holds := alone.stations index station found
  rwa [if_pos inside] at holds

end Alone

end Lockstep.Network
