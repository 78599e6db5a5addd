import Lockstep.Proofs.Network.Moments
import Lockstep.Proofs.Node.Views

/-!
Runs that are alike.

A `Likeness` puts other states in place of the random state and of the state that programs share,
such that neither the delays drawn nor the steps taken tell the difference. Then nothing in a run
does: what every part of a tick comes to is alike, and two runs from alike states give the same
report (`Likeness.run`).
-/
namespace Lockstep.Network

variable {ρ σ : Type} {network : Network ρ σ}

/-- Other states for the random source and for the programs to share, that draws and steps cannot
tell from the real ones. -/
structure Likeness (network : Network ρ σ) where
  random : ρ → ρ
  shared : σ → σ
  draws : ∀ state, network.source.draw (random state) network.config.minDelay
      network.config.maxDelay =
    ((network.source.draw state network.config.minDelay network.config.maxDelay).1,
      random (network.source.draw state network.config.minDelay network.config.maxDelay).2)
  steps : ∀ (index : Nat) (station : Station) (full : Bool) (before : σ),
    station.step network.table (network.program index) full (shared before) =
      (station.step network.table (network.program index) full before).sharing
        (shared (station.step network.table (network.program index) full before).shared)

namespace Likeness

variable (like : network.Likeness)

/-- The scene with the other states. -/
def scene (scene : Scene ρ σ) : Scene ρ σ :=
  { scene with random := like.random scene.random, shared := like.shared scene.shared }

/-- What work comes to with the other states. -/
def work : Except (Failure ρ σ) (Scene ρ σ) → Except (Failure ρ σ) (Scene ρ σ)
  | .ok scene => .ok (like.scene scene)
  | .error failure => .error { failure with scene := like.scene failure.scene }

theorem address (tick sender : Nat) (payload : Cells) (destinations : List Nat) (state : ρ) :
    network.address tick sender payload destinations (like.random state) =
      ((network.address tick sender payload destinations state).1,
        like.random (network.address tick sender payload destinations state).2) := by
  induction destinations generalizing state with
  | nil => rfl
  | cons destination rest ih =>
    rw [Network.address, Network.address, like.draws]
    dsimp only
    rw [ih]

theorem post (tick sender : Nat) (payload : Cells) (destinations : List Nat)
    (scene : Scene ρ σ) :
    network.post tick sender payload destinations (like.scene scene) =
      like.scene (network.post tick sender payload destinations scene) := by
  rw [Network.post, Network.post, show (like.scene scene).random = like.random scene.random from rfl,
    like.address]
  rfl

theorem plainSend (tick sender : Nat) (payload : Cells) (destinations : List Nat)
    (scene : Scene ρ σ) :
    network.plainSend tick sender payload destinations (like.scene scene) =
      like.work (network.plainSend tick sender payload destinations scene) := by
  have same : network.room (like.scene scene) = network.room scene := rfl
  by_cases room : destinations.length ≤ network.room scene
  · rw [Network.plainSend, Network.plainSend, same, if_pos room, if_pos room, like.post]
    rfl
  · rw [Network.plainSend, Network.plainSend, same, if_neg room, if_neg room, like.post]
    rfl

theorem endTurn (tick index used : Nat) (stepped : Station.Stepped σ) (shared : σ)
    (scene : Scene ρ σ) :
    network.endTurn tick index used (stepped.sharing shared) (like.scene scene) =
      like.work (network.endTurn tick index used stepped scene) := by
  unfold Network.endTurn
  dsimp only [Station.Stepped.sharing]
  split
  · rfl
  · split
    · rfl
    · exact like.plainSend tick index _ _ (scene.mark (used + 1))

theorem plainTurn (tick : Nat) (scene : Scene ρ σ) (index : Nat) :
    network.plainTurn tick (like.scene scene) index =
      like.work (network.plainTurn tick scene index) := by
  have there : (like.scene scene).stations[index]? = scene.stations[index]? := rfl
  cases found : scene.stations[index]? with
  | none =>
    rw [Network.plainTurn, Network.plainTurn, there, found]
    rfl
  | some station =>
    have stepped : network.plainStep station (like.scene scene) index =
        (network.plainStep station scene index).sharing
          (like.shared (network.plainStep station scene index).shared) :=
      like.steps index station _ scene.shared
    rw [plainTurn_eq network tick found, plainTurn_eq network tick (there.trans found), stepped,
      ← like.endTurn _ _ _ _ (like.shared (network.plainStep station scene index).shared)]
    rfl

theorem plainTurns (tick : Nat) (scene : Scene ρ σ) :
    network.plainTurns tick (like.scene scene) = like.work (network.plainTurns tick scene) := by
  have loop : ∀ (indices : List Nat) (scene : Scene ρ σ),
      indices.foldlM (network.plainTurn tick) (like.scene scene) =
        like.work (indices.foldlM (network.plainTurn tick) scene) := by
    intro indices
    induction indices with
    | nil => exact fun _ => rfl
    | cons index rest ih =>
      intro scene
      rw [List.foldlM_cons, List.foldlM_cons, like.plainTurn]
      cases network.plainTurn tick scene index with
      | error failure => rfl
      | ok after => exact ih after
  exact loop _ scene

theorem deliverDue (tick : Nat) (scene : Scene ρ σ) :
    (like.scene scene).deliverDue tick = like.scene (scene.deliverDue tick) := by
  have one : ∀ (scene : Scene ρ σ) (message : Message),
      (like.scene scene).deliverOne message = like.scene (scene.deliverOne message) := by
    intro scene message
    have there : (like.scene scene).stations = scene.stations := rfl
    unfold Scene.deliverOne
    rw [there]
    split
    · rfl
    · split <;> rfl
  have loop : ∀ (messages : List Message) (scene : Scene ρ σ),
      messages.foldl Scene.deliverOne (like.scene scene) =
        like.scene (messages.foldl Scene.deliverOne scene) := by
    intro messages
    induction messages with
    | nil => exact fun _ => rfl
    | cons message rest ih =>
      intro scene
      rw [List.foldl_cons, List.foldl_cons, one, ih]
  exact loop _ { scene with transit := scene.transit.filter (·.arrival != tick) }

theorem plainTick (number : Nat) (scene : Scene ρ σ) :
    network.plainTick number (like.scene scene) = like.work (network.plainTick number scene) := by
  have counted : ∀ scene : Scene ρ σ,
      (like.scene scene).countTick = like.scene scene.countTick := by
    intro scene
    have idle : (like.scene scene).isIdle = scene.isIdle := rfl
    rw [Scene.countTick, Scene.countTick, idle]
    split <;> rfl
  rw [Network.plainTick, Network.plainTick, like.plainTurns]
  cases network.plainTurns number scene with
  | error failure => rfl
  | ok after =>
    have delivered := like.deliverDue (number + 1) after
    exact congrArg Except.ok ((congrArg Scene.countTick delivered).trans (counted _))

/-- Alike scenes go the same way. -/
theorem plainAdvance (remaining number : Nat) (scene : Scene ρ σ) :
    network.plainAdvance remaining number (like.scene scene) =
      ((network.plainAdvance remaining number scene).1,
        like.scene (network.plainAdvance remaining number scene).2) := by
  induction remaining generalizing number scene with
  | zero => rfl
  | succ remaining ih =>
    rw [Network.plainAdvance, Network.plainAdvance, like.plainTick]
    cases network.plainTick number scene with
    | error failure => rfl
    | ok after =>
      have ended : ((like.scene after).allTerminated ||
          network.plainQuiescent (like.scene after)) =
            (after.allTerminated || network.plainQuiescent after) := rfl
      simp only [work, ended]
      split
      · rfl
      · exact ih (number + 1) after

/-- Runs from alike states give the same report, and leave alike random states behind. -/
theorem run (valid : network.table.Valid) {start other : State ρ σ} (sound : start.Sound network [])
    (otherSound : other.Sound network []) (random : other.random = like.random start.random)
    (shared : other.shared = like.shared start.shared) (maxTicks : Nat) :
    ∃ result final otherFinal,
      network.run maxTicks start = .ok (result, final) ∧
      network.run maxTicks other = .ok (result, otherFinal) ∧
      otherFinal.random = like.random final.random := by
  obtain ⟨final, ran, depicts⟩ := run_depicts valid sound maxTicks
  obtain ⟨otherFinal, otherRan, otherDepicts⟩ := run_depicts valid otherSound maxTicks
  have same : network.plainRun maxTicks other.random other.shared =
      ((network.plainRun maxTicks start.random start.shared).1,
        like.scene (network.plainRun maxTicks start.random start.shared).2) := by
    rw [random, shared]
    exact like.plainAdvance maxTicks 0 (network.opening start.random start.shared)
  rw [same] at otherRan otherDepicts
  exact ⟨_, final, otherFinal, ran, otherRan,
    otherDepicts.random.symm.trans (congrArg like.random depicts.random)⟩

/-- Programs that depend on their views alone cannot tell what is shared. -/
def ofViews (views : ∀ index, ∃ act, network.program index = .ofView act) (shared : σ) :
    network.Likeness where
  random := id
  shared _ := shared
  draws _ := rfl
  steps index station full before := by
    obtain ⟨act, view⟩ := views index
    rw [view]
    exact Station.step_sharing station before shared

end Likeness

end Lockstep.Network
