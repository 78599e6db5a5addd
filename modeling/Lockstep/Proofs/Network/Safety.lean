import Lockstep.Proofs.Delivery.Addressing
import Lockstep.Proofs.Machine.Frames
import Lockstep.Proofs.Network.Balance
import Lockstep.Proofs.Network.Unfolding
import Mathlib.Algebra.Order.BigOperators.Group.List
import Mathlib.Algebra.Order.Group.Nat

/-!
A valid network breaks no contract.

What `Network.build` checks is enough: whatever the programs, the router and the random source do,
every operation of a run is used within its contract, at every moment of every run. No counter
leaves the words either, because steps count at most one for each tick (`Scene.Clocked`) and the
counts of messages add up to those sent (`Scene.Balanced`).
-/
namespace Lockstep

namespace Station

variable {σ : Type} {table : SymbolTable} {program : Program σ} {full : Bool} {station : Station}
  {shared : σ}

/-- A step counts itself as idle and as sending once at most. -/
theorem step_counts :
    (station.step table program full shared).station.idle ≤ station.idle + 1 ∧
      (station.step table program full shared).station.sent ≤ station.sent + 1 := by
  have performed : (station.perform table program shared).station.idle = station.idle ∧
      (station.perform table program shared).station.sent = station.sent := consume_counts
  unfold step
  split
  · exact ⟨Nat.le_refl _, Nat.le_succ _⟩
  · dsimp only
    generalize station.perform table program shared = performance at *
    obtain ⟨idle, sent⟩ := performed
    split
    · exact ⟨by simp [finish, idle], by simp [finish, sent]⟩
    · unfold conclude
      dsimp only
      split
      · exact ⟨by simp [finish, idle], by simp [finish, sent]⟩
      · cases performance.halts <;> constructor <;>
          simp only [settle, finish, terminate, if_true, Bool.false_eq_true, if_false, idle, sent] <;>
          split <;> omega

end Station

namespace Network

variable {ρ σ : Type} {network : Network ρ σ} {start state : State ρ σ} {scene : Scene ρ σ}
  {number taken : Nat}

/-! ### Counters -/

/-- No station has stepped more often than there were ticks, and no more ticks were idle. -/
structure Scene.Clocked (number taken : Nat) (scene : Scene ρ σ) : Prop where
  steps : ∀ (index : Nat) (station : Station), scene.stations[index]? = some station →
    station.idle ≤ number + (if index < taken then 1 else 0) ∧
      station.sent ≤ number + (if index < taken then 1 else 0)
  idleTicks : scene.tally.idleTicks ≤ number
  idleStreak : scene.tally.idleStreak ≤ number

theorem opening_clocked (network : Network ρ σ) (random : ρ) (shared : σ) :
    (network.opening random shared).Clocked 0 0 := by
  refine ⟨fun index station found => ?_, Nat.le_refl _, Nat.le_refl _⟩
  obtain ⟨-, rfl⟩ := opening_found found
  exact ⟨Nat.zero_le _, Nat.zero_le _⟩

namespace Scene.Clocked

theorem mono {more : Nat} (clocked : scene.Clocked number taken) (le : taken ≤ more) :
    scene.Clocked number more := by
  refine ⟨fun index station found => ?_, clocked.idleTicks, clocked.idleStreak⟩
  obtain ⟨idle, sent⟩ := clocked.steps index station found
  constructor <;> split <;> split at idle <;> split at sent <;> omega

theorem turn (clocked : scene.Clocked number taken) (network : Network ρ σ) {station : Station}
    (found : scene.stations[taken]? = some station) :
    (leftBy (network.plainTurn number scene taken)).Clocked number (taken + 1) := by
  obtain ⟨stations, -, -, -, tally⟩ := leftBy_plainTurn network number found
  refine ⟨fun index other listed => ?_, ?_, ?_⟩
  · rw [stations] at listed
    rcases found_of_set listed with ⟨rfl, rfl⟩ | ⟨-, before⟩
    · obtain ⟨idle, sent⟩ := clocked.steps index station found
      have stepped : (network.plainStep station scene index).station.idle ≤ station.idle + 1 ∧
          (network.plainStep station scene index).station.sent ≤ station.sent + 1 :=
        Station.step_counts
      rw [if_neg (Nat.lt_irrefl _)] at idle sent
      rw [if_pos (Nat.lt_succ_self _)]
      omega
    · exact (clocked.mono (Nat.le_succ taken)).steps index other before
  · rw [tally]
    exact clocked.idleTicks
  · rw [tally]
    exact clocked.idleStreak

theorem deliverDue (clocked : scene.Clocked number taken) (tick : Nat) :
    (scene.deliverDue tick).Clocked number taken := by
  obtain ⟨ticks, streak⟩ := deliverDue_idle tick scene
  refine ⟨fun index station found => ?_, ticks.trans_le clocked.idleTicks,
    streak.trans_le clocked.idleStreak⟩
  rw [stations_deliverDue, Option.map_eq_some_iff] at found
  obtain ⟨before, listed, rfl⟩ := found
  have steps := clocked.steps index before listed
  unfold Station.enqueue
  split <;> exact steps

theorem countTick (clocked : scene.Clocked number scene.stations.length) :
    scene.countTick.Clocked (number + 1) 0 := by
  have ticks := clocked.idleTicks
  have streak := clocked.idleStreak
  obtain ⟨stations, -⟩ := countTick_rest scene
  refine ⟨fun index station found => ?_, ?_, ?_⟩
  · rw [stations] at found
    have steps := clocked.steps index station found
    rw [if_pos (List.getElem?_eq_some_iff.mp found).1] at steps
    rw [if_neg (Nat.not_lt_zero _)]
    exact steps
  · unfold Scene.countTick
    split <;> simp only <;> omega
  · unfold Scene.countTick
    split <;> simp only <;> omega

end Scene.Clocked

/-- Every counter of a state is a word. -/
structure State.Countable (state : State ρ σ) : Prop where
  nodes : ∀ node ∈ state.nodes.toList, node.idle < wordCount ∧ node.sent < wordCount ∧
    node.received < wordCount ∧ node.dropped < wordCount
  delivered : state.tally.delivered < wordCount
  /-- The messages dropped, as the report adds them up. -/
  dropped : state.tally.dropped + (state.nodes.toList.map (·.dropped)).sum < wordCount
  idleTicks : state.tally.idleTicks < wordCount
  idleStreak : state.tally.idleStreak < wordCount

theorem Depicts.countable (depicts : Depicts network [] state scene) (balanced : scene.Balanced)
    (clocked : scene.Clocked number taken) (early : number + min 1 taken < wordCount)
    (few : state.tally.sent < wordCount) : state.Countable := by
  have tally := depicts.tally
  have sent := balanced.sent
  have delivered := balanced.delivered
  rw [← tally] at few
  have dropped : (state.nodes.toList.map (·.dropped)).sum = (scene.stations.map (·.dropped)).sum :=
    depicts.sum_nodes fun _ => rfl
  have parts := scene.handed_eq
  refine ⟨fun node member => ?_, ?_, ?_, ?_, ?_⟩
  · obtain ⟨index, found⟩ := List.getElem?_of_mem member
    have listed : scene.stations[index]? = some (node.portray state.pool) := by
      rw [depicts.stations, List.getElem?_map, found]
      rfl
    obtain ⟨idle, posted⟩ := clocked.steps index _ listed
    have handed : (node.portray state.pool).handed ≤ scene.handed :=
      List.le_sum_of_mem (List.mem_map_of_mem (List.mem_of_getElem? listed))
    simp only [Station.handed, Node.portray] at handed idle posted
    split at idle <;> refine ⟨by omega, ?_, by omega, by omega⟩ <;> split at posted <;> omega
  · rw [← tally]
    omega
  · rw [← tally, dropped]
    omega
  · rw [← tally]
    exact Nat.lt_of_le_of_lt clocked.idleTicks (by omega)
  · rw [← tally]
    exact Nat.lt_of_le_of_lt clocked.idleStreak (by omega)

/-- How many of the nodes have had their turns at a point in a tick, as far as it tells. -/
def Stage.passed (count : Nat) : Stage → Nat
  | .turns taken => taken
  | .delivered | .stopped => count

/-- How many ticks have begun at a point in the tick of a number. -/
def Stage.begun (number : Nat) : Stage → Nat
  | .turns 0 => number
  | _ => number + 1

theorem Stage.le_begun (stage : Stage) (number count : Nat) :
    number + min 1 (stage.passed count) ≤ stage.begun number := by
  cases stage with
  | turns taken => cases taken <;> simp only [passed, begun] <;> omega
  | delivered | stopped => exact Nat.add_le_add_left (Nat.min_le_left _ _) _

/-- At every moment the counts balance, and no counter is ahead of the clock. -/
theorem Occurs.counts (valid : network.table.Valid) (sound : start.Sound network [])
    {stage : Stage} (occurs : network.Occurs start number stage state) :
    ∃ scene, Depicts network [] state scene ∧ scene.Balanced ∧
      scene.Clocked number (stage.passed network.config.nodeCount) := by
  let Inv (number : Nat) (stage : Stage) (scene : Scene ρ σ) : Prop :=
    scene.Balanced ∧ scene.Clocked number (stage.passed network.config.nodeCount)
  suffices shown : ∃ scene, Depicts network [] state scene ∧ scene.Sound network ∧
      Inv number stage scene by
    obtain ⟨scene, depicts, -, holds⟩ := shown
    exact ⟨scene, depicts, holds⟩
  refine occurs.shows valid sound Inv ⟨opening_balanced _ _ _, opening_clocked _ _ _⟩ ?_ ?_ ?_
  · rintro number taken scene sound inside ⟨even, clocked⟩
    obtain ⟨station, found⟩ := sound.found inside
    rw [Stage.passed] at clocked
    have after := clocked.turn network found
    have balanced := (even.turn network number found).1
    cases turned : network.plainTurn number scene taken with
    | ok turns =>
      rw [turned] at after balanced
      exact ⟨balanced, after⟩
    | error failure =>
      rw [turned] at after balanced
      exact ⟨balanced, after.mono inside⟩
  · rintro number scene sound ⟨even, clocked⟩
    exact ⟨(even.deliverDue sound _).1, clocked.deliverDue _⟩
  · rintro number scene sound ⟨even, clocked⟩
    rw [Stage.passed, ← sound.count] at clocked
    exact ⟨even.countTick.1, clocked.countTick⟩

/-! ### Contracts -/

/-- In a network that can be built no contract is ever broken. After any number of runs another one
can begin, no turn and no delivery of it is stopped by a breach, and it comes to a report. While the
ticks begun and the messages sent are words, so is every counter. The built-in routers find an
answer whenever they are asked, and programs for the stack machine stay in their code and on their
stack. -/
theorem contracts_kept {table : SymbolTable} {config : NetworkConfig} {program : Nat → Program σ}
    {router : Router} {source : Source ρ}
    (built : Network.build table config program router source = .ok network)
    (few : config.nodeCount < negativeCount) (resting : network.Resting start) :
    (∃ first, network.begin start = .ok first) ∧
      (∀ (number : Nat) (stage : Stage) (state : State ρ σ),
        network.Occurs start number stage state →
          (∀ taken < state.nodes.size, stage = .turns taken → ∀ breach,
            network.turn number state taken ≠ .error (.breach breach)) ∧
          (stage = .turns state.nodes.size → ∃ after, deliverDue (number + 1) state = .ok after) ∧
          (stage.begun number < wordCount → state.tally.sent < wordCount → state.Countable)) ∧
      (∀ maxTicks, ∃ result final, network.run maxTicks start = .ok (result, final) ∧
        network.Resting final) ∧
      (∀ addressing : Addressing, router = addressing.router →
        ∀ sender < config.nodeCount, ∀ payload,
          addressing.resolve sender payload config.nodeCount =
            .ok (router sender payload config.nodeCount)) ∧
      ∀ (index : Nat) (bytecode : Bytecode), program index = bytecode.program →
        (∀ frame, bytecode.Reaches ⟨index, config.nodeCount⟩ frame →
          frame.Inside bytecode.code.size) ∧
        ∀ signal, (bytecode.call ⟨index, config.nodeCount⟩).Yields signal →
          ∃ last, bytecode.Reaches ⟨index, config.nodeCount⟩ last ∧
            bytecode.EndsAt ⟨index, config.nodeCount⟩ last signal := by
  obtain ⟨-, valid, rfl⟩ := build_eq_ok.mp built
  have sound := resting.sound valid
  refine ⟨?_, fun number stage state occurs => ⟨?_, ?_, ?_⟩, ?_, ?_, ?_⟩
  · obtain ⟨first, begun, -⟩ := begin_depicts valid sound
    exact ⟨first, begun⟩
  · intro taken inside _ breach broken
    obtain ⟨scene, depicts⟩ := occurs.depicts valid sound
    have refines := turn_refines number valid depicts (depicts.sound.count ▸ inside)
    rw [broken] at refines
    exact refines.not_breach
  · intro _
    obtain ⟨scene, depicts⟩ := occurs.depicts valid sound
    obtain ⟨after, delivered, -⟩ := deliverDue_depicts depicts (number + 1)
    exact ⟨after, delivered⟩
  · intro early words
    obtain ⟨scene, depicts, balanced, clocked⟩ := occurs.counts valid sound
    exact depicts.countable balanced clocked (Nat.lt_of_le_of_lt (stage.le_begun ..) early) words
  · intro maxTicks
    obtain ⟨final, ran, -⟩ := run_depicts valid sound maxTicks
    exact ⟨_, final, ran, resting.rerun ran⟩
  · rintro addressing rfl sender inside payload
    exact Addressing.resolve_of_lt few inside addressing payload
  · intro index bytecode _
    exact ⟨fun frame reaches => reaches.inside,
      fun signal yields => Bytecode.exists_endsAt .initial yields⟩

/-- A table whose sections overlap, in which the incoming flag is a word of the message and open to
programs, a router that names nodes there are not, and a source that leaves the delay window. -/
theorem contracts_kept_overlapping :
    ∃ network : Network Nat Unit,
      Network.build
          { symbols := [⟨0, "a", .user, true, false, .nodeIndex⟩, ⟨1, "a", .user, false, false, .zero⟩]
            constants := ⟨2, 2⟩, send := ⟨0, 2⟩, receive := ⟨0, 2⟩, incoming := 0, nodeId := 1
            vars := ⟨0, 1⟩, copyPolicy := #[true, false], protection := #[false, false] }
          { nodeCount := 2, capacity := 3 }
          (fun _ => (Bytecode.ofCode #[.nodeIndex, .store 0, .send]).program)
          (Addressing.fixed [1, 7, 0]).router (Source.cycle [0, 9]) = .ok network ∧
        (∃ first, network.begin (network.initial 0 ()) = .ok first) ∧
        (∀ maxTicks, ∃ result final, network.run maxTicks (network.initial 0 ()) =
          .ok (result, final) ∧ network.Resting final) ∧
        ∀ frame, (Bytecode.ofCode #[.nodeIndex, .store 0, .send]).Reaches ⟨0, 2⟩ frame →
          frame.Inside 3 := by
  let network : Network Nat Unit :=
    ⟨{ symbols := [⟨0, "a", .user, true, false, .nodeIndex⟩, ⟨1, "a", .user, false, false, .zero⟩]
       constants := ⟨2, 2⟩, send := ⟨0, 2⟩, receive := ⟨0, 2⟩, incoming := 0, nodeId := 1
       vars := ⟨0, 1⟩, copyPolicy := #[true, false], protection := #[false, false] },
      { nodeCount := 2, capacity := 3 },
      fun _ => (Bytecode.ofCode #[.nodeIndex, .store 0, .send]).program,
      (Addressing.fixed [1, 7, 0]).router, Source.cycle [0, 9]⟩
  have built : Network.build network.table network.config network.program network.router
      network.source = .ok network := rfl
  obtain ⟨begins, -, runs, -, calls⟩ := contracts_kept built (by decide) (.initial 0 ())
  exact ⟨network, built, begins, runs, (calls 0 _ rfl).1⟩

end Network

end Lockstep
