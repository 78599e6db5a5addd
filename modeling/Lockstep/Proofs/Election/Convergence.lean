import Lockstep.Proofs.Delivery.Addressing
import Lockstep.Proofs.Election.Ring
import Lockstep.Proofs.Random.Window
import Lockstep.Scenario.Runner

/-!
A ring election converges.

The news of the greatest number crosses the ring in one lag for every node behind the first, and the
report shows the number each node read one tick before the end. A run as long as that therefore ends
with every node knowing the greatest (`ring_election_converges`).
-/
namespace Lockstep

/-- An election passes exactly if it did not fail and left every node with the greatest number. -/
theorem Runner.checkConverged_eq_none_iff {result : RunResult} :
    checkConverged result = none ↔ result.outcome = .completed ∧ ∀ node ∈ result.nodes,
      node.value SymbolTable.standard.nodeId = Cell.ofCount (result.nodes.length - 1) := by
  have all : (result.symbolValues SymbolTable.standard.nodeId).all
      (· == Cell.ofCount (result.nodes.length - 1)) = true ↔ ∀ node ∈ result.nodes,
        node.value SymbolTable.standard.nodeId = Cell.ofCount (result.nodes.length - 1) := by
    simp [RunResult.symbolValues]
  rw [← all, checkConverged, RunResult.failureCause]
  cases result.outcome with
  | failed tick node cause => simp
  | completed => simp

theorem Runner.checkConverged_eq_none {result : RunResult} (completed : result.outcome = .completed)
    (elected : ∀ node ∈ result.nodes,
      node.value SymbolTable.standard.nodeId = Cell.ofCount (result.nodes.length - 1)) :
    checkConverged result = none :=
  checkConverged_eq_none_iff.mpr ⟨completed, elected⟩

namespace Network

variable {ρ σ : Type} {network : Network ρ σ} {bytecode : Bytecode} {scene : Scene ρ σ}
  {log : List Message}

/-- A network on which a ring election is held, with a buffer for every message. -/
structure Election (network : Network ρ σ) (bytecode : Bytecode) : Prop
    extends network.HoldsElection bytecode where
  room : network.config.nodeCount * (network.lag + 1) ≤ network.config.capacity

/-- Late enough, every node has read the greatest number. -/
theorem HoldsElection.elected {ticks : Nat} (holds : network.HoldsElection bytecode)
    (traffic : network.Traffic network.campaign log ticks 0 scene)
    (enough : network.config.nodeCount = 1 ∨
      (network.config.nodeCount - 1) * network.lag + 2 ≤ ticks) :
    ∀ station ∈ scene.stations,
      station.memory.read network.table.nodeId = Cell.ofCount (network.config.nodeCount - 1) := by
  intro station member
  obtain ⟨index, found⟩ := List.getElem?_of_mem member
  have inside := (List.getElem?_eq_some_iff.mp found).1
  rw [traffic.sound.count] at inside
  have talker := traffic.stations index station found
  rw [if_neg (Nat.not_lt_zero _)] at talker
  have shown := Candidate.shown talker.knows fun next => by
    have last := successor_lt inside
    cases enough with
    | inl single => omega
    | inr long =>
      have reach := Nat.mul_le_mul_right network.lag (Nat.le_sub_one_of_lt last)
      omega
  have small := holds.small
  refine Int64.toInt.inj (shown.trans ?_)
  rw [Cell.toInt_ofCount (by omega), leader]
  omega

/-- With a buffer for each node and tick of delay, an election lasts, and is decided once the news
had the time to go round. -/
theorem HoldsElection.converges (holds : network.HoldsElection bytecode) {result : RunResult}
    {maxTicks : Nat} (fares : network.Fares network.campaign maxTicks (result, scene))
    (room : 1 < network.config.nodeCount →
      network.config.nodeCount * network.config.maxDelay ≤ network.config.capacity)
    (enough : network.config.nodeCount = 1 ∨
      (network.config.nodeCount - 1) * network.lag + 2 ≤ maxTicks) :
    result.outcome = .completed ∧ result.nodes.length = network.config.nodeCount ∧
      ∀ node ∈ result.nodes,
        node.value network.table.nodeId = Cell.ofCount (network.config.nodeCount - 1) := by
  cases fares with
  | jams jam =>
    have several := jam.several holds.settings
    exact absurd (jam.scarce holds.settings) (Nat.not_lt.mpr (room several))
  | lasts traffic within whole =>
    refine ⟨rfl, ?_, fun node member => ?_⟩
    · rw [Scene.report, List.length_map, traffic.sound.count]
    · obtain ⟨station, inside, rfl⟩ := List.mem_map.mp member
      refine holds.elected traffic ?_ station inside
      rcases Nat.lt_or_eq_of_le (Nat.succ_le_of_lt holds.settings.nodes) with several | single
      · rw [whole several]
        exact enough
      · exact .inl single.symm

/-- The run of an election. -/
theorem Election.run (election : network.Election bytecode) {start : State ρ σ}
    (resting : network.Resting start) {maxTicks : Nat}
    (enough : (network.config.nodeCount - 1) * network.lag + 2 ≤ maxTicks)
    (bounded : maxTicks ≤ lastTick) :
    ∃ result final, network.run maxTicks start = .ok (result, final) ∧
      result.outcome = .completed ∧ result.nodes.length = network.config.nodeCount ∧
      ∀ node ∈ result.nodes,
        node.value network.table.nodeId = Cell.ofCount (network.config.nodeCount - 1) := by
  obtain ⟨result, final, scene, ran, fares⟩ := election.ring.run resting bounded
  refine ⟨result, final, ran, election.converges fares (fun _ => ?_) (.inr enough)⟩
  exact Nat.le_trans (Nat.mul_le_mul_left _ (Nat.le_succ_of_le (lag_eq election.settings).1))
    election.room

/-- The networks of an election: there is a program for the table, and the network is accepted. -/
theorem exists_holdsElection {config : NetworkConfig} (settings : config.Valid)
    (small : config.nodeCount < negativeCount) (layout : TableLayout) (extras : List SymbolSpec)
    {source : Source ρ}
    (window : ∀ random,
      config.minDelay ≤ (source.draw random config.minDelay config.maxDelay).1 ∧
        (source.draw random config.minDelay config.maxDelay).1 ≤ config.maxDelay) :
    ∃ (bytecode : Bytecode) (network : Network ρ σ),
      Bytecode.leaderElection (.create layout extras) = .ok bytecode ∧
      Network.build (.create layout extras) config (fun _ => bytecode.program) Router.ring source =
        .ok network ∧
      network.config = config ∧ network.table = .create layout extras ∧
      network.HoldsElection bytecode := by
  have electoral := SymbolTable.electoral_create layout extras
  have made := Bytecode.leaderElection_eq electoral.receives electoral.sends
  refine ⟨_, _, made, build_eq_ok.mpr ⟨settings, electoral.valid, rfl⟩, rfl, rfl, ?_⟩
  exact ⟨settings, electoral, made, fun _ => rfl, rfl, window, small⟩

theorem exists_election {config : NetworkConfig} (settings : config.Valid)
    (small : config.nodeCount < negativeCount)
    (room : config.nodeCount * (2 * config.maxDelay - config.minDelay + 1) ≤ config.capacity)
    (layout : TableLayout) (extras : List SymbolSpec) {source : Source ρ}
    (window : ∀ random,
      config.minDelay ≤ (source.draw random config.minDelay config.maxDelay).1 ∧
        (source.draw random config.minDelay config.maxDelay).1 ≤ config.maxDelay) :
    ∃ (bytecode : Bytecode) (network : Network ρ σ),
      Bytecode.leaderElection (.create layout extras) = .ok bytecode ∧
      Network.build (.create layout extras) config (fun _ => bytecode.program) Router.ring source =
        .ok network ∧
      network.config = config ∧ network.table = .create layout extras ∧
      network.Election bytecode := by
  obtain ⟨bytecode, network, made, built, rfl, table, holds⟩ :=
    exists_holdsElection (σ := σ) settings small layout extras window
  exact ⟨bytecode, network, made, built, rfl, table, holds, room⟩

/-- Whatever the delays, every node of a ring comes to know the greatest number in time, and the
scenario that tries this passes. -/
theorem ring_election_converges {config : NetworkConfig} (nodes : 1 ≤ config.nodeCount)
    (small : config.nodeCount < negativeCount) (positive : 0 < config.minDelay)
    (ordered : config.minDelay ≤ config.maxDelay)
    (room : config.nodeCount * (2 * config.maxDelay - config.minDelay + 1) ≤ config.capacity)
    {maxTicks : Nat}
    (enough :
      (config.nodeCount - 1) * (2 * config.maxDelay - config.minDelay) + 2 ≤ maxTicks)
    (bounded : maxTicks ≤ lastTick) :
    (∀ (ρ σ : Type) (layout : TableLayout) (extras : List SymbolSpec) (source : Source ρ),
      (∀ random, config.minDelay ≤ (source.draw random config.minDelay config.maxDelay).1 ∧
        (source.draw random config.minDelay config.maxDelay).1 ≤ config.maxDelay) →
      ∃ (bytecode : Bytecode) (network : Network ρ σ),
        Bytecode.leaderElection (.create layout extras) = .ok bytecode ∧
        Network.build (.create layout extras) config (fun _ => bytecode.program) Router.ring
          source = .ok network ∧
        ∀ start, network.Resting start →
          ∃ result final, network.run maxTicks start = .ok (result, final) ∧
            result.outcome = .completed ∧ result.nodes.length = config.nodeCount ∧
            ∀ node ∈ result.nodes,
              node.value network.table.nodeId = Cell.ofCount (config.nodeCount - 1)) ∧
    ∀ seed, ∃ result, Runner.run ⟨seed, config, maxTicks⟩ .ringElection = .ok result ∧
      result.passed = true := by
  have capacity : 0 < config.capacity :=
    Nat.lt_of_lt_of_le (Nat.mul_pos nodes (Nat.succ_pos _)) room
  have settings : config.Valid := ⟨nodes, positive, ordered, capacity⟩
  constructor
  · intro ρ σ layout extras source window
    obtain ⟨bytecode, network, made, built, rfl, -, election⟩ :=
      exists_election (σ := σ) settings small room layout extras window
    exact ⟨bytecode, network, made, built, fun start resting => election.run resting enough bounded⟩
  · intro seed
    obtain ⟨bytecode, network, made, built, rfl, table, election⟩ :=
      exists_election (σ := Unit) settings small room {} [] (Seeded.draw_within ordered)
    obtain ⟨result, final, ran, completed, length, ids⟩ :=
      election.run (.initial (Seeded.new seed) ()) enough bounded
    rw [table, ← length] at ids
    have passed := Runner.checkConverged_eq_none completed ids
    have standard : SymbolTable.create {} [] = .standard := rfl
    rw [standard] at made built
    have simulated : Runner.simulate ⟨seed, network.config, maxTicks⟩ network.config
        (Bytecode.leaderElection .standard) Router.ring seed = .ok (.ok result) := by
      simp only [Runner.simulate, made, built, ran, bind, Except.bind, pure, Except.pure]
    refine ⟨⟨.ringElection, seed, some result, none⟩, ?_, rfl⟩
    simp only [Runner.run, Runner.verdict, simulated, Runner.judge, Except.map, passed, bind,
      Except.bind, pure, Except.pure]

theorem ring_election_converges_four :
    (∃ (bytecode : Bytecode) (network : Network Nat Unit),
      Bytecode.leaderElection .standard = .ok bytecode ∧
        Network.build .standard { nodeCount := 4 } (fun _ => bytecode.program) Router.ring
          (Source.cycle [1, 3]) = .ok network ∧
        ∃ result final, network.run 17 (network.initial 0 ()) = .ok (result, final) ∧
          result.outcome = .completed ∧ result.nodes.length = 4 ∧
          ∀ node ∈ result.nodes, node.value network.table.nodeId = 3) ∧
      ∃ result, Runner.run ⟨7, { nodeCount := 4 }, 17⟩ .ringElection = .ok result ∧
        result.passed = true := by
  let config : NetworkConfig := { nodeCount := 4 }
  have window : ∀ random,
      config.minDelay ≤ ((Source.cycle [1, 3]).draw random config.minDelay config.maxDelay).1 ∧
        ((Source.cycle [1, 3]).draw random config.minDelay config.maxDelay).1 ≤
          config.maxDelay := by
    intro count
    cases Nat.mod_two_eq_zero_or_one count with
    | inl even => simp [Source.cycle, even, config]
    | inr odd => simp [Source.cycle, odd, config]
  obtain ⟨networks, scenario⟩ := ring_election_converges (show 1 ≤ config.nodeCount by decide)
    (by decide) (by decide) (by decide) (by decide) (show _ ≤ 17 by decide) (by decide)
  obtain ⟨bytecode, network, made, built, runs⟩ :=
    networks Nat Unit {} [] (Source.cycle [1, 3]) window
  exact ⟨⟨bytecode, network, made, built, runs _ (.initial 0 ())⟩, scenario 7⟩

end Network

end Lockstep
