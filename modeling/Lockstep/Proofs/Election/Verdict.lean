import Lockstep.Proofs.Election.Convergence
import Lockstep.Proofs.Network.Steady
import Lockstep.Proofs.Scenario.Simulated

/-!
When the scenario with one delay passes.

If all messages travel equally long, what is enough for a ring election is also needed. The greatest
number moves on by a node in exactly so many ticks, so that the last to read it does so no sooner than
the bound says (`HoldsElection.late`), and before the first message arrives there is a message in the
pool for each node and tick (`HoldsElection.decided_iff`). The verdict of the scenario follows from its
settings alone (`fixed_delay_verdict`).
-/
namespace Lockstep

namespace Network

variable {ρ σ : Type} {network : Network ρ σ} {bytecode : Bytecode} {scene : Scene ρ σ}
  {log : List Message} {result : RunResult} {ticks maxTicks : Nat}

/-- The last node to read the greatest number comes before the one whose number it is. -/
theorem HoldsElection.late (holds : network.HoldsElection bytecode)
    (traffic : network.Traffic network.campaign log ticks 0 scene)
    (several : 1 < network.config.nodeCount)
    (elected : ∀ station ∈ scene.stations,
      station.memory.read network.table.nodeId = Cell.ofCount (network.config.nodeCount - 1)) :
    (network.config.nodeCount - 1) * network.config.minDelay + 2 ≤ ticks := by
  have inside : network.config.nodeCount - 2 < network.config.nodeCount := by omega
  obtain ⟨station, found⟩ := traffic.sound.found inside
  have talker := traffic.stations _ station found
  rw [if_neg (Nat.not_lt_zero _)] at talker
  have small := holds.small
  have shown : (station.memory.read network.table.nodeId).toInt = network.leader := by
    rw [elected station (List.mem_of_getElem? found), Cell.toInt_ofCount (by omega), leader]
    omega
  have next : network.successor (network.config.nodeCount - 2) = network.config.nodeCount - 1 := by
    rcases successor_cases inside with ⟨_, _⟩ | ⟨_, _⟩ <;> omega
  have late := Candidate.shownLate talker.knows shown (by omega)
  rw [next] at late
  omega

/-- With one delay for all messages, an election is decided exactly if there is a buffer for each node
and tick of delay, and time for the news to go round. -/
theorem HoldsElection.decided_iff (holds : network.HoldsElection bytecode)
    (fares : network.Fares network.campaign maxTicks (result, scene))
    (narrow : network.config.minDelay = network.config.maxDelay) :
    (result.outcome = .completed ∧ ∀ node ∈ result.nodes,
        node.value network.table.nodeId = Cell.ofCount (result.nodes.length - 1)) ↔
      network.config.nodeCount = 1 ∨
        network.config.nodeCount * network.config.maxDelay ≤ network.config.capacity ∧
          (network.config.nodeCount - 1) * network.config.maxDelay + 2 ≤ maxTicks := by
  have nodes := holds.settings.nodes
  constructor
  · rintro ⟨completed, ids⟩
    cases fares with
    | jams jam => cases completed
    | lasts traffic within whole =>
      refine Nat.eq_or_lt_of_le (Nat.succ_le_of_lt nodes) |>.imp Eq.symm fun several => ?_
      have elected : ∀ station ∈ scene.stations, station.memory.read network.table.nodeId =
          Cell.ofCount (network.config.nodeCount - 1) := by
        intro station member
        have shown := ids _ (List.mem_map_of_mem member)
        rwa [Scene.report, List.length_map, traffic.sound.count] at shown
      have late := holds.late traffic several elected
      rw [whole several, narrow] at late
      refine ⟨Nat.le_of_not_lt fun few => ?_, late⟩
      -- too few buffers are used up long before the news has gone round
      rw [← narrow] at few late
      have short := traffic.ticks_le several few
      have quick := Nat.div_lt_of_lt_mul few
      have round := Nat.le_mul_of_pos_left network.config.minDelay
        (show 0 < network.config.nodeCount - 1 by omega)
      rw [whole several] at short
      omega
  · intro decided
    have lag : network.lag = network.config.maxDelay := by
      rw [Network.lag, narrow]
      omega
    obtain ⟨completed, length, ids⟩ := holds.converges fares
      (fun several => (decided.resolve_left (Nat.ne_of_gt several)).1)
      (decided.imp_right fun both => lag ▸ both.2)
    exact ⟨completed, length ▸ ids⟩

end Network

namespace Runner

/-- With accepted settings there is a report, and the settings tell whether it shows an election. -/
theorem exists_decided (runner : Runner)
    (settings : { runner.config with minDelay := runner.config.maxDelay : NetworkConfig }.Valid)
    (small : runner.config.nodeCount < negativeCount) (bounded : runner.maxTicks ≤ lastTick) :
    ∃ result,
      runner.simulate { runner.config with minDelay := runner.config.maxDelay }
        (Bytecode.leaderElection .standard) Router.ring runner.seed = .ok (.ok result) ∧
      (checkConverged result = none ↔
        runner.config.nodeCount = 1 ∨
          runner.config.nodeCount * runner.config.maxDelay ≤ runner.config.capacity ∧
            (runner.config.nodeCount - 1) * runner.config.maxDelay + 2 ≤ runner.maxTicks) := by
  obtain ⟨bytecode, network, made, built, same, table, holds⟩ := Network.exists_holdsElection
    (σ := Unit) settings small {} [] (Seeded.draw_within (Nat.le_refl _))
  have fares := holds.ring.fares (Seeded.new runner.seed) () bounded
  have standard : SymbolTable.create {} [] = .standard := rfl
  rw [standard] at made built table
  have simulated := runner.simulate_built built runner.seed
  rw [← made] at simulated
  have decided := holds.decided_iff fares (by rw [same])
  rw [table, ← checkConverged_eq_none_iff, same] at decided
  exact ⟨_, simulated, decided⟩

/-- The scenario with one delay is rejected exactly if there are no nodes, no delay or no buffers.
Otherwise a node on its own always passes, and several nodes do exactly if there is a buffer for each
of them and each tick of delay, and time for the greatest number to go round. -/
theorem fixed_delay_verdict (runner : Runner) (small : runner.config.nodeCount < negativeCount)
    (bounded : runner.maxTicks ≤ lastTick) :
    ∃ result, runner.run .fixedDelay = .ok result ∧
      ((∃ error, result.shortfall = some (.rejected error)) ↔
        runner.config.nodeCount = 0 ∨ runner.config.maxDelay = 0 ∨ runner.config.capacity = 0) ∧
      (0 < runner.config.nodeCount → 0 < runner.config.maxDelay → 0 < runner.config.capacity →
        (result.passed = true ↔
          runner.config.nodeCount = 1 ∨
            runner.config.nodeCount * runner.config.maxDelay ≤ runner.config.capacity ∧
              (runner.config.nodeCount - 1) * runner.config.maxDelay + 2 ≤ runner.maxTicks)) := by
  let config : NetworkConfig := { runner.config with minDelay := runner.config.maxDelay }
  obtain ⟨outcome, simulated, ran⟩ := runner.exists_fixedDelay
  refine ⟨_, ran, ?_⟩
  by_cases settings : config.Valid
  · have nodes : 0 < runner.config.nodeCount := settings.nodes
    have delay : 0 < runner.config.maxDelay := settings.positive
    have buffers : 0 < runner.config.capacity := settings.capacity
    obtain ⟨result, known, decided⟩ := runner.exists_decided settings small bounded
    cases Except.ok.inj (known.symm.trans simulated)
    refine ⟨iff_of_false ?_ (by omega), fun _ _ _ => Option.isNone_iff_eq_none.trans decided⟩
    rintro ⟨error, rejected⟩
    rcases checkConverged_cases result with known | ⟨cause, known⟩ | ⟨ids, leader, known⟩ <;>
      cases known.symm.trans rejected
  · obtain ⟨bytecode, made⟩ : ∃ bytecode, Bytecode.leaderElection .standard = .ok bytecode :=
      ⟨_, rfl⟩
    obtain ⟨error, refused⟩ := runner.exists_refused settings bytecode Router.ring runner.seed
    rw [← made] at refused
    cases Except.ok.inj (refused.symm.trans simulated)
    have missing : ¬ (0 < runner.config.nodeCount ∧ 0 < runner.config.maxDelay ∧
        0 < runner.config.capacity) :=
      fun all => settings ⟨all.1, all.2.1, Nat.le_refl _, all.2.2⟩
    refine ⟨iff_of_true ⟨error, rfl⟩ (by omega), fun nodes delay buffers => ?_⟩
    exact absurd ⟨nodes, delay, buffers⟩ missing

/-- Four nodes whose messages take three ticks. The scenario passes with twelve buffers and eleven
ticks, but with one less of either it does not. Without a delay it is rejected. -/
theorem fixed_delay_verdict_four :
    (∃ result, run ⟨7, { nodeCount := 4, capacity := 12 }, 11⟩ .fixedDelay = .ok result ∧
      result.passed = true) ∧
    (∃ result, run ⟨7, { nodeCount := 4, capacity := 11 }, 11⟩ .fixedDelay = .ok result ∧
      ¬ result.passed = true) ∧
    (∃ result, run ⟨7, { nodeCount := 4, capacity := 12 }, 10⟩ .fixedDelay = .ok result ∧
      ¬ result.passed = true) ∧
    ∃ result, run ⟨7, { nodeCount := 4, maxDelay := 0 }, 11⟩ .fixedDelay = .ok result ∧
      ∃ error, result.shortfall = some (.rejected error) := by
  refine ⟨?_, ?_, ?_, ?_⟩
  · obtain ⟨result, ran, -, decided⟩ := fixed_delay_verdict
      ⟨7, { nodeCount := 4, capacity := 12 }, 11⟩ (by decide) (by decide)
    exact ⟨result, ran, (decided (by decide) (by decide) (by decide)).mpr (by decide)⟩
  · obtain ⟨result, ran, -, decided⟩ := fixed_delay_verdict
      ⟨7, { nodeCount := 4, capacity := 11 }, 11⟩ (by decide) (by decide)
    exact ⟨result, ran, mt (decided (by decide) (by decide) (by decide)).mp (by decide)⟩
  · obtain ⟨result, ran, -, decided⟩ := fixed_delay_verdict
      ⟨7, { nodeCount := 4, capacity := 12 }, 10⟩ (by decide) (by decide)
    exact ⟨result, ran, mt (decided (by decide) (by decide) (by decide)).mp (by decide)⟩
  · obtain ⟨result, ran, rejected, -⟩ := fixed_delay_verdict
      ⟨7, { nodeCount := 4, maxDelay := 0 }, 11⟩ (by decide) (by decide)
    exact ⟨result, ran, rejected.mpr (by decide)⟩

end Runner

end Lockstep
