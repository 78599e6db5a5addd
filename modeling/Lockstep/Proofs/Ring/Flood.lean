import Lockstep.Proofs.Machine.Calls
import Lockstep.Proofs.Random.Window
import Lockstep.Proofs.Ring.Run
import Lockstep.Proofs.Scenario.Simulated
import Lockstep.Proofs.Table.Created

/-!
Where a ring that is flooded runs out of buffers.

Every node sends its number in every tick, whatever it has received, so a flood is a ring about whose
messages nothing need be known (`Flood.ring`). If the buffers are used up before the first message
arrives, the run ends at the turn that a count of the messages says, and if there is one for each node
and tick of delay it lasts (`flood_exhausts_pool`).
-/
namespace Lockstep

namespace Bytecode

variable {bytecode : Bytecode} {table : SymbolTable}

/-- There is a flood for a table with room for a message. -/
theorem flood_eq (sends : 0 < table.send.length) :
    flood table = .ok (ofCode #[.nodeIndex, .store table.send.start, .send]) := by
  simp [flood, SymbolTable.symbolAt, SymbolTable.span, sends, bind, Except.bind, pure, Except.pure]

/-- A call of a flood sends. -/
theorem play_flood (made : flood table = .ok bytecode) (sends : 0 < table.send.length)
    (posted : table.protection[table.send.start]? = some false) (place : Place) (memory : Memory) :
    ∃ after, (bytecode.call place).play table memory false = (.send, after, true) := by
  rw [flood_eq sends] at made
  cases made
  obtain ⟨after, staged⟩ := memory.exists_stage posted (Cell.ofCount place.index)
  refine ⟨after, ?_⟩
  rw [call, show (ofCode _).budget = 1021 + 3 from rfl, Machine.Frame.initial, play_onStack rfl rfl,
    play_store rfl staged, play_send rfl, play_ended rfl]
  rfl

end Bytecode

/-- A flood has failed for want of the only buffer. -/
theorem Runner.checkExhausted_eq_none {result : RunResult} {tick node : Nat}
    (failed : result.outcome = .failed tick node (.resourceExhausted 1)) :
    checkExhausted result = none := by
  simp only [checkExhausted, RunResult.failureCause, failed]

namespace Network

variable {ρ σ : Type} {network : Network ρ σ} {bytecode : Bytecode} {start : State ρ σ}
  {maxTicks : Nat}

/-- Nothing need be known about the messages. -/
def Talk.blank : Talk where
  tells _ _ _ := True
  knows _ _ _ _ := True

/-- A ring that is flooded. -/
structure Flood (network : Network ρ σ) (bytecode : Bytecode) : Prop where
  settings : network.config.Valid
  valid : network.table.Valid
  made : Bytecode.flood network.table = .ok bytecode
  sends : 0 < network.table.send.length
  posted : network.table.protection[network.table.send.start]? = some false
  program : ∀ index, network.program index = bytecode.program
  router : network.router = Router.ring
  window : network.InWindow

namespace Flood

theorem ring (flood : network.Flood bytecode) : network.Ring .blank where
  settings := flood.settings
  valid := flood.valid
  router := flood.router
  window := flood.window
  opens _ _ := trivial
  speaks := by
    intro log tick taken index station shared mail talker kept rests inside early
    obtain ⟨memory, played⟩ := Bytecode.play_flood flood.made flood.sends flood.posted station.place
      ((station.consume network.table).memory.roll network.table)
    rw [flood.program]
    exact ⟨memory, .of_call talker.running played, fun _ => trivial, trivial⟩
  hears _ _ _ := trivial

section Faring

variable (flood : network.Flood bytecode) {result : RunResult} {scene : Scene ρ σ}
  (fares : network.Fares .blank maxTicks (result, scene)) (several : 1 < network.config.nodeCount)

include flood fares several

/-- A pool that is used up before the first message arrives gives each buffer to one turn. -/
theorem fails (bounded : maxTicks ≤ lastTick)
    (few : network.config.capacity < network.config.nodeCount * network.config.minDelay)
    (long : network.config.capacity / network.config.nodeCount < maxTicks) :
    result.outcome = .failed (network.config.capacity / network.config.nodeCount)
        (network.config.capacity % network.config.nodeCount)
        (.resourceExhausted network.config.capacity) ∧
      result.ticksRun = network.config.capacity / network.config.nodeCount ∧
      result.stats.messagesSent = network.config.capacity := by
  cases fares with
  | lasts traffic within whole =>
    have short := traffic.ticks_le several few
    rw [whole several] at short
    exact absurd long (Nat.not_lt.mpr short)
  | @jams tick failure jam before =>
    obtain ⟨inside, place, sent⟩ :=
      jam.place flood.settings (Nat.lt_of_lt_of_le before bounded) few
    have quotient : network.config.capacity / network.config.nodeCount = tick :=
      Nat.div_eq_of_lt_le (by omega) (by rw [Nat.succ_mul]; omega)
    have remainder : network.config.capacity % network.config.nodeCount = failure.node := by
      rw [← place, Nat.mul_add_mod_of_lt inside]
    rw [quotient, remainder]
    exact ⟨congrArg (RunOutcome.failed tick failure.node) jam.cause, rfl, sent⟩

/-- A buffer for each node and tick of delay is enough. -/
theorem lasts (room : network.config.nodeCount * network.config.maxDelay ≤ network.config.capacity) :
    result.outcome = .completed ∧ result.ticksRun = maxTicks ∧
      result.stats.messagesSent = maxTicks * network.config.nodeCount := by
  cases fares with
  | lasts traffic within whole =>
    have total := traffic.mail.total
    rw [if_pos several, Nat.add_zero, ← traffic.tracks.sent, whole several] at total
    exact ⟨rfl, whole several, total⟩
  | jams jam => exact absurd (jam.scarce flood.settings) (Nat.not_lt.mpr room)

end Faring

end Flood

/-- The networks of a flood: there is a program for the table, and the network is accepted. -/
theorem exists_flood {config : NetworkConfig} (settings : config.Valid) (layout : TableLayout)
    (extras : List SymbolSpec) {source : Source ρ}
    (window : ∀ random,
      config.minDelay ≤ (source.draw random config.minDelay config.maxDelay).1 ∧
        (source.draw random config.minDelay config.maxDelay).1 ≤ config.maxDelay) :
    ∃ (bytecode : Bytecode) (network : Network ρ σ),
      Bytecode.flood (.create layout extras) = .ok bytecode ∧
      Network.build (.create layout extras) config (fun _ => bytecode.program) Router.ring source =
        .ok network ∧
      network.config = config ∧ network.Flood bytecode := by
  let table := SymbolTable.create layout extras
  have valid : table.Valid := SymbolTable.valid_create layout extras
  have sends : 0 < table.send.length := SymbolTable.sends_create
  have posted : table.protection[table.send.start]? = some false := SymbolTable.protection_send
  have made := Bytecode.flood_eq sends
  refine ⟨_, _, made, build_eq_ok.mpr ⟨settings, valid, rfl⟩, rfl, ?_⟩
  exact ⟨settings, valid, made, sends, posted, fun _ => rfl, rfl, window⟩

end Network

/-- The settings of the scenario that tries a pool of one buffer. It takes two nodes to use it up. -/
def Runner.cramped (runner : Runner) : NetworkConfig :=
  { runner.config with nodeCount := max runner.config.nodeCount 2, capacity := 1 }

/-- The scenario that tries a pool of one buffer wants another in the first tick, for the second
node. -/
theorem Runner.exists_exhausted (runner : Runner) (positive : 0 < runner.config.minDelay)
    (ordered : runner.config.minDelay ≤ runner.config.maxDelay) (lasting : 0 < runner.maxTicks)
    (bounded : runner.maxTicks ≤ lastTick) :
    ∃ report, runner.simulate runner.cramped (Bytecode.flood .standard) Router.ring runner.seed =
        .ok (.ok report) ∧ report.outcome = .failed 0 1 (.resourceExhausted 1) := by
  have nodes : 2 ≤ runner.cramped.nodeCount := Nat.le_max_right _ _
  obtain ⟨bytecode, network, made, built, same, flood⟩ := Network.exists_flood (σ := Unit)
    (show runner.cramped.Valid from ⟨Nat.lt_of_succ_lt nodes, positive, ordered, Nat.one_pos⟩) {} []
    (Seeded.draw_within ordered)
  have fares := flood.ring.fares (Seeded.new runner.seed) () bounded
  rw [← same] at nodes
  have one : network.config.capacity = 1 := congrArg NetworkConfig.capacity same
  have few : network.config.capacity < network.config.nodeCount * network.config.minDelay := by
    rw [one]
    exact Nat.lt_of_lt_of_le nodes (Nat.le_mul_of_pos_right _ flood.settings.positive)
  have first : network.config.capacity / network.config.nodeCount = 0 := by
    rw [one, Nat.div_eq_of_lt nodes]
  have second : network.config.capacity % network.config.nodeCount = 1 := by
    rw [one, Nat.mod_eq_of_lt nodes]
  obtain ⟨failed, -⟩ := flood.fails fares nodes bounded few (first ▸ lasting)
  rw [first, second, one] at failed
  have standard : SymbolTable.create {} [] = .standard := rfl
  rw [standard] at made built
  have simulated := runner.simulate_built built runner.seed
  rw [← made] at simulated
  exact ⟨_, simulated, failed⟩

/-- So that scenario reports a run that failed, and passes. -/
theorem Runner.poolExhaustion_fails (runner : Runner) (positive : 0 < runner.config.minDelay)
    (ordered : runner.config.minDelay ≤ runner.config.maxDelay) (lasting : 0 < runner.maxTicks)
    (bounded : runner.maxTicks ≤ lastTick) :
    ∃ report, runner.run .poolExhaustion =
        .ok ⟨.poolExhaustion, runner.seed, some report, none⟩ ∧
      report.outcome = .failed 0 1 (.resourceExhausted 1) := by
  obtain ⟨report, simulated, failed⟩ :=
    runner.exists_exhausted positive ordered lasting bounded
  have passed : checkExhausted report = none := checkExhausted_eq_none failed
  rw [cramped] at simulated
  refine ⟨report, ?_, failed⟩
  simp only [run, verdict, simulated, judge, Except.map, passed, bind, Except.bind, pure,
    Except.pure]

theorem Runner.poolExhaustion_passes (runner : Runner) (positive : 0 < runner.config.minDelay)
    (ordered : runner.config.minDelay ≤ runner.config.maxDelay) (lasting : 0 < runner.maxTicks)
    (bounded : runner.maxTicks ≤ lastTick) :
    ∃ result, runner.run .poolExhaustion = .ok result ∧ result.passed = true := by
  obtain ⟨report, ran, -⟩ := runner.poolExhaustion_fails positive ordered lasting bounded
  exact ⟨_, ran, rfl⟩

namespace Network

/-- A ring that is flooded uses a buffer in every turn before the first message arrives: if there are
no more by then, the run fails at the turn after as many as there were buffers. With a buffer for each
node and tick of delay it goes on to its end. The scenario that tries a pool of one buffer passes. -/
theorem flood_exhausts_pool {config : NetworkConfig} (several : 2 ≤ config.nodeCount)
    (positive : 0 < config.minDelay) (ordered : config.minDelay ≤ config.maxDelay)
    (buffers : 1 ≤ config.capacity) {maxTicks : Nat} (bounded : maxTicks ≤ lastTick) :
    (∀ (ρ σ : Type) (layout : TableLayout) (extras : List SymbolSpec) (source : Source ρ),
      (∀ random, config.minDelay ≤ (source.draw random config.minDelay config.maxDelay).1 ∧
        (source.draw random config.minDelay config.maxDelay).1 ≤ config.maxDelay) →
      ∃ (bytecode : Bytecode) (network : Network ρ σ),
        Bytecode.flood (.create layout extras) = .ok bytecode ∧
        Network.build (.create layout extras) config (fun _ => bytecode.program) Router.ring
          source = .ok network ∧
        ∀ start, network.Resting start →
          ∃ result final, network.run maxTicks start = .ok (result, final) ∧
            (config.capacity < config.nodeCount * config.minDelay →
              config.capacity / config.nodeCount < maxTicks →
                result.outcome = .failed (config.capacity / config.nodeCount)
                  (config.capacity % config.nodeCount) (.resourceExhausted config.capacity) ∧
                result.ticksRun = config.capacity / config.nodeCount ∧
                result.stats.messagesSent = config.capacity) ∧
            (config.nodeCount * (2 * config.maxDelay - config.minDelay + 1) ≤ config.capacity ∨
                config.minDelay = config.maxDelay ∧
                  config.nodeCount * config.maxDelay ≤ config.capacity →
              result.outcome = .completed ∧ result.ticksRun = maxTicks ∧
              result.stats.messagesSent = maxTicks * config.nodeCount)) ∧
    (0 < maxTicks → ∀ seed, ∃ result,
      Runner.run ⟨seed, config, maxTicks⟩ .poolExhaustion = .ok result ∧ result.passed = true) := by
  have settings : config.Valid := ⟨Nat.lt_of_succ_lt several, positive, ordered, buffers⟩
  constructor
  · intro ρ σ layout extras source window
    obtain ⟨bytecode, network, made, built, rfl, flood⟩ :=
      exists_flood (σ := σ) settings layout extras window
    refine ⟨bytecode, network, made, built, fun start resting => ?_⟩
    obtain ⟨result, final, scene, ran, fares⟩ := flood.ring.run resting bounded
    refine ⟨result, final, ran, flood.fails fares several bounded, fun room => ?_⟩
    refine flood.lasts fares several ?_
    rcases room with plenty | ⟨-, enough⟩
    · refine Nat.le_trans (Nat.mul_le_mul_left _ ?_) plenty
      omega
    · exact enough
  · exact fun lasting seed =>
      Runner.poolExhaustion_passes ⟨seed, config, maxTicks⟩ positive ordered lasting bounded

/-- Three nodes whose messages take two or three ticks. With five buffers the third node finds none
left in the second tick, and with fifteen there are always some. -/
theorem flood_exhausts_pool_three :
    (∃ (bytecode : Bytecode) (network : Network Nat Unit),
      Bytecode.flood .standard = .ok bytecode ∧
        Network.build .standard { nodeCount := 3, minDelay := 2, maxDelay := 3, capacity := 5 }
          (fun _ => bytecode.program) Router.ring (Source.cycle [2, 3]) = .ok network ∧
        ∃ result final, network.run 4 (network.initial 0 ()) = .ok (result, final) ∧
          result.outcome = .failed 1 2 (.resourceExhausted 5) ∧ result.ticksRun = 1 ∧
          result.stats.messagesSent = 5) ∧
      (∃ (bytecode : Bytecode) (network : Network Nat Unit),
        Bytecode.flood .standard = .ok bytecode ∧
          Network.build .standard { nodeCount := 3, minDelay := 2, maxDelay := 3, capacity := 15 }
            (fun _ => bytecode.program) Router.ring (Source.cycle [2, 3]) = .ok network ∧
          ∃ result final, network.run 4 (network.initial 0 ()) = .ok (result, final) ∧
            result.outcome = .completed ∧ result.ticksRun = 4 ∧ result.stats.messagesSent = 12) ∧
      ∃ result, Runner.run
        ⟨7, { nodeCount := 3, minDelay := 2, maxDelay := 3, capacity := 5 }, 4⟩ .poolExhaustion =
          .ok result ∧ result.passed = true := by
  let scarce : NetworkConfig := { nodeCount := 3, minDelay := 2, maxDelay := 3, capacity := 5 }
  let ample : NetworkConfig := { nodeCount := 3, minDelay := 2, maxDelay := 3, capacity := 15 }
  have window : ∀ random, 2 ≤ ((Source.cycle [2, 3]).draw random 2 3).1 ∧
      ((Source.cycle [2, 3]).draw random 2 3).1 ≤ 3 := by
    intro count
    cases Nat.mod_two_eq_zero_or_one count with
    | inl even => simp [Source.cycle, even]
    | inr odd => simp [Source.cycle, odd]
  obtain ⟨failing, scenario⟩ := flood_exhausts_pool (show 2 ≤ scarce.nodeCount by decide)
    (by decide) (by decide) (by decide) (show 4 ≤ lastTick by decide)
  obtain ⟨lasting, -⟩ := flood_exhausts_pool (show 2 ≤ ample.nodeCount by decide)
    (by decide) (by decide) (by decide) (show 4 ≤ lastTick by decide)
  refine ⟨?_, ?_, scenario (by decide) 7⟩
  · obtain ⟨bytecode, network, made, built, runs⟩ :=
      failing Nat Unit {} [] (Source.cycle [2, 3]) window
    obtain ⟨result, final, ran, fails, -⟩ := runs _ (.initial 0 ())
    have failed := fails (by decide) (by decide)
    rw [show scarce.capacity / scarce.nodeCount = 1 by decide,
      show scarce.capacity % scarce.nodeCount = 2 by decide] at failed
    exact ⟨bytecode, network, made, built, result, final, ran, failed⟩
  · obtain ⟨bytecode, network, made, built, runs⟩ :=
      lasting Nat Unit {} [] (Source.cycle [2, 3]) window
    obtain ⟨result, final, ran, -, lasts⟩ := runs _ (.initial 0 ())
    exact ⟨bytecode, network, made, built, result, final, ran, lasts (.inl (by decide))⟩

end Network

end Lockstep
