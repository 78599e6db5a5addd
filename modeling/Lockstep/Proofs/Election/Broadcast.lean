import Lockstep.Proofs.Delivery.Addressing
import Lockstep.Proofs.Election.Spread
import Mathlib.Algebra.Ring.Parity

/-!
An election on change that is held by broadcast converges.

A run that is not cut short goes on until its ticks are used up or it becomes quiet
(`Broadcasting.concludes`). In time every node has read the greatest number, and so it has when a tick
was idle and no message is left (`Spreading.elected`). Since there are only so many messages, a pool of
as many buffers is never used up (`broadcast_election_converges`).
-/
namespace Lockstep.Network

variable {ρ σ : Type} {network : Network ρ σ} {bytecode : Bytecode} {scene : Scene ρ σ}
  {log : List Message} {ticks : Nat}

theorem told_opening (network : Network ρ σ) (random : ρ) (shared : σ) :
    (network.opening random shared).told = 0 := by
  refine List.sum_eq_zero_iff_forall_eq_nat.mpr fun amount member => ?_
  obtain ⟨station, inside, rfl⟩ := List.mem_map.mp member
  obtain ⟨index, found⟩ := List.getElem?_of_mem inside
  obtain ⟨-, rfl⟩ := opening_found found
  rfl

/-- The election starts with every node knowing its own number and nobody having told it. -/
theorem Broadcasting.opening (broadcasting : network.Broadcasting bytecode) (random : ρ)
    (shared : σ) : network.Spreading [] 0 0 (network.opening random shared) := by
  have told := told_opening network random shared
  have nodes := broadcasting.settings.nodes
  have positive := broadcasting.settings.positive
  have ordered := broadcasting.settings.ordered
  refine ⟨opening_sound network random shared, tracks_opening network random shared,
    ⟨by rw [told]; rfl, by simp, fun index station found => ?_, by simp, ?_,
      fun index station found => ?_⟩⟩
  · obtain ⟨-, rfl⟩ := opening_found found
    rw [told]
    rfl
  · rintro (later | all)
    · cases later
    · omega
  · obtain ⟨inside, rfl⟩ := opening_found found
    obtain ⟨read, prepared⟩ := broadcasting.recording.electoral.own index network.config.nodeCount
    have word := Cell.toInt_ofCount (Nat.lt_trans inside broadcasting.small)
    have own : ((network.freshStation index).number network.table).toInt = index :=
      (congrArg Int64.toInt prepared).trans word
    have shown : ((network.freshStation index).memory.read network.table.nodeId).toInt = index :=
      (congrArg Int64.toInt read).trans word
    refine ⟨rfl, Int.le_of_eq own.symm, ?_, fun message member => ?_,
      iff_of_true (broadcasting.recording.unset index _) rfl, ?_, fun _ => Nat.zero_le _,
      fun reached => ?_, fun unchanged => by cases unchanged⟩
    · rw [own, leader]
      omega
    · simp [freshStation] at member
    · rw [own]
      exact Int.le_of_eq (by simp [freshStation])
    · rw [if_neg (Nat.not_lt_zero _)] at reached
      rw [shown, leader]
      omega

/-- No more is sent than all nodes may tell. -/
theorem Spreading.sent_le (spreading : network.Spreading log ticks 0 scene)
    (nodes : 0 < network.config.nodeCount) : scene.tally.sent ≤ network.traffic := by
  obtain ⟨station, found⟩ := spreading.sound.found nodes
  have told := spreading.gossip.told_le spreading.sound found
  have own := (spreading.gossip.voter found).sent_le
  rw [spreading.tracks.sent, spreading.gossip.total]
  exact Nat.mul_le_mul_left _ (by omega)

theorem traffic_eq (network : Network ρ σ) :
    network.traffic = (network.config.nodeCount - 1) * network.config.nodeCount *
      (network.config.nodeCount + 1) / 2 := by
  have even : 2 ∣ network.config.nodeCount * (network.config.nodeCount + 1) :=
    Nat.two_dvd_mul_add_one _
  rw [traffic, rounds, ← Nat.mul_div_assoc _ even, Nat.mul_assoc]

/-- A run is cut short, or it goes on as an election until it completes. -/
theorem Broadcasting.concludes (broadcasting : network.Broadcasting bytecode) (random : ρ)
    (shared : σ) {maxTicks : Nat} (bounded : maxTicks ≤ lastTick) :
    network.Concludes
      (fun ticks scene => (∃ log, network.Spreading log ticks 0 scene) ∧
        (0 < ticks → 0 < scene.tally.idleStreak → scene.isIdle = true))
      (fun _ => network.Cut) maxTicks (network.plainRun maxTicks random shared) := by
  refine plainRun_concludes _ ?_
    ⟨⟨[], broadcasting.opening random shared⟩, fun later => absurd later (Nat.lt_irrefl 0)⟩
  rintro tick middle before - ⟨⟨log, spreading⟩, -⟩
  refine (spreading.plainTick broadcasting (by omega)).imp ?_
  exact fun after ⟨goesOn, idle⟩ => ⟨goesOn, fun _ => idle⟩

/-- When no message is left, a voter that changed nothing in its last step has read the greatest
number. -/
theorem Spreading.settled {index : Nat} {station : Station}
    (spreading : network.Spreading log ticks 0 scene)
    (found : scene.stations[index]? = some station) (later : 0 < ticks) (empty : scene.live = 0)
    (unchanged : station.last = some .unchanged) :
    (station.memory.read network.table.nodeId).toInt = network.leader := by
  have gossip := spreading.gossip
  have voter := gossip.voters index station found
  rw [if_neg (Nat.not_lt_zero _)] at voter
  have kept := spreading.tracks.queues index station found voter.running
  have inside := (List.getElem?_eq_some_iff.mp found).1
  rw [spreading.sound.count] at inside
  have past := spreading.tracks.past spreading.sound gossip.running gossip.bound empty
  have waiting := (live_eq_zero_iff.mp empty).2 station (List.mem_of_getElem? found)
  have all := List.drop_eq_nil_iff.mp (kept.inbox.symm.trans waiting)
  rw [voter.steady unchanged]
  exact gossip.informed voter (.inl later) inside
    (fun message member _ => Nat.le_of_lt (past message member)) all

/-- In time, or once all is quiet, every node has read the greatest number. -/
theorem Spreading.elected (spreading : network.Spreading log ticks 0 scene)
    (small : network.config.nodeCount < negativeCount)
    (done : network.config.maxDelay + network.rounds ≤ ticks ∨
      0 < ticks ∧ scene.live = 0 ∧ scene.isIdle = true) :
    ∀ station ∈ scene.stations,
      station.memory.read network.table.nodeId = Cell.ofCount (network.config.nodeCount - 1) := by
  intro station member
  obtain ⟨index, found⟩ := List.getElem?_of_mem member
  have inside := (List.getElem?_eq_some_iff.mp found).1
  rw [spreading.sound.count] at inside
  have shown : (station.memory.read network.table.nodeId).toInt = network.leader := by
    cases done with
    | inl long =>
      have voter := spreading.gossip.voters index station found
      rw [if_neg (Nat.not_lt_zero _)] at voter
      exact voter.shown (.inr long)
    | inr quiet =>
      obtain ⟨later, empty, idle⟩ := quiet
      have last := List.all_eq_true.mp idle station member
      exact spreading.settled found later empty (beq_iff_eq.mp last)
  refine Int64.toInt.inj (shown.trans ?_)
  rw [Cell.toInt_ofCount (by omega), leader]
  omega

/-- The run of an election on change. -/
theorem Broadcasting.run (broadcasting : network.Broadcasting bytecode) {start : State ρ σ}
    (resting : network.Resting start) {maxTicks : Nat} (bounded : maxTicks ≤ lastTick) :
    ∃ result final, network.run maxTicks start = .ok (result, final) ∧
      result.stats.messagesSent ≤ network.traffic ∧
      (max 1 network.traffic ≤ network.config.capacity → network.config.quiescence ≠ some 0 →
        network.config.maxDelay + network.rounds ≤ maxTicks →
          result.outcome = .completed ∧ result.nodes.length = network.config.nodeCount ∧
            ∀ node ∈ result.nodes,
              node.value network.table.nodeId = Cell.ofCount (network.config.nodeCount - 1)) := by
  have valid := broadcasting.recording.electoral.valid
  obtain ⟨final, ran, -⟩ := run_depicts valid (resting.sound valid) maxTicks
  refine ⟨_, final, ran, ?_⟩
  have concludes := broadcasting.concludes start.random start.shared bounded
  generalize network.plainRun maxTicks start.random start.shared = ended at concludes
  cases concludes with
  | fails cut early => exact ⟨cut.sent, fun room => absurd room (Nat.not_le.mpr cut.capacity)⟩
  | @completes ticks scene holds within early =>
    obtain ⟨⟨log, spreading⟩, idle⟩ := holds
    have nodes := broadcasting.settings.nodes
    refine ⟨spreading.sent_le nodes, fun room window long => ⟨rfl, ?_, ?_⟩⟩
    · rw [Scene.report, List.length_map, spreading.sound.count]
    · intro node member
      obtain ⟨station, inside, rfl⟩ := List.mem_map.mp member
      refine spreading.elected broadcasting.small ?_ station inside
      cases Nat.lt_or_eq_of_le within with
      | inr whole => exact .inl (by omega)
      | inl short =>
        obtain ⟨later, ends⟩ := early short
        have running : scene.allTerminated = false :=
          spreading.sound.not_allTerminated nodes fun _ station found =>
            spreading.gossip.running station (List.mem_of_getElem? found)
        rw [running, Bool.false_or] at ends
        obtain ⟨least, asked, streak, empty⟩ := plainQuiescent_eq_true ends
        have positive : 0 < least :=
          Nat.pos_of_ne_zero fun zero => window (asked.trans (congrArg some zero))
        exact .inr ⟨later, empty, idle later (Nat.lt_of_lt_of_le positive streak)⟩

/-- The networks of an election on change: there is a program for the table, and the network is
accepted. -/
theorem exists_broadcasting {config : NetworkConfig} (settings : config.Valid)
    (small : config.nodeCount < negativeCount) {layout : TableLayout}
    (counts : 0 < layout.variableCount) (extras : List SymbolSpec) {source : Source ρ}
    (window : ∀ random,
      config.minDelay ≤ (source.draw random config.minDelay config.maxDelay).1 ∧
        (source.draw random config.minDelay config.maxDelay).1 ≤ config.maxDelay) :
    ∃ (bytecode : Bytecode) (network : Network ρ σ),
      Bytecode.leaderElectionOnChange (.create layout extras) = .ok bytecode ∧
      Network.build (.create layout extras) config (fun _ => bytecode.program) Router.broadcast
        source = .ok network ∧
      network.config = config ∧ network.Broadcasting bytecode := by
  have recording := SymbolTable.recording_create counts extras
  have electoral := recording.electoral
  obtain ⟨bytecode, made⟩ : ∃ bytecode,
      Bytecode.leaderElectionOnChange (.create layout extras) = .ok bytecode :=
    ⟨_, Bytecode.leaderElectionOnChange_eq electoral.receives electoral.sends recording.counts⟩
  refine ⟨bytecode, _, made, build_eq_ok.mpr ⟨settings, electoral.valid, rfl⟩, rfl, ?_⟩
  exact ⟨settings, recording, made, fun _ => rfl, rfl, window, small⟩

/-- Whatever the delays, an election on change that is held by broadcast sends no more messages than
its nodes can learn numbers. If the pool is as large as that, and the run does not stop before
anything has happened, every node comes to know the greatest number in time. -/
theorem broadcast_election_converges {config : NetworkConfig} (nodes : 1 ≤ config.nodeCount)
    (small : config.nodeCount < negativeCount) (positive : 0 < config.minDelay)
    (ordered : config.minDelay ≤ config.maxDelay) (buffers : 0 < config.capacity)
    {layout : TableLayout} (counts : 1 ≤ layout.variableCount) (extras : List SymbolSpec)
    {source : Source ρ}
    (window : ∀ random,
      config.minDelay ≤ (source.draw random config.minDelay config.maxDelay).1 ∧
        (source.draw random config.minDelay config.maxDelay).1 ≤ config.maxDelay) :
    ∃ (bytecode : Bytecode) (network : Network ρ σ),
      Bytecode.leaderElectionOnChange (.create layout extras) = .ok bytecode ∧
      Network.build (.create layout extras) config (fun _ => bytecode.program) Router.broadcast
        source = .ok network ∧
      ∀ start, network.Resting start → ∀ maxTicks ≤ lastTick,
        ∃ result final, network.run maxTicks start = .ok (result, final) ∧
          result.stats.messagesSent ≤
            (config.nodeCount - 1) * config.nodeCount * (config.nodeCount + 1) / 2 ∧
          (max 1 ((config.nodeCount - 1) * config.nodeCount * (config.nodeCount + 1) / 2) ≤
              config.capacity →
            config.quiescence ≠ some 0 →
            config.maxDelay + config.nodeCount * (config.nodeCount + 1) / 2 ≤ maxTicks →
              result.outcome = .completed ∧ result.nodes.length = config.nodeCount ∧
                ∀ node ∈ result.nodes,
                  node.value network.table.nodeId = Cell.ofCount (config.nodeCount - 1)) := by
  have settings : config.Valid := ⟨nodes, positive, ordered, buffers⟩
  obtain ⟨bytecode, network, made, built, rfl, broadcasting⟩ :=
    exists_broadcasting (σ := σ) settings small counts extras window
  refine ⟨bytecode, network, made, built, fun start resting maxTicks bounded => ?_⟩
  have run := broadcasting.run resting bounded
  rwa [traffic_eq] at run

theorem broadcast_election_converges_four :
    ∃ (bytecode : Bytecode) (network : Network Nat Unit),
      Bytecode.leaderElectionOnChange .standard = .ok bytecode ∧
        Network.build .standard { nodeCount := 4 } (fun _ => bytecode.program) Router.broadcast
          (Source.cycle [1, 3]) = .ok network ∧
        ∃ result final, network.run 13 (network.initial 0 ()) = .ok (result, final) ∧
          result.stats.messagesSent ≤ 30 ∧ result.outcome = .completed ∧
          result.nodes.length = 4 ∧
          ∀ node ∈ result.nodes, node.value network.table.nodeId = 3 := by
  let config : NetworkConfig := { nodeCount := 4 }
  have window : ∀ random,
      config.minDelay ≤ ((Source.cycle [1, 3]).draw random config.minDelay config.maxDelay).1 ∧
        ((Source.cycle [1, 3]).draw random config.minDelay config.maxDelay).1 ≤
          config.maxDelay := by
    intro count
    cases Nat.mod_two_eq_zero_or_one count with
    | inl even => simp [Source.cycle, even, config]
    | inr odd => simp [Source.cycle, odd, config]
  obtain ⟨bytecode, network, made, built, runs⟩ :=
    broadcast_election_converges (show 1 ≤ config.nodeCount by decide) (by decide) (by decide)
      (by decide) (by decide) (show 1 ≤ ({} : TableLayout).variableCount by decide) [] window
  obtain ⟨result, final, ran, sent, converges⟩ := runs _ (.initial 0 ()) 13 (by decide)
  have most : (config.nodeCount - 1) * config.nodeCount * (config.nodeCount + 1) / 2 = 30 := by
    decide
  rw [most] at sent
  exact ⟨bytecode, network, made, built, result, final, ran, sent,
    converges (by decide) (by decide) (by decide)⟩

end Lockstep.Network
