import Lockstep.Proofs.Ring.Traffic

/-!
Runs of a ring in which every node sends one message in every tick.

There are always messages left, so such a run neither becomes quiet nor stops for want of a running
node: it goes on until its ticks are used up, or until a turn finds the pool full (`Fares`). The bounds
on the buffers in use tell which. A pool of a buffer for each node and tick of delay is never full
(`Jam.scarce`), and one that is used up before the first message arrives is full after as many turns as
it has buffers (`Jam.place`).
-/
namespace Lockstep.Network

variable {ρ σ : Type} {network : Network ρ σ} {talk : Talk} {log : List Message}
  {tick ticks : Nat} {scene : Scene ρ σ} {failure : Failure ρ σ}

/-! ### Ticks -/

theorem Ring.opening (ring : network.Ring talk) (random : ρ) (shared : σ) :
    network.Traffic talk [] 0 0 (network.opening random shared) := by
  refine ⟨opening_sound network random shared, tracks_opening network random shared,
    .opening network talk, fun index station found => ?_, fun _ => ?_⟩
  · obtain ⟨inside, rfl⟩ := opening_found found
    have nothing : arrived [] 0 index = [] := by simp [arrived, inOrder]
    rw [if_neg (Nat.not_lt_zero _), nothing]
    exact ⟨rfl, fun _ => Nat.zero_le _, ring.opens index inside⟩
  · rw [Nat.zero_mul, Nat.zero_add, Nat.zero_min]
    exact Nat.zero_le _

namespace Traffic

theorem turns (traffic : network.Traffic talk log tick 0 scene) (ring : network.Ring talk)
    (early : tick < lastTick) :
    Leads (fun after => ∃ later, network.Traffic talk later tick network.config.nodeCount after)
      (network.Jam talk tick) (network.plainTurns tick scene) := by
  rw [← traffic.sound.count]
  apply plainTurns_leads fun taken scene => ∃ log, network.Traffic talk log tick taken scene
  · rintro index middle inside ⟨log, holds⟩
    exact holds.turn ring (traffic.sound.count ▸ inside) early
  · exact ⟨log, traffic⟩

theorem deliver (traffic : network.Traffic talk log tick network.config.nodeCount scene)
    (ring : network.Ring talk) :
    network.Traffic talk log (tick + 1) 0 (scene.deliverDue (tick + 1)).countTick := by
  have count := traffic.sound.count
  obtain ⟨stations, -⟩ := countTick_rest (scene.deliverDue (tick + 1))
  refine ⟨(traffic.sound.deliverDue _).countTick,
    (traffic.tracks.deliverDue (Nat.le_of_eq count)).countTick, traffic.mail.next,
    fun index station found => ?_, fun several => ?_⟩
  · rw [stations, stations_deliverDue, Option.map_eq_some_iff] at found
    obtain ⟨before, listed, rfl⟩ := found
    have inside := (List.getElem?_eq_some_iff.mp listed).1
    have talker := traffic.stations index before listed
    have kept := traffic.tracks.queues index before listed talker.running
    rw [if_pos (count ▸ inside)] at talker
    rw [if_neg (Nat.not_lt_zero _), arrived_succ]
    rw [Station.enqueue_running talker.running]
    refine ⟨talker.running, talker.pace, ?_⟩
    rw [← Station.enqueue_running talker.running]
    exact ring.hears talker.knows talker.running kept.received
  · rw [Nat.succ_mul]
    exact traffic.prompt several

/-- A tick goes through, or one of its turns is a jam. -/
theorem plainTick (traffic : network.Traffic talk log tick 0 scene) (ring : network.Ring talk)
    (early : tick < lastTick) :
    Leads (fun after => ∃ later, network.Traffic talk later (tick + 1) 0 after)
      (network.Jam talk tick) (network.plainTick tick scene) :=
  plainTick_leads (traffic.turns ring early) fun _ ⟨later, ended⟩ => ⟨later, ended.deliver ring⟩

/-- Messages are left at the end of every tick, unless there is only one node. -/
theorem live_pos (traffic : network.Traffic talk log (tick + 1) 0 scene)
    (settings : network.config.Valid) (several : 1 < network.config.nodeCount)
    (early : tick < lastTick) : scene.live ≠ 0 := by
  intro empty
  have mail := traffic.mail
  have nodes := settings.nodes
  have sent : tick < (network.outbound log 0).length := by
    rw [mail.count several 0 nodes]
    exact Nat.lt_succ_self _
  have listed := List.getElem?_eq_getElem sent
  have earliest := (mail.letters 0 nodes tick _ listed).1.earliest
  have past := traffic.tracks.past traffic.sound traffic.running mail.bound empty _
    (List.mem_filter.mp (List.mem_of_getElem? listed)).1
  have positive := settings.positive
  omega

/-- Nothing ends the run of several nodes after a tick. -/
theorem goesOn (traffic : network.Traffic talk log (tick + 1) 0 scene)
    (settings : network.config.Valid) (several : 1 < network.config.nodeCount)
    (early : tick < lastTick) :
    (scene.allTerminated || network.plainQuiescent scene) = false := by
  have running : scene.allTerminated = false :=
    traffic.sound.not_allTerminated settings.nodes fun _ station found =>
      traffic.running station (List.mem_of_getElem? found)
  have left := traffic.live_pos settings several early
  rw [running, Bool.false_or, plainQuiescent]
  split
  · rfl
  · simp [left]

end Traffic

/-! ### Runs -/

/-- What comes of a run of so many ticks at most. -/
inductive Fares (network : Network ρ σ) (talk : Talk) (limit : Nat) :
    RunResult × Scene ρ σ → Prop where
  /-- It lasts. Only a node on its own may become quiet before. -/
  | lasts {log : List Message} {ticks : Nat} {scene : Scene ρ σ}
      (traffic : network.Traffic talk log ticks 0 scene) (within : ticks ≤ limit)
      (whole : 1 < network.config.nodeCount → ticks = limit) :
      Fares network talk limit (scene.report .completed ticks, scene)
  | jams {tick : Nat} {failure : Failure ρ σ} (jam : network.Jam talk tick failure)
      (early : tick < limit) :
      Fares network talk limit
        (failure.scene.report (.failed tick failure.node failure.cause) tick, failure.scene)

theorem Ring.fares (ring : network.Ring talk) (random : ρ) (shared : σ) {maxTicks : Nat}
    (bounded : maxTicks ≤ lastTick) :
    network.Fares talk maxTicks (network.plainRun maxTicks random shared) := by
  have concludes : network.Concludes (fun ticks scene => ∃ log, network.Traffic talk log ticks 0 scene)
      (network.Jam talk) maxTicks (network.plainRun maxTicks random shared) := by
    refine plainRun_concludes _ ?_ ⟨[], ring.opening random shared⟩
    rintro tick middle before - ⟨log, traffic⟩
    exact traffic.plainTick ring (by omega)
  generalize network.plainRun maxTicks random shared = ended at concludes
  cases concludes with
  | fails jam early => exact .jams jam early
  | @completes ticks scene holds within early =>
    obtain ⟨log, traffic⟩ := holds
    refine .lasts traffic within fun several => ?_
    cases Nat.lt_or_eq_of_le within with
    | inr all => exact all
    | inl short =>
      obtain ⟨later, ends⟩ := early short
      obtain ⟨tick, rfl⟩ := Nat.exists_eq_add_of_lt later
      rw [Nat.zero_add] at traffic short
      rw [traffic.goesOn ring.settings several (by omega)] at ends
      cases ends

/-- A run of a ring lasts, or it ends with a jam. -/
theorem Ring.run (ring : network.Ring talk) {start : State ρ σ} (resting : network.Resting start)
    {maxTicks : Nat} (bounded : maxTicks ≤ lastTick) :
    ∃ result final scene, network.run maxTicks start = .ok (result, final) ∧
      network.Fares talk maxTicks (result, scene) := by
  obtain ⟨final, ran, -⟩ := run_depicts ring.valid (resting.sound ring.valid) maxTicks
  exact ⟨_, final, _, ran, ring.fares start.random start.shared bounded⟩

/-! ### What makes a jam -/

namespace Jam

/-- A node on its own sends no message. -/
theorem several (jam : network.Jam talk tick failure) (settings : network.config.Valid) :
    1 < network.config.nodeCount := by
  obtain ⟨log, scene, station, found, traffic, full, -⟩ := jam.full
  refine Nat.lt_of_not_le fun single => ?_
  rw [traffic.usedBy_alone (Nat.not_lt.mpr single)] at full
  exact Nat.not_lt.mpr full settings.capacity

/-- There were fewer buffers than nodes times ticks of delay. -/
theorem scarce (jam : network.Jam talk tick failure) (settings : network.config.Valid) :
    network.config.capacity < network.config.nodeCount * network.config.maxDelay := by
  obtain ⟨log, scene, station, found, traffic, full, -⟩ := jam.full
  exact Nat.lt_of_le_of_lt full (traffic.usedBy_lt settings (jam.several settings) found)

/-- If the buffers are used up before the first message can arrive, each is by one turn. -/
theorem place (jam : network.Jam talk tick failure) (settings : network.config.Valid)
    (early : tick < lastTick)
    (few : network.config.capacity < network.config.nodeCount * network.config.minDelay) :
    failure.node < network.config.nodeCount ∧
      tick * network.config.nodeCount + failure.node = network.config.capacity ∧
      failure.scene.tally.sent = network.config.capacity := by
  have several := jam.several settings
  obtain ⟨log, scene, station, found, traffic, full, sent⟩ := jam.full
  have inside := (List.getElem?_eq_some_iff.mp found).1
  rw [traffic.sound.count] at inside
  have prompt := traffic.prompt several
  have before : tick < network.config.minDelay := by
    refine Nat.lt_of_not_le fun past => ?_
    have := Nat.mul_le_mul_left network.config.nodeCount past
    rw [Nat.mul_comm _ tick] at this
    omega
  have used := traffic.usedBy_early several early before found
  have total := traffic.mail.total
  rw [if_pos several] at total
  omega

end Jam

/-- A run does not last for longer than the buffers that are used up before the first message can
arrive. -/
theorem Traffic.ticks_le (traffic : network.Traffic talk log ticks 0 scene)
    (several : 1 < network.config.nodeCount)
    (few : network.config.capacity < network.config.nodeCount * network.config.minDelay) :
    ticks ≤ network.config.capacity / network.config.nodeCount := by
  have prompt := traffic.prompt several
  refine (Nat.le_div_iff_mul_le (by omega)).mpr ?_
  omega

end Lockstep.Network
