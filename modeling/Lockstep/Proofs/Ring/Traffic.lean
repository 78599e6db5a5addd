import Lockstep.Machine.Call
import Lockstep.Proofs.Network.Sending
import Lockstep.Proofs.Ring.Mail

/-!
Rings in which every node sends one message in every tick.

A node consumes at least one message in every tick from `maxDelay` on (`Talker.pace_step`), which
bounds the buffers in use during a turn whatever the capacity (`Traffic.usedBy_lt`). Before `minDelay`
nothing has arrived, and they are as many as there were turns (`Traffic.usedBy_early`). A turn that
finds a buffer keeps all of this up, and one that does not ends the run (`Traffic.turn`).
-/
namespace Lockstep

namespace Station

variable {σ : Type} {table : SymbolTable} {program : Program σ} {full : Bool} {station : Station}
  {shared : σ} {memory : Memory}

/-- The program of a running station asks for a send and goes on. It leaves this memory behind. -/
structure Speaks (table : SymbolTable) (program : Program σ) (station : Station) (shared : σ)
    (memory : Memory) : Prop where
  running : station.isTerminated = false
  played : ∃ left signal requested, (program station.place shared).play table
      ((station.consume table).memory.roll table) false = ((left, signal), memory, requested) ∧
    (requested || signal == .send) = true ∧ signal ≠ .halt ∧ ∀ fault, signal ≠ .fault fault

theorem Speaks.sends (speaks : station.Speaks table program shared memory) (full : Bool) :
    ∃ signal, signal ≠ .halt ∧
      Sends table station memory signal full (station.step table program full shared) := by
  obtain ⟨left, signal, requested, played, asks, goes, lasting⟩ := speaks.played
  exact ⟨signal, goes, step_sends speaks.running played asks lasting⟩

/-- A call that sends makes a station speak. -/
theorem Speaks.of_call {bytecode : Bytecode} {requested : Bool}
    (running : station.isTerminated = false)
    (calls : (bytecode.call station.place).play table ((station.consume table).memory.roll table)
      false = (.send, memory, requested)) :
    station.Speaks table bytecode.program shared memory := by
  refine ⟨running, shared, .send, requested, ?_, Bool.or_true _, nofun, nofun⟩
  rw [Bytecode.program, Interaction.play_ofView, calls]

end Station

namespace Network

variable {ρ σ : Type} {network : Network ρ σ} {talk : Talk} {log queue : List Message}
  {tick taken clock index : Nat} {station : Station} {scene : Scene ρ σ}

/-- A station that keeps up with its messages. Its clock is the tick of its next step. -/
structure Talker (network : Network ρ σ) (talk : Talk) (queue : List Message) (clock index : Nat)
    (station : Station) : Prop where
  running : station.isTerminated = false
  pace : 1 < network.config.nodeCount → clock ≤ station.received + network.config.maxDelay
  knows : talk.knows queue clock index station

/-- What holds of a ring in a tick in which so many turns have been taken. -/
structure Traffic (network : Network ρ σ) (talk : Talk) (log : List Message) (tick taken : Nat)
    (scene : Scene ρ σ) : Prop where
  sound : scene.Sound network
  tracks : Tracks log tick taken scene
  mail : network.Mail talk log tick taken
  stations : ∀ (index : Nat) (station : Station), scene.stations[index]? = some station →
    network.Talker talk (arrived log tick index) (if index < taken then tick + 1 else tick) index
      station
  /-- There was a buffer for each message sent before the first could arrive. -/
  prompt : 1 < network.config.nodeCount →
    min (tick * network.config.nodeCount + taken)
      (network.config.nodeCount * network.config.minDelay) ≤ network.config.capacity

/-- A network whose nodes stand in a ring and each send one message in every tick, as long as there
are buffers. -/
structure Ring (network : Network ρ σ) (talk : Talk) : Prop where
  settings : network.config.Valid
  valid : network.table.Valid
  router : network.router = Router.ring
  window : network.InWindow
  opens : ∀ index < network.config.nodeCount,
    talk.knows [] 0 index (network.freshStation index)
  /-- In its step a station sends what may be told, and still knows what it is to know. -/
  speaks : ∀ {log : List Message} {tick taken index : Nat} {station : Station} (shared : σ),
    network.Mail talk log tick taken →
      network.Talker talk (arrived log tick index) tick index station →
        station.KeepsUp (arrived log tick index) tick → station.AtRest network.table →
          index < network.config.nodeCount → tick < lastTick →
            ∃ memory, station.Speaks network.table (network.program index) shared memory ∧
              (∀ arrival, talk.tells index tick
                ⟨memory.outgoing network.table, index, network.successor index, arrival⟩) ∧
              talk.knows (arrived log tick index) (tick + 1) index
                (station.step network.table (network.program index) false shared).station
  /-- Delivery leaves what a station knows. -/
  hears : ∀ {queue due messages : List Message} {clock index : Nat} {station : Station},
    talk.knows queue clock index station → station.isTerminated = false →
      station.received ≤ queue.length →
        talk.knows (queue ++ due) clock index (station.enqueue messages)

/-! ### The buffers in use -/

/-- A station with messages consumes one, and one without has consumed all that could have arrived
by now. -/
theorem Talker.pace_step
    (talker : network.Talker talk (arrived log tick index) tick index station)
    (kept : station.KeepsUp (arrived log tick index) tick)
    (mail : network.Mail talk log tick taken) (settings : network.config.Valid)
    (inside : index < network.config.nodeCount) (several : 1 < network.config.nodeCount) :
    tick + 1 ≤ station.received + min 1 station.inbox.length + network.config.maxDelay := by
  have pace := talker.pace several
  cases waiting : station.inbox with
  | nil =>
    obtain ⟨sender, senderInside, same⟩ := exists_predecessor inside
    have all := List.drop_eq_nil_iff.mp (kept.inbox.symm.trans waiting)
    have many := mail.le_length_arrived settings several senderInside
    rw [same] at many
    omega
  | cons first rest =>
    rw [List.length_cons]
    omega

namespace Traffic

theorem running (traffic : network.Traffic talk log tick taken scene) :
    ∀ station ∈ scene.stations, station.isTerminated = false := by
  intro station member
  obtain ⟨index, found⟩ := List.getElem?_of_mem member
  exact (traffic.stations index station found).running

theorem conserved (traffic : network.Traffic talk log tick taken scene) :
    scene.live + (scene.stations.map (·.received)).sum = log.length :=
  traffic.tracks.conserved traffic.sound traffic.running traffic.mail.bound

/-- The station whose turn it is, at its clock. -/
theorem now (traffic : network.Traffic talk log tick index scene)
    (found : scene.stations[index]? = some station) :
    network.Talker talk (arrived log tick index) tick index station ∧
      station.KeepsUp (arrived log tick index) tick ∧ station.AtRest network.table := by
  have talker := traffic.stations index station found
  have kept := traffic.tracks.queues index station found talker.running
  rw [if_neg (Nat.lt_irrefl _)] at talker kept
  exact ⟨talker, kept, traffic.sound.rests station (List.mem_of_getElem? found)⟩

/-- Once a station has consumed its message, there are fewer messages left than nodes times ticks of
delay. -/
theorem usedBy_lt (traffic : network.Traffic talk log tick index scene)
    (settings : network.config.Valid) (several : 1 < network.config.nodeCount)
    (found : scene.stations[index]? = some station) :
    usedBy station scene < network.config.nodeCount * network.config.maxDelay := by
  have inside := (List.getElem?_eq_some_iff.mp found).1
  have count := traffic.sound.count
  obtain ⟨talker, kept, -⟩ := traffic.now found
  have pace := talker.pace_step kept traffic.mail settings (count ▸ inside) several
  -- the count of what the station has consumed by the end of its step
  let fed : Station := { station with received := station.received + min 1 station.inbox.length }
  have moved := sum_setStation found (·.received) fed
  have added : tick * (scene.stations.set index fed).length + (index + 1) ≤
      ((scene.stations.set index fed).map (·.received)).sum +
        network.config.maxDelay * (scene.stations.set index fed).length := by
    refine le_sum_of_each (by rwa [List.length_set]) fun probe other listed => ?_
    exact forall_set (fun clock _ station => clock ≤ station.received + network.config.maxDelay)
      pace (fun probe other found => (traffic.stations probe other found).pace several) probe other
      listed
  have conserved := traffic.conserved
  rw [traffic.mail.total, if_pos several] at conserved
  simp only [Scene.setStation, List.length_set, fed] at moved added
  rw [count, Nat.mul_comm network.config.maxDelay] at added
  have positive : 0 < network.config.nodeCount * network.config.maxDelay :=
    Nat.mul_pos settings.nodes (Nat.lt_of_lt_of_le settings.positive settings.ordered)
  rw [usedBy]
  omega

/-- Before the first message can arrive, all that were sent are left. -/
theorem usedBy_early (traffic : network.Traffic talk log tick index scene)
    (several : 1 < network.config.nodeCount) (early : tick < lastTick)
    (before : tick < network.config.minDelay)
    (found : scene.stations[index]? = some station) :
    usedBy station scene = tick * network.config.nodeCount + index := by
  have nothing : ∀ (probe : Nat) (other : Station), scene.stations[probe]? = some other →
      other.received = 0 ∧ other.inbox = [] := by
    intro probe other listed
    have kept := traffic.tracks.queues probe other listed
      (traffic.stations probe other listed).running
    have inside := (List.getElem?_eq_some_iff.mp listed).1
    rw [traffic.sound.count] at inside
    obtain ⟨sender, senderInside, same⟩ := exists_predecessor inside
    have few := traffic.mail.length_arrived_le senderInside early
    rw [same, Nat.sub_eq_zero_of_le before] at few
    have empty := List.length_eq_zero_iff.mp (Nat.le_zero.mp few)
    have received := kept.received
    have inbox := kept.inbox
    rw [empty] at received inbox
    exact ⟨Nat.le_zero.mp received, by simpa using inbox⟩
  have received : (scene.stations.map (·.received)).sum = 0 := by
    refine List.sum_eq_zero_iff_forall_eq_nat.mpr fun amount member => ?_
    obtain ⟨other, inside, rfl⟩ := List.mem_map.mp member
    obtain ⟨probe, listed⟩ := List.getElem?_of_mem inside
    exact (nothing probe other listed).1
  have conserved := traffic.conserved
  rw [received, traffic.mail.total, if_pos several, Nat.add_zero] at conserved
  rw [usedBy, (nothing index station found).2, conserved]
  rfl

/-- A node on its own uses no buffers. -/
theorem usedBy_alone (traffic : network.Traffic talk log tick index scene)
    (single : ¬ 1 < network.config.nodeCount) (station : Station) : usedBy station scene = 0 := by
  have conserved := traffic.conserved
  rw [traffic.mail.total, if_neg single] at conserved
  rw [usedBy]
  omega

end Traffic

/-! ### Turns -/

/-- A turn that failed because it found every buffer in use. -/
structure Jam (network : Network ρ σ) (talk : Talk) (tick : Nat) (failure : Failure ρ σ) :
    Prop where
  cause : failure.cause = .resourceExhausted network.config.capacity
  full : ∃ log scene station, scene.stations[failure.node]? = some station ∧
    network.Traffic talk log tick failure.node scene ∧
    network.config.capacity ≤ usedBy station scene ∧ failure.scene.tally.sent = log.length

/-- A station that has sent its message still keeps up. -/
theorem Talker.step {program : Program σ} {shared : σ} {memory : Memory}
    (talker : network.Talker talk (arrived log tick index) tick index station)
    (kept : station.KeepsUp (arrived log tick index) tick)
    (mail : network.Mail talk log tick taken) (settings : network.config.Valid)
    (inside : index < network.config.nodeCount)
    (speaks : station.Speaks network.table program shared memory)
    (knows : talk.knows (arrived log tick index) (tick + 1) index
      (station.step network.table program false shared).station) :
    network.Talker talk (arrived log tick index) (tick + 1) index
      (station.step network.table program false shared).station := by
  obtain ⟨signal, goes, sends⟩ := speaks.sends false
  have ran : Station.Ran network.table station (station.perform network.table program shared)
      (station.step network.table program false shared) := Station.step_running talker.running
  refine ⟨sends.goesOn goes, fun several => ?_, knows⟩
  rw [ran.received]
  exact talker.pace_step kept mail settings inside several

/-- The message of a node goes to its successor. -/
theorem Ring.send (ring : network.Ring talk) (mail : network.Mail talk log tick index)
    (inside : index < network.config.nodeCount) {payload : Cells} {random : ρ}
    (tells : ∀ arrival, talk.tells index tick ⟨payload, index, network.successor index, arrival⟩) :
    network.Mail talk (log ++ (network.address tick index payload
      (network.destinations index payload network.config.nodeCount) random).1) tick
        (index + 1) := by
  rw [destinations_ring ring.router index payload ring.settings.nodes]
  split
  · rename_i several
    obtain ⟨least, greatest⟩ := ring.window random
    refine mail.send inside several rfl ⟨?_, ?_⟩ (tells _) <;> dsimp only <;> omega
  · rename_i single
    rw [address, List.append_nil]
    exact mail.alone single tick (index + 1)

namespace Traffic

/-- There is a buffer for one more message sent before the first can arrive. -/
theorem prompt_succ (traffic : network.Traffic talk log tick index scene)
    (several : 1 < network.config.nodeCount) (early : tick < lastTick)
    (found : scene.stations[index]? = some station)
    (free : usedBy station scene < network.config.capacity) :
    min (tick * network.config.nodeCount + (index + 1))
      (network.config.nodeCount * network.config.minDelay) ≤ network.config.capacity := by
  have prompt := traffic.prompt several
  by_cases before : tick < network.config.minDelay
  · have used := traffic.usedBy_early several early before found
    omega
  · have past := Nat.mul_le_mul_left network.config.nodeCount (Nat.le_of_not_lt before)
    rw [Nat.mul_comm _ tick] at past
    omega

/-- A turn that finds a buffer goes through, and one that does not is a jam. -/
theorem turn (traffic : network.Traffic talk log tick index scene) (ring : network.Ring talk)
    (inside : index < network.config.nodeCount) (early : tick < lastTick) :
    Leads (fun after => ∃ later, network.Traffic talk later tick (index + 1) after)
      (network.Jam talk tick) (network.plainTurn tick scene index) := by
  obtain ⟨station, found⟩ := traffic.sound.found inside
  obtain ⟨talker, kept, rests⟩ := traffic.now found
  obtain ⟨memory, speaks, tells, knows⟩ :=
    ring.speaks scene.shared traffic.mail talker kept rests inside early
  obtain ⟨signal, goes, steps⟩ :=
    speaks.sends (decide (network.config.capacity ≤ usedBy station scene))
  have asks := plainTurn_asks tick found rfl steps
  rw [if_neg goes, traffic.sound.count] at asks
  have late : ∀ message ∈ (network.sentIn tick scene index).1, tick < message.arrival :=
    ring.window.late ring.settings.positive early
  have sound := traffic.sound.turn ring.valid tick inside
  have tracks := traffic.tracks.turn network found late
  by_cases full : network.config.capacity ≤ usedBy station scene
  · obtain ⟨after, failed⟩ := asks.fails fun affords => Nat.not_le.mpr affords.1 full
    have sent := tracks.sent
    rw [asks.sent, Scene.granted, if_pos full, failed, address, List.append_nil] at sent
    rw [failed]
    exact ⟨rfl, log, scene, station, found, traffic, full, sent⟩
  · have free := Nat.lt_of_not_le full
    have affords : scene.Affords network station 0
        (network.destinations index (memory.outgoing network.table) network.config.nodeCount) := by
      refine ⟨free, ?_⟩
      rw [destinations_ring ring.router _ _ ring.settings.nodes]
      split <;> simp only [List.length_cons, List.length_nil] <;> omega
    obtain ⟨after, turned⟩ := asks.goes affords
    have sent := asks.sent
    rw [Scene.granted_eq affords] at sent
    have plain : network.plainStep station scene index =
        station.step network.table (network.program index) false scene.shared := by
      rw [plainStep, decide_eq_false full]
    obtain ⟨stations, -⟩ := leftBy_plainTurn network tick found
    rw [turned, plain] at stations
    rw [turned] at sound tracks
    rw [turned]
    refine ⟨_, sound, tracks, ?_, fun probe other listed => ?_,
      fun several => traffic.prompt_succ several early found free⟩
    · rw [sent]
      exact ring.send traffic.mail inside tells
    · rw [arrived_append late]
      have set : after.stations = scene.stations.set index _ := stations
      rw [set] at listed
      exact forall_set (fun clock probe station =>
        network.Talker talk (arrived log tick probe) clock probe station)
        (talker.step kept traffic.mail ring.settings inside speaks knows) traffic.stations probe
        other listed

end Traffic

end Network

end Lockstep
