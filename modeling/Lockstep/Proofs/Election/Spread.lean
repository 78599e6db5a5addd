import Lockstep.Proofs.Election.Gossip

/-!
The turns and ticks of an election on change that is held by broadcast.

A turn either passes, or announces a number to all other nodes, or fails because there are too few
buffers (`Gossip.turn`). When it fails, no more has been sent than may be, and the pool has fewer
buffers than there can be messages (`Cut`). Turns and deliveries make up ticks, which go on with the
election as long as no turn fails (`Spreading.plainTick`).
-/
namespace Lockstep.Network

variable {ρ σ : Type} {network : Network ρ σ} {bytecode : Bytecode} {scene after : Scene ρ σ}
  {log messages : List Message} {tick taken index : Nat} {station stepped : Station}

/-- A network on which an election on change is held by broadcast. -/
structure Broadcasting (network : Network ρ σ) (bytecode : Bytecode) : Prop where
  settings : network.config.Valid
  recording : network.table.Recording
  made : Bytecode.leaderElectionOnChange network.table = .ok bytecode
  program : ∀ index, network.program index = bytecode.program
  router : network.router = Router.broadcast
  window : network.InWindow
  small : network.config.nodeCount < negativeCount

/-- How many messages are sent at most: all other nodes are told each time. -/
def traffic (network : Network ρ σ) : Nat :=
  (network.config.nodeCount - 1) * network.rounds

/-- A turn that failed for want of buffers. -/
structure Cut (network : Network ρ σ) (failure : Failure ρ σ) : Prop where
  sent : failure.scene.tally.sent ≤ network.traffic
  capacity : network.config.capacity < max 1 network.traffic

/-! ### Destinations -/

/-- All nodes but one. -/
def others (network : Network ρ σ) (index : Nat) : List Nat :=
  (List.range network.config.nodeCount).filter (· != index)

theorem others_eq_erase (network : Network ρ σ) (index : Nat) :
    network.others index = (List.range network.config.nodeCount).erase index :=
  (List.nodup_range.erase_eq_filter index).symm

theorem length_others (inside : index < network.config.nodeCount) :
    (network.others index).length = network.config.nodeCount - 1 := by
  rw [others_eq_erase, List.length_erase_of_mem (List.mem_range.mpr inside), List.length_range]

theorem count_others {probe : Nat} (inside : probe < network.config.nodeCount) :
    (network.others index).count probe = if probe = index then 0 else 1 := by
  have nodup : (network.others index).Nodup := List.nodup_range.filter _
  rw [nodup.count]
  by_cases same : probe = index
  · rw [if_pos same, if_neg (by simp [others, same])]
  · rw [if_neg same, if_pos (by simp [others, same, inside])]

theorem destinations_broadcast (router : network.router = Router.broadcast) (index : Nat)
    (payload : Cells) :
    network.destinations index payload network.config.nodeCount = network.others index := by
  rw [destinations, router, Router.broadcast, others]
  refine List.filter_eq_self.mpr fun destination member => decide_eq_true ?_
  exact List.mem_range.mp (List.mem_filter.mp member).1

theorem map_destination_address (network : Network ρ σ) (tick sender : Nat) (payload : Cells)
    (destinations : List Nat) (random : ρ) :
    (network.address tick sender payload destinations random).1.map (·.destination) =
      destinations := by
  induction destinations generalizing random with
  | nil => rfl
  | cons destination rest ih => exact congrArg (destination :: ·) (ih _)

/-- How many of some messages go to a node is known from their destinations. -/
theorem length_filter_destination (messages : List Message) (probe : Nat) :
    (messages.filter (·.destination == probe)).length =
      (messages.map (·.destination)).count probe := by
  rw [List.count_eq_countP, List.countP_map, List.countP_eq_length_filter]
  rfl

/-- Of the messages to all others, each of them gets one. -/
theorem length_toEach_append {probe : Nat}
    (destinations : messages.map (·.destination) = network.others index)
    (inside : probe < network.config.nodeCount) :
    ((log ++ messages).filter (·.destination == probe)).length =
      (log.filter (·.destination == probe)).length + if probe = index then 0 else 1 := by
  rw [List.filter_append, List.length_append, length_filter_destination messages, destinations,
    count_others inside]

/-! ### What a turn adds -/

theorem told_set (found : scene.stations[index]? = some station)
    (set : after.stations = scene.stations.set index stepped) :
    after.told + station.sent = scene.told + stepped.sent := by
  have changed := sum_setStation found (·.sent) stepped
  rw [Scene.told, set]
  exact changed

/-- After a turn, every station is a voter that has learnt from what has arrived so far. -/
theorem Gossip.voters_set (gossip : network.Gossip log tick index scene)
    (set : after.stations = scene.stations.set index stepped)
    (voter : network.Voter (arrived log tick index) (tick + 1) index stepped) (probe : Nat)
    (other : Station) (listed : after.stations[probe]? = some other) :
    network.Voter (arrived log tick probe) (if probe < index + 1 then tick + 1 else tick) probe
      other :=
  forall_set (fun clock probe station =>
    network.Voter (arrived log tick probe) clock probe station) voter gossip.voters probe other
    (set ▸ listed)

/-- A station that has nothing to tell leaves everything as it is. -/
theorem Gossip.pass (gossip : network.Gossip log tick index scene)
    (found : scene.stations[index]? = some station)
    (set : after.stations = scene.stations.set index stepped)
    (voter : network.Voter (arrived log tick index) (tick + 1) index stepped)
    (sent : stepped.sent = station.sent) (later : 0 < tick) :
    network.Gossip log tick (index + 1) after := by
  have told := told_set found set
  have same : after.told = scene.told := by omega
  refine ⟨by rw [same]; exact gossip.total, gossip.bound, fun probe other listed => ?_,
    gossip.words, fun _ => gossip.news (.inl later), gossip.voters_set set voter⟩
  rw [same]
  rcases found_of_set (set ▸ listed) with ⟨rfl, rfl⟩ | ⟨-, before⟩
  · rw [sent]
    exact gossip.toEach probe station found
  · exact gossip.toEach probe other before

/-- A station that has something to tell tells it to all others. -/
theorem Gossip.announce (gossip : network.Gossip log tick index scene)
    (sound : scene.Sound network) (found : scene.stations[index]? = some station)
    (set : after.stations = scene.stations.set index stepped)
    (voter : network.Voter (arrived log tick index) (tick + 1) index stepped)
    (sent : stepped.sent = station.sent + 1)
    (destinations : messages.map (·.destination) = network.others index)
    (late : ∀ message ∈ messages, tick < message.arrival)
    (told : ∀ message ∈ messages, message.word = stepped.number network.table ∧
      message.arrival ≤ tick + network.config.maxDelay) :
    network.Gossip (log ++ messages) tick (index + 1) after := by
  have count := sound.count
  have inside := (List.getElem?_eq_some_iff.mp found).1
  rw [count] at inside
  have total := told_set found set
  have more : after.told = scene.told + 1 := by omega
  have length : messages.length = network.config.nodeCount - 1 := by
    rw [← length_others inside, ← destinations, List.length_map]
  refine ⟨?_, fun message member => ?_, fun probe other placed => ?_, fun message member => ?_,
    fun known probe below => ?_, fun probe other placed => ?_⟩
  · rw [List.length_append, gossip.total, length, more, Nat.mul_succ]
  · cases List.mem_append.mp member with
    | inl before => exact gossip.bound message before
    | inr now =>
      have listed : message.destination ∈ network.others index :=
        destinations ▸ List.mem_map_of_mem now
      exact List.mem_range.mp (List.mem_filter.mp listed).1
  · have probeInside := (List.getElem?_eq_some_iff.mp placed).1
    rw [set, List.length_set, count] at probeInside
    rw [length_toEach_append destinations probeInside, more]
    rcases found_of_set (set ▸ placed) with ⟨rfl, rfl⟩ | ⟨apart, same⟩
    · have before := gossip.toEach probe station found
      rw [if_pos rfl, sent]
      omega
    · have before := gossip.toEach probe other same
      rw [if_neg apart]
      omega
  · cases List.mem_append.mp member with
    | inl before => exact gossip.words message before
    | inr now =>
      rw [(told message now).1]
      exact voter.bounded
  · by_cases later : 0 < tick
    · obtain ⟨message, member, rest⟩ := gossip.news (.inl later) probe below
      exact ⟨message, List.mem_append_left _ member, rest⟩
    · have last : index + 1 = network.config.nodeCount := known.resolve_left later
      have listed : probe ∈ messages.map (·.destination) := by
        rw [destinations, others, List.mem_filter]
        exact ⟨List.mem_range.mpr (by omega), by simp; omega⟩
      obtain ⟨message, member, here⟩ := List.mem_map.mp listed
      obtain ⟨word, arrival⟩ := told message member
      have own := voter.own
      have bounded := voter.bounded
      refine ⟨message, List.mem_append_right _ member, here, ?_, by omega⟩
      rw [word]
      rw [leader] at bounded ⊢
      omega
  · rw [arrived_append late]
    exact gossip.voters_set set voter probe other placed

/-! ### Turns -/

/-- No more messages are left than have been sent. -/
theorem Gossip.live_le (gossip : network.Gossip log tick taken scene) (sound : scene.Sound network)
    (tracks : Tracks log tick taken scene) : scene.live ≤ log.length := by
  have conserved := tracks.conserved sound gossip.running gossip.bound
  omega

/-- A station with something to tell still may. -/
theorem Gossip.told_lt (gossip : network.Gossip log tick taken scene) (sound : scene.Sound network)
    (found : scene.stations[index]? = some station)
    (more : station.sent + 1 + index ≤ network.config.nodeCount) :
    log.length + (network.config.nodeCount - 1) ≤ network.traffic := by
  have told := gossip.told_le sound found
  rw [gossip.total, ← Nat.mul_succ]
  exact Nat.mul_le_mul_left _ (by omega)

/-- No turn sends more than one message to each other node. -/
theorem length_sentIn_le (tick : Nat) (router : network.router = Router.broadcast)
    (sound : scene.Sound network) (inside : index < network.config.nodeCount) :
    (network.sentIn tick scene index).1.length ≤ network.config.nodeCount - 1 := by
  unfold sentIn
  split
  · exact Nat.zero_le _
  · dsimp only
    split
    · exact Nat.zero_le _
    · rw [length_address, sound.count, destinations_broadcast router, ← length_others inside, served]
      split
      · exact Nat.le_refl _
      · exact List.length_take_le' _ _

/-- A turn that is cut short. -/
theorem Gossip.cut (gossip : network.Gossip log tick index scene)
    (broadcasting : network.Broadcasting bytecode) (sound : scene.Sound network)
    (tracks : Tracks log tick index scene) (found : scene.stations[index]? = some station)
    (more : station.sent + 1 + index ≤ network.config.nodeCount) {failure : Failure ρ σ}
    (failed : network.plainTurn tick scene index = .error failure)
    (scarce : network.config.capacity ≤ scene.live ∨
      network.config.capacity < scene.live + (network.config.nodeCount - 1)) :
    network.Cut failure := by
  have enough := gossip.told_lt sound found more
  have live := gossip.live_le sound tracks
  have inside := (List.getElem?_eq_some_iff.mp found).1
  rw [sound.count] at inside
  obtain ⟨-, -, -, -, tally⟩ := leftBy_plainTurn network tick found
  rw [failed] at tally
  constructor
  · have few := length_sentIn_le tick broadcasting.router sound inside
    have sent := tracks.sent
    have total := congrArg Tally.sent tally
    simp only [leftBy] at total
    omega
  · have positive := broadcasting.settings.capacity
    by_cases several : 1 < network.config.nodeCount
    · omega
    · have alone : network.config.nodeCount - 1 = 0 := by omega
      rw [gossip.total, alone, Nat.zero_mul] at live
      omega

/-- What is sent in a tick arrives before the greatest delay has passed. -/
theorem InWindow.soon (window : network.InWindow) {message : Message} {payload : Cells}
    {destinations : List Nat} {random : ρ}
    (member : message ∈ (network.address tick index payload destinations random).1) :
    message.word = payload[0]?.getD 0 ∧ message.arrival ≤ tick + network.config.maxDelay := by
  obtain ⟨words, -, -, drawnFrom, arrival⟩ := mem_address member
  have drawn := (window drawnFrom).2
  exact ⟨by rw [Message.word, words], by omega⟩

/-- The step of a node in an election on change. -/
theorem Broadcasting.announced (broadcasting : network.Broadcasting bytecode)
    (sound : scene.Sound network) (found : scene.stations[index]? = some station)
    (running : station.isTerminated = false) :
    Station.Announced network.table station
      (decide (network.config.capacity ≤ usedBy station scene))
      (network.plainStep station scene index) := by
  rw [plainStep, broadcasting.program]
  exact (sound.rests station (List.mem_of_getElem? found)).announced broadcasting.recording
    broadcasting.made running

/-- The turn of a node that has something to tell. -/
theorem Gossip.tells (gossip : network.Gossip log tick index scene)
    (broadcasting : network.Broadcasting bytecode) (sound : scene.Sound network)
    (tracks : Tracks log tick index scene) (found : scene.stations[index]? = some station)
    (early : tick < lastTick) (news : ¬ station.Settled network.table) :
    Leads (network.Gossip (log ++ (network.sentIn tick scene index).1) tick (index + 1))
      network.Cut (network.plainTurn tick scene index) := by
  have voter := gossip.voter found
  have kept := tracks.queues index station found voter.running
  rw [if_neg (Nat.lt_irrefl _)] at kept
  have announced := broadcasting.announced sound found voter.running
  have more : station.sent + 1 + index ≤ network.config.nodeCount := by
    have told := voter.sent_le_learns news
    have most := gossip.learns_le found kept
    rw [leader] at most
    omega
  by_cases full : network.config.capacity ≤ usedBy station scene
  · have failed := announced.cut news (decide_eq_true full)
    have turned := plainTurn_eq network tick found
    rw [endTurn, failed] at turned
    have cut := gossip.cut broadcasting sound tracks found more turned
      (.inl (Nat.le_trans full (Nat.sub_le _ _)))
    rw [turned]
    exact cut
  · have spare := decide_eq_false full
    obtain ⟨changed, ⟨payload, outgoing, word⟩, sent⟩ := announced.tells news spare
    have lasting : ∀ error, (network.plainStep station scene index).outcome ≠ .failed error := by
      intro error failed
      rw [changed] at failed
      cases failed
    have destinations := destinations_broadcast broadcasting.router index payload
    rw [← sound.count] at destinations
    obtain ⟨⟨after, sends⟩, messages⟩ | ⟨⟨failure, fails⟩, scarce⟩ :=
      plainTurn_sends tick found lasting outgoing destinations
    · obtain ⟨stations, -⟩ := leftBy_plainTurn network tick found
      have stepped := gossip.step broadcasting.settings sound found kept announced
        (Station.step_running voter.running) Station.step_last (.inr spare)
      rw [sends] at stations ⊢
      refine gossip.announce sound found stations stepped sent ?_
        (broadcasting.window.late broadcasting.settings.positive early) fun message member => ?_
      · rw [messages, map_destination_address]
      · obtain ⟨words, arrival⟩ := broadcasting.window.soon (messages ▸ member)
        exact ⟨words.trans word, arrival⟩
    · rw [length_others (sound.count ▸ (List.getElem?_eq_some_iff.mp found).1)] at scarce
      rw [fails]
      exact gossip.cut broadcasting sound tracks found more fails (.inr scarce)

/-- A turn of an election on change goes on with it, or fails because there are too few buffers. -/
theorem Gossip.turn (gossip : network.Gossip log tick index scene)
    (broadcasting : network.Broadcasting bytecode) (sound : scene.Sound network)
    (tracks : Tracks log tick index scene) (inside : index < network.config.nodeCount)
    (early : tick < lastTick) :
    Leads (network.Gossip (log ++ (network.sentIn tick scene index).1) tick (index + 1))
      network.Cut (network.plainTurn tick scene index) := by
  obtain ⟨station, found⟩ := sound.found inside
  by_cases settled : station.Settled network.table
  · have voter := gossip.voter found
    have kept := tracks.queues index station found voter.running
    rw [if_neg (Nat.lt_irrefl _)] at kept
    have announced := broadcasting.announced sound found voter.running
    have stepped := gossip.step broadcasting.settings sound found kept announced
      (Station.step_running voter.running) Station.step_last (.inl settled)
    obtain ⟨lasting, silent, sent⟩ := announced.quiet settled
    have later : 0 < tick := Nat.pos_of_ne_zero fun first => settled.2 (voter.begun.mpr first)
    have nothing : (network.sentIn tick scene index).1 = [] := by
      simp only [sentIn, found, silent]
    obtain ⟨stations, -⟩ := leftBy_plainTurn network tick found
    have turned := plainTurn_eq network tick found
    rw [endTurn_silent network tick index _ lasting silent] at turned
    rw [turned] at stations ⊢
    rw [nothing, List.append_nil]
    exact gossip.pass found stations stepped sent later
  · exact gossip.tells broadcasting sound tracks found early settled

/-! ### Ticks -/

/-- An election on change on its way: the scene is sound, keeps pace with the messages sent, and the
gossip goes on. -/
structure Spreading (network : Network ρ σ) (log : List Message) (tick taken : Nat)
    (scene : Scene ρ σ) : Prop where
  sound : scene.Sound network
  tracks : Tracks log tick taken scene
  gossip : network.Gossip log tick taken scene

theorem Spreading.turn (spreading : network.Spreading log tick index scene)
    (broadcasting : network.Broadcasting bytecode) (inside : index < network.config.nodeCount)
    (early : tick < lastTick) :
    Leads (fun after => ∃ later, network.Spreading later tick (index + 1) after) network.Cut
      (network.plainTurn tick scene index) := by
  have turn := spreading.gossip.turn broadcasting spreading.sound spreading.tracks inside early
  obtain ⟨station, found⟩ := spreading.sound.found inside
  have sound := spreading.sound.turn broadcasting.recording.electoral.valid tick inside
  have tracks := spreading.tracks.turn network found
    (broadcasting.window.late broadcasting.settings.positive early)
  cases turned : network.plainTurn tick scene index with
  | ok after =>
    rw [turned] at turn sound tracks
    exact ⟨_, sound, tracks, turn⟩
  | error failure =>
    rw [turned] at turn
    exact turn

theorem Spreading.turns (spreading : network.Spreading log tick 0 scene)
    (broadcasting : network.Broadcasting bytecode) (early : tick < lastTick) :
    Leads (fun after => ∃ later, network.Spreading later tick network.config.nodeCount after)
      network.Cut (network.plainTurns tick scene) := by
  rw [← spreading.sound.count]
  apply plainTurns_leads fun taken scene => ∃ log, network.Spreading log tick taken scene
  · rintro index middle inside ⟨log, holds⟩
    exact holds.turn broadcasting (spreading.sound.count ▸ inside) early
  · exact ⟨log, spreading⟩

/-- Delivery leaves what a voter has consumed and what it knows. -/
theorem Voter.enqueue {queue due : List Message} {clock : Nat}
    (voter : network.Voter queue clock index station) (received : station.received ≤ queue.length) :
    network.Voter (queue ++ due) clock index (station.enqueue messages) := by
  rw [Station.enqueue_running voter.running]
  refine ⟨voter.running, voter.own, voter.bounded, ?_, voter.begun, voter.rarely, voter.pace,
    voter.shown, voter.steady⟩
  rw [List.take_append_of_le_length received]
  exact voter.heard

theorem sent_enqueue (station : Station) (messages : List Message) :
    (station.enqueue messages).sent = station.sent := by
  unfold Station.enqueue
  split <;> rfl

theorem told_deliverDue (tick : Nat) (scene : Scene ρ σ) :
    (scene.deliverDue tick).told = scene.told := by
  refine congrArg List.sum (List.ext_getElem? fun index => ?_)
  rw [List.getElem?_map, List.getElem?_map, stations_deliverDue, Option.map_map]
  exact congrArg (Option.map · _) (funext fun station => sent_enqueue station _)

theorem Spreading.deliver (spreading : network.Spreading log tick network.config.nodeCount scene) :
    network.Spreading log (tick + 1) 0 (scene.deliverDue (tick + 1)).countTick := by
  have count := spreading.sound.count
  have gossip := spreading.gossip
  obtain ⟨stations, -⟩ := countTick_rest (scene.deliverDue (tick + 1))
  have told : (scene.deliverDue (tick + 1)).countTick.told = scene.told := by
    rw [Scene.told, stations]
    exact told_deliverDue (tick + 1) scene
  refine ⟨(spreading.sound.deliverDue _).countTick,
    (spreading.tracks.deliverDue (Nat.le_of_eq count)).countTick, told ▸ gossip.total, gossip.bound,
    fun index station found => ?_, gossip.words, fun _ => gossip.news (.inr rfl),
    fun index station found => ?_⟩
  · rw [stations, stations_deliverDue, Option.map_eq_some_iff] at found
    obtain ⟨before, listed, rfl⟩ := found
    rw [sent_enqueue, told]
    exact gossip.toEach index before listed
  · rw [stations, stations_deliverDue, Option.map_eq_some_iff] at found
    obtain ⟨before, listed, rfl⟩ := found
    have inside := (List.getElem?_eq_some_iff.mp listed).1
    have voter := gossip.voters index before listed
    have kept := spreading.tracks.queues index before listed voter.running
    rw [if_pos (count ▸ inside)] at voter
    rw [if_neg (Nat.not_lt_zero _), arrived_succ]
    exact voter.enqueue kept.received

/-- A tick goes on with the election, or fails because there are too few buffers. -/
theorem Spreading.plainTick (spreading : network.Spreading log tick 0 scene)
    (broadcasting : network.Broadcasting bytecode) (early : tick < lastTick) :
    Leads
      (fun after => (∃ later, network.Spreading later (tick + 1) 0 after) ∧
        (0 < after.tally.idleStreak → after.isIdle = true))
      network.Cut (network.plainTick tick scene) := by
  refine plainTick_leads (spreading.turns broadcasting early) ?_
  rintro after ⟨later, ended⟩
  refine ⟨⟨later, ended.deliver⟩, fun streak => ?_⟩
  rw [Scene.isIdle, (countTick_rest _).1]
  exact idle_of_streak streak

end Lockstep.Network
