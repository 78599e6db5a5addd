import Lockstep.Proofs.Election.Telling
import Lockstep.Proofs.Network.Conservation

/-!
What holds throughout an election on change that is held by broadcast.

A node tells its number once at the start and again for each greater one it learns, so the nodes tell
no more than `rounds` times all together (`Gossip.told_le`) and no node receives more messages than
that. The greatest node tells its number in the first tick. A node that does not know of it yet has
consumed a message in every tick since that number arrived (`Voter.pace`), and there are too few
messages to keep it waiting for long (`Gossip.aware`).
-/
namespace Lockstep

/-- Counts that shrink with the position, from the length of the list on, add up to half a square. -/
theorem sum_le_triangle {α : Type} (items : List α) (measure : α → Nat)
    (each : ∀ (index : Nat) (item : α), items[index]? = some item →
      measure item + index ≤ items.length) :
    2 * (items.map measure).sum ≤ items.length * (items.length + 1) := by
  induction items with
  | nil => exact Nat.le_refl _
  | cons item rest ih =>
    have here := each 0 item rfl
    have later := ih fun index other found => by
      have one := each (index + 1) other found
      rw [List.length_cons] at one
      omega
    rw [List.length_cons] at here
    rw [List.map_cons, List.sum_cons, List.length_cons]
    have square : (rest.length + 1) * (rest.length + 1 + 1) =
        rest.length * (rest.length + 1) + 2 * (rest.length + 1) := by
      rw [← Nat.add_mul, Nat.mul_comm]
    omega

namespace Network

variable {ρ σ : Type} {network : Network ρ σ} {log queue : List Message} {scene : Scene ρ σ}
  {tick taken clock index : Nat} {station : Station}

/-- How often all nodes together tell what they know, at most. -/
def rounds (network : Network ρ σ) : Nat :=
  network.config.nodeCount * (network.config.nodeCount + 1) / 2

/-- How often the stations have told what they know. -/
def Scene.told (scene : Scene ρ σ) : Nat :=
  (scene.stations.map (·.sent)).sum

/-- A station that tells what is news to it. Its clock is the tick of its next step. -/
structure Voter (network : Network ρ σ) (queue : List Message) (clock index : Nat)
    (station : Station) : Prop where
  running : station.isTerminated = false
  own : (index : Int) ≤ (station.number network.table).toInt
  bounded : (station.number network.table).toInt ≤ network.leader
  heard : ∀ message ∈ queue.take station.received,
    message.word.toInt ≤ (station.number network.table).toInt
  /-- Only a station that has not stepped yet has told nothing. -/
  begun : station.begun network.table = 0 ↔ clock = 0
  /-- It has told what it knows once, and once more for each greater number at most. -/
  rarely : (station.sent : Int) + index ≤
    (station.number network.table).toInt + (if clock = 0 then 0 else 1)
  pace : (station.number network.table).toInt ≠ network.leader →
    clock ≤ station.received + network.config.maxDelay
  /-- What was read in the last step. -/
  shown : index + 1 = network.config.nodeCount ∨ network.config.maxDelay + network.rounds ≤ clock →
    (station.memory.read network.table.nodeId).toInt = network.leader
  /-- A station that changed nothing has read what it knows. -/
  steady : station.last = some .unchanged →
    station.memory.read network.table.nodeId = station.number network.table

/-- What holds of an election on change in a tick in which so many turns have been taken. -/
structure Gossip (network : Network ρ σ) (log : List Message) (tick taken : Nat)
    (scene : Scene ρ σ) : Prop where
  total : log.length = (network.config.nodeCount - 1) * scene.told
  bound : ∀ message ∈ log, message.destination < network.config.nodeCount
  /-- Every node has been told all but what it told itself. -/
  toEach : ∀ (index : Nat) (station : Station), scene.stations[index]? = some station →
    (log.filter (·.destination == index)).length + station.sent = scene.told
  words : ∀ message ∈ log, message.word.toInt ≤ network.leader
  /-- The greatest node has told all others its number in the first tick. -/
  news : 0 < tick ∨ taken = network.config.nodeCount →
    ∀ index, index + 1 < network.config.nodeCount → ∃ message ∈ log,
      message.destination = index ∧ message.word.toInt = network.leader ∧
        message.arrival ≤ network.config.maxDelay
  voters : ∀ (index : Nat) (station : Station), scene.stations[index]? = some station →
    network.Voter (arrived log tick index) (if index < taken then tick + 1 else tick) index station

theorem Gossip.running (gossip : network.Gossip log tick taken scene) :
    ∀ station ∈ scene.stations, station.isTerminated = false := by
  intro station member
  obtain ⟨index, found⟩ := List.getElem?_of_mem member
  exact (gossip.voters index station found).running

/-! ### How much is told -/

/-- A station tells no more often than there are numbers it may come to know. -/
theorem Voter.sent_le (voter : network.Voter queue clock index station) :
    station.sent + index ≤ network.config.nodeCount := by
  have rarely := voter.rarely
  have bounded := voter.bounded
  rw [leader] at bounded
  split at rarely <;> omega

/-- What one station may still tell is left of what all of them may. -/
theorem Gossip.told_le (gossip : network.Gossip log tick taken scene)
    (sound : scene.Sound network) (found : scene.stations[index]? = some station) :
    scene.told + (network.config.nodeCount - index) ≤ network.rounds + station.sent := by
  have inside := (List.getElem?_eq_some_iff.mp found).1
  have count := sound.count
  -- as if the station had told all it may
  have changed := sum_setStation found (·.sent)
    { station with sent := network.config.nodeCount - index }
  have length : (scene.setStation index
      { station with sent := network.config.nodeCount - index }).stations.length =
        network.config.nodeCount := by
    rw [Scene.setStation, List.length_set, count]
  have most := sum_le_triangle (scene.setStation index
    { station with sent := network.config.nodeCount - index }).stations (·.sent)
    fun position other listed => by
      rw [length]
      rcases found_of_set listed with ⟨rfl, rfl⟩ | ⟨-, before⟩
      · exact Nat.le_of_eq (Nat.sub_add_cancel (by omega))
      · exact (gossip.voters position other before).sent_le
  rw [length] at most
  have half : (List.map (·.sent) (scene.setStation index
      { station with sent := network.config.nodeCount - index }).stations).sum ≤ network.rounds :=
    (Nat.le_div_iff_mul_le (by decide)).mpr (by omega)
  simp only [Scene.told] at changed ⊢
  omega

/-- A station is told fewer numbers than all stations tell, by those it may tell itself. -/
theorem Gossip.length_toEach_le (gossip : network.Gossip log tick taken scene)
    (sound : scene.Sound network) (found : scene.stations[index]? = some station) :
    (log.filter (·.destination == index)).length + (network.config.nodeCount - index) ≤
      network.rounds := by
  have told := gossip.told_le sound found
  have toEach := gossip.toEach index station found
  omega

theorem length_arrived_le (log : List Message) (tick index : Nat) :
    (arrived log tick index).length ≤ (log.filter (·.destination == index)).length := by
  rw [arrived, (inOrder_perm _).length_eq]
  exact List.length_filter_le _ _

/-! ### The news -/

/-- The voter whose turn it is. -/
theorem Gossip.voter (gossip : network.Gossip log tick index scene)
    (found : scene.stations[index]? = some station) :
    network.Voter (arrived log tick index) tick index station := by
  have voter := gossip.voters index station found
  rwa [if_neg (Nat.lt_irrefl _)] at voter

/-- Whoever has consumed all its messages since the news had arrived knows of it. -/
theorem Gossip.informed (gossip : network.Gossip log tick taken scene)
    (voter : network.Voter (arrived log tick index) clock index station)
    (known : 0 < tick ∨ taken = network.config.nodeCount) (inside : index < network.config.nodeCount)
    (late : ∀ message ∈ log, message.arrival ≤ network.config.maxDelay → message.arrival ≤ tick)
    (all : (arrived log tick index).length ≤ station.received) :
    (station.number network.table).toInt = network.leader := by
  have bounded := voter.bounded
  have own := voter.own
  by_cases top : index + 1 = network.config.nodeCount
  · rw [leader] at bounded ⊢
    omega
  · obtain ⟨message, member, here, word, arrival⟩ := gossip.news known index (by omega)
    have queued : message ∈ arrived log tick index :=
      mem_arrived.mpr ⟨member, here, late message member arrival⟩
    have heard := voter.heard message (by rwa [List.take_of_length_le all])
    omega

/-- Who does not know of the greatest number has messages left once the news has arrived. -/
theorem Gossip.waits (gossip : network.Gossip log tick index scene)
    (settings : network.config.Valid) (found : scene.stations[index]? = some station)
    (inside : index < network.config.nodeCount)
    (unaware : (station.number network.table).toInt ≠ network.leader)
    (late : network.config.maxDelay ≤ tick) :
    station.received < (arrived log tick index).length := by
  have positive := settings.positive
  have ordered := settings.ordered
  refine Nat.lt_of_not_le fun all => unaware ?_
  exact gossip.informed (gossip.voter found) (.inl (by omega)) inside
    (fun _ _ arrival => Nat.le_trans arrival late) all

/-- In time everyone knows of the greatest number: there are too few messages to wait for longer. -/
theorem Gossip.aware (gossip : network.Gossip log tick index scene)
    (settings : network.config.Valid) (sound : scene.Sound network)
    (found : scene.stations[index]? = some station)
    (reached : index + 1 = network.config.nodeCount ∨
      network.config.maxDelay + network.rounds ≤ tick + 1) :
    (station.number network.table).toInt = network.leader := by
  have voter := gossip.voter found
  have inside := (List.getElem?_eq_some_iff.mp found).1
  rw [sound.count] at inside
  refine Decidable.byContradiction fun unaware => ?_
  cases reached with
  | inl top =>
    have own := voter.own
    have bounded := voter.bounded
    rw [leader] at bounded unaware
    omega
  | inr late =>
    have few := gossip.length_toEach_le sound found
    have queued := length_arrived_le log tick index
    have pace := voter.pace unaware
    have behind := gossip.waits settings found inside unaware (by omega)
    omega

theorem Gossip.learns_le (gossip : network.Gossip log tick index scene)
    (found : scene.stations[index]? = some station)
    (kept : station.KeepsUp (arrived log tick index) tick) :
    (station.learns network.table).toInt ≤ network.leader := by
  refine Station.learns_le (gossip.voter found).bounded fun message member => ?_
  rw [kept.inbox] at member
  exact gossip.words message (mem_arrived.mp (List.mem_of_mem_drop member)).1

/-- What is news to a station is more than it has told. -/
theorem Voter.sent_le_learns (voter : network.Voter queue clock index station)
    (news : ¬ station.Settled network.table) :
    (station.sent : Int) + index ≤ (station.learns network.table).toInt := by
  have rarely := voter.rarely
  have grows : (station.number network.table).toInt ≤ (station.learns network.table).toInt :=
    Station.number_le_learns
  by_cases first : clock = 0
  · rw [if_pos first] at rarely
    omega
  · have greater : (station.learns network.table).toInt ≠
        (station.number network.table).toInt :=
      fun same => news ⟨Int64.toInt.inj same, mt voter.begun.mp first⟩
    rw [if_neg first] at rarely
    omega

/-- The step of a voter that has a buffer left for what it has to tell. -/
theorem Gossip.step {full : Bool} {performance : Performance σ} {stepped : Station.Stepped σ}
    (gossip : network.Gossip log tick index scene) (settings : network.config.Valid)
    (sound : scene.Sound network) (found : scene.stations[index]? = some station)
    (kept : station.KeepsUp (arrived log tick index) tick)
    (announced : Station.Announced network.table station full stepped)
    (ran : Station.Ran network.table station performance stepped)
    (last : stepped.station.last = some stepped.outcome)
    (room : station.Settled network.table ∨ full = false) :
    network.Voter (arrived log tick index) (tick + 1) index stepped.station := by
  have voter := gossip.voter found
  have inside := (List.getElem?_eq_some_iff.mp found).1
  rw [sound.count] at inside
  have grows : (station.number network.table).toInt ≤ (station.learns network.table).toInt :=
    Station.number_le_learns
  have most := gossip.learns_le found kept
  rw [← announced.number] at grows most
  refine ⟨announced.running, Int.le_trans voter.own grows, most, ?_, ?_, ?_, fun unaware => ?_,
    fun reached => ?_, fun unchanged => ?_⟩
  · rw [ran.received, announced.number]
    exact kept.heard voter.heard
  · exact ⟨fun zero => absurd zero announced.begun, fun zero => absurd zero (Nat.succ_ne_zero _)⟩
  · have rarely := voter.rarely
    rw [if_neg (Nat.succ_ne_zero _)]
    by_cases settled : station.Settled network.table
    · have later : tick ≠ 0 := fun zero => settled.2 (voter.begun.mpr zero)
      rw [if_neg later] at rarely
      rw [(announced.quiet settled).2.2]
      omega
    · obtain ⟨-, -, sent⟩ := announced.tells settled (room.resolve_left settled)
      have told := voter.sent_le_learns settled
      rw [sent, announced.number]
      omega
  · have bounded := voter.bounded
    have before : (station.number network.table).toInt ≠ network.leader := by omega
    have pace := voter.pace before
    rw [ran.received]
    cases waiting : station.inbox with
    | nil =>
      have all := List.drop_eq_nil_iff.mp (kept.inbox.symm.trans waiting)
      have early : tick < network.config.maxDelay := Nat.lt_of_not_le fun late =>
        Nat.not_lt.mpr all (gossip.waits settings found inside before late)
      omega
    | cons first rest =>
      rw [List.length_cons]
      omega
  · rw [announced.shown]
    exact gossip.aware settings sound found reached
  · have settled : station.Settled network.table := by
      refine Classical.byContradiction fun news => ?_
      obtain ⟨changed, -⟩ := announced.tells news (room.resolve_left news)
      rw [last, changed] at unchanged
      cases unchanged
    rw [announced.shown, announced.number, settled.1]

end Network

end Lockstep
