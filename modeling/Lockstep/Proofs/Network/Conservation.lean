import Lockstep.Proofs.Network.Pace

/-!
Where the messages are.

While no station has halted, every message sent is on its way, waits in a queue or has been consumed
(`Tracks.conserved`). When none is left, all have arrived before the clock (`Tracks.past`).
-/
namespace Lockstep

/-- Messages told apart by where they go. -/
theorem sum_destinations (messages : List Message) (count : Nat) :
    ((List.range count).map fun index =>
        (messages.filter (·.destination == index)).length).sum =
      (messages.filter (·.destination < count)).length := by
  induction count with
  | zero =>
    have empty : messages.filter (·.destination < 0) = [] :=
      List.filter_eq_nil_iff.mpr fun message _ => by simp
    rw [empty]
    rfl
  | succ count ih =>
    rw [List.range_succ, List.map_append, List.sum_append, ih, List.map_singleton,
      List.sum_singleton]
    clear ih
    induction messages with
    | nil => rfl
    | cons message rest ih =>
      simp only [List.filter_cons, beq_iff_eq, decide_eq_true_eq]
      split <;> split <;> split <;> first | omega | simp only [List.length_cons]; omega

/-- Whatever is consumed has arrived before. -/
theorem lt_freeAfter_of_mem {earliest arrival : Nat} {arrivals : List Nat}
    (member : arrival ∈ arrivals) : arrival < freeAfter earliest arrivals := by
  induction arrivals generalizing earliest with
  | nil => cases member
  | cons first rest ih =>
    rcases List.mem_cons.mp member with rfl | later
    · have := le_freeAfter (max arrival earliest + 1) rest
      exact Nat.lt_of_lt_of_le (by omega) this
    · exact ih later

namespace Network

variable {ρ σ : Type} {network : Network ρ σ} {scene : Scene ρ σ} {log : List Message}
  {tick taken : Nat}

theorem length_arrived (log : List Message) (tick index : Nat) :
    (arrived log tick index).length =
      ((log.filter (·.arrival ≤ tick)).filter (·.destination == index)).length := by
  rw [arrived, (inOrder_perm _).length_eq, List.filter_filter, List.filter_filter]
  exact congrArg List.length (List.filter_congr fun message _ => Bool.and_comm _ _)

/-- Another item at a position changes a sum over the list by what it counts. -/
theorem sum_map_set {α : Type} {items : List α} {index : Nat} {before : α}
    (found : items[index]? = some before) (count : α → Nat) (after : α) :
    ((items.set index after).map count).sum + count before =
      (items.map count).sum + count after := by
  induction items generalizing index with
  | nil => cases found
  | cons item rest ih =>
    cases index with
    | zero =>
      cases found
      simp only [List.set_cons_zero, List.map_cons, List.sum_cons]
      omega
    | succ index =>
      have later := ih found
      simp only [List.set_cons_succ, List.map_cons, List.sum_cons]
      omega

/-- Another station at a number changes a sum over the stations by what it counts. -/
theorem sum_setStation {index : Nat} {before : Station}
    (found : scene.stations[index]? = some before) (count : Station → Nat) (after : Station) :
    ((scene.setStation index after).stations.map count).sum + count before =
      (scene.stations.map count).sum + count after :=
  sum_map_set found count after

/-- The messages in a queue are among those nobody has consumed. -/
theorem inbox_le_live {index : Nat} {station : Station}
    (found : scene.stations[index]? = some station) : station.inbox.length ≤ scene.live := by
  have emptied := sum_setStation found (·.inbox.length) { station with inbox := [] }
  simp only [Scene.live, List.length_nil] at emptied ⊢
  omega

/-- A station that consumes adds nothing to the messages left. -/
theorem live_setStation_le {index : Nat} {before after : Station}
    (found : scene.stations[index]? = some before)
    (fewer : after.inbox.length ≤ before.inbox.length) :
    (scene.setStation index after).live ≤ scene.live := by
  have changed := sum_setStation found (·.inbox.length) after
  simp only [Scene.live, Scene.setStation] at changed ⊢
  omega

/-- A turn that sends succeeds with all its messages, or fails because the pool has fewer buffers
than there would be messages. -/
theorem plainTurn_sends (tick : Nat) {index : Nat} {station : Station} {payload : Cells}
    {destinations : List Nat} (found : scene.stations[index]? = some station)
    (lasting : ∀ error, (network.plainStep station scene index).outcome ≠ .failed error)
    (outgoing : (network.plainStep station scene index).outgoing = some payload)
    (resolved : network.destinations index payload scene.stations.length = destinations) :
    ((∃ after, network.plainTurn tick scene index = .ok after) ∧
      (network.sentIn tick scene index).1 =
        (network.address tick index payload destinations scene.random).1) ∨
    ((∃ failure, network.plainTurn tick scene index = .error failure) ∧
      network.config.capacity < scene.live + destinations.length) := by
  have turned := plainTurn_eq network tick found
  rw [endTurn_sends network tick index _ lasting outgoing] at turned
  let stepped := network.plainStep station scene index
  let marked := ({ scene.setStation index stepped.station with shared := stepped.shared }).mark
    (usedBy station scene + 1)
  have length : marked.stations.length = scene.stations.length := List.length_set
  rw [← length] at resolved
  by_cases room : destinations.length ≤ network.room marked
  · obtain ⟨after, sends⟩ := plainDispatch_ok tick resolved room
    refine .inl ⟨⟨after, turned.trans sends⟩, ?_⟩
    simp only [sentIn, found, outgoing, ← length, resolved]
    exact congrArg (fun served => (network.address tick index payload served scene.random).1)
      (if_pos room)
  · have scarce := Nat.lt_of_not_le room
    obtain ⟨failure, fails⟩ := plainDispatch_error tick resolved scarce
    refine .inr ⟨⟨failure, turned.trans fails⟩, ?_⟩
    have left : network.room marked =
        network.config.capacity - (scene.setStation index stepped.station).live := rfl
    have live : (scene.setStation index stepped.station).live ≤ scene.live :=
      live_setStation_le found Station.step_inbox_le
    omega

/-- A message is on its way, waits, or has been consumed. -/
theorem Tracks.conserved (tracks : Tracks log tick taken scene) (sound : scene.Sound network)
    (running : ∀ station ∈ scene.stations, station.isTerminated = false)
    (bound : ∀ message ∈ log, message.destination < network.config.nodeCount) :
    scene.live + (scene.stations.map (·.received)).sum = log.length := by
  have each : scene.stations.map (fun station => station.inbox.length + station.received) =
      (List.range network.config.nodeCount).map fun index =>
        ((log.filter (·.arrival ≤ tick)).filter (·.destination == index)).length := by
    apply List.ext_getElem?
    intro index
    rw [List.getElem?_map, List.getElem?_map]
    by_cases inside : index < network.config.nodeCount
    · obtain ⟨station, found⟩ := sound.found inside
      have kept := tracks.queues index station found
        (running station (List.mem_of_getElem? found))
      have received := kept.received
      have waiting := congrArg List.length kept.inbox
      rw [List.length_drop] at waiting
      rw [found, List.getElem?_range inside, Option.map_some, Option.map_some, ← length_arrived]
      congr 1
      omega
    · have size := sound.count
      rw [List.getElem?_eq_none (by omega), List.getElem?_eq_none (by simpa using inside)]
      rfl
  have waiting : (scene.stations.map (·.inbox.length)).sum +
      (scene.stations.map (·.received)).sum =
        (scene.stations.map fun station => station.inbox.length + station.received).sum := by
    induction scene.stations with
    | nil => rfl
    | cons station rest ih =>
      simp only [List.map_cons, List.sum_cons] at ih ⊢
      omega
  have here : ((log.filter (·.arrival ≤ tick)).filter
      (·.destination < network.config.nodeCount)).length =
        (log.filter (·.arrival ≤ tick)).length := by
    refine congrArg List.length (List.filter_eq_self.mpr fun message member => ?_)
    exact decide_eq_true (bound message (List.mem_filter.mp member).1)
  have parts : (log.filter (tick < ·.arrival)).length + (log.filter (·.arrival ≤ tick)).length =
      log.length := by
    clear tracks bound each here
    induction log with
    | nil => rfl
    | cons message rest ih =>
      simp only [List.filter_cons, decide_eq_true_eq]
      split <;> split <;> simp only [List.length_cons] <;> omega
  rw [Scene.live, tracks.transit, Nat.add_assoc, waiting, each, sum_destinations, here, parts]

/-- With no message left, all have arrived, and have been consumed before this tick. -/
theorem Tracks.past (tracks : Tracks log tick 0 scene) (sound : scene.Sound network)
    (running : ∀ station ∈ scene.stations, station.isTerminated = false)
    (bound : ∀ message ∈ log, message.destination < network.config.nodeCount)
    (empty : scene.live = 0) : ∀ message ∈ log, message.arrival < tick := by
  intro message member
  obtain ⟨gone, consumed⟩ := live_eq_zero_iff.mp empty
  obtain ⟨station, found⟩ := sound.found (bound message member)
  have inStations := List.mem_of_getElem? found
  have kept := tracks.queues message.destination station found (running station inStations)
  rw [if_neg (Nat.not_lt_zero _)] at kept
  have arrivedBy : message.arrival ≤ tick := by
    have transit := tracks.transit
    rw [gone] at transit
    have landed := List.filter_eq_nil_iff.mp transit.symm message member
    simpa using landed
  have queued : message ∈ arrived log tick message.destination :=
    mem_arrived.mpr ⟨member, rfl, arrivedBy⟩
  have all : (arrived log tick message.destination).length ≤ station.received :=
    List.drop_eq_nil_iff.mp (kept.inbox.symm.trans (consumed station inStations))
  have ready := kept.ready
  rw [Station.readyAt, List.take_of_length_le all] at ready
  exact Nat.lt_of_lt_of_le (lt_freeAfter_of_mem (List.mem_map_of_mem queued)) ready

end Network

end Lockstep
