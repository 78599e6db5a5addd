import Lockstep.Proofs.Delivery.Arrivals
import Lockstep.Proofs.Network.Effects

/-!
The pace at which stations consume their messages.

`log` is everything sent so far. What has not arrived yet is in transit, and the queue of a station
is what has arrived there, in the order of arrival, less what it has consumed (`Tracks`). The clock
of a station is the tick of its next step: by then its last message is done with, and if its queue
is not empty the first of it is consumed just then (`Station.KeepsUp`).
-/
namespace Lockstep

/-- What has arrived at a node by a tick, in the order of arrival. -/
def arrived (log : List Message) (tick index : Nat) : List Message :=
  inOrder ((log.filter (·.destination == index)).filter (·.arrival ≤ tick))

theorem arrived_succ (log : List Message) (tick index : Nat) :
    arrived log (tick + 1) index = arrived log tick index ++
      (log.filter (·.destination == index)).filter (·.arrival == tick + 1) :=
  inOrder_succ _ tick

/-- What is sent later arrives later. -/
theorem arrived_append {more : List Message} {tick : Nat}
    (late : ∀ message ∈ more, tick < message.arrival) (log : List Message) (index : Nat) :
    arrived (log ++ more) tick index = arrived log tick index := by
  have absent : (more.filter (·.destination == index)).filter (·.arrival ≤ tick) = [] := by
    apply List.filter_eq_nil_iff.mpr
    intro message member
    have here := late message (List.mem_filter.mp member).1
    simp only [decide_eq_true_eq]
    omega
  rw [arrived, List.filter_append, List.filter_append, absent, List.append_nil, arrived]

theorem mem_arrived {log : List Message} {tick index : Nat} {message : Message} :
    message ∈ arrived log tick index ↔
      message ∈ log ∧ message.destination = index ∧ message.arrival ≤ tick := by
  rw [arrived, (inOrder_perm _).mem_iff, List.mem_filter, List.mem_filter, beq_iff_eq,
    decide_eq_true_eq, and_assoc]

namespace Station

variable {σ : Type} {table : SymbolTable} {program : Program σ} {full : Bool} {station : Station}
  {shared : σ} {queue due late : List Message} {clock : Nat}

/-- The first tick in which a station may consume another message. -/
def readyAt (station : Station) (queue : List Message) : Nat :=
  freeAfter 0 ((queue.take station.received).map (·.arrival))

/-- The station has consumed the first messages of `queue` on time, and the others wait. -/
structure KeepsUp (station : Station) (queue : List Message) (clock : Nat) : Prop where
  received : station.received ≤ queue.length
  inbox : station.inbox = queue.drop station.received
  ready : station.readyAt queue ≤ clock
  onTime : ∀ message ∈ station.inbox.head?, max message.arrival (station.readyAt queue) = clock

/-- In its step a station consumes what its clock says. -/
theorem KeepsUp.step (kept : station.KeepsUp queue clock) (running : station.isTerminated = false)
    (early : ∀ message ∈ queue, message.arrival ≤ clock)
    (still : (station.step table program full shared).station.isTerminated = false) :
    (station.step table program full shared).station.KeepsUp queue (clock + 1) := by
  have ran : Ran table station (station.perform table program shared)
    (station.step table program full shared) := step_running running
  have received := ran.received
  have inbox := ran.inbox
  rw [if_neg (by simp [still])] at inbox
  have known := kept.inbox
  cases waiting : station.inbox with
  | nil =>
    rw [waiting] at received inbox
    refine ⟨received ▸ kept.received, ?_, ?_, by simp [inbox]⟩
    · rw [inbox, received]
      exact waiting.symm.trans known
    · rw [readyAt, received]
      exact Nat.le_succ_of_le kept.ready
  | cons message rest =>
    rw [waiting] at received inbox known
    have one : min 1 (message :: rest).length = 1 := by simp
    rw [one] at received
    have placed : queue[station.received]? = some message := by
      rw [← List.head?_drop, ← known]
      rfl
    have inside := (List.getElem?_eq_some_iff.mp placed).1
    have ready : freeAfter 0 ((queue.take (station.received + 1)).map (·.arrival)) = clock + 1 := by
      rw [List.take_add_one, placed, List.map_append]
      refine (freeAfter_append_singleton message.arrival).trans (congrArg (· + 1) ?_)
      exact kept.onTime message (by simp [waiting])
    refine ⟨received ▸ inside, ?_, ?_, ?_⟩
    · rw [inbox, received, ← List.drop_drop, ← known]
      rfl
    · rw [readyAt, received]
      exact Nat.le_of_eq ready
    · intro next first
      rw [readyAt, received, ready]
      have member : next ∈ queue := by
        have listed := List.mem_of_mem_head? first
        rw [inbox] at listed
        have tail : next ∈ message :: rest := List.mem_of_mem_tail listed
        rw [known] at tail
        exact List.mem_of_mem_drop tail
      have := early next member
      omega

/-- Messages that arrive for the next step join the queue. -/
theorem KeepsUp.enqueue (kept : station.KeepsUp queue clock)
    (running : station.isTerminated = false)
    (punctual : ∀ message ∈ due, message.arrival = clock) :
    (station.enqueue due).KeepsUp (queue ++ due) clock := by
  rw [Station.enqueue_running running]
  have same : readyAt { station with inbox := station.inbox ++ due } (queue ++ due) =
      station.readyAt queue := by
    rw [readyAt, readyAt, List.take_append_of_le_length kept.received]
  refine ⟨?_, ?_, same ▸ kept.ready, ?_⟩
  · rw [List.length_append]
    exact Nat.le_add_right_of_le kept.received
  · rw [List.drop_append_of_le_length kept.received, kept.inbox]
  · intro message first
    rw [same]
    cases waiting : station.inbox with
    | nil =>
      rw [waiting] at first
      have := punctual message (List.mem_of_mem_head? first)
      have := kept.ready
      omega
    | cons head rest =>
      rw [waiting] at first
      exact kept.onTime message (by rw [waiting]; exact first)

/-- A station consumes a message in the ticks that the arrivals tell, and then the one they tell. -/
theorem KeepsUp.consumption (kept : station.KeepsUp queue clock)
    (coming : ∀ message ∈ late, clock < message.arrival) :
    let times : List Nat := consumptions 0 ((queue ++ late).map (·.arrival))
    (station.inbox ≠ [] ↔ clock ∈ times) ∧
      ∀ position : Nat, times[position]? = some clock →
        station.inbox.head? = (queue ++ late)[position]? := by
  intro times
  have split : times = consumptions 0 ((queue.take station.received).map (·.arrival)) ++
      consumptions (station.readyAt queue) ((station.inbox ++ late).map (·.arrival)) := by
    have parts : queue ++ late = queue.take station.received ++ (station.inbox ++ late) := by
      rw [kept.inbox, ← List.append_assoc, List.take_append_drop]
    rw [readyAt, ← consumptions_append, ← List.map_append, ← parts]
  have length : (consumptions 0 ((queue.take station.received).map (·.arrival))).length =
      station.received := by
    rw [length_consumptions, List.length_map, List.length_take, Nat.min_eq_left kept.received]
  have past : clock ∉ consumptions 0 ((queue.take station.received).map (·.arrival)) :=
    fun member => Nat.not_lt.mpr kept.ready (lt_freeAfter member)
  cases waiting : station.inbox with
  | nil =>
    have never : clock ∉ times := by
      rw [split, waiting, List.nil_append]
      intro member
      cases List.mem_append.mp member with
      | inl before => exact past before
      | inr after =>
        refine not_mem_consumptions (fun arrival listed => ?_) after
        obtain ⟨message, inside, rfl⟩ := List.mem_map.mp listed
        exact coming message inside
    exact ⟨⟨fun nonempty => absurd rfl nonempty, fun member => absurd member never⟩,
      fun position placed => absurd (List.mem_of_getElem? placed) never⟩
  | cons message rest =>
    have now := kept.onTime message (by rw [waiting]; rfl)
    rw [waiting, List.cons_append, List.map_cons, consumptions, now] at split
    have position : ∀ position : Nat, times[position]? = some clock →
        position = station.received := by
      intro position placed
      rw [split, List.getElem?_append, length] at placed
      split at placed
      · exact absurd (List.mem_of_getElem? placed) past
      · cases offset : position - station.received with
        | zero => omega
        | succ more =>
          rw [offset, List.getElem?_cons_succ] at placed
          have := earliest_le (List.mem_of_getElem? placed)
          omega
    refine ⟨⟨fun _ => ?_, fun _ => List.cons_ne_nil _ _⟩, fun place placed => ?_⟩
    · rw [split]
      exact List.mem_append_right _ List.mem_cons_self
    · have inside : station.received < queue.length := by
        have length := congrArg List.length kept.inbox
        rw [waiting, List.length_drop, List.length_cons] at length
        omega
      rw [position place placed, List.getElem?_append_left inside, ← List.head?_drop, ← kept.inbox,
        waiting]

end Station

namespace Network

variable {ρ σ : Type} {network : Network ρ σ} {scene : Scene ρ σ} {station : Station}
  {log : List Message} {tick taken index : Nat}

/-- The draws lie in the window of delays. -/
def InWindow (network : Network ρ σ) : Prop :=
  ∀ random : ρ,
    let delay := (network.source.draw random network.config.minDelay network.config.maxDelay).1
    network.config.minDelay ≤ delay ∧ delay ≤ network.config.maxDelay

/-- In a tick in which so many turns have been taken, the scene has come from sending `log`. -/
structure Tracks (log : List Message) (tick taken : Nat) (scene : Scene ρ σ) : Prop where
  transit : scene.transit = log.filter (tick < ·.arrival)
  sent : scene.tally.sent = log.length
  queues : ∀ (index : Nat) (station : Station), scene.stations[index]? = some station →
    station.isTerminated = false →
      station.KeepsUp (arrived log tick index) (if index < taken then tick + 1 else tick)

theorem tracks_opening (network : Network ρ σ) (random : ρ) (shared : σ) :
    Tracks [] 0 0 (network.opening random shared) := by
  refine ⟨rfl, rfl, fun index station found _ => ?_⟩
  obtain ⟨-, rfl⟩ := opening_found found
  exact ⟨Nat.zero_le _, by simp [freshStation, arrived, inOrder], Nat.zero_le _,
    by simp [freshStation]⟩

/-- A message sent in a tick arrives in a later one. -/
theorem InWindow.late (window : network.InWindow) (positive : 0 < network.config.minDelay)
    (bounded : tick < lastTick) :
    ∀ message ∈ (network.sentIn tick scene index).1, tick < message.arrival := by
  intro message member
  obtain ⟨-, -, -, -, -, -, -, drawnFrom, arrival⟩ := mem_sentIn member
  have := (window drawnFrom).1
  omega

theorem Tracks.turn (network : Network ρ σ) (tracks : Tracks log tick index scene)
    (found : scene.stations[index]? = some station)
    (late : ∀ message ∈ (network.sentIn tick scene index).1, tick < message.arrival) :
    Tracks (log ++ (network.sentIn tick scene index).1) tick (index + 1)
      (leftBy (network.plainTurn tick scene index)) := by
  obtain ⟨stations, transit, -, -, tally⟩ := leftBy_plainTurn network tick found
  refine ⟨?_, ?_, fun probe other listed => ?_⟩
  · have all : (network.sentIn tick scene index).1.filter (tick < ·.arrival) =
        (network.sentIn tick scene index).1 :=
      List.filter_eq_self.mpr fun message member => decide_eq_true (late message member)
    rw [transit, tracks.transit, List.filter_append, all]
  · rw [tally, List.length_append, ← tracks.sent]
  · rw [arrived_append late]
    rw [stations] at listed
    refine forall_set (fun clock probe station => station.isTerminated = false →
      station.KeepsUp (arrived log tick probe) clock) (fun still => ?_) tracks.queues probe other
      listed
    have running : station.isTerminated = false := by
      cases halted : station.isTerminated with
      | false => rfl
      | true =>
        rw [plainStep, Station.step_terminated halted] at still
        exact still.symm.trans halted |>.symm
    have kept := tracks.queues index station found running
    rw [if_neg (Nat.lt_irrefl _)] at kept
    exact kept.step running (fun _ member => (mem_arrived.mp member).2.2) still

theorem Tracks.deliverDue (tracks : Tracks log tick taken scene)
    (whole : scene.stations.length ≤ taken) :
    Tracks log (tick + 1) 0 (scene.deliverDue (tick + 1)) := by
  obtain ⟨transit, -, -, -, -, sent⟩ := deliverDue_rest (tick + 1) scene
  refine ⟨?_, sent.trans tracks.sent, fun index station found still => ?_⟩
  · rw [transit, tracks.transit, List.filter_filter]
    apply List.filter_congr
    intro message _
    rw [Bool.eq_iff_iff]
    simp only [Bool.and_eq_true, bne_iff_ne, ne_eq, decide_eq_true_eq]
    omega
  · rw [stations_deliverDue, Option.map_eq_some_iff] at found
    obtain ⟨before, listed, rfl⟩ := found
    have running : before.isTerminated = false := by
      unfold Station.enqueue at still
      split at still
      · exact still
      · exact still
    have inside : index < taken :=
      Nat.lt_of_lt_of_le (List.getElem?_eq_some_iff.mp listed).1 whole
    have kept := tracks.queues index before listed running
    rw [if_pos inside] at kept
    have due : (scene.transit.filter (·.arrival == tick + 1)).filter (·.destination == index) =
        (log.filter (·.destination == index)).filter (·.arrival == tick + 1) := by
      rw [tracks.transit, List.filter_filter, List.filter_filter, List.filter_filter]
      apply List.filter_congr
      intro message _
      rw [Bool.eq_iff_iff]
      simp only [Bool.and_eq_true, beq_iff_eq, decide_eq_true_eq]
      omega
    rw [if_neg (Nat.not_lt_zero _), arrived_succ, due]
    apply kept.enqueue running
    intro message member
    exact beq_iff_eq.mp (List.mem_filter.mp member).2

theorem Tracks.countTick (tracks : Tracks log tick taken scene) :
    Tracks log tick taken scene.countTick := by
  obtain ⟨stations, transit, -, -, -, sent⟩ := countTick_rest scene
  exact ⟨transit.trans tracks.transit, sent.trans tracks.sent, by
    rw [stations]
    exact tracks.queues⟩

end Network

end Lockstep
