import Lockstep.Proofs.Network.Conservation
import Lockstep.Proofs.Network.Moments
import Mathlib.Algebra.BigOperators.Group.List.Basic

/-!
The counts of messages balance.

Every message sent is on its way, has been handed to a station, or came due for a station that had
halted; what a station was handed it has received, keeps in its queue or dropped when it halted
(`Scene.Balanced`). Steps move messages between these places and deliveries hand them on, so no
message is lost or counted twice, however a run ends (`messages_accounted`).
-/
namespace Lockstep

namespace Station

variable {σ : Type} {table : SymbolTable} {program : Program σ} {full : Bool} {station : Station}
  {shared : σ}

/-- The messages a station was handed: it has received them, keeps them in its queue or dropped them
when it halted. -/
def handed (station : Station) : Nat :=
  station.received + station.inbox.length + station.dropped

theorem consume_handed : (station.consume table).handed = station.handed := by
  unfold consume
  split
  · rfl
  · rename_i message rest waiting
    simp only [handed, waiting, List.length_cons]
    omega

/-- A step takes no message out of the queue without counting it. -/
theorem step_handed :
    (station.step table program full shared).station.handed = station.handed := by
  have performed : (station.perform table program shared).station.handed = station.handed :=
    consume_handed
  unfold step
  split
  · rfl
  · dsimp only
    generalize station.perform table program shared = performance at *
    split
    · exact performed
    · unfold conclude
      dsimp only
      split
      · exact performed
      · cases performance.halts with
        | false => exact performed
        | true =>
          simp only [handed, settle, finish, terminate, if_true, List.length_nil] at performed ⊢
          omega

/-- A message for a station that has not halted joins its queue. -/
theorem handed_enqueue (station : Station) (message : Message) :
    (station.enqueue [message]).handed =
      if station.isTerminated then station.handed else station.handed + 1 := by
  unfold enqueue
  split
  · rfl
  · simp only [handed, List.length_append, List.length_singleton]
    omega

theorem isTerminated_enqueue (station : Station) (messages : List Message) :
    (station.enqueue messages).isTerminated = station.isTerminated := by
  unfold enqueue
  split <;> rfl

end Station

namespace Network

variable {ρ σ : Type} {network : Network ρ σ} {state : State ρ σ} {scene : Scene ρ σ}

/-! ### Messages for stations that have halted -/

/-- The messages due in a tick for a node that has halted. -/
def State.strays (state : State ρ σ) (tick : Nat) : List Message :=
  ((state.schedule.slotsAt tick).map state.pool.letter).filter fun message =>
    state.nodes[message.destination]?.any Node.isTerminated

/-- The messages that come due for nodes that have halted, in at most `remaining` more ticks. -/
def straysFrom (network : Network ρ σ) : (remaining number : Nat) → State ρ σ → List Message
  | 0, _, _ => []
  | remaining + 1, number, state =>
    match network.turns number state with
    | .error _ => []
    | .ok after =>
      after.strays (number + 1) ++
        match network.tick number state with
        | .error _ => []
        | .ok next =>
          if next.allTerminated || network.quiescent next then []
          else network.straysFrom remaining (number + 1) next

/-- The messages that come due in a run for nodes that have halted. -/
def strays (network : Network ρ σ) (maxTicks : Nat) (start : State ρ σ) : List Message :=
  match network.begin start with
  | .error _ => []
  | .ok first => network.straysFrom maxTicks 0 first

/-- The station of a number has halted. -/
def Scene.halted (scene : Scene ρ σ) (index : Nat) : Bool :=
  scene.stations[index]?.any Station.isTerminated

/-- The messages due in a tick for a station that has halted. -/
def Scene.strays (scene : Scene ρ σ) (tick : Nat) : List Message :=
  (scene.transit.filter (·.arrival == tick)).filter fun message => scene.halted message.destination

theorem Depicts.strays_eq (depicts : Depicts network [] state scene) (tick : Nat) :
    state.strays tick = scene.strays tick := by
  rw [State.strays, Scene.strays, depicts.due tick]
  refine List.filter_congr fun message _ => ?_
  rw [Scene.halted, depicts.stations, List.getElem?_map, Array.getElem?_toList, Option.any_map]
  rfl

/-! ### Balance -/

/-- The messages all stations were handed. -/
def Scene.handed (scene : Scene ρ σ) : Nat :=
  (scene.stations.map Station.handed).sum

/-- Every message sent is in one place, and those handed to stations are those delivered. -/
structure Scene.Balanced (scene : Scene ρ σ) : Prop where
  sent : scene.tally.sent = scene.handed + scene.tally.dropped + scene.transit.length
  delivered : scene.tally.delivered = scene.handed

theorem opening_balanced (network : Network ρ σ) (random : ρ) (shared : σ) :
    (network.opening random shared).Balanced := by
  have fresh : (network.opening random shared).handed = 0 := by
    refine List.sum_eq_zero_iff_forall_eq_nat.mpr fun amount member => ?_
    simp only [opening, List.map_map, List.mem_map] at member
    obtain ⟨index, -, rfl⟩ := member
    rfl
  exact ⟨by rw [fresh]; rfl, by rw [fresh]; rfl⟩

/-- A turn keeps the balance, whether it fails or not, and no message comes due in it. -/
theorem Scene.Balanced.turn (balanced : scene.Balanced) (network : Network ρ σ) (tick : Nat)
    {index : Nat} {station : Station} (found : scene.stations[index]? = some station) :
    (leftBy (network.plainTurn tick scene index)).Balanced ∧
      (leftBy (network.plainTurn tick scene index)).tally.dropped = scene.tally.dropped := by
  obtain ⟨stations, transit, -, -, tally⟩ := leftBy_plainTurn network tick found
  have same : (leftBy (network.plainTurn tick scene index)).handed = scene.handed := by
    have changed := sum_setStation found Station.handed
      (network.plainStep station scene index).station
    have kept : (network.plainStep station scene index).station.handed = station.handed :=
      Station.step_handed
    rw [Scene.handed, Scene.handed, stations]
    simp only [Scene.setStation] at changed
    omega
  have sent := balanced.sent
  refine ⟨⟨?_, ?_⟩, by rw [tally]⟩
  · rw [same, transit, tally, List.length_append]
    simp only
    omega
  · rw [same, tally]
    exact balanced.delivered

/-- A message that comes due is handed to its station, or counted as dropped if that has halted. -/
theorem Scene.deliverOne_counts (scene : Scene ρ σ) {message : Message}
    (inside : message.destination < scene.stations.length) :
    let after := scene.deliverOne message
    let stray := if scene.halted message.destination then 1 else 0
    after.tally.dropped = scene.tally.dropped + stray ∧
      after.tally.delivered + stray = scene.tally.delivered + 1 ∧
      after.handed + stray = scene.handed + 1 := by
  have found := List.getElem?_eq_getElem inside
  generalize scene.stations[message.destination] = station at found
  simp only [Scene.halted, found, Option.any_some]
  cases halted : station.isTerminated with
  | true => simp [Scene.deliverOne, found, halted, Scene.handed]
  | false =>
    have changed := sum_setStation found Station.handed (station.enqueue [message])
    rw [station.handed_enqueue, halted, if_neg Bool.false_ne_true,
      Station.enqueue_running halted] at changed
    simp only [Scene.deliverOne, found, halted, Bool.false_eq_true, if_false, Nat.add_zero,
      true_and]
    simp only [Scene.handed, Scene.setStation] at changed ⊢
    omega

theorem halted_deliverOne (message : Message) (scene : Scene ρ σ) (index : Nat) :
    (scene.deliverOne message).halted index = scene.halted index := by
  rw [Scene.halted, stations_deliverOne, Option.any_map, Scene.halted]
  simp only [Station.isTerminated_enqueue]

theorem deliverAll_counts {messages : List Message} (scene : Scene ρ σ)
    (inside : ∀ message ∈ messages, message.destination < scene.stations.length) :
    let after := messages.foldl Scene.deliverOne scene
    let strays := (messages.filter fun message => scene.halted message.destination).length
    after.tally.dropped = scene.tally.dropped + strays ∧
      after.tally.delivered + strays = scene.tally.delivered + messages.length ∧
      after.handed + strays = scene.handed + messages.length := by
  induction messages generalizing scene with
  | nil => exact ⟨rfl, rfl, rfl⟩
  | cons message rest ih =>
    obtain ⟨here, later⟩ := List.forall_mem_cons.mp inside
    have one := scene.deliverOne_counts here
    have length : (scene.deliverOne message).stations.length = scene.stations.length :=
      (deliverAll_rest [message] scene).2.2.2.2.1
    have others := ih (scene.deliverOne message) fun other member =>
      length ▸ later other member
    simp only [halted_deliverOne] at others
    simp only [List.foldl_cons, List.filter_cons, List.length_cons]
    dsimp only at one
    split at one <;> rename_i stray <;> simp only [stray, if_true, Bool.false_eq_true, if_false,
      List.length_cons] at one ⊢ <;> omega

/-- Delivery drops the messages for stations that have halted and hands on the others. -/
theorem Scene.deliverDue_counts (sound : scene.Sound network) (tick : Nat) :
    let due := scene.transit.filter (·.arrival == tick)
    (scene.deliverDue tick).tally.dropped = scene.tally.dropped + (scene.strays tick).length ∧
      (scene.deliverDue tick).tally.delivered + (scene.strays tick).length =
        scene.tally.delivered + due.length ∧
      (scene.deliverDue tick).handed + (scene.strays tick).length = scene.handed + due.length := by
  refine deliverAll_counts { scene with transit := scene.transit.filter (·.arrival != tick) } ?_
  intro message member
  show message.destination < scene.stations.length
  rw [sound.count]
  exact sound.bound message (List.mem_filter.mp member).1

/-- Delivery keeps the balance. -/
theorem Scene.Balanced.deliverDue (balanced : scene.Balanced) (sound : scene.Sound network)
    (tick : Nat) :
    (scene.deliverDue tick).Balanced ∧
      (scene.deliverDue tick).tally.dropped =
        scene.tally.dropped + (scene.strays tick).length := by
  obtain ⟨transit, -, -, -, -, sent⟩ := deliverDue_rest tick scene
  obtain ⟨dropped, delivered, handed⟩ := scene.deliverDue_counts sound tick
  have parts : (scene.transit.filter (·.arrival == tick)).length +
      (scene.transit.filter (·.arrival != tick)).length = scene.transit.length := by
    rw [← List.length_append]
    exact (List.filter_append_perm (·.arrival == tick) scene.transit).length_eq
  have before := balanced.sent
  have same := balanced.delivered
  exact ⟨⟨by rw [sent, transit]; omega, by omega⟩, dropped⟩

theorem Scene.Balanced.countTick (balanced : scene.Balanced) :
    scene.countTick.Balanced ∧ scene.countTick.tally.dropped = scene.tally.dropped := by
  unfold Scene.countTick
  split <;> exact ⟨⟨balanced.sent, balanced.delivered⟩, rfl⟩

/-! ### Runs -/

/-- The turns of a tick keep the balance, up to a failure if there is one. -/
theorem plainTurns_balanced (valid : network.table.Valid) (sound : scene.Sound network)
    (balanced : scene.Balanced) (tick : Nat) :
    Leads (fun after => after.Sound network ∧ after.Balanced ∧
        after.tally.dropped = scene.tally.dropped)
      (fun failure => failure.scene.Sound network ∧ failure.scene.Balanced ∧
        failure.scene.tally.dropped = scene.tally.dropped)
      (network.plainTurns tick scene) := by
  apply plainTurns_leads fun _ after => after.Sound network ∧ after.Balanced ∧
    after.tally.dropped = scene.tally.dropped
  · rintro index middle inside ⟨soundMiddle, even, same⟩
    rw [sound.count] at inside
    obtain ⟨station, found⟩ := soundMiddle.found inside
    obtain ⟨evenAfter, sameAfter⟩ := even.turn network tick found
    exact leads_of_leftBy ⟨soundMiddle.turn valid tick inside, evenAfter, sameAfter.trans same⟩
  · exact ⟨sound, balanced, rfl⟩

/-- A run ends in balance, and has counted the messages for halted nodes. -/
theorem advance_balanced (valid : network.table.Valid) (depicts : Depicts network [] state scene)
    (sound : scene.Sound network) (balanced : scene.Balanced) (remaining number : Nat) :
    (network.plainAdvance remaining number scene).2.Balanced ∧
      (network.plainAdvance remaining number scene).2.tally.dropped =
        scene.tally.dropped + (network.straysFrom remaining number state).length := by
  induction remaining generalizing number state scene with
  | zero => exact ⟨balanced, rfl⟩
  | succ remaining ih =>
    have taken := plainTurns_balanced valid sound balanced number
    have refines := turns_refines number valid depicts
    rw [plainAdvance, straysFrom, plainTick, tick]
    cases turned : network.turns number state with
    | error stop =>
      rw [turned] at refines
      cases stop with
      | breach breach => exact refines.not_breach.elim
      | failure after node cause =>
        obtain ⟨failure, known, -⟩ := refines.of_failure
        rw [known] at taken ⊢
        exact ⟨taken.2.1, taken.2.2⟩
    | ok after =>
      rw [turned] at refines
      obtain ⟨turns, known, shown⟩ := refines.of_ok
      rw [known] at taken ⊢
      obtain ⟨soundTurns, even, same⟩ := taken
      obtain ⟨due, delivered, shownDue⟩ := deliverDue_depicts shown (number + 1)
      obtain ⟨evenDue, dropped⟩ := even.deliverDue soundTurns (number + 1)
      obtain ⟨evenNext, sameNext⟩ := evenDue.countTick
      have shownNext := shownDue.countTick
      have total : (turns.deliverDue (number + 1)).countTick.tally.dropped =
          scene.tally.dropped + (after.strays (number + 1)).length := by
        rw [sameNext, dropped, same, shown.strays_eq]
      simp only [Except.map, delivered, guarded_ok, bind, Except.bind, pure, Except.pure,
        shownNext.allTerminated_eq, shownNext.quiescent_eq]
      split
      · exact ⟨evenNext, by rw [total, List.append_nil]⟩
      · obtain ⟨ended, count⟩ := ih shownNext (soundTurns.deliverDue _).countTick evenNext
          (number + 1)
        exact ⟨ended, by rw [count, total, List.length_append, Nat.add_assoc]⟩

/-- What is counted on the nodes of a state is counted on its scene. -/
theorem Depicts.sum_nodes (depicts : Depicts network [] state scene) {count : Node → Nat}
    {plainCount : Station → Nat}
    (same : ∀ node : Node, plainCount (node.portray state.pool) = count node) :
    (state.nodes.toList.map count).sum = (scene.stations.map plainCount).sum := by
  rw [depicts.stations, List.map_map]
  exact congrArg List.sum (List.map_congr_left fun node _ => (same node).symm)

theorem Scene.handed_eq (scene : Scene ρ σ) :
    scene.handed = (scene.stations.map (·.received)).sum +
      (scene.stations.map (·.inbox.length)).sum + (scene.stations.map (·.dropped)).sum := by
  rw [← List.sum_map_add, ← List.sum_map_add]
  rfl

/-- A run from a sound state ends in balance. -/
theorem run_balanced (valid : network.table.Valid) {start : State ρ σ}
    (sound : start.Sound network []) (maxTicks : Nat) :
    ∃ outcome ticksRun final scene,
      network.run maxTicks start = .ok (scene.report outcome ticksRun, final) ∧
      Depicts network [] final scene ∧ scene.Balanced ∧
      scene.tally.dropped = (network.strays maxTicks start).length := by
  obtain ⟨first, begun, depicts⟩ := begin_depicts valid sound
  obtain ⟨final, ran, shown⟩ := run_depicts valid sound maxTicks
  obtain ⟨balanced, dropped⟩ := advance_balanced valid depicts (opening_sound _ _ _)
    (opening_balanced _ _ _) maxTicks 0
  obtain ⟨outcome, ticksRun, reported⟩ :=
    plainAdvance_report network maxTicks 0 (network.opening start.random start.shared)
  refine ⟨outcome, ticksRun, final, _, reported ▸ ran, shown, balanced, ?_⟩
  rw [strays, begun]
  exact dropped.trans (Nat.zero_add _)

/-- When a run has ended, every message it counts as sent was received, was dropped, waits in a
queue or is on its way. Those delivered were received by a node, wait in its queue or were dropped
when it halted, and those dropped came due for a node that had halted or were in the queue of one
that halted. -/
theorem messages_accounted {table : SymbolTable} {config : NetworkConfig}
    {program : Nat → Program σ} {router : Router} {source : Source ρ}
    (built : Network.build table config program router source = .ok network) {start : State ρ σ}
    (resting : network.Resting start) (maxTicks : Nat) :
    ∃ result final, network.run maxTicks start = .ok (result, final) ∧
      result.stats.messagesSent =
        (result.nodes.map (·.messagesReceived)).sum + result.stats.messagesDropped +
          (final.nodes.toList.map (·.pending.length)).sum + final.schedule.inFlight ∧
      result.stats.messagesDelivered =
        (final.nodes.toList.map fun node =>
          node.received + node.pending.length + node.dropped).sum ∧
      result.stats.messagesDropped =
        (network.strays maxTicks start).length + (final.nodes.toList.map (·.dropped)).sum := by
  obtain ⟨-, valid, rfl⟩ := build_eq_ok.mp built
  obtain ⟨outcome, ticksRun, final, scene, ran, shown, balanced, strays⟩ :=
    run_balanced valid (resting.sound valid) maxTicks
  refine ⟨_, final, ran, ?_, ?_, ?_⟩
  · have received : ((scene.stations.map Scene.reportStation).map (·.messagesReceived)).sum =
        (scene.stations.map (·.received)).sum := by
      rw [List.map_map]
      rfl
    have waiting : (final.nodes.toList.map (·.pending.length)).sum =
        (scene.stations.map (·.inbox.length)).sum :=
      shown.sum_nodes fun _ => List.length_map _
    have sent := balanced.sent
    rw [scene.handed_eq] at sent
    simp only [Scene.report, received, waiting, shown.waiting]
    omega
  · refine balanced.delivered.trans (Eq.symm (shown.sum_nodes fun node => ?_))
    simp only [Station.handed, Node.portray, List.length_map]
  · have dropped : (final.nodes.toList.map (·.dropped)).sum =
        (scene.stations.map (·.dropped)).sum :=
      shown.sum_nodes fun _ => rfl
    simp only [Scene.report, strays, dropped]

theorem messages_accounted_halting :
    ∃ (network : Network Nat Unit) (result : RunResult) (final : State Nat Unit),
      Network.build .standard { nodeCount := 4, capacity := 16 }
          (fun _ => .ofView fun _ => .requestSend fun _ => .done .halt) Router.broadcast
          (Source.cycle [1, 3]) = .ok network ∧
        network.Resting (network.initial 0 ()) ∧
        network.run 10 (network.initial 0 ()) = .ok (result, final) ∧
        result.stats.messagesSent =
          (result.nodes.map (·.messagesReceived)).sum + result.stats.messagesDropped +
            (final.nodes.toList.map (·.pending.length)).sum + final.schedule.inFlight ∧
        result.stats.messagesDelivered =
          (final.nodes.toList.map fun node =>
            node.received + node.pending.length + node.dropped).sum ∧
        result.stats.messagesDropped = 6 + (final.nodes.toList.map (·.dropped)).sum := by
  let network : Network Nat Unit :=
    ⟨.standard, { nodeCount := 4, capacity := 16 },
      fun _ => .ofView fun _ => .requestSend fun _ => .done .halt, Router.broadcast,
      Source.cycle [1, 3]⟩
  have built : Network.build network.table network.config network.program network.router
      network.source = .ok network := rfl
  have strays : (network.strays 10 (network.initial 0 ())).length = 6 := by decide +kernel
  obtain ⟨result, final, ran, sent, delivered, dropped⟩ :=
    messages_accounted built (.initial 0 ()) 10
  rw [strays] at dropped
  exact ⟨network, result, final, built, .initial 0 (), ran, sent, delivered, dropped⟩

end Network

end Lockstep
