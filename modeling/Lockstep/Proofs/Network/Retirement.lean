import Lockstep.Proofs.Network.Balance
import Lockstep.Proofs.Network.Unfolding
import Lockstep.Proofs.Node.Halting

/-!
Nodes that have halted.

A turn in which a program halts still sends what was asked for, and gives back what was in the queue
(`Turn.Halts.leaves`). From then on, at every moment of the run, the node is the same but for one more
idle step in each tick (`retired_invariant`), and what comes due for it is given back to the pool and
counted as dropped (`State.Discards`).
-/
namespace Lockstep.Network

variable {ρ σ : Type} {network : Network ρ σ} {start state after : State ρ σ} {scene : Scene ρ σ}
  {past : List (Turn ρ σ)} {turn : Turn ρ σ} {number taken index tick : Nat} {stage : Stage}
  {node halted : Node} {memory : Memory} {requested : Bool}

/-! ### The turn -/

/-- In this turn the program of a running node halts, and neither its step nor the dispatch of its
message fails. -/
structure Turn.Halts (network : Network ρ σ) (turn : Turn ρ σ) (node : Node) (memory : Memory)
    (requested : Bool) (after : State ρ σ) : Prop where
  found : turn.before.nodes[turn.index]? = some node
  running : node.isTerminated = false
  /-- The program has asked for a send or not, and leaves this memory behind. -/
  played : ∃ view shared, turn.view network = .ok view ∧
    (network.program turn.index node.place turn.before.shared).run network.table view false =
      .ok ((shared, .halt), memory, requested)
  passed : network.turn turn.tick turn.before turn.index = .ok after

/-- What such a turn leaves behind. -/
structure Turn.Leaves (network : Network ρ σ) (turn : Turn ρ σ) (node : Node) (memory : Memory)
    (requested : Bool) (after : State ρ σ) (halted : Node) : Prop where
  /-- A send that was asked for goes to all its destinations. -/
  transmitted : ∃ payload, memory.payload network.table = .ok payload ∧
    turn.letters network = if requested then
        (network.address turn.tick turn.index payload
          (network.destinations turn.index payload network.config.nodeCount)
          turn.before.random).1
      else []
  scheduled : ∀ due, (after.schedule.slotsAt due).map after.pool.letter =
    (turn.before.schedule.slotsAt due).map turn.before.pool.letter ++
      (turn.letters network).filter (·.arrival == due)
  tally : after.tally = { turn.before.tally with
    sent := turn.before.tally.sent + (turn.letters network).length }
  found : after.nodes[turn.index]? = some halted
  terminated : halted.isTerminated = true
  memory : halted.memory = memory
  pending : halted.pending = []
  sent : halted.sent = node.sent + requested.toNat
  received : halted.received = node.received + min 1 node.pending.length
  dropped : halted.dropped = node.dropped + node.pending.tail.length
  /-- The buffers of the messages dropped are free once the step is done. -/
  released : ∃ stepped, turn.stepped network = .ok stepped ∧
    ∀ slot ∈ node.pending.tail, slot ∈ stepped.pool.free

namespace Turn.Halts

/-- On the scene, too, the station halts and the turn goes through. -/
theorem plain (valid : network.table.Valid) (depicts : Depicts network [] turn.before scene)
    (sound : scene.Sound network) (halts : turn.Halts network node memory requested after) :
    (∃ shown, network.plainTurn turn.tick scene turn.index = .ok shown ∧
      Depicts network [] after shown) ∧
    (∀ error, (network.plainStep (node.portray turn.before.pool) scene turn.index).outcome ≠
      .failed error) ∧
    Station.Halts network.table (node.portray turn.before.pool) memory requested
      (network.plainStep (node.portray turn.before.pool) scene turn.index) := by
  have inside : turn.index < network.config.nodeCount :=
    depicts.sound.count ▸ (Array.getElem?_eq_some_iff.mp halts.found).1
  have listed := depicts.station halts.found
  have refines := turn_refines turn.tick valid depicts inside
  rw [halts.passed] at refines
  obtain ⟨shown, known, depictsAfter⟩ := refines.of_ok
  have lasting : ∀ error,
      (network.plainStep (node.portray turn.before.pool) scene turn.index).outcome ≠
        .failed error := by
    intro error failed
    rw [plainTurn_eq network turn.tick listed, endTurn, failed] at known
    cases known
  refine ⟨⟨shown, known, depictsAfter⟩, lasting, ?_⟩
  obtain ⟨view, left, seen, ran⟩ := halts.played
  rw [view_eq valid depicts halts.found] at seen
  cases seen
  have fits : ((node.portray turn.before.pool).consume network.table).memory.Fits network.table :=
    (sound.rests _ (List.mem_of_getElem? listed)).consume_fits valid
  rw [Interaction.run_eq valid _ fits.roll, ← depicts.shared] at ran
  exact Station.step_halts halts.running (Except.ok.inj ran) lasting

theorem leaves (valid : network.table.Valid) (depicts : Depicts network [] turn.before scene)
    (sound : scene.Sound network) (halts : turn.Halts network node memory requested after) :
    ∃ halted, turn.Leaves network node memory requested after halted := by
  obtain ⟨⟨shown, known, depictsAfter⟩, lasting, ends⟩ := halts.plain valid depicts sound
  have listed := depicts.station halts.found
  have inside := (List.getElem?_eq_some_iff.mp listed).1
  obtain ⟨-, transit, -, -, tally⟩ := leftBy_plainTurn network turn.tick listed
  have letters := letters_eq valid depicts halts.found
  rw [known] at transit tally
  rw [← letters] at transit tally
  obtain ⟨halted, found⟩ := depictsAfter.found (depicts.length ▸ inside)
  have left : leftBy (network.plainTurn turn.tick scene turn.index) = shown :=
    congrArg leftBy known
  have portrait : halted.portray after.pool =
      (network.plainStep (node.portray turn.before.pool) scene turn.index).station :=
    portrait_left listed (left ▸ depictsAfter) found
  have memoryKept : halted.memory = memory := (congrArg Station.memory portrait).trans ends.memory
  have fits : memory.Fits network.table := memoryKept ▸ (depictsAfter.node_sound found).fits
  obtain ⟨stepped, plain, ran, steps⟩ := turn.steps valid depicts halts.found
  refine ⟨halted, ⟨_, Memory.payload_eq valid fits, ?_⟩, fun due => ?_, ?_, found, ?_, memoryKept, ?_,
    ?_, ?_, ?_, stepped, ran, ?_⟩
  · have outgoing := ends.outgoing
    rw [letters]
    cases requested with
    | false => simp only [sentIn, listed, outgoing, Bool.false_eq_true, if_false]
    | true =>
      have sends := plainTurn_sends turn.tick listed lasting outgoing rfl
      rw [known, depicts.length, depicts.random] at sends
      rcases sends with ⟨-, sent⟩ | ⟨⟨failure, failed⟩, -⟩
      · exact sent
      · cases failed
  · rw [depictsAfter.due, depicts.due, show shown.transit = _ from transit, List.filter_append]
  · rw [← depictsAfter.tally, ← depicts.tally]
    exact tally
  · exact (congrArg Station.isTerminated portrait).trans ends.halted
  · have empty : halted.pending.map after.pool.letter = [] :=
      (congrArg Station.inbox portrait).trans ends.inbox
    exact List.map_eq_nil_iff.mp empty
  · exact (congrArg Station.sent portrait).trans ends.sent
  · have received := (congrArg Station.received portrait).trans ends.received
    simpa only [Node.portray, List.length_map] using received
  · have dropped := (congrArg Station.dropped portrait).trans ends.dropped
    simpa only [Node.portray, List.length_tail, List.length_map] using dropped
  · have same := steps.portrait halts.found
    rw [← steps.plainly] at same
    have terminated : stepped.node.isTerminated = true :=
      (congrArg Station.isTerminated same).trans ends.halted
    exact Node.step_releases halts.running steps.ran terminated

end Turn.Halts

/-! ### The time after -/

/-- The station is as it was when it halted, but for its idle steps since. -/
def Lingers (past : List (Turn ρ σ)) (turn : Turn ρ σ) (halted : Station) (turns : List (Turn ρ σ))
    (scene : Scene ρ σ) : Prop :=
  ∀ later, turns = past ++ turn :: later → ∃ station, scene.stations[turn.index]? = some station ∧
    station = { halted with
      idle := halted.idle + later.countP (·.index == turn.index), last := station.last }

/-- Nothing in a run changes a node that has halted, but each of its turns is an idle step. -/
theorem lingers_invariant (valid : network.table.Valid) (past : List (Turn ρ σ))
    (passed : network.turn turn.tick turn.before turn.index = .ok after)
    (found : after.nodes[turn.index]? = some halted) (terminated : halted.isTerminated = true) :
    network.Invariant start fun turns _ _ => Lingers past turn (halted.portray after.pool) turns where
  begins := by
    intro later same
    exact absurd same.symm (List.append_ne_nil_of_right_ne_nil _ (List.cons_ne_nil _ _))
  turn := by
    intro turns now scene depicts _ inside lingers later same
    rcases List.eq_nil_or_concat later with rfl | ⟨front, last, rfl⟩
    · -- the turn in which the node halts
      obtain ⟨-, here⟩ := List.append_inj' same rfl
      obtain rfl : now = turn := (List.cons.inj here).1
      have refines := turn_refines now.tick valid depicts inside
      rw [passed] at refines
      obtain ⟨shown, known, depictsAfter⟩ := refines.of_ok
      rw [known]
      exact ⟨_, depictsAfter.station found, rfl⟩
    · -- a later turn
      rw [List.concat_eq_append, ← List.cons_append, ← List.append_assoc] at same
      obtain ⟨before, here⟩ := List.append_inj' same rfl
      obtain rfl : now = last := (List.cons.inj here).1
      obtain ⟨station, placed, kept⟩ := lingers front before
      have still : station.isTerminated = true := by
        rw [kept]
        exact terminated
      obtain ⟨other, listed⟩ : ∃ other, scene.stations[now.index]? = some other :=
        ⟨_, List.getElem?_eq_getElem (depicts.length ▸ inside)⟩
      obtain ⟨stations, -⟩ := leftBy_plainTurn network now.tick listed
      rw [stations, List.concat_eq_append, List.countP_append, List.countP_singleton]
      by_cases own : now.index = turn.index
      · rw [own] at listed stations ⊢
        rw [placed] at listed
        cases listed
        refine ⟨_, List.getElem?_set_self (List.getElem?_eq_some_iff.mp placed).1, ?_⟩
        rw [plainStep, Station.step_terminated still, beq_self_eq_true, kept]
        rfl
      · rw [List.getElem?_set_ne own, beq_false_of_ne own]
        exact ⟨station, placed, kept⟩
  deliver := by
    intro turns number scene _ lingers later same
    obtain ⟨station, placed, kept⟩ := lingers later same
    have still : station.isTerminated = true := by
      rw [kept]
      exact terminated
    refine ⟨station, ?_, kept⟩
    rw [stations_deliverDue, placed, Option.map_some, Station.enqueue, if_pos still]
  next := by
    intro turns number scene _ lingers
    obtain ⟨stations, -⟩ := countTick_rest scene
    intro later same
    rw [stations]
    exact lingers later same

/-- A node whose station lingers is the one that halted, but for its idle steps. -/
theorem eq_of_lingers {later : List (Turn ρ σ)} {pool : Pool}
    (lingers : Lingers past turn (halted.portray pool) (past ++ turn :: later) scene)
    (depicts : Depicts network [] state scene) (pending : halted.pending = [])
    (outbox : halted.outbox = none) :
    ∃ node, state.nodes[turn.index]? = some node ∧
      node = { halted with
        idle := halted.idle + later.countP (·.index == turn.index), last := node.last } := by
  obtain ⟨station, listed, kept⟩ := lingers later rfl
  have inside := (List.getElem?_eq_some_iff.mp listed).1
  obtain ⟨node, found⟩ := depicts.found (depicts.length ▸ inside)
  have posted := (depicts.node_sound found).posted
  rw [depicts.station found] at listed
  rw [← Option.some.inj listed] at kept
  simp only [Node.portray, Station.mk.injEq, pending, List.map_nil, List.map_eq_nil_iff] at kept
  obtain ⟨place, memory, empty, state, idle, sent, received, dropped, -⟩ := kept
  refine ⟨node, found, ?_⟩
  rw [← place, ← memory, ← state, ← idle, ← sent, ← received, ← dropped, pending, ← empty, outbox,
    ← posted]

/-! ### Messages that come due -/

/-- Delivery in a tick gives back what is due for a node and counts it as dropped, once for each
message, but nothing of it as delivered. -/
structure State.Discards (state : State ρ σ) (tick index : Nat) (after : State ρ σ) : Prop where
  delivers : deliverDue tick state = .ok after
  released : ∀ slot ∈ state.schedule.slotsAt tick,
    (state.pool.letter slot).destination = index → slot ∈ after.pool.free
  /-- All of it is among the messages for nodes that have halted. -/
  strays : (state.strays tick).filter (·.destination == index) =
    ((state.schedule.slotsAt tick).map state.pool.letter).filter (·.destination == index)
  dropped : after.tally.dropped = state.tally.dropped + (state.strays tick).length
  delivered : after.tally.delivered + (state.strays tick).length =
    state.tally.delivered + (state.schedule.slotsAt tick).length

/-- Delivering one buffer leaves a halted node alone, and gives the buffer back if it is for it. -/
theorem deliverOne_releases {slot : Nat} (found : state.nodes[index]? = some node)
    (terminated : node.isTerminated = true) (delivered : deliverOne state slot = .ok after) :
    after.nodes[index]? = some node ∧ after.pool.slots = state.pool.slots ∧
      (∀ other ∈ state.pool.free, other ∈ after.pool.free) ∧
      ((state.pool.letter slot).destination = index → slot ∈ after.pool.free) := by
  obtain ⟨message, read, delivered⟩ := bind_eq_ok delivered
  obtain ⟨addressee, listed, delivered⟩ := bind_eq_ok delivered
  have letter : state.pool.letter slot = message := by
    unfold Pool.message at read
    split at read <;> cases read
    rename_i created
    rw [Pool.letter, Pool.contentOf, created, Option.getD_some]
  have placed : state.nodes[message.destination]? = some addressee := by
    unfold State.node at listed
    split at listed <;> cases listed
    assumption
  rw [letter]
  split at delivered
  · obtain ⟨pool, released, delivered⟩ := bind_eq_ok delivered
    cases delivered
    obtain ⟨free, slots⟩ := Pool.release_eq released
    rw [free]
    exact ⟨found, slots, fun _ => List.mem_cons_of_mem _, fun _ => List.mem_cons_self⟩
  · rename_i running
    cases delivered
    have other : message.destination ≠ index := by
      rintro rfl
      rw [found] at placed
      cases placed
      exact running terminated
    refine ⟨?_, rfl, fun _ => id, fun same => absurd same other⟩
    exact (Array.getElem?_setIfInBounds_ne other).trans found

theorem deliverAll_releases {slots : List Nat} (found : state.nodes[index]? = some node)
    (terminated : node.isTerminated = true) (delivered : slots.foldlM deliverOne state = .ok after) :
    (∀ other ∈ state.pool.free, other ∈ after.pool.free) ∧
      ∀ slot ∈ slots, (state.pool.letter slot).destination = index → slot ∈ after.pool.free := by
  induction slots generalizing state with
  | nil =>
    cases delivered
    exact ⟨fun _ => id, fun _ member => by cases member⟩
  | cons slot rest ih =>
    obtain ⟨middle, first, delivered⟩ := bind_eq_ok delivered
    obtain ⟨still, slots, kept, released⟩ := deliverOne_releases found terminated first
    obtain ⟨keptAfter, releasedAfter⟩ := ih still delivered
    refine ⟨fun other member => keptAfter other (kept other member), fun other member same => ?_⟩
    rcases List.mem_cons.mp member with rfl | later
    · exact keptAfter other (released same)
    · refine releasedAfter other later ?_
      rwa [Pool.letter, slots]

theorem Depicts.discards (depicts : Depicts network [] state scene) (sound : scene.Sound network)
    (found : state.nodes[index]? = some node) (terminated : node.isTerminated = true) (tick : Nat) :
    ∃ after, state.Discards tick index after := by
  obtain ⟨after, delivers, shown⟩ := deliverDue_depicts depicts tick
  obtain ⟨dropped, delivered, -⟩ := scene.deliverDue_counts sound tick
  obtain ⟨schedule, drained, -⟩ := depicts.drain tick
  rw [shown.tally, depicts.tally, ← depicts.strays_eq] at dropped delivered
  rw [← depicts.due, List.length_map] at delivered
  refine ⟨after, delivers, ?_, ?_, dropped, delivered⟩
  · obtain ⟨⟨due, left⟩, known, ran⟩ := bind_eq_ok delivers
    rw [drained] at known
    cases known
    let taken : State ρ σ := { state with schedule }
    have still : taken.nodes[index]? = some node := found
    exact (deliverAll_releases still terminated ran).2
  · rw [State.strays, List.filter_filter]
    refine List.filter_congr fun message _ => ?_
    by_cases here : message.destination = index
    · rw [here, found, Option.any_some, terminated, Bool.and_true]
    · rw [beq_false_of_ne here, Bool.false_and]

/-! ### Runs -/

/-- What is left of a node at a moment, after these turns since the one in which it halted. -/
structure Retired (network : Network ρ σ) (turn : Turn ρ σ) (halted : Node)
    (later : List (Turn ρ σ)) (number : Nat) (stage : Stage) (state : State ρ σ) (node : Node) :
    Prop where
  found : state.nodes[turn.index]? = some node
  same : node = { halted with
    idle := halted.idle + later.countP (·.index == turn.index), last := node.last }
  /-- Each further tick has added one idle step. -/
  paced : ∀ taken, stage = .turns taken → node.idle + (turn.tick + 1) =
    halted.idle + number + if turn.index < taken then 1 else 0
  /-- Its steps run no program. -/
  inert : ∀ (program : Program σ) (pool : Pool) (shared : σ),
    node.step network.table program pool shared =
      .ok ⟨.unchanged, node.settle .unchanged, pool, shared⟩
  discards : stage = .turns network.config.nodeCount →
    ∃ after, state.Discards (number + 1) turn.index after

/-- Once a program has halted in a turn that did not fail, its node takes no further part in the run.
A send asked for in that turn still goes out, and what was in the queue is given back. At every later
moment the node is the one that halted, with one more idle step for each further tick; its steps run
no program, and what comes due for it is given back and counted as dropped. -/
theorem halt_is_final {table : SymbolTable} {config : NetworkConfig} {program : Nat → Program σ}
    {router : Router} {source : Source ρ}
    (built : Network.build table config program router source = .ok network)
    (resting : network.Resting start)
    (unfolds : network.Unfolds start past turn.tick (.turns turn.index) turn.before)
    (halts : turn.Halts network node memory requested after) :
    ∃ halted, turn.Leaves network node memory requested after halted ∧
      (∀ (later : List (Turn ρ σ)) (number : Nat) (stage : Stage) (state : State ρ σ),
        network.Unfolds start (past ++ turn :: later) number stage state →
          ∃ node, network.Retired turn halted later number stage state node) ∧
      ∀ (later : List (Turn ρ σ)) (maxTicks : Nat),
        network.history maxTicks start = past ++ turn :: later →
          ∃ result final node, network.run maxTicks start = .ok (result, final) ∧
            final.nodes[turn.index]? = some node ∧
            node = { halted with
              idle := halted.idle + later.countP (·.index == turn.index), last := node.last } ∧
            (result.outcome = .completed →
              node.idle + (turn.tick + 1) = halted.idle + result.ticksRun) ∧
            result.nodes[turn.index]? = some (reportNode node) := by
  obtain ⟨-, valid, rfl⟩ := build_eq_ok.mp built
  have sound := resting.sound valid
  obtain ⟨scene, taken, depicts, soundScene, rfl, placed⟩ :=
    (placed_invariant _ start).shows valid sound unfolds
  obtain ⟨halted, leaves⟩ := halts.leaves valid depicts soundScene
  have inside : turn.index < config.nodeCount :=
    depicts.sound.count ▸ (Array.getElem?_eq_some_iff.mp halts.found).1
  have outbox : halted.outbox = none := by
    obtain ⟨⟨shown, -, depictsAfter⟩, -⟩ := halts.plain valid depicts soundScene
    exact (depictsAfter.node_sound leaves.found).posted
  have invariant := (lingers_invariant valid past halts.passed leaves.found leaves.terminated).and
    (placed_invariant _ start)
  refine ⟨halted, leaves, fun later number stage state unfolded => ?_, fun later maxTicks whole => ?_⟩
  · obtain ⟨shown, taken, depictsNow, soundNow, admits, lingered, placedNow⟩ :=
      invariant.shows valid sound unfolded
    obtain ⟨node, found, same⟩ := eq_of_lingers lingered depictsNow leaves.pending outbox
    have terminated : node.isTerminated = true := by
      rw [same]
      exact leaves.terminated
    refine ⟨node, found, same, ?_, fun _ _ _ => Node.step_halted terminated, fun _ =>
      depictsNow.discards soundNow found terminated (number + 1)⟩
    rintro so rfl
    obtain rfl : taken = so := admits
    rw [same]
    simp only [Nat.add_assoc, placed.countP_since inside placedNow]
  · obtain ⟨result, final, ran, ends⟩ := run_ends valid sound maxTicks
    obtain ⟨shown, depictsFinal, ended⟩ := ends.shows invariant valid sound
    rw [whole] at ended
    rcases ended with ⟨ticks, -, rfl, lingered, placedEnd⟩ |
      ⟨_, _, _, -, -, -, rfl, lingered, -⟩
    · obtain ⟨node, found, same⟩ := eq_of_lingers lingered depictsFinal leaves.pending outbox
      refine ⟨_, final, node, ran, found, same, fun _ => ?_, depictsFinal.report_node found⟩
      rw [same]
      simp only [Nat.add_assoc, placed.countP_since inside placedEnd]
      rfl
    · obtain ⟨node, found, same⟩ := eq_of_lingers lingered depictsFinal leaves.pending outbox
      exact ⟨_, final, node, ran, found, same, nofun, depictsFinal.report_node found⟩

/-- The first of four nodes halts in the second tick, with three messages in its queue, and asks for a
send. The others go on sending to it. -/
theorem halt_is_final_queued :
    ∃ (network : Network Nat Unit) (past : List (Turn Nat Unit)) (state after : State Nat Unit)
      (node halted : Node) (memory : Memory),
      Network.build .standard { nodeCount := 4, capacity := 64 }
          (fun _ => .ofView fun place => .requestSend fun _ =>
            .read SymbolTable.standard.incoming fun flag =>
              .done (if place.index = 0 ∧ flag ≠ 0 then .halt else .continue)) Router.broadcast
          (Source.cycle [1]) = .ok network ∧
        network.Unfolds (network.initial 0 ()) past 1 (.turns 0) state ∧
        Turn.Halts network ⟨1, 0, state⟩ node memory true after ∧ node.pending.length = 3 ∧
        Turn.Leaves network ⟨1, 0, state⟩ node memory true after halted ∧ halted.dropped = 2 ∧
        ∃ result final last, network.run 4 (network.initial 0 ()) = .ok (result, final) ∧
          final.nodes[0]? = some last ∧ last.idle = halted.idle + 2 ∧
          result.nodes[0]? = some (reportNode last) := by
  let program : Program Unit := .ofView fun place => .requestSend fun _ =>
    .read SymbolTable.standard.incoming fun flag =>
      .done (if place.index = 0 ∧ flag ≠ 0 then .halt else .continue)
  let network : Network Nat Unit :=
    ⟨.standard, { nodeCount := 4, capacity := 64 }, fun _ => program, Router.broadcast,
      Source.cycle [1]⟩
  have built : Network.build network.table network.config network.program network.router
      network.source = .ok network := rfl
  have evaluated : (network.begin (network.initial 0 ())).toOption.bind (fun first =>
      (network.tick 0 first).toOption.bind fun state => state.nodes[0]?.bind fun node =>
        (Turn.view network ⟨1, 0, state⟩).toOption.bind fun view =>
          ((program node.place state.shared).run network.table view false).toOption.bind fun played =>
            (network.turn 1 state 0).toOption.bind fun after =>
              (network.run 4 (network.initial 0 ())).toOption.map fun ran =>
                ([state.allTerminated || network.quiescent state, node.isTerminated, played.2.2],
                  [state.nodes.size, node.pending.length, node.dropped, ran.1.ticksRun],
                  played.1.2, ran.1.outcome)) =
      some ([false, false, true], [4, 3, 0, 4], .halt, .completed) := by
    decide +kernel
  simp only [Option.bind_eq_some_iff, Option.map_eq_some_iff, toOption_eq_some_iff, Prod.mk.injEq,
    List.cons.injEq, and_true] at evaluated
  obtain ⟨first, begun, state, ticked, node, found, view, seen, ⟨⟨left, signal⟩, memory, requested⟩,
    played, after, passed, ⟨result, final⟩, ran, ⟨lasting, running, rfl⟩,
    ⟨size, queued, undropped, ticksRun⟩, rfl, completed⟩ := evaluated
  have valid : network.table.Valid := (build_eq_ok.mp built).2.1
  let turn : Turn Nat Unit := ⟨1, 0, state⟩
  have unfolds : network.Unfolds (network.initial 0 ()) _ turn.tick (.turns turn.index) turn.before :=
    (Unfolds.first begun).tick valid (initial_sound network 0 ()) ticked lasting
  have halts : turn.Halts network node memory true after :=
    ⟨found, running, ⟨view, left, seen, played⟩, passed⟩
  obtain ⟨halted, leaves, -, ends⟩ := halt_is_final built (.initial 0 ()) unfolds halts
  obtain ⟨later, whole⟩ : ∃ later, network.history 4 (network.initial 0 ()) =
      [] ++ network.turnsOf 0 (List.range first.nodes.size) first ++ ⟨1, 0, state⟩ :: later := by
    have places : List.range state.nodes.size = 0 :: [1, 2, 3] := by
      rw [size]
      rfl
    rw [history, begun, List.nil_append]
    simp only [turnsFrom, ticked, lasting, places, turnsOf, Bool.false_eq_true, if_false,
      List.cons_append]
    exact ⟨_, rfl⟩
  obtain ⟨_, _, last, known, listed, -, idle, reported⟩ := ends later 4 whole
  rw [ran] at known
  cases known
  have idle : last.idle + (1 + 1) = halted.idle + result.ticksRun := idle completed
  rw [show result.ticksRun = 4 from ticksRun] at idle
  have dropped := leaves.dropped
  rw [List.length_tail, queued, undropped] at dropped
  exact ⟨network, _, state, after, node, halted, memory, built, unfolds, halts, queued, leaves,
    dropped, result, final, last, ran, listed, by omega, reported⟩

end Lockstep.Network
