import Lockstep.Network.Run
import Lockstep.Proofs.Network.Dispatching

/-!
A run of a network is a run without its machinery.

Every part of a tick takes a state and a scene that shows it to another such pair, or fails on both
sides alike; by induction so does a run (`run_depicts`). In particular no run breaks a contract.
-/
namespace Lockstep.Network

variable {ρ σ : Type} {network : Network ρ σ} {state : State ρ σ} {scene : Scene ρ σ}
  {index : Nat}

/-! ### Turns -/

/-- The step of a node in a turn shows the plain step. What it leaves behind is a state with the
message to send taken out. -/
structure Steps (network : Network ρ σ) (state : State ρ σ) (scene : Scene ρ σ) (index : Nat)
    (node : Node) (stepped : Node.Stepped σ) (plain : Station.Stepped σ) : Prop where
  ran : node.step network.table (network.program index) state.pool state.shared = .ok stepped
  plainly : network.plainStep (node.portray state.pool) scene index = plain
  outcome : stepped.outcome = plain.outcome
  shared : stepped.shared = plain.shared
  outgoing : stepped.node.outbox.map stepped.pool.letter =
    plain.outgoing.map fun payload => ⟨payload, index, 0, 0⟩
  fits : stepped.node.memory.Fits network.table
  memory : stepped.node.memory = plain.station.memory
  capacity : stepped.pool.capacity = network.config.capacity
  depicts : Depicts network stepped.node.outbox.toList
    { state with
      nodes := state.nodes.setIfInBounds index stepped.node.takeOutbox.2
      pool := stepped.pool, shared := stepped.shared }
    { scene with
      stations := scene.stations.set index plain.station
      peak := if plain.outgoing.isSome then
          max scene.peak (usedBy (node.portray state.pool) scene + 1)
        else scene.peak
      shared := stepped.shared }

theorem steps (valid : network.table.Valid) (depicts : Depicts network [] state scene)
    {node : Node} (found : state.nodes[index]? = some node) :
    ∃ stepped plain, Steps network state scene index node stepped plain := by
  have sound := depicts.node_sound found
  have owned : state.pool.Holds (node.pending ++ state.others index) :=
    depicts.sound.owned.perm (held_split found)
  have used : state.pool.inUse - min 1 node.pending.length =
      usedBy (node.portray state.pool) scene := by
    rw [depicts.inUse, List.length_nil, Nat.zero_add, usedBy, Node.portray, List.length_map]
  obtain ⟨stepped, ran, shows⟩ := Node.step_shows valid (network.program index) state.shared sound
    owned depicts.sound.payloadSize
  rw [used, depicts.sound.capacity, ← depicts.shared] at shows
  have outgoing := shows.outgoing
  rw [depicts.sound.place index node found] at outgoing
  have emptied : stepped.node.takeOutbox.2.Sound network.table := ⟨shows.fits, shows.begun, rfl⟩
  have place : stepped.node.takeOutbox.2.place = node.place := shows.place
  have emptiedOwned : stepped.pool.Holds (stepped.node.outbox.toList ++
      (stepped.node.takeOutbox.2.pending ++ state.others index)) := shows.owned
  have portrait : stepped.node.takeOutbox.2.portray stepped.pool = _ := shows.station
  have moved := depicts.setNode found emptiedOwned shows.kept place emptied stepped.shared
  rw [portrait, shows.peak, ← depicts.peak] at moved
  exact ⟨stepped, _, ran, rfl, shows.outcome, shows.shared, outgoing, shows.fits,
    congrArg Station.memory shows.station, shows.kept.capacity.trans depicts.sound.capacity, moved⟩

theorem Steps.outbox_none {node : Node} {stepped : Node.Stepped σ} {plain : Station.Stepped σ}
    (steps : Steps network state scene index node stepped plain)
    (nothing : plain.outgoing = none) : stepped.node.outbox = none := by
  have shown := steps.outgoing
  rwa [nothing, Option.map_none, Option.map_eq_none_iff] at shown

theorem Steps.outbox_some {node : Node} {stepped : Node.Stepped σ} {plain : Station.Stepped σ}
    (steps : Steps network state scene index node stepped plain) {payload : Cells}
    (sends : plain.outgoing = some payload) :
    ∃ slot, stepped.node.outbox = some slot ∧
      stepped.pool.letter slot = ⟨payload, index, 0, 0⟩ := by
  have shown := steps.outgoing
  rwa [sends, Option.map_some, Option.map_eq_some_iff] at shown

/-- The node that the step leaves is shown by the plain step. -/
theorem Steps.portrait {node : Node} {stepped : Node.Stepped σ} {plain : Station.Stepped σ}
    (steps : Steps network state scene index node stepped plain)
    (found : state.nodes[index]? = some node) :
    stepped.node.portray stepped.pool = plain.station := by
  have set : (state.nodes.setIfInBounds index stepped.node.takeOutbox.2)[index]? =
      some stepped.node.takeOutbox.2 :=
    Array.getElem?_setIfInBounds_self_of_lt (Array.getElem?_eq_some_iff.mp found).1
  rcases found_of_set (steps.depicts.station set) with ⟨-, same⟩ | ⟨other, -⟩
  · exact same
  · exact absurd rfl other

theorem turn_refines (tick : Nat) (valid : network.table.Valid)
    (depicts : Depicts network [] state scene)
    (inside : index < network.config.nodeCount) :
    Refines network (network.turn tick state index) (network.plainTurn tick scene index) := by
  obtain ⟨node, found⟩ := depicts.found inside
  obtain ⟨stepped, plain, steps⟩ := steps valid depicts found
  have read : state.node index = .ok node := by
    rw [State.node, found]
  have seen := depicts.station found
  have moved := steps.depicts
  simp only [turn, read, steps.ran, guarded_ok, bind, Except.bind, plainTurn, seen,
    steps.plainly, steps.outcome]
  cases outcome : plain.outcome with
  | failed error =>
    have nothing : plain.outgoing = none := by
      rw [← steps.plainly] at outcome ⊢
      exact Station.outgoing_of_failed outcome
    have outbox := steps.outbox_none nothing
    have same : stepped.node.takeOutbox.2 = stepped.node := by
      simp only [Node.takeOutbox, ← outbox]
    rw [nothing] at moved
    rw [outbox, same] at moved
    refine ⟨?_, rfl, ?_⟩
    · rw [← steps.shared]
      exact moved
    · cases error with
      | fault fault => rfl
      | poolExhausted => exact congrArg FailureCause.resourceExhausted steps.capacity
  | unchanged | changed =>
    cases sends : plain.outgoing with
    | none =>
      have outbox := steps.outbox_none sends
      rw [sends] at moved
      rw [outbox] at moved
      simp only [Node.takeOutbox, outbox, ← steps.shared]
      exact moved
    | some payload =>
      obtain ⟨slot, outbox, letter⟩ := steps.outbox_some sends
      rw [sends, outbox] at moved
      simp only [Node.takeOutbox, outbox]
      refine dispatch_refines ?_ (congrArg Message.payload letter) (congrArg Message.source letter)
      rw [← steps.shared]
      exact moved

/-- Once a turn has ended, well or not, its node is as the plain step has left it. -/
theorem portrait_left {tick : Nat} {station : Station} {after : State ρ σ} {last : Node}
    (listed : scene.stations[index]? = some station)
    (shown : Depicts network [] after (leftBy (network.plainTurn tick scene index)))
    (own : after.nodes[index]? = some last) :
    last.portray after.pool = (network.plainStep station scene index).station := by
  have seen := shown.station own
  rw [(leftBy_plainTurn network tick listed).1] at seen
  rcases found_of_set seen with ⟨-, same⟩ | ⟨other, -⟩
  · exact same
  · exact absurd rfl other

/-- Work that refines step by step refines as a whole. -/
theorem foldlM_refines {items : List Nat}
    {work : State ρ σ → Nat → Stoppable ρ σ (State ρ σ)}
    {plain : Scene ρ σ → Nat → Except (Failure ρ σ) (Scene ρ σ)}
    (steps : ∀ item ∈ items, ∀ (state : State ρ σ) (scene : Scene ρ σ),
      Depicts network [] state scene → Refines network (work state item) (plain scene item))
    (depicts : Depicts network [] state scene) :
    Refines network (items.foldlM work state) (items.foldlM plain scene) := by
  induction items generalizing state scene with
  | nil => exact depicts
  | cons item rest ih =>
    have later := fun other member => steps other (List.mem_cons_of_mem item member)
    rw [List.foldlM_cons, List.foldlM_cons]
    exact (steps item List.mem_cons_self state scene depicts).bind fun _ _ depicts =>
      ih later depicts

theorem turns_refines (tick : Nat) (valid : network.table.Valid)
    (depicts : Depicts network [] state scene) :
    Refines network (network.turns tick state) (network.plainTurns tick scene) := by
  rw [turns, plainTurns, depicts.length, depicts.sound.count]
  exact foldlM_refines (fun index member _ _ depicts =>
    turn_refines tick valid depicts (List.mem_range.mp member)) depicts

/-! ### Delivery -/

/-- A buffer that is due goes to the queue of its destination, or back to the pool. -/
theorem Depicts.deliverOne {slot : Nat} {outgoing : List Nat}
    (depicts : Depicts network (slot :: outgoing) state scene)
    (inside : (state.pool.letter slot).destination < network.config.nodeCount) :
    ∃ after, Network.deliverOne state slot = .ok after ∧
      Depicts network outgoing after (scene.deliverOne (state.pool.letter slot)) ∧
      (∀ other ∈ outgoing, after.pool.letter other = state.pool.letter other) := by
  obtain ⟨node, found⟩ := depicts.found inside
  have owned : state.pool.Holds (slot :: (outgoing ++ state.held)) := depicts.sound.owned
  have station := depicts.station found
  have halted : (node.portray state.pool).isTerminated = node.isTerminated := rfl
  simp only [Network.deliverOne, owned.message_eq List.mem_cons_self, State.node, found, bind,
    Except.bind, Scene.deliverOne, station, halted]
  cases node.isTerminated with
  | true =>
    obtain ⟨after, released, -, shown, kept⟩ := depicts.release
    refine ⟨{ state with
      pool := after, tally := { state.tally with dropped := state.tally.dropped + 1 } },
      by simp only [released, if_true, pure, Except.pure], ?_, kept⟩
    have counted := shown.setTally { state.tally with dropped := state.tally.dropped + 1 }
    simpa only [if_true, depicts.tally] using counted
  | false =>
    have sound := depicts.node_sound found
    have queued : (node.enqueue slot).Sound network.table := ⟨sound.fits, sound.begun, sound.posted⟩
    have moved : (slot :: (outgoing ++ state.held)).Perm
        (outgoing ++ ((node.enqueue slot).pending ++
          state.others (state.pool.letter slot).destination)) := by
      refine (((held_split found).append_left outgoing).cons slot).trans ?_
      rw [Node.enqueue, List.append_assoc, List.singleton_append]
      exact List.perm_middle.symm.trans (List.perm_middle.symm.append_left outgoing)
    refine ⟨{ state.setNode (state.pool.letter slot).destination (node.enqueue slot) with
      tally := { state.tally with delivered := state.tally.delivered + 1 } },
      by simp only [Bool.false_eq_true, if_false, pure, Except.pure, State.setNode], ?_,
      fun _ _ => rfl⟩
    have shown := depicts.setNode found (owned.perm moved) (.refl _ _) rfl queued state.shared
    have portrait : (node.enqueue slot).portray state.pool =
        { node.portray state.pool with
          inbox := (node.portray state.pool).inbox ++ [state.pool.letter slot] } := by
      simp [Node.enqueue, Node.portray]
    have counted := shown.setTally { state.tally with delivered := state.tally.delivered + 1 }
    rw [portrait, ← depicts.peak, ← depicts.shared] at counted
    simpa only [Bool.false_eq_true, if_false, State.setNode, Scene.setStation, depicts.tally,
      depicts.shared] using counted

theorem Depicts.deliverAll {slots : List Nat} (depicts : Depicts network slots state scene)
    (inside : ∀ slot ∈ slots, (state.pool.letter slot).destination < network.config.nodeCount) :
    ∃ after, slots.foldlM Network.deliverOne state = .ok after ∧
      Depicts network [] after ((slots.map state.pool.letter).foldl Scene.deliverOne scene) := by
  induction slots generalizing state scene with
  | nil => exact ⟨state, rfl, depicts⟩
  | cons slot rest ih =>
    obtain ⟨here, later⟩ := List.forall_mem_cons.mp inside
    obtain ⟨after, delivered, shown, kept⟩ := depicts.deliverOne here
    have letters : rest.map after.pool.letter = rest.map state.pool.letter :=
      List.map_congr_left kept
    obtain ⟨last, rest, lastShown⟩ := ih shown fun other member => by
      rw [kept other member]
      exact later other member
    refine ⟨last, by rwa [List.foldlM_cons, delivered], ?_⟩
    rwa [List.map_cons, List.foldl_cons, ← letters]

/-- Draining a tick takes the buffers out that are due in it. -/
theorem Depicts.drain (depicts : Depicts network [] state scene) (tick : Nat) :
    ∃ schedule, state.schedule.drain tick = .ok (state.schedule.slotsAt tick, schedule) ∧
      Depicts network (state.schedule.slotsAt tick) { state with schedule }
        { scene with transit := scene.transit.filter (·.arrival != tick) } := by
  obtain ⟨schedule, drained, tidy, slotsAt, slots⟩ := depicts.sound.tidy.drain tick
  have held : state.held.Perm (state.schedule.slotsAt tick ++
      State.held { state with schedule }) := by
    have split := slots.append_right (state.nodes.toList.flatMap (·.pending))
    rwa [List.append_assoc] at split
  have bound : ∀ message ∈ scene.transit.filter (·.arrival != tick),
      message.destination < network.config.nodeCount :=
    fun message member => depicts.bound message (List.mem_filter.mp member).1
  refine ⟨schedule, drained, ⟨{ depicts.sound with owned := depicts.sound.owned.perm held, tidy },
    depicts.begun, depicts.stations, ?_, ?_, bound, depicts.peak, depicts.random, depicts.shared,
    depicts.tally⟩⟩
  · intro probe
    rw [slotsAt probe, List.filter_filter]
    split
    · rename_i same
      refine (List.filter_eq_nil_iff.mpr fun message _ => ?_).symm
      simp [same]
    · rename_i other
      refine (depicts.due probe).trans (List.filter_congr fun message _ => ?_)
      by_cases here : message.arrival = probe
      · simp [here, other]
      · simp [here]
  · have total := slots.length_eq
    have due := congrArg List.length (depicts.due tick)
    have split := (List.filter_append_perm (·.arrival == tick) scene.transit).length_eq
    have counted := depicts.sound.tidy.counted
    rw [depicts.waiting] at counted
    rw [List.length_append] at total split
    rw [List.length_map] at due
    simp only [bne, tidy.counted]
    omega

/-- Delivery shows the plain delivery and breaks no contract. -/
theorem deliverDue_depicts (depicts : Depicts network [] state scene) (tick : Nat) :
    ∃ after, deliverDue tick state = .ok after ∧
      Depicts network [] after (scene.deliverDue tick) := by
  obtain ⟨schedule, drained, taken⟩ := depicts.drain tick
  have inside : ∀ slot ∈ state.schedule.slotsAt tick,
      (state.pool.letter slot).destination < network.config.nodeCount := by
    intro slot member
    have letters := List.mem_map_of_mem (f := state.pool.letter) member
    rw [depicts.due tick] at letters
    exact depicts.bound _ (List.mem_filter.mp letters).1
  obtain ⟨after, delivered, shown⟩ := taken.deliverAll inside
  refine ⟨after, ?_, ?_⟩
  · simpa only [deliverDue, drained, bind, Except.bind] using delivered
  · rwa [Scene.deliverDue, ← depicts.due tick]

/-! ### Ticks -/

namespace Depicts

theorem isIdle_eq (depicts : Depicts network [] state scene) : scene.isIdle = state.isIdle := by
  rw [Scene.isIdle, depicts.stations, List.all_map, State.isIdle, ← Array.all_toList]
  rfl

theorem allTerminated_eq (depicts : Depicts network [] state scene) :
    scene.allTerminated = state.allTerminated := by
  rw [Scene.allTerminated, depicts.stations, List.all_map, State.allTerminated, ← Array.all_toList]
  rfl

theorem quiescent_eq (depicts : Depicts network [] state scene) :
    network.plainQuiescent scene = network.quiescent state := by
  have inUse := depicts.inUse
  rw [List.length_nil, Nat.zero_add] at inUse
  unfold plainQuiescent quiescent
  cases network.config.quiescence with
  | none => rfl
  | some window => simp only [depicts.tally, inUse]

theorem countTick (depicts : Depicts network [] state scene) :
    Depicts network [] state.countTick scene.countTick := by
  rw [State.countTick, Scene.countTick, depicts.isIdle_eq, depicts.tally]
  cases state.isIdle with
  | true => exact depicts.setTally _
  | false => exact depicts.setTally _

theorem report_eq (depicts : Depicts network [] state scene) (outcome : RunOutcome)
    (ticksRun : Nat) : scene.report outcome ticksRun = state.report outcome ticksRun := by
  have nodes : scene.stations.map Scene.reportStation = state.nodes.toList.map reportNode := by
    rw [depicts.stations, List.map_map]
    rfl
  have dropped : (scene.stations.map (·.dropped)).sum = state.droppedByNodes := by
    rw [depicts.stations, List.map_map, State.droppedByNodes, List.sum_eq_foldl, List.foldl_map]
    rfl
  rw [Scene.report, State.report, nodes, dropped, depicts.tally, depicts.peak]

/-- The report on a scene has the same entry for a node as one on the state. -/
theorem report_node (depicts : Depicts network [] state scene) {node : Node}
    (found : state.nodes[index]? = some node) {outcome : RunOutcome} {ticks : Nat} :
    (scene.report outcome ticks).nodes[index]? = some (reportNode node) := by
  rw [depicts.report_eq, State.report, List.getElem?_map, Array.getElem?_toList, found]
  rfl

end Depicts

theorem tick_refines (valid : network.table.Valid) (depicts : Depicts network [] state scene)
    (number : Nat) :
    Refines network (network.tick number state) (network.plainTick number scene) := by
  have plainly : network.plainTick number scene = network.plainTurns number scene >>= fun scene =>
      .ok (scene.deliverDue (number + 1)).countTick := by
    rw [plainTick]
    cases network.plainTurns number scene <;> rfl
  rw [plainly]
  apply (turns_refines number valid depicts).bind
  intro after shown depicts
  obtain ⟨last, delivered, lastShown⟩ := deliverDue_depicts depicts (number + 1)
  rw [delivered]
  exact lastShown.countTick

/-! ### Runs -/

theorem advance_depicts (valid : network.table.Valid) (depicts : Depicts network [] state scene)
    (remaining number : Nat) :
    ∃ final, network.advance remaining number state =
        .ok ((network.plainAdvance remaining number scene).1, final) ∧
      Depicts network [] final (network.plainAdvance remaining number scene).2 := by
  induction remaining generalizing number state scene with
  | zero => exact ⟨state, by rw [advance, plainAdvance, depicts.report_eq], depicts⟩
  | succ remaining ih =>
    have ticked := tick_refines valid depicts number
    rw [advance, plainAdvance]
    cases ran : network.tick number state with
    | ok after =>
      rw [ran] at ticked
      obtain ⟨shown, plainly, depicts⟩ := ticked.of_ok
      have ended : (shown.allTerminated || network.plainQuiescent shown) =
          (after.allTerminated || network.quiescent after) := by
        rw [depicts.allTerminated_eq, depicts.quiescent_eq]
      simp only [plainly, ended]
      cases after.allTerminated || network.quiescent after with
      | true => exact ⟨after, by simp only [if_true, depicts.report_eq], depicts⟩
      | false => exact ih depicts (number + 1)
    | error stop =>
      rw [ran] at ticked
      cases stop with
      | breach breach => exact ticked.not_breach.elim
      | failure stopped node cause =>
        obtain ⟨failure, plainly, depicts, rfl, rfl⟩ := ticked.of_failure
        simp only [plainly]
        exact ⟨stopped, by rw [depicts.report_eq], depicts⟩

/-! ### The start of a run -/

/-- A node at the start of a run. -/
def freshNode (table : SymbolTable) (place : Place) : Node where
  place
  memory := .seeded table place.index place.count
  pending := []
  outbox := none
  state := .ready
  idle := 0
  sent := 0
  received := 0
  dropped := 0
  last := none

theorem beginNode_eq (valid : network.table.Valid) {before : Array Node} {node : Node} {pool : Pool}
    {others : List Nat} (fits : node.memory.Fits network.table) (posted : node.outbox = none)
    (owned : pool.Holds (node.pending ++ others)) :
    ∃ after, beginNode network.table (before, pool) node =
        .ok (before.push (freshNode network.table node.place), after) ∧
      after.Holds others ∧ Pool.Keeps others pool after := by
  obtain ⟨after, released, afterOwned, kept, -⟩ := owned.releaseAll
  refine ⟨after, ?_, afterOwned, kept⟩
  have nothing : after.releaseAll [] = .ok after := rfl
  simp [beginNode, Node.begin, Node.discardMessages, released, posted, nothing,
    Memory.begin_eq valid fits, freshNode, bind, Except.bind, pure, Except.pure]

theorem beginAll_eq (valid : network.table.Valid) (before : Array Node) {nodes : List Node}
    {pool : Pool} (fits : ∀ node ∈ nodes, node.memory.Fits network.table)
    (posted : ∀ node ∈ nodes, node.outbox = none)
    (owned : pool.Holds (nodes.flatMap (·.pending))) :
    ∃ after, nodes.foldlM (beginNode network.table) (before, pool) =
        .ok (before ++ (nodes.map fun node => freshNode network.table node.place).toArray, after) ∧
      after.Holds [] ∧ Pool.Keeps [] pool after := by
  induction nodes generalizing before pool with
  | nil => exact ⟨pool, by simp [pure, Except.pure], owned, .refl _ _⟩
  | cons node rest ih =>
    obtain ⟨fitsHere, fitsLater⟩ := List.forall_mem_cons.mp fits
    obtain ⟨postedHere, postedLater⟩ := List.forall_mem_cons.mp posted
    obtain ⟨middle, begun, middleOwned, kept⟩ := beginNode_eq valid fitsHere postedHere owned
    obtain ⟨after, rest, afterOwned, keptAfter⟩ :=
      ih (before.push (freshNode network.table node.place)) fitsLater postedLater
        middleOwned
    refine ⟨after, ?_, afterOwned, (kept.mono fun _ => by simp).trans keptAfter⟩
    rw [List.foldlM_cons, begun]
    simpa [bind, Except.bind] using rest

private theorem fresh_nodes (sound : state.Sound network []) :
    (state.nodes.toList.map fun node => freshNode network.table node.place) =
      (List.range network.config.nodeCount).map fun index =>
        freshNode network.table ⟨index, network.config.nodeCount⟩ := by
  apply List.ext_getElem?
  intro index
  rw [List.getElem?_map, List.getElem?_map, Array.getElem?_toList]
  by_cases inside : index < network.config.nodeCount
  · have found := Array.getElem?_eq_getElem (sound.count ▸ inside)
    rw [found, List.getElem?_range inside, Option.map_some, Option.map_some,
      sound.place index _ found]
  · rw [Array.getElem?_eq_none (by rw [sound.count]; omega),
      List.getElem?_eq_none (by simpa using inside), Option.map_none, Option.map_none]

/-- However the last run ended, a new one starts from the opening scene. -/
theorem begin_depicts (valid : network.table.Valid) (sound : state.Sound network []) :
    ∃ after, network.begin state = .ok after ∧
      Depicts network [] after (network.opening state.random state.shared) := by
  obtain ⟨waiting, tidy, cleared⟩ := sound.tidy.clear
  obtain ⟨middle, released, middleOwned, kept, -⟩ := Pool.Holds.releaseAll
    (show state.pool.Holds (state.schedule.slots ++ state.nodes.toList.flatMap (·.pending)) from
      sound.owned)
  obtain ⟨after, begun, afterOwned, keptAfter⟩ :=
    beginAll_eq valid #[] sound.fits sound.posted middleOwned
  rw [fresh_nodes sound] at begun
  refine ⟨{ state with
    nodes := (List.range network.config.nodeCount).map (fun index =>
      freshNode network.table ⟨index, network.config.nodeCount⟩) |>.toArray
    schedule := state.schedule.clear.2, pool := after.reset, tally := {} }, ?_, ?_⟩
  · simp only [begin, waiting, released, begun, bind, Except.bind, pure, Except.pure]
    simp
  · have held : State.held { state with
        nodes := (List.range network.config.nodeCount).map (fun index =>
          freshNode network.table ⟨index, network.config.nodeCount⟩) |>.toArray
        schedule := state.schedule.clear.2, pool := after.reset, tally := {} } = [] := by
      simp [State.held, cleared, freshNode]
    have noneAt : ∀ tick, state.schedule.clear.2.slotsAt tick = [] := fun _ => rfl
    refine ⟨⟨?_, tidy, ?_, ?_, by simp, ?_, ?_, ?_⟩, ?_, ?_, ?_, rfl, by simp [opening], rfl, rfl,
      rfl, rfl⟩
    · rw [held]
      exact afterOwned.reset
    · exact keptAfter.capacity.trans (kept.capacity.trans sound.capacity)
    · exact keptAfter.payloadSize.trans (kept.payloadSize.trans sound.payloadSize)
    · intro index node found
      simp only [List.getElem?_toArray, List.getElem?_map, Option.map_eq_some_iff] at found
      obtain ⟨position, listed, rfl⟩ := found
      rw [List.getElem?_range (by
        have bound := (List.getElem?_eq_some_iff.mp listed).1
        simpa using bound)] at listed
      rw [← Option.some.inj listed]
      rfl
    · simp [freshNode, Memory.fits_seeded]
    · simp [freshNode]
    · simp [freshNode]
    · simp [opening, freshStation, freshNode, Node.portray, Function.comp_def]
    · intro tick
      rw [noneAt]
      rfl

theorem run_depicts (valid : network.table.Valid) (sound : state.Sound network [])
    (maxTicks : Nat) :
    ∃ final, network.run maxTicks state =
        .ok ((network.plainRun maxTicks state.random state.shared).1, final) ∧
      Depicts network [] final (network.plainRun maxTicks state.random state.shared).2 := by
  obtain ⟨first, begun, depicts⟩ := begin_depicts valid sound
  obtain ⟨final, ran, shown⟩ := advance_depicts valid depicts maxTicks 0
  refine ⟨final, ?_, shown⟩
  rw [run, begun]
  exact ran

end Lockstep.Network
