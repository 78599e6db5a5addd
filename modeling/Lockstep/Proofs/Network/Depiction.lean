import Lockstep.Proofs.Delivery.Waiting
import Lockstep.Proofs.Node.Portrayal

/-!
Networks and their plain scenes.

`State.Sound` is what holds of a network between its steps: every buffer in use waits in the
schedule, waits in one queue, or is one of `outgoing`, the buffers some step has just taken out.
`Depicts` says that a scene shows a sound state: the same stations, the same messages for each tick
and the same counts. It is carried over the ways in which steps change a state (`setPool`,
`setNode`, `postpone`).
-/
namespace Lockstep.Network

variable {ρ σ : Type} {network : Network ρ σ} {state : State ρ σ} {scene : Scene ρ σ}
  {outgoing : List Nat} {node : Node} {index : Nat}

/-- The buffers that wait in the schedule or in a queue. -/
def State.held (state : State ρ σ) : List Nat :=
  state.schedule.slots ++ state.nodes.toList.flatMap (·.pending)

/-- The buffers held by the schedule and by all nodes but one. -/
def State.others (state : State ρ σ) (index : Nat) : List Nat :=
  state.schedule.slots ++ ((state.nodes.toList.take index).flatMap (·.pending) ++
    (state.nodes.toList.drop (index + 1)).flatMap (·.pending))

/-- A state between steps, with the buffers `outgoing` taken out of the places they wait in. -/
structure State.Sound (network : Network ρ σ) (outgoing : List Nat) (state : State ρ σ) :
    Prop where
  owned : state.pool.Holds (outgoing ++ state.held)
  tidy : state.schedule.Tidy
  capacity : state.pool.capacity = network.config.capacity
  payloadSize : state.pool.payloadSize = network.table.payloadSize
  count : state.nodes.size = network.config.nodeCount
  place : ∀ (index : Nat) (node : Node), state.nodes[index]? = some node →
    node.place = ⟨index, network.config.nodeCount⟩
  fits : ∀ node ∈ state.nodes.toList, node.memory.Fits network.table
  posted : ∀ node ∈ state.nodes.toList, node.outbox = none

/-- The scene shows the state. -/
structure Depicts (network : Network ρ σ) (outgoing : List Nat) (state : State ρ σ)
    (scene : Scene ρ σ) : Prop where
  sound : state.Sound network outgoing
  begun : ∀ node ∈ state.nodes.toList, node.state ≠ .uninitialized
  stations : scene.stations = state.nodes.toList.map (Node.portray state.pool)
  due : ∀ tick, (state.schedule.slotsAt tick).map state.pool.letter =
    scene.transit.filter (·.arrival == tick)
  waiting : state.schedule.inFlight = scene.transit.length
  bound : ∀ message ∈ scene.transit, message.destination < network.config.nodeCount
  peak : scene.peak = state.pool.peak
  random : scene.random = state.random
  shared : scene.shared = state.shared
  tally : scene.tally = state.tally

private theorem flatMap_pending_split {nodes : List Node} (found : nodes[index]? = some node) :
    (nodes.flatMap (·.pending)).Perm (node.pending ++ ((nodes.take index).flatMap (·.pending) ++
      (nodes.drop (index + 1)).flatMap (·.pending))) := by
  obtain ⟨bound, rfl⟩ := List.getElem?_eq_some_iff.mp found
  have split := congrArg (List.flatMap (·.pending)) (List.take_append_drop index nodes)
  rw [List.drop_eq_getElem_cons bound, List.flatMap_append, List.flatMap_cons] at split
  rw [← split]
  exact List.perm_append_comm_assoc ..

theorem held_split (found : state.nodes[index]? = some node) :
    state.held.Perm (node.pending ++ state.others index) := by
  rw [← Array.getElem?_toList] at found
  exact ((flatMap_pending_split found).append_left _).trans (List.perm_append_comm_assoc ..)

theorem held_setNode (state : State ρ σ) (pool : Pool) (shared : σ)
    (inside : index < state.nodes.size) (node : Node) :
    State.held { state with nodes := state.nodes.setIfInBounds index node, pool, shared }
      |>.Perm (node.pending ++ state.others index) := by
  have bound : index < state.nodes.toList.length := by simpa using inside
  have found : (state.nodes.setIfInBounds index node)[index]? = some node :=
    Array.getElem?_setIfInBounds_self_of_lt inside
  refine (held_split found).trans ?_
  rw [State.others, State.others, Array.toList_setIfInBounds, List.take_set_of_le (Nat.le_refl _),
    List.drop_set_of_lt (Nat.lt_succ_self _)]

namespace Depicts

/-- The buffers in use are the messages nobody has consumed, and those just taken out. -/
theorem inUse (depicts : Depicts network outgoing state scene) :
    state.pool.inUse = outgoing.length + scene.live := by
  have inboxes : (scene.stations.map (·.inbox.length)).sum =
      (state.nodes.toList.flatMap (·.pending)).length := by
    rw [depicts.stations, List.length_flatMap, List.map_map]
    simp only [Function.comp_def, Node.portray, List.length_map]
  rw [depicts.sound.owned.inUse, List.length_append, State.held, List.length_append, Scene.live,
    inboxes, ← depicts.waiting, depicts.sound.tidy.counted]

theorem station (depicts : Depicts network outgoing state scene)
    (found : state.nodes[index]? = some node) :
    scene.stations[index]? = some (node.portray state.pool) := by
  rw [depicts.stations, List.getElem?_map, Array.getElem?_toList, found]
  rfl

theorem length (depicts : Depicts network outgoing state scene) :
    scene.stations.length = network.config.nodeCount := by
  rw [depicts.stations, List.length_map, Array.length_toList, depicts.sound.count]

theorem found (depicts : Depicts network outgoing state scene)
    (inside : index < network.config.nodeCount) : ∃ node, state.nodes[index]? = some node :=
  ⟨_, Array.getElem?_eq_getElem (depicts.sound.count ▸ inside)⟩

theorem node_sound (depicts : Depicts network outgoing state scene)
    (found : state.nodes[index]? = some node) : node.Sound network.table := by
  have member : node ∈ state.nodes.toList := by
    rw [← Array.getElem?_toList] at found
    exact List.mem_of_getElem? found
  exact ⟨depicts.sound.fits node member, depicts.begun node member,
    depicts.sound.posted node member⟩

theorem mem_held_of_slotsAt {slot tick : Nat} (member : slot ∈ state.schedule.slotsAt tick) :
    slot ∈ state.held :=
  List.mem_append_left _ (Schedule.mem_slots.mpr ⟨tick, member⟩)

/-- Both sides may count something. -/
theorem setTally (depicts : Depicts network outgoing state scene) (tally : Tally) :
    Depicts network outgoing { state with tally } { scene with tally } where
  sound := { depicts.sound with }
  begun := depicts.begun
  stations := depicts.stations
  due := depicts.due
  waiting := depicts.waiting
  bound := depicts.bound
  peak := depicts.peak
  random := depicts.random
  shared := depicts.shared
  tally := rfl

/-- The buffers taken out may change, as long as no other message does. -/
theorem setPool (depicts : Depicts network outgoing state scene) {after : Pool} {taken : List Nat}
    (owned : after.Holds (taken ++ state.held)) (kept : Pool.Keeps state.held state.pool after) :
    Depicts network taken { state with pool := after } { scene with peak := after.peak } where
  sound :=
    { depicts.sound with
      owned
      capacity := kept.capacity.trans depicts.sound.capacity
      payloadSize := kept.payloadSize.trans depicts.sound.payloadSize }
  begun := depicts.begun
  stations := by
    refine depicts.stations.trans (List.map_congr_left fun node member => ?_)
    refine (Node.portray_congr (kept.mono fun slot inside => ?_)).symm
    exact List.mem_append_right _ (List.mem_flatMap.mpr ⟨node, member, inside⟩)
  due := fun tick =>
    (kept.map_letter fun _ => mem_held_of_slotsAt).trans (depicts.due tick)
  waiting := depicts.waiting
  bound := depicts.bound
  peak := rfl
  random := depicts.random
  shared := depicts.shared
  tally := depicts.tally

/-- One node may change together with its own buffers and those taken out, as long as no other
message does. -/
theorem setNode (depicts : Depicts network outgoing state scene) {after : Pool} {taken : List Nat}
    {changed : Node} (found : state.nodes[index]? = some node)
    (owned : after.Holds (taken ++ (changed.pending ++ state.others index)))
    (kept : Pool.Keeps (state.others index) state.pool after)
    (place : changed.place = node.place) (sound : changed.Sound network.table) (shared : σ) :
    Depicts network taken
      { state with nodes := state.nodes.setIfInBounds index changed, pool := after, shared }
      { scene with
        stations := scene.stations.set index (changed.portray after)
        peak := after.peak, shared } := by
  have inside : index < state.nodes.size := (Array.getElem?_eq_some_iff.mp found).1
  have split := held_setNode state after shared inside changed
  have listed : ∀ other ∈ state.nodes.toList.set index changed, ∀ P : Node → Prop,
      P changed → (∀ node ∈ state.nodes.toList, P node) → P other := by
    intro other member P self rest
    rcases List.mem_or_eq_of_mem_set member with old | rfl
    · exact rest other old
    · exact self
  refine ⟨⟨owned.perm (split.symm.append_left _), depicts.sound.tidy,
    kept.capacity.trans depicts.sound.capacity, kept.payloadSize.trans depicts.sound.payloadSize,
    by simpa using depicts.sound.count, ?_, ?_, ?_⟩, ?_, ?_, ?_, depicts.waiting, depicts.bound,
    rfl, depicts.random, rfl, depicts.tally⟩
  · intro probe other placed
    by_cases same : index = probe
    · subst same
      rw [Array.getElem?_setIfInBounds_self_of_lt inside] at placed
      rw [← Option.some.inj placed, place]
      exact depicts.sound.place index node found
    · rw [Array.getElem?_setIfInBounds_ne same] at placed
      exact depicts.sound.place probe other placed
  · intro other member
    rw [Array.toList_setIfInBounds] at member
    exact listed other member _ sound.fits depicts.sound.fits
  · intro other member
    rw [Array.toList_setIfInBounds] at member
    exact listed other member _ sound.posted depicts.sound.posted
  · intro other member
    rw [Array.toList_setIfInBounds] at member
    exact listed other member _ sound.begun depicts.begun
  · -- the other portraits are the same with the new pool
    have front : (state.nodes.toList.take index).map (Node.portray after) =
        (state.nodes.toList.take index).map (Node.portray state.pool) := by
      refine List.map_congr_left fun other member => Node.portray_congr (kept.mono ?_)
      intro slot pending
      exact List.mem_append_right _ (List.mem_append_left _
        (List.mem_flatMap.mpr ⟨other, member, pending⟩))
    have back : (state.nodes.toList.drop (index + 1)).map (Node.portray after) =
        (state.nodes.toList.drop (index + 1)).map (Node.portray state.pool) := by
      refine List.map_congr_left fun other member => Node.portray_congr (kept.mono ?_)
      intro slot pending
      exact List.mem_append_right _ (List.mem_append_right _
        (List.mem_flatMap.mpr ⟨other, member, pending⟩))
    have bound : index < state.nodes.toList.length := by simpa using inside
    simp only [Array.toList_setIfInBounds, depicts.stations, List.set_eq_take_append_cons_drop,
      List.length_map, bound, if_true, ← List.map_take, ← List.map_drop]
    rw [List.map_append, List.map_cons, front, back]
  · intro tick
    refine (kept.map_letter fun slot member => ?_).trans (depicts.due tick)
    exact List.mem_append_left _ (Schedule.mem_slots.mpr ⟨tick, member⟩)

end Depicts

end Lockstep.Network
