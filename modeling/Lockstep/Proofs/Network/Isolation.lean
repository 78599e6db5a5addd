import Lockstep.Proofs.Network.Unfolding
import Lockstep.Proofs.Network.Capacity
import Lockstep.Proofs.Node.Views

/-!
Nodes do not interfere within a tick.

Up to its turn nothing in a tick touches a node or the messages in its queue, although all nodes share
one pool (`portrait_before`). So its step is a function of what it was at the start of the tick, up to
the buffers it uses (`stepped_eq`), whatever the other programs, the router and the random source are
(`steps_isolated`).
-/
namespace Lockstep

/-- Two steps have done the same, but for the buffers they used and for what the programs share. -/
structure Node.Stepped.Alike {σ τ : Type} (first : Node.Stepped σ) (second : Node.Stepped τ) :
    Prop where
  outcome : first.outcome = second.outcome
  current : first.node.memory.current = second.node.memory.current
  next : first.node.memory.next = second.node.memory.next
  state : first.node.state = second.node.state
  idle : first.node.idle = second.node.idle
  sent : first.node.sent = second.node.sent
  received : first.node.received = second.node.received
  dropped : first.node.dropped = second.node.dropped
  last : first.node.last = second.node.last
  /-- The messages left in the queue, in order. -/
  queue : first.node.pending.map first.pool.letter = second.node.pending.map second.pool.letter
  /-- The message to send, with its words and its sender. -/
  outgoing : first.node.outbox.map first.pool.letter = second.node.outbox.map second.pool.letter

namespace Network

variable {ρ σ ω τ : Type} {network : Network ρ σ} {start state before : State ρ σ}
  {scene after : Scene ρ σ} {number index : Nat}

/-- The network with the same table and settings, but with other programs, another router and another
random source. -/
def recast (network : Network ρ σ) (program : Nat → Program τ) (router : Router)
    (source : Source ω) : Network ω τ where
  table := network.table
  config := network.config
  program
  router
  source

/-- The state with another random state, and with another state for the programs to share. -/
def State.recast (state : State ρ σ) (random : ω) (shared : τ) : State ω τ where
  nodes := state.nodes
  pool := state.pool
  schedule := state.schedule
  random
  shared
  tally := state.tally

/-- Its scene is the same too. -/
theorem Depicts.recast (depicts : Depicts network [] state scene) (program : Nat → Program τ)
    (router : Router) (source : Source ω) (random : ω) (shared : τ) :
    Depicts (network.recast program router source) [] (state.recast random shared)
      ⟨scene.stations, scene.transit, scene.peak, random, shared, scene.tally⟩ where
  sound := ⟨depicts.sound.owned, depicts.sound.tidy, depicts.sound.capacity,
    depicts.sound.payloadSize, depicts.sound.count, depicts.sound.place, depicts.sound.fits,
    depicts.sound.posted⟩
  begun := depicts.begun
  stations := depicts.stations
  due := depicts.due
  waiting := depicts.waiting
  bound := depicts.bound
  peak := depicts.peak
  random := rfl
  shared := rfl
  tally := depicts.tally

/-- The turns of other stations leave a station alone. -/
theorem station_of_turns {indices : List Nat} (absent : index ∉ indices)
    (ran : indices.foldlM (network.plainTurn number) scene = .ok after) :
    after.stations[index]? = scene.stations[index]? := by
  induction indices generalizing scene with
  | nil =>
    cases ran
    rfl
  | cons first rest ih =>
    have other : index ≠ first := fun same => absent (same ▸ List.mem_cons_self)
    have absent : index ∉ rest := fun member => absent (List.mem_cons_of_mem _ member)
    rw [List.foldlM_cons] at ran
    cases turned : network.plainTurn number scene first with
    | error failure =>
      rw [turned] at ran
      cases ran
    | ok middle =>
      rw [turned] at ran
      rw [ih absent ran]
      cases found : scene.stations[first]? with
      | none =>
        rw [plainTurn, found] at turned
        cases turned
        rfl
      | some station =>
        have stations := (leftBy_plainTurn network number found).1
        rw [turned] at stations
        have set : middle.stations = scene.stations.set first _ := stations
        rw [set, List.getElem?_set_ne (Ne.symm other)]

/-- When the turn of a node comes, the node and its messages are what they were at the start of the
tick. -/
theorem portrait_before (valid : network.table.Valid) (depicts : Depicts network [] state scene)
    {node : Node} (found : state.nodes[index]? = some node)
    (ran : (List.range index).foldlM (network.turn number) state = .ok before) :
    ∃ scene own, Depicts network [] before scene ∧ before.nodes[index]? = some own ∧
      own.portray before.pool = node.portray state.pool := by
  have inside : index < network.config.nodeCount :=
    depicts.sound.count ▸ (Array.getElem?_eq_some_iff.mp found).1
  have refines : Refines network ((List.range index).foldlM (network.turn number) state)
      ((List.range index).foldlM (network.plainTurn number) scene) :=
    foldlM_refines (fun earlier member _ _ depicts =>
      turn_refines number valid depicts (Nat.lt_trans (List.mem_range.mp member) inside)) depicts
  rw [ran] at refines
  obtain ⟨middle, plainly, shown⟩ := refines.of_ok
  obtain ⟨own, there⟩ := shown.found inside
  have same := station_of_turns (List.not_mem_range_self) plainly
  rw [shown.station there, depicts.station found] at same
  exact ⟨middle, own, shown, there, Option.some.inj same⟩

/-- The step that a node takes when its turn comes is the one of its portrait at the start of the
tick, unless there is no buffer for its message. -/
theorem stepped_eq (valid : network.table.Valid) (depicts : Depicts network [] state scene)
    {node : Node} (found : state.nodes[index]? = some node)
    (ran : (List.range index).foldlM (network.turn number) state = .ok before)
    {act : Place → Interaction Signal} (view : network.program index = .ofView act) :
    ∃ stepped, Turn.stepped network ⟨number, index, before⟩ = .ok stepped ∧
      (stepped.outcome ≠ .failed .poolExhausted →
        let plain := (node.portray state.pool).step network.table (.ofView act) false before.shared
        stepped.outcome = plain.outcome ∧ stepped.node.portray stepped.pool = plain.station ∧
          stepped.node.outbox.map stepped.pool.letter =
            plain.outgoing.map fun payload => ⟨payload, node.place.index, 0, 0⟩) := by
  obtain ⟨middle, own, shown, there, same⟩ := portrait_before valid depicts found ran
  have owned : before.pool.Holds (own.pending ++ before.others index) :=
    shown.sound.owned.perm (held_split there)
  obtain ⟨stepped, taken, shows⟩ := Node.step_shows valid (network.program index) before.shared
    (shown.node_sound there) owned shown.sound.payloadSize
  have place : own.place = node.place := congrArg Station.place same
  rw [same, view] at shows
  refine ⟨stepped, ?_, fun lasting => ?_⟩
  · simp only [Turn.stepped, State.node, there, taken, bind, Except.bind]
  · have known : stepped.outcome = ((node.portray state.pool).step network.table (.ofView act)
        (decide (before.pool.capacity ≤ before.pool.inUse - min 1 own.pending.length))
        before.shared).outcome := shows.outcome
    have outgoing := shows.outgoing
    rw [place] at outgoing
    have station := shows.station
    generalize decide (before.pool.capacity ≤ before.pool.inUse - min 1 own.pending.length) = full
      at known outgoing station
    cases full with
    | false => exact ⟨known, station, outgoing⟩
    | true =>
      rcases Station.step_full network.table (.ofView act) (node.portray state.pool) before.shared
        with ⟨alike, -⟩ | ⟨exhausted, -⟩
      · rw [alike] at known outgoing station
        exact ⟨known, station, outgoing⟩
      · exact absurd (known.trans exhausted) lasting

/-- From the start of a tick on, the step of a node comes to the same whatever the other nodes run,
wherever the router sends their messages and however long these travel, as long as the tick gets to
the node and there is a buffer for its message. -/
theorem steps_isolated {table : SymbolTable} {config : NetworkConfig} {program : Nat → Program σ}
    {router : Router} {source : Source ρ}
    (built : Network.build table config program router source = .ok network)
    (resting : network.Resting start) (occurs : network.Occurs start number (.turns 0) state)
    (inside : index < config.nodeCount) {act : Place → Interaction Signal}
    (view : program index = .ofView act) {others : Nat → Program τ}
    (otherView : others index = .ofView act) (otherRouter : Router) (otherSource : Source ω)
    (random : ω) (shared : τ) {otherBefore : State ω τ}
    (ran : (List.range index).foldlM (network.turn number) state = .ok before)
    (otherRan : (List.range index).foldlM
      ((network.recast others otherRouter otherSource).turn number) (state.recast random shared) =
        .ok otherBefore) :
    ∃ stepped otherStepped,
      Turn.stepped network ⟨number, index, before⟩ = .ok stepped ∧
      Turn.stepped (network.recast others otherRouter otherSource) ⟨number, index, otherBefore⟩ =
        .ok otherStepped ∧
      (stepped.outcome ≠ .failed .poolExhausted →
        otherStepped.outcome ≠ .failed .poolExhausted → stepped.Alike otherStepped) := by
  obtain ⟨-, valid, rfl⟩ := build_eq_ok.mp built
  obtain ⟨scene, depicts⟩ := occurs.depicts valid (resting.sound valid)
  obtain ⟨node, found⟩ := depicts.found inside
  obtain ⟨stepped, taken, first⟩ := stepped_eq valid depicts found ran view
  obtain ⟨otherStepped, otherTaken, second⟩ := stepped_eq valid
    (depicts.recast others otherRouter otherSource random shared) found otherRan otherView
  refine ⟨stepped, otherStepped, taken, otherTaken, fun lasting otherLasting => ?_⟩
  obtain ⟨outcome, station, outgoing⟩ := first lasting
  obtain ⟨otherOutcome, otherStation, otherOutgoing⟩ := second otherLasting
  have same : (node.portray state.pool).step table (.ofView act) false otherBefore.shared =
      ((node.portray state.pool).step table (.ofView act) false before.shared).sharing
        otherBefore.shared := Station.step_sharing _ _ _
  have portraits : stepped.node.portray stepped.pool =
      otherStepped.node.portray otherStepped.pool := by
    rw [station]
    exact (otherStation.trans (congrArg Station.Stepped.station same)).symm
  have posted : stepped.node.outbox.map stepped.pool.letter =
      otherStepped.node.outbox.map otherStepped.pool.letter := by
    rw [outgoing]
    exact (otherOutgoing.trans
      (congrArg (Option.map _) (congrArg Station.Stepped.outgoing same))).symm
  exact ⟨outcome.trans (otherOutcome.trans (congrArg Station.Stepped.outcome same)).symm,
    congrArg (·.memory.current) portraits, congrArg (·.memory.next) portraits,
    congrArg Station.state portraits, congrArg Station.idle portraits,
    congrArg Station.sent portraits, congrArg Station.received portraits,
    congrArg Station.dropped portraits, congrArg Station.last portraits,
    congrArg Station.inbox portraits, posted⟩

/-- The last of three nodes, with two messages in its queue. The other nodes send in one variant and
halt in the other, which gives their buffers back. -/
theorem steps_isolated_flood :
    ∃ (network : Network Nat Unit) (others : Nat → Program Unit)
      (state before otherBefore : State Nat Unit) (stepped otherStepped : Node.Stepped Unit),
      Network.build .standard { nodeCount := 3, capacity := 16 }
          (fun _ => .ofView fun _ => .requestSend fun _ => .done .continue) Router.broadcast
          (Source.cycle [1]) = .ok network ∧
        network.Occurs (network.initial 0 ()) 1 (.turns 0) state ∧
        others 0 = .ofView (fun _ => .done .halt) ∧ others 1 = .ofView (fun _ => .done .halt) ∧
        (List.range 2).foldlM (network.turn 1) state = .ok before ∧
        (List.range 2).foldlM ((network.recast others Router.ring (Source.cycle [3])).turn 1)
          (state.recast 5 ()) = .ok otherBefore ∧
        before.pool.inUse = 8 ∧ otherBefore.pool.inUse = 2 ∧
        Turn.stepped network ⟨1, 2, before⟩ = .ok stepped ∧
        Turn.stepped (network.recast others Router.ring (Source.cycle [3])) ⟨1, 2, otherBefore⟩ =
          .ok otherStepped ∧
        stepped.node.pending.length = 1 ∧ stepped.Alike otherStepped := by
  let talk : Place → Interaction Signal := fun _ => .requestSend fun _ => .done .continue
  let network : Network Nat Unit :=
    ⟨.standard, { nodeCount := 3, capacity := 16 }, fun _ => .ofView talk, Router.broadcast,
      Source.cycle [1]⟩
  let others : Nat → Program Unit := fun index =>
    .ofView (if index = 2 then talk else fun _ => .done .halt)
  let other := network.recast others Router.ring (Source.cycle [3])
  have built : Network.build network.table network.config network.program network.router
      network.source = .ok network := rfl
  have evaluated : (network.begin (network.initial 0 ())).toOption.bind (fun first =>
      (network.tick 0 first).toOption.bind fun state =>
        ((List.range 2).foldlM (network.turn 1) state).toOption.bind fun before =>
          ((List.range 2).foldlM (other.turn 1) (state.recast 5 ())).toOption.bind fun otherBefore =>
            (Turn.stepped network ⟨1, 2, before⟩).toOption.bind fun stepped =>
              (Turn.stepped other ⟨1, 2, otherBefore⟩).toOption.map fun otherStepped =>
                (state.allTerminated || network.quiescent state,
                  [before.pool.inUse, otherBefore.pool.inUse, stepped.node.pending.length],
                  [stepped.outcome, otherStepped.outcome])) =
      some (false, [8, 2, 1], [.changed, .changed]) := by
    decide +kernel
  simp only [Option.bind_eq_some_iff, Option.map_eq_some_iff, toOption_eq_some_iff, Prod.mk.injEq,
    List.cons.injEq, and_true] at evaluated
  obtain ⟨first, begun, state, ticked, before, ran, otherBefore, otherRan, stepped, taken,
    otherStepped, otherTaken, lasting, ⟨used, otherUsed, queued⟩, outcome, otherOutcome⟩ := evaluated
  have valid : network.table.Valid := (build_eq_ok.mp built).2.1
  have occurs : network.Occurs (network.initial 0 ()) 1 (.turns 0) state :=
    ((Unfolds.first begun).tick valid (initial_sound network 0 ()) ticked lasting).occurs
  obtain ⟨result, otherResult, known, otherKnown, alike⟩ := steps_isolated built (.initial 0 ())
    occurs (show 2 < network.config.nodeCount by decide)
    (show network.program 2 = .ofView talk from rfl) (show others 2 = .ofView talk from rfl)
    Router.ring (Source.cycle [3]) 5 () ran otherRan
  rw [taken] at known
  rw [otherTaken] at otherKnown
  cases known
  cases otherKnown
  exact ⟨network, others, state, before, otherBefore, stepped, otherStepped, built, occurs, rfl, rfl,
    ran, otherRan, used, otherUsed, taken, otherTaken, queued,
    alike (by simp [outcome]) (by simp [otherOutcome])⟩

end Network

end Lockstep
