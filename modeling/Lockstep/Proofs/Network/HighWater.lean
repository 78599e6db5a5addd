import Lockstep.Machine.Call
import Lockstep.Machine.Stock
import Lockstep.Proofs.Network.Capacity
import Lockstep.Proofs.Network.Instants
import Mathlib.Order.Bounds.Defs

/-!
What the peak of a run says about its messages.

A message takes a buffer before it is known where it goes. If its node has consumed a message in the
same turn, or if it goes somewhere, there are as many undelivered messages at another instant. But
the message of a node with an empty queue that goes nowhere has a buffer and is at no instant on its
way (`Turn.Astray`). So the peak is the greatest number of undelivered messages, unless that is what
such a node finds: then it is one more (`Ends.exists_largest`).
-/
namespace Lockstep.Network

variable {ρ σ : Type} {network : Network ρ σ} {start state final : State ρ σ}
  {scene after : Scene ρ σ} {past : List (Turn ρ σ)} {turn : Turn ρ σ} {tick index maxTicks : Nat}
  {station : Station} {result : RunResult}

/-! ### What a turn does to the peak -/

theorem plainDispatch_eq_ok {sender : Nat} {payload : Cells} {destinations : List Nat}
    (resolved : network.destinations sender payload scene.stations.length = destinations)
    (sent : network.plainDispatch tick sender payload scene = .ok after) :
    after.live = scene.live + destinations.length ∧ after.peak = max scene.peak after.live := by
  rw [plainDispatch, resolved] at sent
  unfold plainSend at sent
  split at sent <;> cases sent
  have live : ((network.post tick sender payload destinations scene).mark
      (scene.live + destinations.length)).live = scene.live + destinations.length := live_post _
  rw [live]
  exact ⟨rfl, rfl⟩

/-- A turn that does not fail adds to the messages those that it sends. The peak sees the buffer
that its message came in, and all messages. -/
theorem plainTurn_eq_ok (found : scene.stations[index]? = some station)
    (ran : network.plainTurn tick scene index = .ok after) :
    let stepped := network.plainStep station scene index
    let settled := scene.setStation index stepped.station
    (stepped.outgoing = none ∧ after.live = settled.live ∧ after.peak = scene.peak) ∨
      ∃ payload, stepped.outgoing = some payload ∧
        after.live = settled.live +
          (network.destinations index payload scene.stations.length).length ∧
        after.peak = max (max scene.peak (usedBy station scene + 1)) after.live := by
  rw [plainTurn_eq network tick found, endTurn] at ran
  split at ran
  · cases ran
  · split at ran
    · rename_i silent
      cases ran
      exact .inl ⟨silent, rfl, rfl⟩
    · rename_i payload sends
      have count : (scene.stations.set index
          (network.plainStep station scene index).station).length = scene.stations.length :=
        List.length_set
      have resolved := congrArg (network.destinations index payload) count
      obtain ⟨live, peak⟩ := plainDispatch_eq_ok resolved ran
      exact .inr ⟨payload, sends, live, peak⟩

/-- Once a turn is over, the peak is as before, or all the messages there are, or one more than the
turn found. The last is so only if its node had no message and sends one to nobody. -/
theorem peak_plainTurn (seen : scene.live ≤ scene.peak)
    (found : scene.stations[index]? = some station)
    (ran : network.plainTurn tick scene index = .ok after) :
    after.live ≤ after.peak ∧
      (after.peak = scene.peak ∨ after.peak = after.live ∨
        station.inbox = [] ∧ after.peak = scene.live + 1 ∧
          ∃ payload, (network.plainStep station scene index).outgoing = some payload ∧
            network.destinations index payload scene.stations.length = []) := by
  have fewer : (network.plainStep station scene index).station.inbox.length ≤
      station.inbox.length := Station.step_inbox_le
  have kept := live_setStation_le found fewer
  rcases plainTurn_eq_ok found ran with ⟨-, live, peak⟩ | ⟨payload, sends, live, peak⟩
  · exact ⟨by omega, .inl peak⟩
  · refine ⟨by omega, ?_⟩
    by_cases fed : station.inbox = []
    · have used : usedBy station scene = scene.live := by
        rw [usedBy, fed]
        exact Nat.sub_zero _
      cases resolved : network.destinations index payload scene.stations.length with
      | nil =>
        rw [resolved, List.length_nil] at live
        by_cases below : scene.live < scene.peak
        · exact .inl (by omega)
        · exact .inr (.inr ⟨fed, by omega, payload, sends, resolved⟩)
      | cons destination rest =>
        have moved := sum_setStation found (·.inbox.length)
          (network.plainStep station scene index).station
        rw [resolved, List.length_cons] at live
        rw [fed] at moved fewer
        simp only [Scene.live, Scene.setStation, List.length_nil] at *
        omega
    · have taken : 0 < station.inbox.length := List.length_pos_iff.mpr fed
      have queue := inbox_le_live found
      rw [usedBy] at peak
      omega

/-! ### Turns between their instants -/

/-- The message of a turn goes astray: the node had none to consume, and there is no node that the
one it sends would go to. -/
structure Turn.Astray (network : Network ρ σ) (turn : Turn ρ σ) : Prop where
  unfed : ∃ node, turn.before.nodes[turn.index]? = some node ∧ node.pending = []
  posts : ∃ stepped slot, turn.Posts network stepped slot []

section Turns

variable {node : Node} (valid : network.table.Valid)
  (depicts : Depicts network [] turn.before scene)
  (found : turn.before.nodes[turn.index]? = some node)

include valid depicts found

/-- A message that a station sends is posted. -/
theorem Turn.exists_posts {payload : Cells}
    (sends : (network.plainStep (node.portray turn.before.pool) scene turn.index).outgoing =
      some payload) :
    ∃ stepped slot, turn.Posts network stepped slot
      (network.destinations turn.index payload scene.stations.length) := by
  obtain ⟨stepped, plain, ran, steps⟩ := turn.steps valid depicts found
  rw [steps.plainly] at sends
  obtain ⟨slot, outbox, letter⟩ := steps.outbox_some sends
  have owned := steps.depicts.sound.owned
  rw [outbox] at owned
  have read := owned.message_eq (List.mem_append_left _ (List.mem_singleton_self slot))
  refine ⟨stepped, slot, ran, outbox, _, read, ?_⟩
  rw [letter, depicts.length, depicts.sound.count]

/-- A message that is posted is one that the station sends. -/
theorem Turn.Posts.sends {stepped : Node.Stepped σ} {slot : Nat} {destinations : List Nat}
    (posts : turn.Posts network stepped slot destinations) :
    ∃ payload, (network.plainStep (node.portray turn.before.pool) scene turn.index).outgoing =
        some payload ∧
      network.destinations turn.index payload scene.stations.length = destinations := by
  obtain ⟨same, plain, ran, steps⟩ := turn.steps valid depicts found
  cases posts.ran.symm.trans ran
  rw [steps.plainly]
  cases sends : plain.outgoing with
  | none => cases posts.outbox.symm.trans (steps.outbox_none sends)
  | some payload =>
    obtain ⟨posted, outbox, letter⟩ := steps.outbox_some sends
    cases posts.outbox.symm.trans outbox
    obtain ⟨message, read, resolved⟩ := posts.resolved
    have owned := steps.depicts.sound.owned
    rw [outbox] at owned
    have known := owned.message_eq (List.mem_append_left _ (List.mem_singleton_self slot))
    cases read.symm.trans known
    rw [letter, depicts.sound.count, ← depicts.length] at resolved
    exact ⟨payload, rfl, resolved⟩

theorem Turn.undelivered_settled {stepped : Node.Stepped σ}
    (ran : turn.stepped network = .ok stepped) :
    (turn.settled stepped).undelivered = (scene.setStation turn.index
      (network.plainStep (node.portray turn.before.pool) scene turn.index).station).live := by
  obtain ⟨same, plain, known, steps⟩ := turn.steps valid depicts found
  cases ran.symm.trans known
  rw [steps.plainly]
  exact steps.depicts.undelivered

/-- A turn that goes through has the most messages before it or after it. -/
theorem Turn.within {final : State ρ σ}
    (ran : network.turn turn.tick turn.before turn.index = .ok final) :
    turn.Within network (max turn.before.undelivered final.undelivered) := by
  have inside : turn.index < network.config.nodeCount :=
    depicts.sound.count ▸ (Array.getElem?_eq_some_iff.mp found).1
  have refines := turn_refines turn.tick valid depicts inside
  rw [ran] at refines
  obtain ⟨after, known, shown⟩ := refines.of_ok
  have listed := depicts.station found
  refine ⟨Nat.le_max_left _ _, fun stepped stepRan => ?_, fun stepped slot destinations posts => ?_,
    fun same again => ?_⟩
  · rw [Turn.undelivered_settled valid depicts found stepRan, depicts.undelivered]
    exact Nat.le_trans (live_setStation_le listed Station.step_inbox_le) (Nat.le_max_left _ _)
  · obtain ⟨payload, sends, resolved⟩ := posts.sends valid depicts found
    rcases plainTurn_eq_ok listed known with ⟨silent, -⟩ | ⟨words, sent, live, -⟩
    · cases silent.symm.trans sends
    · cases sent.symm.trans sends
      rw [resolved, ← Turn.undelivered_settled valid depicts found posts.ran] at live
      rw [← live, shown.undelivered]
      exact Nat.le_max_right _ _
  · cases ran.symm.trans again
    exact Nat.le_max_right _ _

/-- A message that goes astray has a buffer besides those of the undelivered ones. -/
theorem Turn.Astray.lt_peak (astray : turn.Astray network)
    (ran : network.plainTurn turn.tick scene turn.index = .ok after) :
    turn.before.undelivered < after.peak := by
  obtain ⟨same, listed, unfed⟩ := astray.unfed
  cases found.symm.trans listed
  obtain ⟨stepped, slot, posts⟩ := astray.posts
  obtain ⟨payload, sends, -⟩ := posts.sends valid depicts found
  have used : usedBy (node.portray turn.before.pool) scene = scene.live := by
    simp only [usedBy, Node.portray, unfed, List.map_nil, List.length_nil, Nat.min_zero,
      Nat.sub_zero]
  rw [depicts.undelivered]
  rcases plainTurn_eq_ok (depicts.station found) ran with ⟨silent, -⟩ | ⟨words, -, -, peak⟩
  · cases silent.symm.trans sends
  · rw [used] at peak
    omega

/-- The peak has seen every instant of a turn, and the buffer of its message if that went astray. -/
structure Turn.Seen (network : Network ρ σ) (turn : Turn ρ σ) (peak : Nat) : Prop where
  within : turn.Within network peak
  stray : turn.Astray network → turn.before.undelivered < peak

theorem Turn.seen (seen : scene.live ≤ scene.peak)
    (ran : network.plainTurn turn.tick scene turn.index = .ok after) :
    turn.Seen network after.peak := by
  have inside : turn.index < network.config.nodeCount :=
    depicts.sound.count ▸ (Array.getElem?_eq_some_iff.mp found).1
  obtain ⟨final, turned, shown⟩ := (turn_refines turn.tick valid depicts inside).exists_ok ran
  have grows := peak_le_plainTurn network turn.tick turn.index scene
  rw [ran] at grows
  refine ⟨(Turn.within valid depicts found turned).mono ?_,
    fun astray => astray.lt_peak valid depicts found ran⟩
  rw [depicts.undelivered, shown.undelivered]
  exact Nat.max_le.mpr ⟨Nat.le_trans seen grows,
    (peak_plainTurn seen (depicts.station found) ran).1⟩

end Turns

theorem Turn.Seen.mono {peak more : Nat} (seen : turn.Seen network peak) (le : peak ≤ more) :
    turn.Seen network more where
  within := seen.within.mono le
  stray astray := Nat.lt_of_lt_of_le (seen.stray astray) le

/-! ### The peak along a run -/

/-- So many messages are undelivered at some instant of these turns, or all but one of them when the
message of a turn went astray. -/
def Reached (network : Network ρ σ) (turns : List (Turn ρ σ)) (peak : Nat) : Prop :=
  (∃ state, network.Passes turns state ∧ state.undelivered = peak) ∨
    ∃ turn ∈ turns, turn.Astray network ∧ turn.before.undelivered + 1 = peak

theorem Reached.mono {turns more : List (Turn ρ σ)} {peak : Nat}
    (reached : network.Reached turns peak) (listed : turns ⊆ more) :
    network.Reached more peak := by
  rcases reached with ⟨state, passes, count⟩ | ⟨turn, member, astray⟩
  · exact .inl ⟨state, passes.mono listed, count⟩
  · exact .inr ⟨turn, listed member, astray⟩

/-- A turn that raises the peak has reached it. -/
theorem Turn.reaches {node : Node} (valid : network.table.Valid)
    (depicts : Depicts network [] turn.before scene)
    (found : turn.before.nodes[turn.index]? = some node) (seen : scene.live ≤ scene.peak)
    (ran : network.plainTurn turn.tick scene turn.index = .ok after) :
    after.peak = scene.peak ∨ network.Reached [turn] after.peak := by
  have inside : turn.index < network.config.nodeCount :=
    depicts.sound.count ▸ (Array.getElem?_eq_some_iff.mp found).1
  obtain ⟨final, turned, shown⟩ := (turn_refines turn.tick valid depicts inside).exists_ok ran
  have alone := List.mem_singleton_self turn
  rcases (peak_plainTurn seen (depicts.station found) ran).2 with
    same | whole | ⟨unfed, more, payload, sends, nowhere⟩
  · exact .inl same
  · exact .inr (.inl ⟨final, .left alone turned, shown.undelivered.trans whole.symm⟩)
  · obtain ⟨stepped, slot, posts⟩ := Turn.exists_posts valid depicts found sends
    rw [nowhere] at posts
    have empty : node.pending = [] := List.map_eq_nil_iff.mp unfed
    refine .inr (.inr ⟨turn, alone, ⟨⟨node, found, empty⟩, stepped, slot, posts⟩, ?_⟩)
    rw [more, depicts.undelivered]

/-- The peak has seen what is left and all these turns, and has been reached in them. -/
structure Scene.Measures (network : Network ρ σ) (past : List (Turn ρ σ)) (scene : Scene ρ σ) :
    Prop where
  left : scene.live ≤ scene.peak
  seen : ∀ turn ∈ past, turn.Seen network scene.peak
  reached : scene.peak = 0 ∨ network.Reached past scene.peak

theorem opening_measures (network : Network ρ σ) (random : ρ) (shared : σ) :
    (network.opening random shared).Measures network [] := by
  have within : (network.opening random shared).Within 0 := opening_within network random shared
  exact ⟨within.seen, nofun, .inl rfl⟩

theorem Scene.Measures.append (measures : scene.Measures network past) (valid : network.table.Valid)
    (depicts : Depicts network [] turn.before scene)
    (inside : turn.index < network.config.nodeCount)
    (ran : network.plainTurn turn.tick scene turn.index = .ok after) :
    after.Measures network (past ++ [turn]) := by
  obtain ⟨node, found⟩ := depicts.found inside
  have grows := peak_le_plainTurn network turn.tick turn.index scene
  rw [ran] at grows
  refine ⟨(peak_plainTurn measures.left (depicts.station found) ran).1, fun other member => ?_, ?_⟩
  · rcases List.mem_append.mp member with earlier | now
    · exact (measures.seen other earlier).mono grows
    · cases List.mem_singleton.mp now
      exact Turn.seen valid depicts found measures.left ran
  · rcases Turn.reaches valid depicts found measures.left ran with same | reached
    · rw [same]
      exact measures.reached.imp_right fun reached =>
        reached.mono (List.subset_append_left past [turn])
    · exact .inr (reached.mono (List.subset_append_right past [turn]))

/-- What only hands messages over changes nothing of this. -/
theorem Scene.Measures.kept (measures : scene.Measures network past)
    (live : after.live ≤ scene.live) (peak : after.peak = scene.peak) :
    after.Measures network past := by
  refine ⟨?_, ?_, ?_⟩ <;> rw [peak]
  · exact Nat.le_trans live measures.left
  · exact measures.seen
  · exact measures.reached

theorem Scene.Measures.countTick (measures : scene.Measures network past) :
    scene.countTick.Measures network past := by
  obtain ⟨stations, transit, peak, -⟩ := countTick_rest scene
  refine measures.kept (Nat.le_of_eq ?_) peak
  rw [Scene.live, stations, transit, Scene.live]

/-- As long as no turn fails, the peak measures the turns so far. -/
theorem Unfolds.measures (valid : network.table.Valid) (sound : start.Sound network [])
    {number : Nat} {stage : Stage} (unfolds : network.Unfolds start past number stage state)
    (lasting : stage ≠ .stopped) :
    ∃ scene, Depicts network [] state scene ∧ scene.Measures network past := by
  have shown := unfolds.shows valid sound
    (fun past _ stage scene => stage ≠ .stopped → scene.Measures network past)
    (fun _ => opening_measures network start.random start.shared) ?_ ?_ ?_
  · obtain ⟨scene, depicts, -, measures⟩ := shown
    exact ⟨scene, depicts, measures lasting⟩
  · intro past turn scene depicts _ inside measures
    cases ran : network.plainTurn turn.tick scene turn.index with
    | error failure => exact fun stopped => absurd rfl stopped
    | ok after => exact fun _ => (measures nofun).append valid depicts inside ran
  · intro past number scene _ measures _
    exact (measures nofun).kept (live_deliverDue_le _ _) (deliverDue_rest _ _).2.1
  · intro past number scene _ measures _
    exact (measures nofun).countTick

theorem Ends.measures (valid : network.table.Valid) (sound : start.Sound network [])
    (ends : network.Ends maxTicks start result final) (completed : result.outcome = .completed) :
    ∃ scene, Depicts network [] final scene ∧ result.stats.peakInFlight = scene.peak ∧
      scene.Measures network (network.history maxTicks start) := by
  cases ends with
  | spent unfolds =>
    obtain ⟨scene, depicts, measures⟩ := unfolds.measures valid sound nofun
    exact ⟨scene, depicts, depicts.peak.symm, measures⟩
  | quit _ unfolds _ =>
    obtain ⟨scene, depicts, measures⟩ := unfolds.measures valid sound nofun
    exact ⟨_, depicts.countTick, depicts.countTick.peak.symm, measures.countTick⟩
  | failed => cases completed

/-- The numbers of undelivered messages in a run: those of its turns, of their instants and of the
deliveries between them, and that of its end. -/
def undeliveredCounts (network : Network ρ σ) (maxTicks : Nat) (start final : State ρ σ) : Set Nat :=
  {count | ∃ state, (state = final ∨ network.Passes (network.history maxTicks start) state) ∧
    state.undelivered = count}

/-- The peak of a run that does not fail is the greatest of these numbers, or one more. It is more
if one of the turns that found so many had a message go astray. -/
theorem Ends.exists_largest (valid : network.table.Valid) (sound : start.Sound network [])
    (ends : network.Ends maxTicks start result final) (completed : result.outcome = .completed) :
    ∃ largest, IsGreatest (network.undeliveredCounts maxTicks start final) largest ∧
      largest ≤ result.stats.peakInFlight ∧ result.stats.peakInFlight ≤ largest + 1 ∧
      (result.stats.peakInFlight = largest ↔ ∀ turn ∈ network.history maxTicks start,
        turn.Astray network → turn.before.undelivered < largest) := by
  obtain ⟨scene, depicts, peak, measures⟩ := ends.measures valid sound completed
  rw [peak]
  have bounded : scene.peak ∈ upperBounds (network.undeliveredCounts maxTicks start final) := by
    rintro _ ⟨state, rfl | passes, rfl⟩
    · exact depicts.undelivered.trans_le measures.left
    · exact passes.undelivered_le fun turn listed => (measures.seen turn listed).within
  by_cases member : scene.peak ∈ network.undeliveredCounts maxTicks start final
  · exact ⟨scene.peak, ⟨member, bounded⟩, Nat.le_refl _, Nat.le_succ _,
      iff_of_true rfl fun turn listed => (measures.seen turn listed).stray⟩
  · rcases measures.reached with zero | ⟨state, passes, count⟩ | ⟨turn, listed, astray, count⟩
    · have least : final.undelivered = scene.peak := by
        have left := measures.left
        rw [depicts.undelivered]
        omega
      exact absurd ⟨final, .inl rfl, least⟩ member
    · exact absurd ⟨state, .inr passes, count⟩ member
    · have reached : turn.before.undelivered ∈
          network.undeliveredCounts maxTicks start final :=
        ⟨turn.before, .inr (.found listed), rfl⟩
      refine ⟨turn.before.undelivered, ⟨reached, fun other inside => ?_⟩, ?_, ?_, ?_⟩
      · have below := bounded inside
        have other : other ≠ scene.peak := fun same => member (same ▸ inside)
        omega
      · omega
      · omega
      · refine iff_of_false (by omega) fun settled => ?_
        exact absurd (settled turn listed astray) (Nat.lt_irrefl _)

/-- Every run comes to a result. If it does not fail, its peak is the greatest number of undelivered
messages at any of its instants, or one more: it is that number exactly if no turn that found so
many had a message go astray. -/
theorem peak_counts_undelivered {table : SymbolTable} {config : NetworkConfig}
    {program : Nat → Program σ} {router : Router} {source : Source ρ}
    (built : Network.build table config program router source = .ok network)
    (resting : network.Resting start) (maxTicks : Nat) :
    ∃ result final, network.run maxTicks start = .ok (result, final) ∧
      (result.outcome = .completed →
        ∃ largest, IsGreatest (network.undeliveredCounts maxTicks start final) largest ∧
          largest ≤ result.stats.peakInFlight ∧ result.stats.peakInFlight ≤ largest + 1 ∧
          (result.stats.peakInFlight = largest ↔ ∀ turn ∈ network.history maxTicks start,
            turn.Astray network → turn.before.undelivered < largest)) := by
  obtain ⟨-, valid, rfl⟩ := build_eq_ok.mp built
  have sound := resting.sound valid
  obtain ⟨result, final, ran, ends⟩ := run_ends valid sound maxTicks
  exact ⟨result, final, ran, ends.exists_largest valid sound⟩

/-- Two nodes that send to each other in every tick. No message goes astray, and the peak of three
ticks is the number of messages left at their end. -/
theorem peak_counts_undelivered_pair :
    ∃ (network : Network Nat Unit) (result : RunResult) (final : State Nat Unit),
      Network.build .standard { nodeCount := 2 }
          (fun _ => .ofView fun _ => .requestSend fun _ => .done .continue) Router.ring
          (Source.cycle [1, 3]) = .ok network ∧
        network.run 3 (network.initial 0 ()) = .ok (result, final) ∧
        result.outcome = .completed ∧ result.stats.peakInFlight = 4 ∧
        IsGreatest (network.undeliveredCounts 3 (network.initial 0 ()) final) 4 := by
  let network : Network Nat Unit :=
    ⟨.standard, { nodeCount := 2 }, fun _ => .ofView fun _ => .requestSend fun _ => .done .continue,
      Router.ring, Source.cycle [1, 3]⟩
  have built : Network.build network.table network.config network.program network.router
      network.source = .ok network := rfl
  have evaluated : (network.run 3 (network.initial 0 ())).map (fun ended =>
      (ended.1.outcome, ended.1.stats.peakInFlight)) = .ok (.completed, 4) := by
    decide +kernel
  have pairs : ∀ turn ∈ network.history 3 (network.initial 0 ()), turn.before.nodes.size = 2 := by
    decide +kernel
  obtain ⟨result, final, ran, measured⟩ := peak_counts_undelivered built (.initial 0 ()) 3
  rw [ran] at evaluated
  obtain ⟨completed, peak⟩ := Prod.mk.inj (Except.ok.inj evaluated)
  obtain ⟨largest, greatest, -, -, same⟩ := measured completed
  have settled : result.stats.peakInFlight = largest := by
    refine same.mpr fun turn listed astray => ?_
    -- on a ring of two a message goes to the other node
    obtain ⟨stepped, slot, posts⟩ := astray.posts
    obtain ⟨message, -, nowhere⟩ := posts.resolved
    rw [pairs turn listed] at nowhere
    have next : (turn.index + 1) % 2 ∈ network.destinations turn.index message.payload 2 :=
      List.mem_filter.mpr ⟨List.mem_singleton_self _, decide_eq_true (Nat.mod_lt _ (by decide))⟩
    rw [nowhere] at next
    cases next
  rw [← settled, peak] at greatest
  exact ⟨network, result, final, built, ran, completed, peak, greatest⟩

/-- A node that is alone on its ring sends to nobody. No message is ever undelivered, but the peak
is one. -/
theorem peak_counts_stray :
    ∃ (bytecode : Bytecode) (network : Network Nat Unit) (result : RunResult)
      (final : State Nat Unit),
      Bytecode.flood .standard = .ok bytecode ∧
        Network.build .standard { nodeCount := 1 } (fun _ => bytecode.program) Router.ring
          (Source.cycle [1]) = .ok network ∧
        network.run 1 (network.initial 0 ()) = .ok (result, final) ∧
        result.outcome = .completed ∧ result.stats.peakInFlight = 1 ∧
        IsGreatest (network.undeliveredCounts 1 (network.initial 0 ()) final) 0 := by
  obtain ⟨bytecode, made⟩ : ∃ bytecode, Bytecode.flood .standard = .ok bytecode := ⟨_, rfl⟩
  let network : Network Nat Unit :=
    ⟨.standard, { nodeCount := 1 }, fun _ => bytecode.program, Router.ring, Source.cycle [1]⟩
  have built : Network.build network.table network.config network.program network.router
      network.source = .ok network := rfl
  have evaluated : (network.run 1 (network.initial 0 ())).map (fun ended =>
      (ended.1.outcome, ended.1.stats.peakInFlight, ended.2.undelivered)) =
        .ok (.completed, 1, 0) := by
    cases made
    decide +kernel
  have between : ∀ turn ∈ network.history 1 (network.initial 0 ()), turn.before.undelivered = 0 ∧
      (network.turn turn.tick turn.before turn.index).toOption.map State.undelivered = some 0 := by
    cases made
    decide +kernel
  have valid : network.table.Valid := (build_eq_ok.mp built).2.1
  have sound := initial_sound network 0 ()
  obtain ⟨result, final, ran, ends⟩ := run_ends valid sound 1
  rw [ran] at evaluated
  simp only [Except.map, Except.ok.injEq, Prod.mk.injEq] at evaluated
  obtain ⟨completed, peak, left⟩ := evaluated
  refine ⟨bytecode, network, result, final, made, built, ran, completed, peak,
    ⟨final, .inl rfl, left⟩, ?_⟩
  rintro _ ⟨state, rfl | passes, rfl⟩
  · exact Nat.le_of_eq left
  · refine passes.undelivered_le fun turn listed => ?_
    obtain ⟨occurs, inside⟩ := ends.occurs_of_mem listed
    obtain ⟨scene, depicts⟩ := occurs.depicts valid sound
    obtain ⟨node, found⟩ := depicts.found (depicts.sound.count ▸ inside)
    obtain ⟨before, turned⟩ := between turn listed
    obtain ⟨after, known, cleared⟩ := Option.map_eq_some_iff.mp turned
    have within := turn.within valid depicts found (toOption_eq_some_iff.mp known)
    rwa [before, cleared] at within

end Lockstep.Network
