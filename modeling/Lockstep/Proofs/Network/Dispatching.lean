import Lockstep.Proofs.Network.Depiction
import Lockstep.Proofs.Network.Effects

/-!
Sending a message is sending its words.

`scheduleCopies` makes copies of a buffer one by one and may run out of buffers on the way;
`plainSend` says at once which messages go out and whether that fails. The two are shown to agree by
going through the destinations, with the original buffer as the one `outgoing` all along.
-/
namespace Lockstep.Network

variable {ρ σ : Type} {network : Network ρ σ} {state : State ρ σ} {scene : Scene ρ σ}
  {outgoing : List Nat} {tick sender slot destination : Nat} {payload : Cells}

@[simp] theorem guarded_ok {α : Type} (result : α) :
    guarded (.ok result) = (.ok result : Stoppable ρ σ α) := rfl

@[simp] theorem guarded_error {α : Type} (breach : Breach) :
    guarded (.error breach) = (.error (.breach breach) : Stoppable ρ σ α) := rfl

/-- Work on a state and on its scene comes to the same: a state that the scene shows, or a failure
of the same node with the same cause, or neither has broken a contract. -/
def Refines (network : Network ρ σ) :
    Stoppable ρ σ (State ρ σ) → Except (Failure ρ σ) (Scene ρ σ) → Prop
  | .ok state, .ok scene => Depicts network [] state scene
  | .error (.failure state node cause), .error failure =>
    Depicts network [] state failure.scene ∧ node = failure.node ∧ cause = failure.cause
  | _, _ => False

theorem Refines.of_ok {after : State ρ σ} {plain : Except (Failure ρ σ) (Scene ρ σ)}
    (refines : Refines network (.ok after) plain) :
    ∃ scene, plain = .ok scene ∧ Depicts network [] after scene := by
  cases plain with
  | ok scene => exact ⟨scene, rfl, refines⟩
  | error failure => exact refines.elim

theorem Refines.of_failure {after : State ρ σ} {node : Nat} {cause : FailureCause}
    {plain : Except (Failure ρ σ) (Scene ρ σ)}
    (refines : Refines network (.error (.failure after node cause)) plain) :
    ∃ failure, plain = .error failure ∧ Depicts network [] after failure.scene ∧
      node = failure.node ∧ cause = failure.cause := by
  cases plain with
  | ok scene => exact refines.elim
  | error failure => exact ⟨failure, rfl, refines⟩

theorem Refines.not_breach {breach : Breach} {plain : Except (Failure ρ σ) (Scene ρ σ)} :
    ¬ Refines network (.error (.breach breach)) plain := by
  cases plain <;> exact id

/-- Work that succeeds on the scene succeeds. -/
theorem Refines.exists_ok {work : Stoppable ρ σ (State ρ σ)}
    {plain : Except (Failure ρ σ) (Scene ρ σ)} (refines : Refines network work plain)
    (known : plain = .ok scene) : ∃ after, work = .ok after ∧ Depicts network [] after scene := by
  subst known
  cases work with
  | ok after => exact ⟨after, rfl, refines⟩
  | error stop => cases stop <;> exact refines.elim

/-- Work that fails on the scene fails in the same way. -/
theorem Refines.exists_failure {work : Stoppable ρ σ (State ρ σ)}
    {plain : Except (Failure ρ σ) (Scene ρ σ)} {failure : Failure ρ σ}
    (refines : Refines network work plain) (known : plain = .error failure) :
    ∃ after, work = .error (.failure after failure.node failure.cause) ∧
      Depicts network [] after failure.scene := by
  subst known
  cases work with
  | ok after => exact refines.elim
  | error stop =>
    cases stop with
    | breach breach => exact refines.elim
    | failure after node cause =>
      obtain ⟨depicts, rfl, rfl⟩ := refines
      exact ⟨after, rfl, depicts⟩

/-- Work that refines can be followed by more. -/
theorem Refines.bind {work : Stoppable ρ σ (State ρ σ)}
    {plain : Except (Failure ρ σ) (Scene ρ σ)} {next : State ρ σ → Stoppable ρ σ (State ρ σ)}
    {plainNext : Scene ρ σ → Except (Failure ρ σ) (Scene ρ σ)}
    (refines : Refines network work plain)
    (later : ∀ (state : State ρ σ) (scene : Scene ρ σ), Depicts network [] state scene →
      Refines network (next state) (plainNext scene)) :
    Refines network (work >>= next) (plain >>= plainNext) := by
  cases work with
  | ok after =>
    obtain ⟨scene, rfl, depicts⟩ := refines.of_ok
    exact later after scene depicts
  | error stop =>
    cases stop with
    | breach breach => exact refines.not_breach.elim
    | failure after node cause =>
      obtain ⟨failure, rfl, facts⟩ := refines.of_failure
      exact facts

/-! ### Plain sends, one destination at a time -/

theorem post_nil : network.post tick sender payload [] scene = scene := by
  simp [post, address]

theorem post_cons (rest : List Nat) :
    network.post tick sender payload (destination :: rest) scene =
      network.post tick sender payload rest
        (network.post tick sender payload [destination] scene) := by
  simp only [post, address, List.append_assoc, List.singleton_append, List.length_cons,
    List.length_nil, Nat.zero_add, Nat.add_assoc, Nat.add_comm 1]

theorem post_mark (destinations : List Nat) (used : Nat) :
    network.post tick sender payload destinations (scene.mark used) =
      (network.post tick sender payload destinations scene).mark used := rfl

@[simp] theorem live_mark (used : Nat) : (scene.mark used).live = scene.live := rfl

@[simp] theorem live_post (destinations : List Nat) :
    (network.post tick sender payload destinations scene).live =
      scene.live + destinations.length := by
  simp only [Scene.live, post, List.length_append, length_address]
  omega

theorem mark_mark (first second : Nat) (le : first ≤ second) :
    (scene.mark first).mark second = scene.mark second := by
  simp only [Scene.mark]
  congr 1
  omega

/-- With room for one more message than the first, the first goes out and then the rest. -/
theorem plainSend_cons {next : Nat} {rest : List Nat} (room : 2 ≤ network.room scene) :
    network.plainSend tick sender payload (destination :: next :: rest) scene =
      network.plainSend tick sender payload (next :: rest)
        (network.post tick sender payload [destination] (scene.mark (scene.live + 2))) := by
  have later : network.room (network.post tick sender payload [destination]
      (scene.mark (scene.live + 2))) = network.room scene - 1 := by
    simp only [Network.room, live_post, live_mark, List.length_singleton]
    omega
  simp only [plainSend, later, List.length_cons]
  by_cases enough : rest.length + 1 + 1 ≤ network.room scene
  · rw [if_pos enough, if_pos (by omega), post_cons, post_mark, post_mark, mark_mark _ _ (by
      simp only [live_mark, live_post, List.length_singleton]; omega)]
    simp only [live_mark, live_post, List.length_singleton]
    congr 2
    omega
  · rw [if_neg enough, if_neg (by omega)]
    have first : (destination :: next :: rest).take (network.room scene - 1) =
        destination :: (next :: rest).take (network.room scene - 1 - 1) := by
      rw [show network.room scene - 1 = network.room scene - 1 - 1 + 1 by omega,
        List.take_succ_cons]
      rfl
    have bound : scene.live + 2 ≤ network.config.capacity := by
      simp only [Network.room] at room
      omega
    rw [first, post_cons, post_mark, post_mark, mark_mark _ _ bound]

/-! ### Scheduling one buffer -/

theorem bound_post (bound : ∀ message ∈ scene.transit,
      message.destination < network.config.nodeCount)
    (inside : destination < network.config.nodeCount) :
    ∀ message ∈ (network.post tick sender payload [destination] scene).transit,
      message.destination < network.config.nodeCount := by
  intro message member
  simp only [post, address, List.mem_append, List.mem_singleton] at member
  rcases member with old | rfl
  · exact bound message old
  · exact inside

/-- A buffer taken out is addressed and then waits in the schedule. -/
theorem Depicts.scheduleOne (tick : Nat)
    (depicts : Depicts network (slot :: outgoing) state scene)
    (content : (state.pool.letter slot).payload = payload)
    (source : (state.pool.letter slot).source = sender)
    (inside : destination < network.config.nodeCount) :
    ∃ after, network.scheduleOne tick slot destination state = .ok after ∧
      Depicts network outgoing after (network.post tick sender payload [destination] scene) ∧
      (∀ other ∈ outgoing, after.pool.letter other = state.pool.letter other) := by
  let drawn := network.source.draw state.random network.config.minDelay network.config.maxDelay
  let arrival := min (tick + drawn.1) lastTick
  let sent : Message := ⟨payload, sender, destination, arrival⟩
  have owned : state.pool.Holds (slot :: (outgoing ++ state.held)) := depicts.sound.owned
  have readable := owned.message_eq List.mem_cons_self
  have addressed : ({ state.pool.letter slot with destination, arrival } : Message) = sent := by
    simp only [content, source, sent]
  have fits : sent.payload.size = state.pool.payloadSize := by
    rw [← owned.payload_size List.mem_cons_self, content]
  obtain ⟨pool, written, poolOwned, kept, letter, peak⟩ := owned.setMessage sent fits
  obtain ⟨tidy, slotsAt, slots⟩ := depicts.sound.tidy.schedule arrival slot
  have keptHeld : Pool.Keeps state.held state.pool pool :=
    kept.mono fun _ => List.mem_append_right _
  refine ⟨{ state with
    pool, random := drawn.2
    schedule := state.schedule.schedule arrival slot
    tally := { state.tally with sent := state.tally.sent + 1 } }, ?_, ?_, ?_⟩
  · simp only [Network.scheduleOne, readable, addressed, written, bind, Except.bind, pure,
      Except.pure, drawn, arrival]
  · have listed : pool.Holds ((slot :: outgoing) ++ state.held) := poolOwned
    have moved := depicts.setPool listed keptHeld
    have heldAfter : (outgoing ++ ((state.schedule.schedule arrival slot).slots ++
        state.nodes.toList.flatMap (·.pending))).Perm (slot :: (outgoing ++ state.held)) := by
      refine ((slots.append_right _).append_left outgoing).trans ?_
      exact List.perm_middle
    refine ⟨⟨poolOwned.perm heldAfter.symm, tidy, moved.sound.capacity, moved.sound.payloadSize,
      moved.sound.count, moved.sound.place, moved.sound.fits, moved.sound.posted⟩, moved.begun,
      moved.stations, ?_, ?_, bound_post depicts.bound inside, depicts.peak.trans peak.symm, ?_,
      depicts.shared, ?_⟩
    · intro probe
      have waited : (state.schedule.slotsAt probe).map pool.letter =
          scene.transit.filter (·.arrival == probe) := moved.due probe
      have transit : (network.post tick sender payload [destination] scene).transit =
          scene.transit ++ [sent] := by
        simp only [post, address, depicts.random]
        rfl
      have alone : [sent].filter (·.arrival == probe) = if probe = arrival then [sent] else [] := by
        by_cases same : probe = arrival
        · simp [sent, same]
        · simp [sent, same, Ne.symm same]
      rw [slotsAt, transit, List.filter_append, alone]
      split
      · rw [List.map_append, waited, List.map_singleton, letter]
      · rw [waited, List.append_nil]
    · have one : (state.schedule.schedule arrival slot).inFlight = state.schedule.inFlight + 1 :=
        rfl
      simp only [one, depicts.waiting, post, List.length_append, length_address,
        List.length_singleton]
    · simp only [post, address, depicts.random, drawn]
    · simp only [post, depicts.tally, List.length_singleton]
  · exact fun other member => kept.letters other (List.mem_append_left _ member)

/-! ### Scheduling the copies -/

theorem mark_of_le {used : Nat} (seen : used ≤ scene.peak) : scene.mark used = scene := by
  simp only [Scene.mark, Nat.max_eq_left seen]

/-- The buffer taken out counts among those in use. -/
theorem Depicts.seen (depicts : Depicts network [slot] state scene) :
    scene.live + 1 ≤ scene.peak := by
  have marked := depicts.sound.owned.marked
  rw [depicts.inUse, List.length_singleton, Nat.add_comm] at marked
  exact depicts.peak ▸ marked

/-- Giving a buffer back that was taken out. -/
theorem Depicts.release (depicts : Depicts network (slot :: outgoing) state scene) :
    ∃ after, state.pool.release slot = .ok after ∧ after.capacity = network.config.capacity ∧
      Depicts network outgoing { state with pool := after } scene ∧
      (∀ other ∈ outgoing, after.letter other = state.pool.letter other) := by
  have listed : state.pool.Holds (slot :: (outgoing ++ state.held)) := depicts.sound.owned
  obtain ⟨after, released, owned, kept, peak⟩ := listed.release
  refine ⟨after, released, kept.capacity.trans depicts.sound.capacity, ?_, ?_⟩
  · have shown := depicts.setPool owned (kept.mono fun _ => List.mem_append_right _)
    rwa [peak, ← depicts.peak] at shown
  · exact fun other member => kept.letters other (List.mem_append_left _ member)

/-- Copying the buffer that was taken out, if there is room for it. -/
theorem Depicts.duplicate (depicts : Depicts network [slot] state scene)
    (room : state.pool.inUse < state.pool.capacity) :
    ∃ copy after, state.pool.duplicate slot = .ok (some (copy, after)) ∧
      Depicts network [copy, slot] { state with pool := after }
        (scene.mark (scene.live + 2)) ∧
      (after.letter copy).payload = (state.pool.letter slot).payload ∧
      (after.letter copy).source = (state.pool.letter slot).source ∧
      after.letter slot = state.pool.letter slot := by
  have owned : state.pool.Holds (slot :: state.held) := depicts.sound.owned
  obtain ⟨copy, after, copied, afterOwned, kept, content, peak⟩ := owned.duplicate room
  refine ⟨copy, after, copied, ?_, by rw [content], by rw [content],
    kept.letters slot List.mem_cons_self⟩
  have count : state.held.length = scene.live := by
    have total := depicts.inUse
    rw [owned.inUse, List.length_cons, List.length_singleton] at total
    omega
  have shown := depicts.setPool (show after.Holds ([copy, slot] ++ state.held) from afterOwned)
    (kept.mono fun _ => List.mem_cons_of_mem _)
  rwa [peak, count, ← depicts.peak] at shown

/-- The words of a buffer go to every destination. The buffer itself goes to the last. -/
theorem scheduleCopies_refines (tick : Nat) {destinations : List Nat}
    (inside : ∀ destination ∈ destinations, destination < network.config.nodeCount)
    (depicts : Depicts network [slot] state scene)
    (content : (state.pool.letter slot).payload = payload)
    (source : (state.pool.letter slot).source = sender) :
    Refines network (network.scheduleCopies tick sender slot destinations state)
      (network.plainSend tick sender payload destinations scene) := by
  induction destinations generalizing state scene with
  | nil =>
    obtain ⟨after, released, -, shown, -⟩ := depicts.release
    simp only [scheduleCopies, released, guarded_ok, bind, Except.bind, pure,
      Except.pure, plainSend, Refines, post_nil, List.length_nil, Nat.add_zero]
    rwa [mark_of_le (Nat.le_of_succ_le depicts.seen)]
  | cons destination rest ih =>
    have owned : state.pool.Holds (slot :: state.held) := depicts.sound.owned
    have inUse : state.pool.inUse = scene.live + 1 := by
      rw [depicts.inUse, List.length_singleton, Nat.add_comm]
    have capacity := depicts.sound.capacity
    have bounded : scene.live + 1 ≤ network.config.capacity :=
      inUse ▸ capacity ▸ Nat.le_trans owned.marked owned.bounded
    obtain ⟨here, later⟩ := List.forall_mem_cons.mp inside
    cases rest with
    | nil =>
      obtain ⟨after, scheduled, shown, -⟩ := depicts.scheduleOne tick content source here
      have room : [destination].length ≤ network.room scene := by
        simp only [List.length_singleton, Network.room]
        omega
      simp only [scheduleCopies, scheduled, guarded_ok, plainSend, if_pos room,
        Refines]
      have marked : scene.live + [destination].length ≤
          (network.post tick sender payload [destination] scene).peak := depicts.seen
      rwa [mark_of_le marked]
    | cons next rest =>
      by_cases full : state.pool.capacity ≤ state.pool.inUse
      · obtain ⟨after, released, afterCapacity, shown, -⟩ := depicts.release
        have room : network.room scene = 1 := by
          rw [capacity, inUse] at full
          simp only [Network.room]
          omega
        have short : ¬ (destination :: next :: rest).length ≤ network.room scene := by
          simp only [List.length_cons, room]
          omega
        have reached : network.config.capacity ≤ scene.peak :=
          Nat.le_trans (inUse ▸ capacity ▸ full) depicts.seen
        rw [plainSend, if_neg short, room, Nat.sub_self, List.take_zero, post_nil,
          mark_of_le reached]
        simp only [scheduleCopies, Pool.duplicate_full full, released, guarded_ok,
          bind, Except.bind, throw, throwThe, MonadExceptOf.throw, afterCapacity]
        exact ⟨shown, rfl, rfl⟩
      · obtain ⟨copy, after, copied, copiedShown, copyContent, copySource, original⟩ :=
          depicts.duplicate (Nat.lt_of_not_le full)
        obtain ⟨sent, scheduled, shown, kept⟩ := copiedShown.scheduleOne tick
          (copyContent.trans content) (copySource.trans source) here
        have slotKept : sent.pool.letter slot = state.pool.letter slot :=
          (kept slot List.mem_cons_self).trans original
        have room : 2 ≤ network.room scene := by
          rw [capacity, inUse] at full
          simp only [Network.room]
          omega
        rw [plainSend_cons room]
        simp only [scheduleCopies, copied, scheduled, guarded_ok, bind, Except.bind]
        exact ih later shown (slotKept ▸ content) (slotKept ▸ source)

/-- A message taken out of an outbox goes where the router says. -/
theorem dispatch_refines (depicts : Depicts network [slot] state scene)
    (content : (state.pool.letter slot).payload = payload)
    (source : (state.pool.letter slot).source = sender) :
    Refines network (network.dispatch tick sender slot state)
      (network.plainDispatch tick sender payload scene) := by
  have owned : state.pool.Holds (slot :: state.held) := depicts.sound.owned
  have inside : ∀ destination ∈ network.destinations sender payload state.nodes.size,
      destination < network.config.nodeCount := by
    intro destination member
    rw [← depicts.sound.count]
    exact of_decide_eq_true (List.mem_filter.mp member).2
  have count : scene.stations.length = state.nodes.size :=
    depicts.length.trans depicts.sound.count.symm
  have copies := scheduleCopies_refines tick inside depicts content source
  simpa only [dispatch, owned.message_eq List.mem_cons_self, guarded_ok, bind,
    Except.bind, content, plainDispatch, count, Network.destinations] using copies

end Lockstep.Network
