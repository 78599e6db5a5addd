import Lockstep.Proofs.Delivery.Ownership
import Lockstep.Proofs.Network.Plain

/-!
A node's step is the step of its station.

`Node.portray` puts the messages in place of the slots of a node's queue. Every part of a step is
shown to do to the portrait what the plain step does, to use up and give back exactly the buffers it
should, and never to break a contract; `Node.Shows` collects this and `Node.step_shows` says it of
the whole step.
-/
namespace Lockstep.Node

variable {σ : Type} {table : SymbolTable} {node : Node} {pool : Pool} {others : List Nat}

/-- The node with the messages themselves in its queue. -/
def portray (pool : Pool) (node : Node) : Station where
  place := node.place
  memory := node.memory
  inbox := node.pending.map pool.letter
  state := node.state
  idle := node.idle
  sent := node.sent
  received := node.received
  dropped := node.dropped
  last := node.last

/-- A node that has begun, fits its table and has nothing in its outbox. -/
structure Sound (table : SymbolTable) (node : Node) : Prop where
  fits : node.memory.Fits table
  begun : node.state ≠ .uninitialized
  posted : node.outbox = none

/-- The node with a message in its outbox. -/
def posted (node : Node) (slot : Nat) : Node :=
  { node with outbox := some slot, sent := node.sent + 1 }

/-- The node once it has halted. -/
def halted (node : Node) : Node :=
  { node with
    state := .terminated, pending := [], dropped := node.dropped + node.pending.length }

/-- The portrait depends on the pool through the node's own messages alone. -/
theorem portray_congr {after : Pool} (kept : Pool.Keeps node.pending pool after) :
    node.portray after = node.portray pool := by
  simp only [portray, kept.map_letter fun _ member => member]

theorem portray_running (ready : node.state = .ready) :
    (node.portray pool).isTerminated = false := by
  simp [Station.isTerminated, portray, ready]

/-- Consuming a message: it leaves the queue for memory and its buffer goes back to the pool. -/
theorem consume_shows (valid : table.Valid) (sound : node.Sound table)
    (owned : pool.Holds (node.pending ++ others)) (sized : pool.payloadSize = table.payloadSize) :
    ∃ fed after, node.consume table pool =
        .ok (if node.pending = [] then .unchanged else .changed, fed, after) ∧
      fed.portray after = (node.portray pool).consume table ∧ fed.Sound table ∧
      fed.place = node.place ∧ after.Holds (fed.pending ++ others) ∧
      Pool.Keeps (fed.pending ++ others) pool after ∧ after.peak = pool.peak ∧
      after.inUse = pool.inUse - min 1 node.pending.length := by
  cases queue : node.pending with
  | nil =>
    refine ⟨node, pool, by simp [consume, queue], by simp [portray, queue, Station.consume],
      sound, rfl, owned, .refl _ _, rfl, by simp⟩
  | cons slot rest =>
    rw [queue, List.cons_append] at owned
    have member : slot ∈ slot :: (rest ++ others) := List.mem_cons_self
    have length : (pool.letter slot).payload.size = table.receive.length :=
      (owned.payload_size member).trans (sized.trans valid.payloadSize_eq)
    obtain ⟨after, released, afterOwned, kept, peak⟩ := Pool.Holds.release owned
    refine ⟨{ node with
      memory := node.memory.accept table (pool.letter slot).payload
      pending := rest, received := node.received + 1 }, after, ?_, ?_,
      ⟨sound.fits.accept valid length, sound.begun, sound.posted⟩, rfl, afterOwned, kept, peak, ?_⟩
    · simp [consume, queue, owned.message_eq member, Memory.deliver_eq valid sound.fits length,
        released, bind, Except.bind, pure, Except.pure]
    · have letters := kept.map_letter fun _ => List.mem_append_left others
      simp only [portray, queue, Station.consume, List.map_cons, letters]
    · have before := owned.inUse
      have now := afterOwned.inUse
      simp only [List.length_cons] at before ⊢
      omega

/-- Posting a message fills a fresh buffer with the words to send. -/
theorem post_shows (valid : table.Valid) (sound : node.Sound table)
    (owned : pool.Holds (node.pending ++ others)) (sized : pool.payloadSize = table.payloadSize)
    (room : pool.inUse < pool.capacity) :
    ∃ slot after, node.post table pool =
        .ok (some (node.posted slot, after)) ∧
      after.Holds (slot :: (node.pending ++ others)) ∧
      Pool.Keeps (node.pending ++ others) pool after ∧
      after.letter slot = ⟨node.memory.outgoing table, node.place.index, 0, 0⟩ ∧
      after.peak = max pool.peak (pool.inUse + 1) := by
  obtain ⟨slot, fresh, handed, freshOwned, kept, blank, peak⟩ := owned.allocate room
  have freshSize : (fresh.letter slot).payload.size = table.payloadSize :=
    (freshOwned.payload_size List.mem_cons_self).trans (kept.payloadSize.trans sized)
  have size := Memory.size_outgoing valid sound.fits
  obtain ⟨after, written, afterOwned, keptAfter, content, samePeak⟩ :=
    freshOwned.setMessage { fresh.letter slot with
      payload := node.memory.outgoing table, source := node.place.index }
      (size.trans (kept.payloadSize.trans sized).symm)
  refine ⟨slot, after, ?_, afterOwned, kept.trans keptAfter, ?_, ?_⟩
  · simp [post, posted, handed, Memory.payload_eq valid sound.fits,
      freshOwned.message_eq List.mem_cons_self, freshSize, size, written, bind, Except.bind, pure,
      Except.pure]
  · rw [content, blank]
    rfl
  · rw [samePeak, peak, ← owned.inUse]

theorem post_full (full : pool.capacity ≤ pool.inUse) : node.post table pool = .ok none := by
  simp [post, Pool.allocate_full full, bind, Except.bind, pure, Except.pure]

/-- Halting gives the buffers of the queue back. `outgoing` holds what has just been posted. -/
theorem terminate_shows {outgoing : List Nat}
    (owned : pool.Holds (outgoing ++ (node.pending ++ others))) :
    ∃ after, node.terminate pool = .ok (node.halted, after) ∧
      after.Holds (outgoing ++ others) ∧ Pool.Keeps (outgoing ++ others) pool after ∧
      after.peak = pool.peak := by
  have reordered : (outgoing ++ (node.pending ++ others)).Perm
      (node.pending ++ (outgoing ++ others)) := by
    rw [← List.append_assoc, ← List.append_assoc]
    exact List.perm_append_comm.append_right others
  obtain ⟨after, released, afterOwned, kept, peak⟩ := (owned.perm reordered).releaseAll
  exact ⟨after, by simp [terminate, halted, released, bind, Except.bind, pure, Except.pure],
    afterOwned, kept, peak⟩

/-- Once a message, if there is one, is in the outbox, a halt takes effect or not. Whatever comes
`next` starts from what that leaves. -/
theorem last_shows (owned : pool.Holds (node.outbox.toList ++ (node.pending ++ others)))
    (begun : node.state ≠ .uninitialized) (halts : Bool) :
    ∃ last after,
      (∀ {α : Type} (next : Node → Pool → Except Breach α),
        (if halts then (node.terminate pool).bind fun ended => next ended.1 ended.2
          else next node pool) = next last after) ∧
      last.portray after =
        (if halts then (node.portray pool).terminate else node.portray pool) ∧
      last.place = node.place ∧ last.memory = node.memory ∧ last.outbox = node.outbox ∧
      last.state ≠ .uninitialized ∧
      after.Holds (node.outbox.toList ++ (last.pending ++ others)) ∧
      Pool.Keeps (node.outbox.toList ++ others) pool after ∧ after.peak = pool.peak := by
  cases halts with
  | false =>
    exact ⟨node, pool, fun _ => rfl, rfl, rfl, rfl, rfl, begun, owned, .refl _ _, rfl⟩
  | true =>
    obtain ⟨after, ended, afterOwned, kept, peak⟩ := terminate_shows owned
    refine ⟨node.halted, after, fun next => by rw [ended]; rfl, ?_, rfl, rfl, rfl,
      by simp [halted], afterOwned, kept, peak⟩
    simp [halted, portray, Station.terminate]

/-- A step `after` of a node that shows the plain step `plain`. The buffers in use are those of
`others` and of the node itself; `used` is how many there were once a message was consumed. -/
structure Shows (table : SymbolTable) (others : List Nat) (node : Node) (before : Pool)
    (used : Nat) (after : Node.Stepped σ) (plain : Station.Stepped σ) : Prop where
  outcome : after.outcome = plain.outcome
  shared : after.shared = plain.shared
  station : after.node.portray after.pool = plain.station
  place : after.node.place = node.place
  fits : after.node.memory.Fits table
  begun : after.node.state ≠ .uninitialized
  owned : after.pool.Holds (after.node.outbox.toList ++ (after.node.pending ++ others))
  kept : Pool.Keeps others before after.pool
  outgoing : after.node.outbox.map after.pool.letter =
    plain.outgoing.map fun payload => ⟨payload, node.place.index, 0, 0⟩
  peak : after.pool.peak =
    if plain.outgoing.isSome then max before.peak (used + 1) else before.peak

/-- What a step combines its outcome from. -/
theorem outcome_eq (table : SymbolTable) (performance : Performance σ) :
    (let consumed := if performance.consumed then StepOutcome.changed else .unchanged
      let outcome := if performance.station.memory.pending table then consumed.combine .changed
        else consumed
      if performance.sends then outcome.combine .changed else outcome) =
      performance.outcome table := by
  unfold Performance.outcome
  cases performance.consumed <;> cases performance.station.memory.pending table <;>
    cases performance.sends <;> rfl

/-- The end of a step shows the end of the plain step. -/
theorem conclude_shows (valid : table.Valid) (sound : node.Sound table)
    (owned : pool.Holds (node.pending ++ others)) (sized : pool.payloadSize = table.payloadSize)
    {performance : Performance σ} (portrait : performance.station = node.portray pool) :
    ∃ outcome last after,
      node.conclude table pool (if performance.consumed then .changed else .unchanged)
          performance.sends performance.halts = .ok (outcome, last, after) ∧
        Shows table others node pool pool.inUse ⟨outcome, last, after, performance.shared⟩
          (Station.conclude table (decide (pool.capacity ≤ pool.inUse)) performance) := by
  have change := Memory.hasPendingChange_eq valid sound.fits
  have outcome := outcome_eq table performance
  have memory : performance.station.memory = node.memory := congrArg Station.memory portrait
  rw [memory] at outcome
  cases sends : performance.sends with
  | false =>
    simp only [sends, Bool.false_eq_true, if_false] at outcome
    have nothing : node.outbox.toList = [] := by rw [sound.posted]; rfl
    obtain ⟨last, after, ended, lastPortrait, place, same, outbox, begun, afterOwned, kept, peak⟩ :=
      last_shows (show pool.Holds (node.outbox.toList ++ (node.pending ++ others)) by
        rwa [nothing]) sound.begun performance.halts
    refine ⟨performance.outcome table, last.settle (performance.outcome table), after, ?_, ?_⟩
    · simp only [conclude, change, outcome, bind, Except.bind, pure, Except.pure,
        Bool.false_eq_true, if_false]
      exact ended fun node pool =>
        .ok (performance.outcome table, node.settle (performance.outcome table), pool)
    · rw [nothing] at kept afterOwned
      simp only [Station.conclude, sends, Bool.false_and, Bool.false_eq_true, if_false, portrait]
      refine ⟨rfl, rfl, congrArg (Station.settle · _) lastPortrait, place, ?_, begun, ?_, kept, ?_,
        peak⟩
      · exact (congrArg (Memory.Fits table) same).mpr sound.fits
      · simpa only [settle, finish, outbox, nothing] using afterOwned
      · simp only [settle, finish, outbox, sound.posted, Option.map_none]
  | true =>
    simp only [sends, if_true] at outcome
    by_cases full : pool.capacity ≤ pool.inUse
    · refine ⟨.failed .poolExhausted, node.finish (.failed .poolExhausted), pool, ?_, ?_⟩
      · simp only [conclude, change, post_full full, bind, Except.bind, pure, Except.pure, if_true]
      · simp only [Station.conclude, sends, full, decide_true, Bool.and_self, if_true, portrait]
        exact ⟨rfl, rfl, rfl, rfl, sound.fits, sound.begun, by simpa [finish, sound.posted],
          .refl _ _, by simp [finish, sound.posted], rfl⟩
    · obtain ⟨slot, fresh, handed, freshOwned, freshKept, content, freshPeak⟩ :=
        post_shows valid sound owned sized (Nat.lt_of_not_le full)
      obtain ⟨last, after, ended, lastPortrait, place, same, outbox, begun, afterOwned, kept,
        peak⟩ := last_shows (show fresh.Holds ((node.posted slot).outbox.toList ++
          ((node.posted slot).pending ++ others)) from freshOwned) sound.begun performance.halts
      refine ⟨performance.outcome table, last.settle (performance.outcome table), after, ?_, ?_⟩
      · simp only [conclude, change, handed, outcome, bind, Except.bind, pure, Except.pure, if_true]
        exact ended fun node pool =>
          .ok (performance.outcome table, node.settle (performance.outcome table), pool)
      · have letters := freshKept.map_letter fun _ => List.mem_append_left others
        have posted : (node.posted slot).portray fresh =
            { node.portray pool with sent := node.sent + 1 } := by
          simp only [Node.posted, portray, letters]
        have keptSlot := kept.letters slot List.mem_cons_self
        rw [posted] at lastPortrait
        simp only [Station.conclude, sends, full, decide_false, Bool.and_false, Bool.false_eq_true,
          if_false, if_true, portrait]
        refine ⟨rfl, rfl, congrArg (Station.settle · _) lastPortrait, place, ?_, begun, ?_, ?_, ?_,
          peak.trans freshPeak⟩
        · exact (congrArg (Memory.Fits table) same).mpr sound.fits
        · simpa only [settle, finish, outbox] using afterOwned
        · exact (freshKept.mono fun _ => List.mem_append_right _).trans
            (kept.mono fun _ => List.mem_append_right _)
        · simp [settle, finish, outbox, Node.posted, keptSlot, content, portray]

/-- The step of a node shows the step of its station. -/
theorem step_shows (valid : table.Valid) (program : Program σ) (shared : σ)
    (sound : node.Sound table) (owned : pool.Holds (node.pending ++ others))
    (sized : pool.payloadSize = table.payloadSize) :
    let used := pool.inUse - min 1 node.pending.length
    ∃ stepped, node.step table program pool shared = .ok stepped ∧
      Shows table others node pool used stepped
        ((node.portray pool).step table program (decide (pool.capacity ≤ used)) shared) := by
  intro used
  cases life : node.state with
  | uninitialized => exact absurd life sound.begun
  | terminated =>
    refine ⟨⟨.unchanged, node.settle .unchanged, pool, shared⟩, by simp [step, life], ?_⟩
    have halted : (node.portray pool).isTerminated = true := by
      simp [Station.isTerminated, portray, life]
    rw [Station.step, if_pos halted]
    exact ⟨rfl, rfl, rfl, rfl, sound.fits, sound.begun, by simpa [settle, finish, sound.posted],
      .refl _ _, by simp [settle, finish, sound.posted], rfl⟩
  | ready =>
    obtain ⟨fed, after, taken, portrait, fedSound, fedPlace, fedOwned, kept, peak, inUse⟩ :=
      consume_shows valid sound owned sized
    have running : (node.portray pool).isTerminated = false := portray_running life
    rw [Station.step, if_neg (by simp [running])]
    generalize played : (program node.place shared).play table (fed.memory.roll table) false = left
    have ran := Interaction.run_eq valid (program node.place shared) fedSound.fits.roll false
    have fits := Interaction.play_fits (program node.place shared) fedSound.fits.roll false
    rw [played] at ran fits
    obtain ⟨⟨shared', signal⟩, memory, requested⟩ := left
    let acted : Node := { fed with memory }
    have performed : (node.portray pool).perform table program shared =
        ⟨!node.pending.isEmpty, acted.portray after, shared', signal, requested⟩ := by
      have inputs : (program (node.portray pool).place shared).play table
          (((node.portray pool).consume table).memory.roll table) false =
          ((shared', signal), memory, requested) := by
        rw [← portrait]
        exact played
      have queue : (node.portray pool).inbox.isEmpty = node.pending.isEmpty := List.isEmpty_map
      simp only [Station.perform, inputs, queue]
      rw [← portrait]
      rfl
    have consumed : (if node.pending = [] then StepOutcome.unchanged else .changed) =
        if !node.pending.isEmpty then .changed else .unchanged := by
      cases node.pending <;> rfl
    have actedSound : acted.Sound table := ⟨fits, fedSound.begun, fedSound.posted⟩
    have keptOthers : Pool.Keeps others pool after := kept.mono fun _ => List.mem_append_right _
    rw [performed]
    rw [← fedPlace] at ran
    by_cases faulted : ∃ fault, signal = .fault fault
    · obtain ⟨fault, rfl⟩ := faulted
      refine ⟨⟨.failed (.fault fault), acted.finish (.failed (.fault fault)), after, shared'⟩, ?_, ?_⟩
      · simp only [step, life, taken, ran, bind, Except.bind, pure, Except.pure, acted]
      · exact ⟨rfl, rfl, rfl, fedPlace, fits, fedSound.begun,
          by simpa [finish, acted, fedSound.posted] using fedOwned, keptOthers,
          by simp [finish, acted, fedSound.posted], peak⟩
    · obtain ⟨outcome, last, ended, concluded, shows⟩ := conclude_shows valid actedSound fedOwned
        (kept.payloadSize.trans sized)
        (show (Performance.mk (!node.pending.isEmpty) (acted.portray after) shared' signal
          requested).station = acted.portray after from rfl)
      rw [kept.capacity, inUse] at shows
      simp only [Performance.sends, Performance.halts, ← consumed] at concluded
      have whole : Shows table others node pool used ⟨outcome, last, ended, shared'⟩
          (Station.conclude table (decide (pool.capacity ≤ used))
            ⟨!node.pending.isEmpty, acted.portray after, shared', signal, requested⟩) :=
        ⟨shows.outcome, shows.shared, shows.station, shows.place.trans fedPlace, shows.fits,
          shows.begun, shows.owned, keptOthers.trans shows.kept, fedPlace ▸ shows.outgoing,
          peak ▸ shows.peak⟩
      refine ⟨⟨outcome, last, ended, shared'⟩, ?_, ?_⟩
      · cases signal with
        | fault fault => exact absurd ⟨fault, rfl⟩ faulted
        | «continue» | send | halt =>
          simp only [step, life, taken, ran, bind, Except.bind, pure, Except.pure]
          simp only [acted] at concluded
          rw [concluded]
      · cases signal with
        | fault fault => exact absurd ⟨fault, rfl⟩ faulted
        | «continue» | send | halt => exact whole

end Lockstep.Node
