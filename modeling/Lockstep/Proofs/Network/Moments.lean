import Lockstep.Proofs.Network.Built
import Lockstep.Proofs.Network.Refinement
import Lockstep.Table.Layout

/-!
What holds at every moment of every run.

A run starts from a resting state, which is the first one or one that an earlier run has left
behind, whether that failed or not. `Occurs` are the moments a run goes through. At each of them the
buffers in use are divided among the schedule and the queues of the nodes (`State.Partitioned`).
-/
namespace Lockstep.Network

variable {ρ σ : Type} {network : Network ρ σ} {state : State ρ σ} {scene : Scene ρ σ}

/-- The states between runs. -/
inductive Resting (network : Network ρ σ) : State ρ σ → Prop where
  | initial (random : ρ) (shared : σ) : Resting network (network.initial random shared)
  | rerun {start final : State ρ σ} {maxTicks : Nat} {result : RunResult} :
    Resting network start → network.run maxTicks start = .ok (result, final) →
      Resting network final

/-- A point in a tick. -/
inductive Stage where
  /-- So many nodes have had their turns. -/
  | turns (taken : Nat)
  /-- What is due in the next tick has been delivered. -/
  | delivered
  /-- A step or dispatch has failed. -/
  | stopped

/-- The moments of a run, by tick and stage, and the state at each. The start of a tick is the
moment at which no turn of it has been taken. -/
inductive Occurs (network : Network ρ σ) (start : State ρ σ) : Nat → Stage → State ρ σ → Prop where
  | first {state : State ρ σ} : network.begin start = .ok state →
      Occurs network start 0 (.turns 0) state
  | turn {number taken : Nat} {state after : State ρ σ} :
      Occurs network start number (.turns taken) state → taken < state.nodes.size →
      network.turn number state taken = .ok after →
      Occurs network start number (.turns (taken + 1)) after
  | stop {number taken node : Nat} {state after : State ρ σ} {cause : FailureCause} :
      Occurs network start number (.turns taken) state → taken < state.nodes.size →
      network.turn number state taken = .error (.failure after node cause) →
      Occurs network start number .stopped after
  | deliver {number : Nat} {state after : State ρ σ} :
      Occurs network start number (.turns state.nodes.size) state →
      deliverDue (number + 1) state = .ok after →
      Occurs network start number .delivered after
  | next {number : Nat} {state : State ρ σ} :
      Occurs network start number .delivered state →
      (state.countTick.allTerminated || network.quiescent state.countTick) = false →
      Occurs network start (number + 1) (.turns 0) state.countTick

/-- Every buffer in use is in the schedule or in one queue, and no other buffer is. -/
structure State.Partitioned (network : Network ρ σ) (state : State ρ σ) : Prop where
  outboxes : ∀ node ∈ state.nodes.toList, node.outbox = none
  /-- No buffer is held twice. -/
  disjoint : state.held.Nodup
  /-- The buffers held are those created and not free. -/
  live : ∀ slot, slot ∈ state.held ↔ slot < state.pool.slots.size ∧ slot ∉ state.pool.free
  free : state.pool.free.Nodup ∧ ∀ slot ∈ state.pool.free, slot < state.pool.slots.size
  counted : state.pool.inUse =
    state.schedule.inFlight + (state.nodes.toList.map (·.pending.length)).sum
  bounded : state.pool.inUse ≤ network.config.capacity

theorem State.Sound.partitioned (sound : state.Sound network []) : state.Partitioned network := by
  have owned : state.pool.Holds state.held := sound.owned
  have apart := List.nodup_append.mp owned.nodup_append_free
  refine ⟨sound.posted, owned.nodup, fun slot => owned.mem_iff, ⟨apart.2.1, ?_⟩, ?_, ?_⟩
  · intro slot member
    exact List.mem_range.mp (owned.partition.mem_iff.mp (List.mem_append_right _ member))
  · rw [owned.inUse, State.held, List.length_append, sound.tidy.counted, List.length_flatMap]
  · exact sound.capacity ▸ Nat.le_trans owned.marked owned.bounded

theorem initial_sound (network : Network ρ σ) (random : ρ) (shared : σ) :
    (network.initial random shared).Sound network [] := by
  have listed : ∀ node ∈ (network.initial random shared).nodes.toList,
      ∃ place, node = Node.new network.table place := by
    intro node member
    simp only [initial, Array.toList_ofFn, List.mem_ofFn] at member
    obtain ⟨index, rfl⟩ := member
    exact ⟨_, rfl⟩
  have held : (network.initial random shared).held = [] := by
    apply List.flatMap_eq_nil_iff.mpr
    intro node member
    obtain ⟨place, rfl⟩ := listed node member
    rfl
  refine ⟨?_, Schedule.tidy_empty, rfl, rfl, by simp [initial], ?_, ?_, ?_⟩
  · rw [List.nil_append, held]
    exact Pool.holds_new _ _
  · intro index node found
    obtain ⟨inside, rfl⟩ := Array.getElem?_eq_some_iff.mp found
    simp [initial, Node.new]
  · intro node member
    obtain ⟨place, rfl⟩ := listed node member
    exact Memory.fits_new _
  · intro node member
    obtain ⟨place, rfl⟩ := listed node member
    rfl

/-- Whatever runs there have been, a new one may start. -/
theorem Resting.sound (valid : network.table.Valid) (resting : network.Resting state) :
    state.Sound network [] := by
  induction resting with
  | initial random shared => exact initial_sound network random shared
  | @rerun start final maxTicks result _ ran ih =>
    obtain ⟨ended, known, shown⟩ := run_depicts valid ih maxTicks
    rw [known] at ran
    cases ran
    exact shown.sound

/-- Every moment of a run has a scene that shows it. -/
theorem Occurs.depicts (valid : network.table.Valid) {start : State ρ σ}
    (sound : start.Sound network []) {number : Nat} {stage : Stage}
    (occurs : network.Occurs start number stage state) :
    ∃ scene, Depicts network [] state scene := by
  induction occurs with
  | first begun =>
    obtain ⟨first, known, depicts⟩ := begin_depicts valid sound
    rw [known] at begun
    cases begun
    exact ⟨_, depicts⟩
  | @turn number taken before after _ inside ran ih =>
    obtain ⟨scene, depicts⟩ := ih
    have refines := turn_refines number valid depicts (depicts.sound.count ▸ inside)
    rw [ran] at refines
    obtain ⟨scene, -, shown⟩ := refines.of_ok
    exact ⟨scene, shown⟩
  | @stop number taken node before after cause _ inside ran ih =>
    obtain ⟨scene, depicts⟩ := ih
    have refines := turn_refines number valid depicts (depicts.sound.count ▸ inside)
    rw [ran] at refines
    obtain ⟨failure, -, shown, -⟩ := refines.of_failure
    exact ⟨failure.scene, shown⟩
  | @deliver number before after _ delivered ih =>
    obtain ⟨scene, depicts⟩ := ih
    obtain ⟨known, same, shown⟩ := deliverDue_depicts depicts (number + 1)
    rw [same] at delivered
    cases delivered
    exact ⟨_, shown⟩
  | next _ _ ih =>
    obtain ⟨scene, depicts⟩ := ih
    exact ⟨_, depicts.countTick⟩

/-- At every moment of every run, and before and after it, each buffer in use has one place where it
waits, and all others are free. -/
theorem buffers_partitioned {table : SymbolTable} {config : NetworkConfig}
    {program : Nat → Program σ} {router : Router} {source : Source ρ}
    (built : Network.build table config program router source = .ok network) {start : State ρ σ}
    (resting : network.Resting start) :
    start.Partitioned network ∧
      (∀ (number : Nat) (stage : Stage) (state : State ρ σ),
        network.Occurs start number stage state → state.Partitioned network) ∧
      ∀ maxTicks, ∃ result final, network.run maxTicks start = .ok (result, final) ∧
        final.Partitioned network := by
  obtain ⟨-, valid, rfl⟩ := build_eq_ok.mp built
  have sound := resting.sound valid
  refine ⟨sound.partitioned, ?_, ?_⟩
  · intro number stage state occurs
    obtain ⟨scene, depicts⟩ := occurs.depicts valid sound
    exact depicts.sound.partitioned
  · intro maxTicks
    obtain ⟨final, ran, depicts⟩ := run_depicts valid sound maxTicks
    exact ⟨_, final, ran, depicts.sound.partitioned⟩

theorem buffers_partitioned_flood :
    ∃ network : Network Nat Unit,
      Network.build .standard {}
          (fun _ => .ofView fun _ => .requestSend fun _ => .done .continue) Router.broadcast
          (Source.cycle [1, 3]) = .ok network ∧
        network.Resting (network.initial 0 ()) ∧
        (∀ (number : Nat) (stage : Stage) (state : State Nat Unit),
          network.Occurs (network.initial 0 ()) number stage state → state.Partitioned network) ∧
        ∀ maxTicks, ∃ result final,
          network.run maxTicks (network.initial 0 ()) = .ok (result, final) ∧
            final.Partitioned network := by
  let program : Program Unit := .ofView fun _ => .requestSend fun _ => .done .continue
  have built : Network.build .standard {} (fun _ => program) Router.broadcast
      (Source.cycle [1, 3]) = .ok _ := rfl
  exact ⟨_, built, .initial 0 (), (buffers_partitioned built (.initial 0 ())).2⟩

end Lockstep.Network
