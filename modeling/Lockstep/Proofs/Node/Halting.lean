import Lockstep.Proofs.Delivery.Ownership
import Lockstep.Proofs.Node.Stepping

/-!
Halting.

A node that halts gives the buffers of its queue back to the pool. From then on its steps run no
program: they do nothing but count as idle.
-/
namespace Lockstep

theorem Pool.release_eq {pool after : Pool} {slot : Nat} (released : pool.release slot = .ok after) :
    after.free = slot :: pool.free ∧ after.slots = pool.slots := by
  obtain ⟨inUse, -, same⟩ := bind_eq_ok released
  cases same
  exact ⟨rfl, rfl⟩

/-- The buffers given back are free, and so are those that were. -/
theorem Pool.releaseAll_free {slots : List Nat} {pool after : Pool}
    (released : pool.releaseAll slots = .ok after) : after.free = slots.reverse ++ pool.free := by
  induction slots generalizing pool with
  | nil =>
    cases released
    rfl
  | cons slot rest ih =>
    obtain ⟨middle, first, later⟩ := bind_eq_ok released
    rw [ih later, (release_eq first).1, List.reverse_cons, List.append_assoc]
    rfl

namespace Node

variable {σ : Type} {table : SymbolTable} {program : Program σ} {node last : Node} {pool after : Pool}
  {shared : σ}

theorem consume_kept {consumed : StepOutcome}
    (ran : node.consume table pool = .ok (consumed, last, after)) :
    last.pending = node.pending.tail ∧ last.state = node.state ∧ last.place = node.place := by
  unfold consume at ran
  split at ran
  · rename_i queue
    cases ran
    exact ⟨by rw [queue]; rfl, rfl, rfl⟩
  · rename_i slot pending queue
    obtain ⟨message, -, ran⟩ := bind_eq_ok ran
    obtain ⟨memory, -, ran⟩ := bind_eq_ok ran
    obtain ⟨released, -, ran⟩ := bind_eq_ok ran
    cases ran
    exact ⟨by rw [queue]; rfl, rfl, rfl⟩

theorem post_kept (ran : node.post table pool = .ok (some (last, after))) :
    last.pending = node.pending ∧ last.state = node.state ∧ last.memory = node.memory := by
  obtain ⟨allocated, -, ran⟩ := bind_eq_ok ran
  cases allocated with
  | none => cases ran
  | some fresh =>
    obtain ⟨payload, -, ran⟩ := bind_eq_ok ran
    obtain ⟨message, -, ran⟩ := bind_eq_ok ran
    split at ran
    · obtain ⟨written, -, ran⟩ := bind_eq_ok ran
      cases ran
      exact ⟨rfl, rfl, rfl⟩
    · cases ran

/-- The end of a step: a node that halts keeps its memory and gives back its queue. -/
theorem last_kept {result outcome : StepOutcome} {halts : Bool}
    (ran : (do
      let (node, pool) ← if halts then node.terminate pool else .ok (node, pool)
      return (result, node.settle result, pool)) = .ok (outcome, last, after)) :
    last.memory = node.memory ∧ (node.isTerminated = false → last.isTerminated = true →
      ∀ slot ∈ node.pending, slot ∈ after.free) := by
  cases halts with
  | true =>
    obtain ⟨⟨ended, endedPool⟩, terminated, ran⟩ := bind_eq_ok ran
    obtain ⟨released, given, terminated⟩ := bind_eq_ok terminated
    cases terminated
    cases ran
    refine ⟨rfl, fun _ _ slot member => ?_⟩
    rw [Pool.releaseAll_free given]
    exact List.mem_append_left _ (List.mem_reverse.mpr member)
  | false =>
    cases ran
    exact ⟨rfl, fun running halted => absurd (running.symm.trans halted) Bool.false_ne_true⟩

theorem conclude_memory {consumed outcome : StepOutcome} {sends halts : Bool}
    (ran : node.conclude table pool consumed sends halts = .ok (outcome, last, after)) :
    last.memory = node.memory := by
  obtain ⟨change, -, ran⟩ := bind_eq_ok ran
  cases sends with
  | false => exact (last_kept ran).1
  | true =>
    obtain ⟨posted, post, ran⟩ := bind_eq_ok ran
    cases posted with
    | none =>
      cases ran
      rfl
    | some both => exact (last_kept ran).1.trans (post_kept post).2.2

/-- A step that ends in a halt gives back what is left in the queue. -/
theorem conclude_releases {consumed outcome : StepOutcome} {sends halts : Bool}
    (running : node.isTerminated = false)
    (ran : node.conclude table pool consumed sends halts = .ok (outcome, last, after))
    (halted : last.isTerminated = true) : ∀ slot ∈ node.pending, slot ∈ after.free := by
  obtain ⟨change, -, ran⟩ := bind_eq_ok ran
  cases sends with
  | false => exact (last_kept ran).2 running halted
  | true =>
    obtain ⟨posted, post, ran⟩ := bind_eq_ok ran
    cases posted with
    | none =>
      cases ran
      exact absurd (running.symm.trans halted) Bool.false_ne_true
    | some both =>
      obtain ⟨queue, state, -⟩ := post_kept post
      have still : both.1.isTerminated = false :=
        (congrArg (· == Lifecycle.terminated) state).trans running
      rw [← queue]
      exact (last_kept ran).2 still halted

/-- A node that halts in its step gives back what was in its queue after the message it consumed. -/
theorem step_releases {stepped : Stepped σ} (running : node.isTerminated = false)
    (ran : node.step table program pool shared = .ok stepped)
    (halted : stepped.node.isTerminated = true) :
    ∀ slot ∈ node.pending.tail, slot ∈ stepped.pool.free := by
  unfold step at ran
  split at ran
  · cases ran
  · rename_i terminated
    rw [isTerminated, terminated] at running
    cases running
  · obtain ⟨⟨consumed, fed, fedPool⟩, taken, ran⟩ := bind_eq_ok ran
    obtain ⟨⟨⟨left, signal⟩, memory, requested⟩, -, ran⟩ := bind_eq_ok ran
    obtain ⟨queue, state, -⟩ := consume_kept taken
    have still : Node.isTerminated { fed with memory } = false :=
      (congrArg (· == Lifecycle.terminated) state).trans running
    cases signal with
    | fault fault =>
      cases ran
      exact absurd (still.symm.trans halted) Bool.false_ne_true
    | «continue» | send | halt =>
      obtain ⟨⟨outcome, last, after⟩, concluded, ran⟩ := bind_eq_ok ran
      cases ran
      have released := conclude_releases still concluded halted
      rw [← queue]
      exact released

/-- The step of a node that has halted runs no program. -/
theorem step_halted (halted : node.isTerminated = true) :
    node.step table program pool shared = .ok ⟨.unchanged, node.settle .unchanged, pool, shared⟩ := by
  have state : node.state = .terminated := eq_of_beq halted
  simp only [step, state]

end Node

namespace Station

variable {σ : Type} {table : SymbolTable} {program : Program σ} {full : Bool} {station : Station}
  {shared : σ}

/-- What the step of a station comes to in which its program halts. -/
structure Halts (table : SymbolTable) (station : Station) (memory : Memory) (requested : Bool)
    (stepped : Stepped σ) : Prop where
  outgoing : stepped.outgoing = if requested then some (memory.outgoing table) else none
  halted : stepped.station.isTerminated = true
  memory : stepped.station.memory = memory
  inbox : stepped.station.inbox = []
  sent : stepped.station.sent = station.sent + requested.toNat
  received : stepped.station.received = station.received + min 1 station.inbox.length
  /-- The message it consumed was not in the queue any more. -/
  dropped : stepped.station.dropped = station.dropped + station.inbox.tail.length

theorem consume_dropped : (station.consume table).dropped = station.dropped := by
  unfold consume
  split <;> rfl

/-- If a program halts and its step does not fail, the station takes no further part. A send it has
asked for still goes out. -/
theorem step_halts {memory : Memory} {requested : Bool} {left : σ}
    (running : station.isTerminated = false)
    (played : (program station.place shared).play table ((station.consume table).memory.roll table)
      false = ((left, .halt), memory, requested))
    (lasting : ∀ error, (station.step table program full shared).outcome ≠ .failed error) :
    Halts table station memory requested (station.step table program full shared) := by
  have performed : station.perform table program shared =
      ⟨!station.inbox.isEmpty, { station.consume table with memory }, left, .halt, requested⟩ := by
    simp only [perform, consume_place, played]
  have stepped : station.step table program full shared = conclude table full
      ⟨!station.inbox.isEmpty, { station.consume table with memory }, left, .halt, requested⟩ := by
    rw [step, if_neg (by simp [running]), performed]
  rw [stepped] at lasting ⊢
  have sends : (requested || Signal.halt == Signal.send) = requested := by
    rw [show (Signal.halt == Signal.send) = false from rfl, Bool.or_false]
  have spared : (requested && full) = false := by
    cases exhausted : requested && full with
    | false => rfl
    | true =>
      refine absurd ?_ (lasting .poolExhausted)
      simp only [conclude, Performance.sends, sends, exhausted, if_true]
  simp only [conclude, Performance.sends, Performance.halts, sends, spared, Bool.false_eq_true,
    if_false, beq_self_eq_true, if_true]
  refine ⟨rfl, rfl, rfl, rfl, ?_, consume_received, ?_⟩
  · simp only [settle, finish, terminate, consume_counts]
    cases requested <;> rfl
  · simp only [settle, finish, terminate, consume_inbox, consume_dropped]

end Station

end Lockstep
