import Lockstep.Proofs.Network.Plain

/-!
What a step does to a station.

A running station consumes a message, plays its program and may then halt (`Ran`); a halted one
counts an idle step. Between its steps a station is at rest (`AtRest`): its rows fit the table, its
messages are as long as the receive section, and the cells that only the network writes are zero.
-/
namespace Lockstep

/-- What came of a step that did not fail is not a failure. -/
theorem Performance.outcome_ne_failed {σ : Type} {table : SymbolTable}
    (performance : Performance σ) (error : StepError) :
    performance.outcome table ≠ .failed error := by
  unfold outcome
  split <;> exact fun failed => by cases failed

namespace Station

variable {σ : Type} {table : SymbolTable} {program : Program σ} {full : Bool} {station : Station}
  {shared : σ}

theorem step_terminated (halted : station.isTerminated = true) :
    station.step table program full shared =
      ⟨.unchanged, station.settle .unchanged, none, shared⟩ := by
  rw [step, if_pos halted]

theorem consume_place : (station.consume table).place = station.place := by
  unfold consume
  split <;> rfl

theorem consume_state : (station.consume table).state = station.state := by
  unfold consume
  split <;> rfl

theorem consume_inbox : (station.consume table).inbox = station.inbox.tail := by
  unfold consume
  split <;> simp [*]

theorem consume_received :
    (station.consume table).received = station.received + min 1 station.inbox.length := by
  unfold consume
  split <;> simp [*]

theorem consume_counts :
    (station.consume table).idle = station.idle ∧ (station.consume table).sent = station.sent := by
  unfold consume
  split <;> exact ⟨rfl, rfl⟩

/-- The station that a program has ended on, and what became of it. -/
structure Ran (table : SymbolTable) (station : Station) (performance : Performance σ)
    (stepped : Stepped σ) : Prop where
  place : stepped.station.place = station.place
  memory : stepped.station.memory = performance.station.memory
  received : stepped.station.received = station.received + min 1 station.inbox.length
  inbox : stepped.station.inbox =
    if stepped.station.isTerminated then [] else station.inbox.tail
  shared : stepped.shared = performance.shared
  outgoing : ∀ payload, stepped.outgoing = some payload →
    payload = performance.station.memory.outgoing table

/-- A step of a running station, whether it fails or not. -/
theorem step_running (running : station.isTerminated = false) :
    Ran table station (station.perform table program shared)
      (station.step table program full shared) := by
  have place : (station.perform table program shared).station.place = station.place :=
    consume_place
  have state : (station.perform table program shared).station.state = station.state :=
    consume_state
  have inbox : (station.perform table program shared).station.inbox = station.inbox.tail :=
    consume_inbox
  have received : (station.perform table program shared).station.received =
      station.received + min 1 station.inbox.length :=
    consume_received
  have alive : (station.state == Lifecycle.terminated) = false := running
  rw [step, if_neg (by simp [running])]
  dsimp only
  generalize station.perform table program shared = performance at *
  have concluded : Ran table station performance (conclude table full performance) := by
    unfold conclude
    dsimp only
    cases performance.sends <;> cases full <;> cases performance.halts <;>
      constructor <;>
      simp [finish, settle, terminate, isTerminated, place, state, inbox, received, alive, eq_comm]
  split
  · constructor <;> simp [finish, isTerminated, place, state, inbox, received, alive]
  · exact concluded

/-- The step of a station without messages whose program asks for nothing and goes on. -/
theorem step_continue {memory : Memory} {left : σ} (running : station.isTerminated = false)
    (waiting : station.inbox = [])
    (played : (program station.place shared).play table (station.memory.roll table) false =
      ((left, .continue), memory, false)) :
    let outcome := if memory.pending table then StepOutcome.changed else .unchanged
    station.step table program full shared =
      ⟨outcome, { station with memory }.settle outcome, none, left⟩ := by
  have fed : station.consume table = station := by rw [consume, waiting]
  have performed : station.perform table program shared =
      ⟨false, { station with memory }, left, .continue, false⟩ := by
    simp only [perform, fed, played, waiting, List.isEmpty_nil, Bool.not_true]
  have goesOn : station.step table program full shared =
      conclude table full ⟨false, { station with memory }, left, .continue, false⟩ := by
    rw [step, if_neg (by simp [running]), performed]
  rw [goesOn]
  cases pending : memory.pending table <;>
    simp [conclude, Performance.sends, Performance.halts, Performance.outcome, pending]

/-- The step of a station without messages whose program faults. -/
theorem step_fault {memory : Memory} {left : σ} {fault : Fault} {requested : Bool}
    (running : station.isTerminated = false) (waiting : station.inbox = [])
    (played : (program station.place shared).play table (station.memory.roll table) false =
      ((left, .fault fault), memory, requested)) :
    station.step table program full shared = ⟨.failed (.fault fault),
      { station with memory }.finish (.failed (.fault fault)), none, left⟩ := by
  have fed : station.consume table = station := by rw [consume, waiting]
  have performed : station.perform table program shared =
      ⟨false, { station with memory }, left, .fault fault, requested⟩ := by
    simp only [perform, fed, played, waiting, List.isEmpty_nil, Bool.not_true]
  rw [step, if_neg (by simp [running]), performed]

/-- A step adds nothing to the queue. -/
theorem step_inbox_le :
    (station.step table program full shared).station.inbox.length ≤ station.inbox.length := by
  cases halted : station.isTerminated with
  | true =>
    rw [step_terminated halted]
    exact Nat.le_refl _
  | false =>
    have ran : Ran table station (station.perform table program shared)
      (station.step table program full shared) := step_running halted
    rw [ran.inbox]
    split
    · exact Nat.zero_le _
    · exact List.length_tail ▸ Nat.sub_le _ _

/-- A step is noted with its outcome. -/
theorem step_last : (station.step table program full shared).station.last =
    some (station.step table program full shared).outcome := by
  unfold step
  split
  · rfl
  · dsimp only
    split
    · rfl
    · unfold conclude
      dsimp only
      split <;> rfl

theorem settle_idle (station : Station) (outcome : StepOutcome) :
    (station.settle outcome).idle = station.idle + (outcome == .unchanged).toNat := by
  cases outcome <;> rfl

/-- A step counts as idle if it has changed nothing. -/
theorem step_idle : (station.step table program full shared).station.idle = station.idle +
    ((station.step table program full shared).outcome == .unchanged).toNat := by
  cases halted : station.isTerminated with
  | true => rw [step_terminated halted, settle_idle]
  | false =>
    have performed : (station.perform table program shared).station.idle = station.idle :=
      consume_counts.1
    rw [step, if_neg (by simp [halted])]
    dsimp only
    generalize station.perform table program shared = performance at *
    have concluded : (conclude table full performance).station.idle = station.idle +
        ((conclude table full performance).outcome == .unchanged).toNat := by
      unfold conclude
      dsimp only
      cases performance.sends && full with
      | true => exact performed
      | false =>
        cases performance.halts <;>
          simp only [Bool.false_eq_true, if_false, if_true, settle_idle, terminate, performed]
    cases performance.signal with
    | fault fault => exact performed
    | «continue» | send | halt => exact concluded

/-- A station sends the words in its send cells. -/
theorem outgoing_eq {payload : Cells}
    (sends : (station.step table program full shared).outgoing = some payload) :
    payload = (station.step table program full shared).station.memory.outgoing table := by
  cases halted : station.isTerminated with
  | true =>
    rw [step_terminated halted] at sends
    cases sends
  | false =>
    have ran : Ran table station (station.perform table program shared)
      (station.step table program full shared) := step_running halted
    rw [ran.memory]
    exact ran.outgoing payload sends

/-- A station between its steps. -/
structure AtRest (table : SymbolTable) (station : Station) : Prop where
  fits : station.memory.Fits table
  sized : ∀ message ∈ station.inbox, message.payload.size = table.receive.length
  /-- The cells that only the network writes are zero, unless they start as something else. -/
  blank : ∀ symbol, table.Fleeting symbol →
    (Memory.seeded table station.place.index station.place.count).readNext symbol = 0 →
      station.memory.readNext symbol = 0

theorem AtRest.consume_fits (rests : station.AtRest table) (valid : table.Valid) :
    (station.consume table).memory.Fits table := by
  unfold consume
  split
  · exact rests.fits
  · rename_i message inbox queue
    exact rests.fits.accept valid (rests.sized message (queue ▸ List.mem_cons_self))

/-- A message overwrites its own cells and the flag. -/
theorem AtRest.readNext_consume (rests : station.AtRest table) (valid : table.Valid)
    {symbol : SymbolId} (other : symbol ≠ table.incoming)
    (outside : ¬ (table.receive.start ≤ symbol ∧ symbol < table.receive.stop)) :
    (station.consume table).memory.readNext symbol = station.memory.readNext symbol := by
  unfold consume
  split
  · rfl
  · rename_i message inbox waiting
    have length := rests.sized message (by rw [waiting]; exact List.mem_cons_self)
    rw [Memory.readNext_accept valid rests.fits length, if_neg other, if_neg outside]

theorem AtRest.perform_fits (rests : station.AtRest table) (valid : table.Valid) :
    (station.perform table program shared).station.memory.Fits table :=
  Interaction.play_fits _ (rests.consume_fits valid).roll _

/-- A program leaves the cells of the network zero for the next tick. -/
theorem AtRest.perform_blank (rests : station.AtRest table) (valid : table.Valid)
    {symbol : SymbolId} (fleeting : table.Fleeting symbol) :
    (station.perform table program shared).station.memory.readNext symbol = 0 := by
  have fits := rests.consume_fits valid
  refine (Interaction.readNext_play valid _ fits.roll fleeting.2).trans ?_
  rw [Memory.readNext_roll valid fits, if_neg fleeting.not_keeps]

theorem AtRest.step (rests : station.AtRest table) (valid : table.Valid) :
    (station.step table program full shared).station.AtRest table := by
  cases halted : station.isTerminated with
  | true =>
    rw [step_terminated halted]
    exact ⟨rests.fits, rests.sized, rests.blank⟩
  | false =>
    have ran : Ran table station (station.perform table program shared)
      (station.step table program full shared) := step_running halted
    refine ⟨ran.memory ▸ rests.perform_fits valid, ?_, ?_⟩
    · rw [ran.inbox]
      intro message member
      split at member
      · cases member
      · exact rests.sized message (List.mem_of_mem_tail member)
    · intro symbol fleeting _
      rw [ran.memory]
      exact rests.perform_blank valid fleeting

theorem AtRest.outgoing_size (rests : station.AtRest table) (valid : table.Valid) {payload : Cells}
    (sends : (station.step table program full shared).outgoing = some payload) :
    payload.size = table.receive.length := by
  rw [outgoing_eq sends]
  exact (Memory.size_outgoing valid (rests.step valid).fits).trans valid.payloadSize_eq

end Station

end Lockstep
