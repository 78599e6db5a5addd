import Lockstep.Proofs.Election.Vote
import Lockstep.Proofs.Machine.Announcement

/-!
A station's part in an election on change.

In each step a station learns from the message it consumes, if there is one. It tells what it knows
now if that is news, or if it has not told anything yet (`Station.Announced`).
-/
namespace Lockstep

/-- A table that an election on change can be held on. -/
structure SymbolTable.Recording (table : SymbolTable) : Prop where
  electoral : table.Electoral
  counts : 0 < table.vars.length
  /-- Programs may write variable 0, and it lasts. -/
  noted : table.protection[table.vars.start]? = some false
  lasts : table.Keeps table.vars.start
  apart : table.vars.start ≠ table.nodeId ∧ table.vars.start ≠ table.send.start
  /-- No message overwrites it. -/
  undelivered : table.vars.start ≠ table.incoming ∧
    ¬ (table.receive.start ≤ table.vars.start ∧ table.vars.start < table.receive.stop)
  /-- It starts as zero. -/
  unset : ∀ index count, (Memory.seeded table index count).readNext table.vars.start = 0

/-- Every table made from counts with a variable is one. -/
theorem SymbolTable.recording_create {layout : TableLayout} (counts : 0 < layout.variableCount)
    (extras : List SymbolSpec) : (create layout extras).Recording := by
  obtain ⟨noted, lasts, unset⟩ := variable_create layout extras counts
  have behind : layout.sendStart + layout.payloadSize + layout.payloadSize + 2 ≠
      layout.sendStart := by omega
  refine ⟨electoral_create layout extras, ?_, noted, lasts, ⟨Nat.succ_ne_self _, behind⟩, ⟨?_, ?_⟩,
    fun index count => (unset index count).2⟩
  · simpa [create, Span.length] using counts
  · exact Nat.ne_of_gt (Nat.lt_add_of_pos_right (Nat.succ_pos 1))
  · exact fun inside => Nat.not_lt.mpr (Nat.le_add_right _ 2) inside.2

namespace Station

variable {σ : Type} {table : SymbolTable} {bytecode : Bytecode} {station : Station} {full : Bool}
  {shared : σ}

/-- Variable 0 as a station starts its next step with it: zero until it has told anything. -/
def begun (table : SymbolTable) (station : Station) : Cell :=
  station.memory.readNext table.vars.start

/-- The station has nothing to tell in its next step. -/
def Settled (table : SymbolTable) (station : Station) : Prop :=
  station.learns table = station.number table ∧ station.begun table ≠ 0

/-- A station has learnt from the message it consumed, and has told what it knows if that was news,
as long as there was a buffer left. -/
structure Announced (table : SymbolTable) (station : Station) (full : Bool)
    (stepped : Stepped σ) : Prop where
  running : stepped.station.isTerminated = false
  number : stepped.station.number table = station.learns table
  begun : stepped.station.begun table ≠ 0
  /-- What is read in the step is what was prepared for it. -/
  shown : stepped.station.memory.read table.nodeId = station.number table
  quiet : station.Settled table → (∀ error, stepped.outcome ≠ .failed error) ∧
    stepped.outgoing = none ∧ stepped.station.sent = station.sent
  tells : ¬ station.Settled table → full = false → stepped.outcome = .changed ∧
    (∃ payload, stepped.outgoing = some payload ∧
      payload[0]?.getD 0 = stepped.station.number table) ∧
    stepped.station.sent = station.sent + 1
  cut : ¬ station.Settled table → full = true → stepped.outcome = .failed .poolExhausted

/-- The call in a step of an election on change: what it leaves prepared, and whether it sends. -/
theorem AtRest.called (rests : station.AtRest table) (recording : table.Recording)
    (made : Bytecode.leaderElectionOnChange table = .ok bytecode) :
    ∃ after signal requested,
      (bytecode.call station.place).play table ((station.consume table).memory.roll table) false =
        (signal, after, requested) ∧
      after.readNext table.nodeId = station.learns table ∧
      after.readNext table.vars.start ≠ 0 ∧
      (station.Settled table → signal = .continue ∧ requested = false) ∧
      (¬ station.Settled table → signal = .send ∧ requested = true ∧
        after.readNext table.send.start = station.learns table) := by
  have electoral := recording.electoral
  have valid := electoral.valid
  obtain ⟨after, number, played⟩ := Bytecode.play_leaderElectionOnChange made valid
    (rests.consume_fits valid).roll electoral.receives electoral.sends recording.counts
    electoral.numbered electoral.posted recording.noted recording.apart station.place
  have read : ((station.consume table).memory.roll table).read table.nodeId =
      station.number table := rests.consume_number electoral
  have begun : ((station.consume table).memory.roll table).read table.vars.start =
      station.begun table :=
    rests.readNext_consume valid recording.undelivered.1 recording.undelivered.2
  have kept : ((station.consume table).memory.roll table).readNext table.vars.start =
      station.begun table := by
    rw [Memory.readNext_roll valid (rests.consume_fits valid), if_pos recording.lasts]
    exact begun
  have learnt := rests.learnt_eq electoral
  have told : ((station.consume table).memory.roll table).Told table ↔ station.Settled table := by
    rw [Memory.Told, Settled, learnt, read, begun]
  rw [learnt] at number
  by_cases settled : station.Settled table
  · rw [if_pos (told.mpr settled)] at played
    obtain ⟨calls, begins⟩ := played
    refine ⟨after, _, _, calls, number, fun zero => ?_, fun _ => ⟨rfl, rfl⟩,
      fun news => absurd settled news⟩
    exact settled.2 (kept.symm.trans (begins.symm.trans zero))
  · rw [if_neg (mt told.mp settled)] at played
    obtain ⟨calls, word, begins⟩ := played
    refine ⟨after, _, _, calls, number, fun zero => ?_, fun quiet => absurd quiet settled,
      fun _ => ⟨rfl, rfl, word.trans learnt⟩⟩
    exact absurd (begins.symm.trans zero) (by decide)

theorem AtRest.sincere_onChange (rests : station.AtRest table) (recording : table.Recording)
    (made : Bytecode.leaderElectionOnChange table = .ok bytecode)
    (running : station.isTerminated = false) :
    Sincere table station (station.step table bytecode.program full shared) := by
  obtain ⟨after, signal, requested, calls, number, -, quiet, tells⟩ := rests.called recording made
  by_cases settled : station.Settled table
  · obtain ⟨rfl, rfl⟩ := quiet settled
    refine rests.sincere recording.electoral running calls (.inl rfl) number fun asked => ?_
    cases asked
  · obtain ⟨rfl, rfl, word⟩ := tells settled
    exact rests.sincere recording.electoral running calls (.inr rfl) number fun _ => word

/-- The step of a running station in an election on change. -/
theorem AtRest.announced (rests : station.AtRest table) (recording : table.Recording)
    (made : Bytecode.leaderElectionOnChange table = .ok bytecode)
    (running : station.isTerminated = false) :
    Announced table station full (station.step table bytecode.program full shared) := by
  have sincere : Sincere table station (station.step table bytecode.program full shared) :=
    rests.sincere_onChange recording made running
  obtain ⟨after, signal, requested, calls, -, begun, quiet, tells⟩ := rests.called recording made
  have goes : signal = .continue ∨ signal = .send := by
    by_cases settled : station.Settled table
    · exact .inl (quiet settled).1
    · exact .inr (tells settled).1
  obtain ⟨stepped, -⟩ := step_of_call full shared running calls goes
  have sent : (station.consume table).sent = station.sent := consume_counts.2
  obtain ⟨memory, -⟩ := conclude_goesOn table full
    ⟨!station.inbox.isEmpty, { station.consume table with memory := after }, shared, signal,
      requested⟩ (by rcases goes with rfl | rfl <;> rfl)
  refine ⟨sincere.running, sincere.number, ?_, sincere.shown, fun settled => ?_,
    fun news spare => ?_, fun news exhausted => ?_⟩
  · rw [stepped, Station.begun, memory]
    exact begun
  · obtain ⟨rfl, rfl⟩ := quiet settled
    rw [stepped]
    exact ⟨fun error failed => Performance.outcome_ne_failed _ error failed, rfl, sent⟩
  · obtain ⟨rfl, rfl, -⟩ := tells news
    subst spare
    have sends : (station.step table bytecode.program false shared).outgoing =
        some (after.outgoing table) := by
      rw [stepped]
      rfl
    have word := sincere.sends _ sends
    rw [← sincere.number] at word
    rw [stepped] at word ⊢
    refine ⟨?_, ⟨after.outgoing table, rfl, word⟩, congrArg (· + 1) sent⟩
    simp [conclude, Performance.sends, Performance.outcome]
  · obtain ⟨rfl, rfl, -⟩ := tells news
    subst exhausted
    rw [stepped]
    rfl

end Station

end Lockstep
