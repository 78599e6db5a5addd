import Lockstep.Proofs.Node.Stepping

/-!
Stations that have come to rest for good.

A step in which nothing changes leaves a memory whose next tick is the tick just played: what
programs may write is as it was, and what only the network writes was zero and is zero again. A
program that depends on its view alone then does the same thing in every later tick, and its station
is still.
-/
namespace Lockstep

namespace Memory

variable {table : SymbolTable} {memory other : Memory}

/-- Memories of a table are told apart by their words. -/
theorem ext_of_read (fits : memory.Fits table) (otherFits : other.Fits table)
    (current : ∀ symbol, memory.read symbol = other.read symbol)
    (next : ∀ symbol, memory.readNext symbol = other.readNext symbol) : memory = other := by
  have rows : ∀ {cells otherCells : Cells}, cells.size = table.size →
      otherCells.size = table.size →
      (∀ symbol : SymbolId, cells[symbol]?.getD 0 = otherCells[symbol]?.getD 0) →
      cells = otherCells := by
    intro cells otherCells size otherSize same
    refine Array.ext (size.trans otherSize.symm) fun symbol here there => ?_
    have word := same symbol
    rwa [Array.getElem?_eq_getElem here, Array.getElem?_eq_getElem there] at word
  have currents := rows fits.current otherFits.current current
  have nexts := rows fits.next otherFits.next next
  cases memory
  cases other
  simp only at currents nexts
  rw [currents, nexts]

/-- A tick that changes nothing is played on the same memory again. -/
theorem roll_play_eq {α : Type} (valid : table.Valid) (fits : memory.Fits table)
    (blank : ∀ symbol, table.Fleeting symbol → memory.readNext symbol = 0)
    (interaction : Interaction α)
    (unchanged : (interaction.play table (memory.roll table) false).2.1.pending table = false) :
    (interaction.play table (memory.roll table) false).2.1.roll table = memory.roll table := by
  have playedFits := Interaction.play_fits interaction fits.roll false
  have current : ∀ symbol, (interaction.play table (memory.roll table) false).2.1.read symbol =
      memory.readNext symbol := by
    intro symbol
    rw [read, Interaction.play_current]
    rfl
  have guarded : ∀ symbol, table.Guards symbol →
      (interaction.play table (memory.roll table) false).2.1.readNext symbol =
        memory.readNext symbol := by
    intro symbol guards
    rw [Interaction.readNext_play valid interaction fits.roll guards, readNext_roll valid fits]
    split
    · rfl
    · rename_i lost
      have inside : symbol < table.size := by
        rw [← valid.protection_size]
        exact (Array.getElem?_eq_some_iff.mp guards).1
      exact (blank symbol ⟨valid.copyPolicy_of_not_keeps inside lost, guards⟩).symm
  generalize (interaction.play table (memory.roll table) false).2.1 = after at *
  have next : ∀ symbol, after.readNext symbol = memory.readNext symbol := by
    intro symbol
    by_cases inside : symbol < table.size
    · obtain ⟨entry, found⟩ : ∃ entry, table.symbols[symbol]? = some entry :=
        ⟨_, List.getElem?_eq_getElem inside⟩
      cases policy : entry.writeProtected with
      | true =>
        refine guarded symbol ?_
        rw [SymbolTable.Guards, valid.protection_get, found, Option.map_some, policy]
      | false =>
        have same := List.any_eq_false.mp unchanged entry (List.mem_of_getElem? found)
        rw [policy, valid.id_eq found] at same
        have still : after.readNext symbol = after.read symbol := by simpa using same
        rw [still, current]
    · have outside : ∀ {cells : Cells}, cells.size = table.size → cells[symbol]?.getD 0 = 0 := by
        intro cells size
        rw [Array.getElem?_eq_none (size ▸ Nat.not_lt.mp inside)]
        rfl
      exact (outside playedFits.next).trans (outside fits.next).symm
  apply ext_of_read playedFits.roll fits.roll next
  intro symbol
  rw [readNext_roll valid playedFits, readNext_roll valid fits, next]

end Memory

namespace Station

variable {σ : Type} {table : SymbolTable} {act : Place → Interaction Signal} {full : Bool}
  {station : Station} {shared : σ}

/-- The station has halted, or its program does nothing and will do nothing again. -/
structure IsStill (table : SymbolTable) (act : Place → Interaction Signal) (station : Station) :
    Prop where
  last : station.last = some .unchanged
  idle : station.isTerminated = false → station.inbox = [] ∧
    station.memory.pending table = false ∧
    (act station.place).play table (station.memory.roll table) false =
      (.continue, station.memory, false)

/-- The station some idle steps later. -/
def aged (steps : Nat) (station : Station) : Station :=
  { station with idle := station.idle + steps }

theorem IsStill.aged (still : station.IsStill table act) (steps : Nat) :
    (station.aged steps).IsStill table act :=
  ⟨still.last, still.idle⟩

theorem IsStill.step (still : station.IsStill table act) :
    station.step table (.ofView act) full shared = ⟨.unchanged, station.aged 1, none, shared⟩ := by
  have settled : station.settle .unchanged = station.aged 1 := by
    simp [settle, finish, Station.aged, ← still.last]
  cases halted : station.isTerminated with
  | true => rw [step_terminated halted, settled]
  | false =>
    obtain ⟨waiting, unchanged, played⟩ := still.idle halted
    have again : (Program.ofView act station.place shared).play table (station.memory.roll table)
        false = ((shared, .continue), station.memory, false) := by
      rw [Interaction.play_ofView, played]
    have stepped : station.step table (.ofView act) full shared = _ :=
      step_continue halted waiting again
    rw [unchanged, if_neg Bool.false_ne_true] at stepped
    exact stepped.trans (settled ▸ rfl)

/-- A running station in whose step nothing changes had no message, sends none, and has gone on or
halted. -/
theorem step_unchanged {program : Program σ} (running : station.isTerminated = false)
    (idle : (station.step table program full shared).outcome = .unchanged) :
    let performance := station.perform table program shared
    station.inbox = [] ∧ performance.station.memory.pending table = false ∧
      performance.requested = false ∧
      (performance.signal = .continue ∧
          (station.step table program full shared).station =
            performance.station.settle .unchanged ∨
        (station.step table program full shared).station =
          performance.station.terminate.settle .unchanged) := by
  have consumed : (station.perform table program shared).consumed = !station.inbox.isEmpty := rfl
  rw [step, if_neg (by simp [running])] at idle ⊢
  dsimp only at idle ⊢
  generalize station.perform table program shared = performance at *
  split at idle
  · cases idle
  · rename_i signal notFault
    unfold conclude at idle ⊢
    dsimp only at idle ⊢
    split at idle
    · cases idle
    · rename_i posted
      rw [if_neg posted]
      have unchanged : performance.outcome table = .unchanged := idle
      unfold Performance.outcome at unchanged
      split at unchanged
      · cases unchanged
      · rename_i nothing
        simp only [Bool.or_eq_true, not_or, Bool.not_eq_true] at nothing
        obtain ⟨⟨waiting, same⟩, sends⟩ := nothing
        have requested : performance.requested = false ∧ (performance.signal == .send) = false := by
          simpa [Performance.sends] using sends
        refine ⟨?_, same, requested.1, ?_⟩
        · simpa [consumed] using waiting
        · rw [sends, show performance.outcome table = .unchanged from idle]
          cases signalled : performance.signal with
          | fault fault => exact absurd signalled (notFault fault)
          | send => simp [signalled] at requested
          | «continue» => simp [Performance.halts, signalled]
          | halt => simp [Performance.halts, signalled]

/-- A station is still after a step in which nothing has changed. -/
theorem AtRest.still (rests : station.AtRest table) (valid : table.Valid)
    (cleared : ∀ symbol, table.Fleeting symbol →
      (Memory.seeded table station.place.index station.place.count).readNext symbol = 0)
    (idle : (station.step table (.ofView act) full shared).outcome = .unchanged) :
    (station.step table (.ofView act) full shared).station.IsStill table act := by
  cases halted : station.isTerminated with
  | true =>
    rw [step_terminated halted]
    exact ⟨rfl, fun running => absurd (halted.symm.trans running) (by simp)⟩
  | false =>
    obtain ⟨waiting, unchanged, quiet, went⟩ := step_unchanged halted idle
    rcases went with ⟨goesOn, left⟩ | left
    · have fed : station.consume table = station := by rw [consume, waiting]
      have performed : station.perform table (.ofView act) shared =
          ⟨!station.inbox.isEmpty, { station with
              memory := ((act station.place).play table
                (station.memory.roll table) false).2.1 }, shared,
            ((act station.place).play table (station.memory.roll table) false).1,
            ((act station.place).play table (station.memory.roll table) false).2.2⟩ := by
        simp only [perform, fed, Interaction.play_ofView]
      rw [performed] at unchanged quiet goesOn left
      have again := Memory.roll_play_eq valid rests.fits
        (fun symbol fleeting => rests.blank symbol fleeting (cleared symbol fleeting)) _ unchanged
      rw [left]
      refine ⟨rfl, fun _ => ⟨waiting, unchanged, ?_⟩⟩
      simp only [settle, finish]
      rw [again]
      exact Prod.ext goesOn (Prod.ext rfl quiet)
    · rw [left]
      exact ⟨rfl, fun running => absurd running (by simp [isTerminated, settle, finish, terminate])⟩

end Station

end Lockstep
