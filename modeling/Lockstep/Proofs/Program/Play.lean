import Lockstep.Proofs.Node.Memory
import Lockstep.Program.Basic

/-!
Playing an interaction without the possibility of a breach.

On memory that fits a valid table, `Interaction.run` always comes to a result, the one that
`Interaction.play` computes. Whatever a program does, it leaves the current row and every guarded
cell of the next row alone (`play_current`, `readNext_play`).
-/
namespace Lockstep.Interaction

variable {α β : Type} {table : SymbolTable} {memory : Memory} {requested : Bool}

/-- Plays an interaction on memory whose writes are never out of bounds. -/
def play (table : SymbolTable) :
    Interaction α → Memory → (requested : Bool) → α × Memory × Bool
  | .done result, memory, requested => (result, memory, requested)
  | .read symbol next, memory, requested => (next (memory.read symbol)).play table memory requested
  | .readNext symbol next, memory, requested =>
    (next (memory.readNext symbol)).play table memory requested
  | .write symbol word next, memory, requested =>
    match memory.stage table symbol word with
    | .ok memory => (next none).play table memory requested
    | .error fault => (next (some fault)).play table memory requested
  | .requestSend next, memory, _ => (next ()).play table memory true

theorem run_eq (valid : table.Valid) (interaction : Interaction α) (fits : memory.Fits table)
    (requested : Bool) :
    interaction.run table memory requested = .ok (interaction.play table memory requested) := by
  induction interaction generalizing memory requested with
  | done result => rfl
  | read symbol next ih => exact ih _ fits _
  | readNext symbol next ih => exact ih _ fits _
  | write symbol word next ih =>
    simp only [run, play, Memory.write_eq valid fits]
    cases staged : memory.stage table symbol word with
    | ok after => exact ih _ (fits.stage staged) _
    | error fault => exact ih _ fits _
  | requestSend next ih => exact ih _ fits _

theorem play_fits (interaction : Interaction α) (fits : memory.Fits table) (requested : Bool) :
    (interaction.play table memory requested).2.1.Fits table := by
  induction interaction generalizing memory requested with
  | done result => exact fits
  | read symbol next ih => exact ih _ fits _
  | readNext symbol next ih => exact ih _ fits _
  | write symbol word next ih =>
    simp only [play]
    cases staged : memory.stage table symbol word with
    | ok after => exact ih _ (fits.stage staged) _
    | error fault => exact ih _ fits _
  | requestSend next ih => exact ih _ fits _

/-- A program never changes what it reads in this tick. -/
theorem play_current (interaction : Interaction α) :
    (interaction.play table memory requested).2.1.current = memory.current := by
  induction interaction generalizing memory requested with
  | done result => rfl
  | read symbol next ih => exact ih _
  | readNext symbol next ih => exact ih _
  | write symbol word next ih =>
    simp only [play]
    cases staged : memory.stage table symbol word with
    | ok after =>
      obtain ⟨-, rfl⟩ := Memory.stage_eq_ok staged
      exact ih _
    | error fault => exact ih _
  | requestSend next ih => exact ih _

/-- A program never changes a guarded cell. -/
theorem readNext_play (valid : table.Valid) (interaction : Interaction α)
    (fits : memory.Fits table) {symbol : SymbolId} (guarded : table.Guards symbol) :
    (interaction.play table memory requested).2.1.readNext symbol = memory.readNext symbol := by
  induction interaction generalizing memory requested with
  | done result => rfl
  | read probe next ih => exact ih _ fits
  | readNext probe next ih => exact ih _ fits
  | write probe word next ih =>
    simp only [play]
    cases staged : memory.stage table probe word with
    | ok after =>
      have other : symbol ≠ probe := by
        rintro rfl
        have unguarded := (Memory.stage_eq_ok staged).1
        rw [SymbolTable.Guards, unguarded] at guarded
        cases guarded
      simp only
      rw [ih _ (fits.stage staged), Memory.readNext_stage valid fits staged, if_neg other]
    | error fault => exact ih _ fits
  | requestSend next ih => exact ih _ fits

theorem play_bind (first : Interaction α) (second : α → Interaction β) :
    (first.bind second).play table memory requested =
      (second (first.play table memory requested).1).play table
        (first.play table memory requested).2.1 (first.play table memory requested).2.2 := by
  induction first generalizing memory requested with
  | done result => rfl
  | read symbol next ih => exact ih _
  | readNext symbol next ih => exact ih _
  | write symbol word next ih =>
    simp only [Interaction.bind, play]
    cases memory.stage table symbol word with
    | ok after => exact ih _
    | error fault => exact ih _
  | requestSend next ih => exact ih _

/-- A program that depends on its view alone leaves the shared state as it is. -/
theorem play_ofView {σ : Type} (act : Place → Interaction Signal) (place : Place) (shared : σ) :
    (Program.ofView act place shared).play table memory requested =
      ((shared, ((act place).play table memory requested).1),
        ((act place).play table memory requested).2) := by
  rw [Program.ofView, play_bind]
  rfl

end Lockstep.Interaction
