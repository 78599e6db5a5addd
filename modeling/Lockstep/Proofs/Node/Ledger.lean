import Lockstep.Program.Interaction
import Lockstep.Proofs.Node.Memory
import Lockstep.Proofs.Table.Created

/-!
Node memory as one row of cells, whatever happens to it and in whatever order.

Two rows are exchanged and rebuilt at every tick, but what a program reads is told by one: a cell
shows the last word staged for it since the row was last turned, and without one it falls back on
what it showed before, if its word lasts, or on zero. The proof has a lemma for one operation that
does not turn the row (`perform_quiet`), its run over a stretch of them (`foldlM_quiet`), and the
two operations that do (`Memory.readNext_roll`, `readNext_seeded`).
-/
namespace Lockstep

/-- An operation on a node's memory. The first three are the network's. -/
inductive Operation where
  | begin (index count : Nat)
  | roll
  | deliver (payload : Cells)
  | write (symbol : SymbolId) (word : Cell)

namespace Operation

/-- The memory an operation leaves. A program writes by an interaction, refused or not. -/
def perform (table : SymbolTable) (memory : Memory) : Operation → Except Breach Memory
  | .begin index count => memory.begin table index count
  | .roll => .ok (memory.roll table)
  | .deliver payload => memory.deliver table payload
  | .write symbol word => do
    let (_, after, _) ← (Interaction.write symbol word .done).run table memory false
    return after

/-- The memory that operations leave, from that of a new node. -/
def history (table : SymbolTable) (operations : List Operation) : Except Breach Memory :=
  operations.foldlM (perform table) (Memory.new table)

/-- The operation turns the row: what programs read may change. -/
def Turns : Operation → Prop
  | .begin _ _ | .roll => True
  | .deliver _ | .write _ _ => False

/-- A delivered message has the words the table asks for. -/
def Sized (table : SymbolTable) : Operation → Prop
  | .deliver payload => payload.size = table.payloadSize
  | .begin _ _ | .roll | .write _ _ => True

instance (table : SymbolTable) : (operation : Operation) → Decidable (operation.Sized table)
  | .deliver _ => inferInstanceAs (Decidable (_ = _))
  | .begin _ _ | .roll | .write _ _ => inferInstanceAs (Decidable True)

/-- The word an operation stages for a cell. A message raises the incoming flag after its words
are in place; a write counts if it is not refused. -/
def stages (table : SymbolTable) (symbol : SymbolId) : Operation → Option Cell
  | .begin _ _ | .roll => none
  | .deliver payload =>
    if symbol = table.incoming then some 1
    else if table.receive.start ≤ symbol ∧ symbol < table.receive.stop then
      payload[symbol - table.receive.start]?
    else none
  | .write target word =>
    if symbol = target ∧ symbol < table.size ∧ ¬ table.Guards symbol then some word else none

/-- What a cell shows after the next roll if nothing is staged for it: `shown` is what it shows
since this operation turned the row. -/
def fallback (table : SymbolTable) (symbol : SymbolId) (shown : Cell) : Operation → Cell
  | .begin _ _ => if table.Keeps symbol ∨ table.Guards symbol then shown else 0
  | .roll => if table.Keeps symbol then shown else 0
  | .deliver _ | .write _ _ => 0

/-- The last word that operations stage for a cell. -/
def lastStaged (table : SymbolTable) (symbol : SymbolId) : List Operation → Option Cell
  | [] => none
  | operation :: later => (lastStaged table symbol later).or (operation.stages table symbol)

end Operation

/-- The word a cell starts a simulation with. There is none outside the table. -/
def SymbolTable.startingWord (table : SymbolTable) (index count : Nat) (symbol : SymbolId) : Cell :=
  (table.symbols[symbol]?.map (·.initial.resolve index count)).getD 0

namespace Memory

variable {table : SymbolTable} {memory : Memory} {symbol : SymbolId} {index count : Nat}

/-! ### Turning the row -/

@[simp] theorem read_seeded :
    (seeded table index count).read symbol = table.startingWord index count symbol := by
  simp [read, seeded, SymbolTable.startingWord]

/-- A simulation's second row holds the words that last and those of guarded cells. -/
theorem readNext_seeded (valid : table.Valid) :
    (seeded table index count).readNext symbol =
      if table.Keeps symbol ∨ table.Guards symbol then table.startingWord index count symbol
      else 0 := by
  have keeps : table.Keeps symbol ↔ table.symbols[symbol]?.map (·.copyToNext) = some true := by
    rw [SymbolTable.Keeps, valid.copyPolicy_get]
  have guards : table.Guards symbol ↔
      table.symbols[symbol]?.map (·.writeProtected) = some true := by
    rw [SymbolTable.Guards, valid.protection_get]
  simp only [keeps, guards]
  cases found : table.symbols[symbol]? with
  | none => simp [readNext, seeded, found]
  | some entry => simp [readNext, seeded, found, SymbolTable.startingWord]

/-! ### What a write answers -/

/-- A cell is open to programs if it is in the table and not guarded. -/
theorem protection_eq_some_false (valid : table.Valid) :
    table.protection[symbol]? = some false ↔ symbol < table.size ∧ ¬ table.Guards symbol := by
  rw [SymbolTable.Guards, ← valid.protection_size]
  by_cases inside : symbol < table.protection.size
  · simp [inside]
  · simp [inside]

theorem stage_unknown (valid : table.Valid) {word : Cell} :
    memory.stage table symbol word = .error (.unknownSymbol symbol) ↔ table.size ≤ symbol := by
  rw [← valid.protection_size, ← Array.getElem?_eq_none_iff]
  unfold stage
  cases table.protection[symbol]? with
  | none => simp
  | some guarded => cases guarded <;> simp

theorem stage_protected {word : Cell} :
    memory.stage table symbol word = .error (.writeProtected symbol) ↔ table.Guards symbol := by
  unfold stage SymbolTable.Guards
  cases table.protection[symbol]? with
  | none => simp
  | some guarded => cases guarded <;> simp

end Memory

namespace Operation

open Memory

variable {table : SymbolTable} {memory : Memory} {operation : Operation}

/-- What a program's write leaves: other memory if it is accepted, and the same if not. -/
theorem perform_write (valid : table.Valid) (fits : memory.Fits table) (symbol : SymbolId)
    (word : Cell) :
    (Operation.write symbol word).perform table memory =
      .ok ((memory.stage table symbol word).toOption.getD memory) := by
  simp only [perform, Interaction.run, write_eq valid fits, bind, Except.bind]
  cases memory.stage table symbol word <;> rfl

/-- An operation that does not turn the row stages words and leaves what is read alone. -/
theorem perform_quiet (valid : table.Valid) (fits : memory.Fits table)
    (sized : operation.Sized table) (quiet : ¬ operation.Turns) :
    ∃ after, operation.perform table memory = .ok after ∧ after.Fits table ∧
      after.current = memory.current ∧
      ∀ symbol, after.readNext symbol =
        (operation.stages table symbol).getD (memory.readNext symbol) := by
  cases operation with
  | begin index count => exact absurd trivial quiet
  | roll => exact absurd trivial quiet
  | deliver payload =>
    have length : payload.size = table.receive.length := by
      rw [← valid.payloadSize_eq]
      exact sized
    refine ⟨_, deliver_eq valid fits length, fits.accept valid length, rfl, fun symbol => ?_⟩
    rw [readNext_accept valid fits length, stages]
    split
    · rfl
    · split
      · rename_i inside
        have within : symbol - table.receive.start < payload.size := by
          rw [length, Span.length]
          exact Nat.sub_lt_sub_right inside.1 inside.2
        simp [within]
      · rfl
  | write target word =>
    cases answer : memory.stage table target word with
    | error fault =>
      refine ⟨memory, by rw [perform_write valid fits, answer]; rfl, fits, rfl, fun symbol => ?_⟩
      have refused : ¬ (symbol = target ∧ symbol < table.size ∧ ¬ table.Guards symbol) := by
        rintro ⟨rfl, unguarded⟩
        obtain ⟨after, accepted⟩ :=
          exists_stage memory ((protection_eq_some_false valid).mpr unguarded) word
        rw [answer] at accepted
        cases accepted
      rw [stages, if_neg refused]
      rfl
    | ok after =>
      obtain ⟨allowed, same⟩ := stage_eq_ok answer
      refine ⟨after, by rw [perform_write valid fits, answer]; rfl, fits.stage answer,
        by rw [same], fun symbol => ?_⟩
      have unguarded := (protection_eq_some_false valid).mp allowed
      rw [readNext_stage valid fits answer, stages]
      by_cases here : symbol = target
      · subst here
        simp [unguarded]
      · simp [here]

/-- A stretch of operations that does not turn the row. The last word staged for a cell is the one
that is prepared. -/
theorem foldlM_quiet (valid : table.Valid) {between : List Operation}
    (sized : ∀ operation ∈ between, operation.Sized table)
    (quiet : ∀ operation ∈ between, ¬ operation.Turns) (fits : memory.Fits table) :
    ∃ after, between.foldlM (perform table) memory = .ok after ∧ after.Fits table ∧
      after.current = memory.current ∧
      ∀ symbol, after.readNext symbol =
        (lastStaged table symbol between).getD (memory.readNext symbol) := by
  induction between generalizing memory with
  | nil => exact ⟨memory, rfl, fits, rfl, fun _ => rfl⟩
  | cons operation later ih =>
    obtain ⟨sizedFirst, sizedLater⟩ := List.forall_mem_cons.mp sized
    obtain ⟨quietFirst, quietLater⟩ := List.forall_mem_cons.mp quiet
    obtain ⟨middle, performed, fitting, kept, staged⟩ :=
      perform_quiet valid fits sizedFirst quietFirst
    obtain ⟨after, rest, fitted, same, prepared⟩ := ih sizedLater quietLater fitting
    refine ⟨after, ?_, fitted, same.trans kept, fun symbol => ?_⟩
    · rw [List.foldlM_cons, performed]
      exact rest
    · rw [prepared, staged, lastStaged]
      cases lastStaged table symbol later <;> rfl

/-- Every operation leaves memory of the table's size. -/
theorem exists_perform (valid : table.Valid) (fits : memory.Fits table)
    (sized : operation.Sized table) :
    ∃ after, operation.perform table memory = .ok after ∧ after.Fits table := by
  by_cases turns : operation.Turns
  · cases operation with
    | begin index count => exact ⟨_, begin_eq valid fits, fits_seeded table index count⟩
    | roll => exact ⟨_, rfl, fits.roll⟩
    | deliver payload => exact turns.elim
    | write symbol word => exact turns.elim
  · obtain ⟨after, performed, fitted, -⟩ := perform_quiet valid fits sized turns
    exact ⟨after, performed, fitted⟩

theorem exists_history (valid : table.Valid) {operations : List Operation}
    (sized : ∀ operation ∈ operations, operation.Sized table) :
    ∃ memory, history table operations = .ok memory ∧ memory.Fits table := by
  unfold history
  have start := fits_new table
  revert start
  generalize Memory.new table = memory
  intro start
  induction operations generalizing memory with
  | nil => exact ⟨memory, rfl, start⟩
  | cons operation later ih =>
    obtain ⟨first, rest⟩ := List.forall_mem_cons.mp sized
    obtain ⟨middle, performed, fitting⟩ := exists_perform valid start first
    rw [List.foldlM_cons, performed]
    exact ih rest middle fitting

/-- After an operation that turns the row, each cell is prepared to fall back. -/
theorem readNext_turned (valid : table.Valid) (fits : memory.Fits table)
    (turns : operation.Turns) {after : Memory}
    (performed : operation.perform table memory = .ok after) (symbol : SymbolId) :
    after.readNext symbol = operation.fallback table symbol (after.read symbol) := by
  cases operation with
  | begin index count =>
    rw [perform, begin_eq valid fits] at performed
    cases performed
    rw [readNext_seeded valid, read_seeded, fallback]
  | roll =>
    cases performed
    rw [readNext_roll valid fits, read_roll, fallback]
  | deliver payload => exact turns.elim
  | write symbol word => exact turns.elim

/-- Among operations there is a last one that turns the row. -/
theorem exists_last_turn {operations : List Operation}
    (turned : ∃ operation ∈ operations, operation.Turns) :
    ∃ past turn between, operations = past ++ turn :: between ∧ turn.Turns ∧
      ∀ operation ∈ between, ¬ operation.Turns := by
  induction operations with
  | nil => simp at turned
  | cons first later ih =>
    by_cases again : ∃ operation ∈ later, operation.Turns
    · obtain ⟨past, turn, between, rfl, turns, quiet⟩ := ih again
      exact ⟨first :: past, turn, between, rfl, turns, quiet⟩
    · have quiet : ∀ operation ∈ later, ¬ operation.Turns := by simpa using again
      refine ⟨[], first, later, rfl, ?_, quiet⟩
      obtain ⟨operation, member, turns⟩ := turned
      rcases List.mem_cons.mp member with rfl | inside
      · exact turns
      · exact absurd turns (quiet operation inside)

/-- A history is one stretch of operations after another. -/
theorem history_append {earlier later : List Operation} {memory : Memory}
    (reached : history table (earlier ++ later) = .ok memory) :
    ∃ before, history table earlier = .ok before ∧
      later.foldlM (perform table) before = .ok memory := by
  rw [history, List.foldlM_append] at reached
  cases first : earlier.foldlM (perform table) (Memory.new table) with
  | error breach =>
    rw [first] at reached
    cases reached
  | ok before =>
    rw [first] at reached
    exact ⟨before, first, reached⟩

section Told

variable {operations earlier between : List Operation} {turn : Operation}

/-- What is read and prepared after a stretch of operations that does not turn the row. -/
theorem history_quiet (valid : table.Valid)
    (sized : ∀ operation ∈ earlier ++ between, operation.Sized table)
    (quiet : ∀ operation ∈ between, ¬ operation.Turns)
    (reached : history table (earlier ++ between) = .ok memory) :
    ∃ before, history table earlier = .ok before ∧
      (∀ symbol, memory.read symbol = before.read symbol) ∧
      ∀ symbol, memory.readNext symbol =
        (lastStaged table symbol between).getD (before.readNext symbol) := by
  obtain ⟨sizedFirst, sizedRest⟩ := List.forall_mem_append.mp sized
  obtain ⟨before, known, fits⟩ := exists_history valid sizedFirst
  obtain ⟨middle, first, rest⟩ := history_append reached
  cases Except.ok.inj (first.symm.trans known)
  obtain ⟨after, stretched, -, kept, prepared⟩ := foldlM_quiet valid sizedRest quiet fits
  cases Except.ok.inj (stretched.symm.trans rest)
  exact ⟨before, known, fun symbol => by rw [Memory.read, Memory.read, kept], prepared⟩

/-- What is read after a roll: the last word staged since the row was turned, or what the cell
falls back on. -/
theorem history_rolled (valid : table.Valid)
    (sized : ∀ operation ∈ earlier ++ turn :: between, operation.Sized table)
    (turns : turn.Turns) (quiet : ∀ operation ∈ between, ¬ operation.Turns)
    (reached : history table ((earlier ++ turn :: between) ++ [.roll]) = .ok memory) :
    ∃ before, history table (earlier ++ [turn]) = .ok before ∧
      ∀ symbol, memory.read symbol = (lastStaged table symbol between).getD
        (turn.fallback table symbol (before.read symbol)) := by
  obtain ⟨prepared, first, last⟩ := history_append reached
  cases last
  rw [List.append_cons] at sized first
  obtain ⟨before, known, -, staged⟩ := history_quiet valid sized quiet first
  obtain ⟨opened, start, turned⟩ := history_append known
  have fits : opened.Fits table := by
    have whole : ∀ operation ∈ earlier, operation.Sized table :=
      fun operation member => sized operation (by simp [member])
    obtain ⟨_, same, fits⟩ := exists_history valid whole
    exact Except.ok.inj (same.symm.trans start) ▸ fits
  have performed : turn.perform table opened = .ok before := by
    simpa using turned
  refine ⟨before, known, fun symbol => ?_⟩
  rw [read_roll, staged, readNext_turned valid fits turns performed]

end Told

/-! ### The law of one row -/

/-- What memory is after operations, told without a second row. -/
structure OneRow (table : SymbolTable) (operations : List Operation) (memory : Memory) : Prop where
  current : memory.current.size = table.size
  next : memory.next.size = table.size
  started : ∀ earlier index count, operations = earlier ++ [.begin index count] →
    ∀ symbol, memory.read symbol = table.startingWord index count symbol
  unturned : ∀ earlier quiet, operations = earlier ++ quiet →
    (∀ operation ∈ quiet, ¬ operation.Turns) →
    ∃ before, history table earlier = .ok before ∧
      ∀ symbol, memory.read symbol = before.read symbol
  rolled : ∀ earlier, operations = earlier ++ [.roll] →
    ∃ past turn between before, earlier = past ++ turn :: between ∧ turn.Turns ∧
      (∀ operation ∈ between, ¬ operation.Turns) ∧
      history table (past ++ [turn]) = .ok before ∧
      ∀ symbol, memory.read symbol = (lastStaged table symbol between).getD
        (turn.fallback table symbol (before.read symbol))
  unknown : ∀ symbol word, memory.write table symbol word = .ok (.error (.unknownSymbol symbol)) ↔
    table.size ≤ symbol
  guarded : ∀ symbol word, memory.write table symbol word = .ok (.error (.writeProtected symbol)) ↔
    table.Guards symbol
  accepted : ∀ symbol word, (∃ after, memory.write table symbol word = .ok (.ok after)) ↔
    symbol < table.size ∧ ¬ table.Guards symbol
  refused : ∀ symbol word, table.size ≤ symbol ∨ table.Guards symbol →
    (Operation.write symbol word).perform table memory = .ok memory

/-- Node memory is one row of cells: whatever operations follow the start of a simulation, each roll
shows the last words staged since the row was last turned, and for the other cells what they fall
back on. -/
theorem memory_is_one_row {index count : Nat} {later : List Operation}
    (valid : table.validate = .ok ()) (sized : ∀ operation ∈ later, operation.Sized table) :
    ∃ memory, history table (.begin index count :: later) = .ok memory ∧
      OneRow table (.begin index count :: later) memory := by
  replace valid := SymbolTable.validate_eq_ok.mp valid
  have whole : ∀ operation ∈ .begin index count :: later, operation.Sized table :=
    List.forall_mem_cons.mpr ⟨trivial, sized⟩
  obtain ⟨memory, reached, fits⟩ := exists_history valid whole
  have answers : ∀ symbol word,
      memory.write table symbol word = .ok (memory.stage table symbol word) :=
    fun _ => write_eq valid fits
  refine ⟨memory, reached, fits.current, fits.next, ?started, ?unturned, ?rolled,
    fun symbol word => ?unknown, fun symbol word => ?guarded, fun symbol word => ?accepted,
    fun symbol word closed => ?refused⟩
  case started =>
    intro earlier index count split symbol
    rw [split] at reached whole
    obtain ⟨before, first, last⟩ := history_append reached
    obtain ⟨_, same, fitting⟩ := exists_history valid (List.forall_mem_append.mp whole).1
    cases Except.ok.inj (same.symm.trans first)
    have begun : before.begin table index count = .ok memory := by simpa [perform] using last
    rw [begin_eq valid fitting] at begun
    cases begun
    exact read_seeded
  case unturned =>
    intro earlier quiet split unturned
    rw [split] at reached whole
    obtain ⟨before, first, same, -⟩ := history_quiet valid whole unturned reached
    exact ⟨before, first, same⟩
  case rolled =>
    intro earlier split
    have turned : ∃ operation ∈ earlier, operation.Turns := by
      cases earlier with
      | nil => cases split
      | cons first rest =>
        obtain ⟨rfl, -⟩ := List.cons.inj split
        exact ⟨_, List.mem_cons_self, trivial⟩
    obtain ⟨past, turn, between, rfl, turns, quiet⟩ := exists_last_turn turned
    rw [split] at reached whole
    obtain ⟨before, first, shown⟩ :=
      history_rolled valid (List.forall_mem_append.mp whole).1 turns quiet reached
    exact ⟨past, turn, between, before, rfl, turns, quiet, first, shown⟩
  case unknown => rw [answers, Except.ok.injEq, stage_unknown valid]
  case guarded => rw [answers, Except.ok.injEq, stage_protected]
  case accepted =>
    simp only [answers, Except.ok.injEq]
    rw [← protection_eq_some_false valid]
    constructor
    · rintro ⟨after, accepted⟩
      exact (stage_eq_ok accepted).1
    · exact fun unguarded => exists_stage memory unguarded word
  case refused =>
    rw [perform_write valid fits]
    rcases closed with outside | guards
    · rw [(stage_unknown valid).mpr outside]
      rfl
    · rw [stage_protected.mpr guards]
      rfl

/-- Nothing of a tick long past comes back when the rows are exchanged again: a word to send staged
two rolls ago reads as zero, between cells that were written, delivered to and refused. -/
theorem memory_is_one_row_stale :
    SymbolTable.standard.validate = .ok () ∧
      ∃ memory, history .standard [.begin 1 4, .write 3 5, .roll, .roll, .write 7 2,
          .deliver #[9], .write 1 7, .roll] = .ok memory ∧
        OneRow .standard [.begin 1 4, .write 3 5, .roll, .roll, .write 7 2, .deliver #[9],
          .write 1 7, .roll] memory ∧
        [3, 7, 4, 5, 1, 6].map memory.read = [0, 2, 9, 1, 1, 1] := by
  have valid : SymbolTable.standard.validate = .ok () :=
    SymbolTable.validate_eq_ok.mpr (SymbolTable.valid_create {} [])
  have evaluated : (history .standard [.begin 1 4, .write 3 5, .roll, .roll, .write 7 2,
      .deliver #[9], .write 1 7, .roll]).toOption.map
        (fun memory => [3, 7, 4, 5, 1, 6].map memory.read) = some [0, 2, 9, 1, 1, 1] := by
    decide +kernel
  obtain ⟨memory, reached, law⟩ := @memory_is_one_row .standard 1 4
    [.write 3 5, .roll, .roll, .write 7 2, .deliver #[9], .write 1 7, .roll] valid
    (by decide +kernel)
  rw [reached] at evaluated
  exact ⟨valid, memory, reached, law, Option.some.inj evaluated⟩

end Operation

end Lockstep
