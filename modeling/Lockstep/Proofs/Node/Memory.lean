import Lockstep.Node.Memory
import Lockstep.Proofs.Table.Valid

/-!
The operations of node memory, cell by cell.

On a valid table and on rows of the table's size (`Memory.Fits`) no operation breaks a contract:
each equals a total function of memory (`seeded`, `stage`, `accept`, `outgoing`, `pending`). What
these do is told by the words read from them afterwards.
-/
namespace Lockstep

/-- Steps that always succeed can be taken without asking. -/
theorem foldlM_eq_foldl {ε α β : Type} {step : β → α → Except ε β} (total : β → α → β)
    (Inv : β → Prop) {items : List α}
    (steps : ∀ state item, item ∈ items → Inv state →
      step state item = .ok (total state item) ∧ Inv (total state item)) {state : β}
    (holds : Inv state) : items.foldlM step state = .ok (items.foldl total state) := by
  induction items generalizing state with
  | nil => rfl
  | cons item rest ih =>
    obtain ⟨first, kept⟩ := steps state item List.mem_cons_self holds
    rw [List.foldlM_cons, first, List.foldl_cons]
    exact ih (fun state item member => steps state item (List.mem_cons_of_mem _ member)) kept

namespace Memory

variable {table : SymbolTable} {memory : Memory} {symbol : SymbolId} {index count : Nat}

/-- Both rows have a cell for each symbol of the table. -/
structure Fits (table : SymbolTable) (memory : Memory) : Prop where
  current : memory.current.size = table.size
  next : memory.next.size = table.size

theorem fits_new (table : SymbolTable) : (Memory.new table).Fits table := by
  constructor <;> simp [Memory.new, Cells.zeros]

/-! ### The start of a simulation -/

/-- Memory at the start of a simulation. -/
def seeded (table : SymbolTable) (index count : Nat) : Memory where
  current := (table.symbols.map fun symbol => symbol.initial.resolve index count).toArray
  next := (table.symbols.map fun symbol =>
    if symbol.copyToNext || symbol.writeProtected then symbol.initial.resolve index count
    else 0).toArray

theorem fits_seeded (table : SymbolTable) (index count : Nat) :
    (seeded table index count).Fits table := by
  constructor <;> simp [seeded, SymbolTable.size]

/-- Filling the cells of consecutive symbols of a row that is zero from the first of them on. -/
private theorem foldl_fill {symbols : List Symbol} {start : Nat} {cells : Cells}
    (wanted : Symbol → Bool) (word : Symbol → Cell)
    (numbered : symbols.map (·.id) = List.range' start symbols.length)
    (blank : cells.toList.drop start = List.replicate symbols.length 0) :
    (symbols.foldl (fun cells symbol =>
        if wanted symbol then cells.setIfInBounds symbol.id (word symbol) else cells) cells).toList =
      cells.toList.take start ++
        symbols.map fun symbol => if wanted symbol then word symbol else 0 := by
  induction symbols generalizing start cells with
  | nil =>
    have whole := List.take_append_drop start cells.toList
    rw [blank] at whole
    simpa using whole.symm
  | cons symbol rest ih =>
    simp only [List.map_cons, List.length_cons, List.range'_succ, List.cons.injEq] at numbered
    obtain ⟨here, later⟩ := numbered
    have room : start < cells.toList.length := by
      have length := congrArg List.length blank
      simp only [List.length_drop, List.length_replicate, List.length_cons] at length
      omega
    rw [List.drop_eq_getElem_cons room, List.length_cons, List.replicate_succ, List.cons.injEq]
      at blank
    have set : ∀ w, ((cells.setIfInBounds symbol.id w).toList.take (start + 1) =
        cells.toList.take start ++ [w]) ∧
        (cells.setIfInBounds symbol.id w).toList.drop (start + 1) =
          List.replicate rest.length 0 := by
      intro w
      rw [Array.toList_setIfInBounds, here]
      constructor
      · rw [List.take_add_one, List.take_set_of_le (Nat.le_refl _), List.getElem?_set_self room]
        rfl
      · rw [List.drop_set_of_lt (Nat.lt_succ_self _)]
        exact blank.2
    rw [List.foldl_cons, List.map_cons]
    cases chosen : wanted symbol with
    | true =>
      rw [if_pos rfl, ih later (set _).2, (set _).1]
      simp
    | false =>
      rw [if_neg (by simp), ih later blank.2, List.take_add_one, List.getElem?_eq_getElem room, blank.1]
      simp

theorem begin_eq (valid : table.Valid) (fits : memory.Fits table) :
    memory.begin table index count = .ok (seeded table index count) := by
  have numbered : table.symbols.map (·.id) = List.range' 0 table.symbols.length := by
    rw [valid.numbered, SymbolTable.size, List.range_eq_range']
  have blank : ∀ size, size = table.size →
      (Cells.zeros size).toList.drop 0 = List.replicate table.symbols.length 0 := by
    rintro _ rfl
    simp [Cells.zeros, SymbolTable.size]
  have current := foldl_fill (fun _ => true)
    (fun symbol => symbol.initial.resolve index count) numbered (blank _ fits.current)
  have next := foldl_fill (fun symbol => symbol.copyToNext || symbol.writeProtected)
    (fun symbol => symbol.initial.resolve index count) numbered (blank _ fits.next)
  simp only [List.take_zero, List.nil_append, if_true] at current next
  have first : table.symbols.foldlM (seed index count) (Cells.zeros memory.current.size) =
      .ok (seeded table index count).current := by
    rw [foldlM_eq_foldl (fun cells symbol =>
      cells.setIfInBounds symbol.id (symbol.initial.resolve index count))
      (fun cells => cells.size = table.size)]
    · exact congrArg Except.ok (Array.toList_inj.mp (by simpa [seeded] using current))
    · intro cells symbol member size
      simp [seed, Cells.put, size, valid.id_lt member]
    · simpa [Cells.zeros] using fits.current
  have second : table.symbols.foldlM (keep (seeded table index count).current)
      (Cells.zeros memory.next.size) = .ok (seeded table index count).next := by
    rw [foldlM_eq_foldl (fun cells symbol =>
      if symbol.copyToNext || symbol.writeProtected then
        cells.setIfInBounds symbol.id (symbol.initial.resolve index count) else cells)
      (fun cells => cells.size = table.size)]
    · exact congrArg Except.ok (Array.toList_inj.mp (by simpa [seeded] using next))
    · intro cells symbol member size
      obtain ⟨position, bound, found⟩ := List.mem_iff_getElem.mp member
      have listed : table.symbols[position]? = some symbol := by
        rw [List.getElem?_eq_getElem bound, found]
      have same := valid.id_eq listed
      have kept : (seeded table index count).current[symbol.id]? =
          some (symbol.initial.resolve index count) := by
        simp [seeded, same, listed]
      cases chosen : symbol.copyToNext || symbol.writeProtected with
      | true =>
        simp [keep, chosen, Cells.fetch, kept, Cells.put, size, valid.id_lt member, bind,
          Except.bind]
      | false => simp [keep, chosen, size]
    · simpa [Cells.zeros] using fits.next
  simp only [begin, first, second, bind, Except.bind, pure, Except.pure]

/-! ### A new tick -/

theorem Fits.roll (fits : memory.Fits table) : (memory.roll table).Fits table :=
  ⟨fits.next, by simpa [Memory.roll] using fits.current⟩

@[simp] theorem read_roll : (memory.roll table).read symbol = memory.readNext symbol := rfl

/-- Cells that keep their word start the tick with it, and all others as zero. -/
theorem readNext_roll (valid : table.Valid) (fits : memory.Fits table) :
    (memory.roll table).readNext symbol =
      if table.Keeps symbol then memory.readNext symbol else 0 := by
  simp only [readNext, Memory.roll, Array.getElem?_mapIdx]
  by_cases inside : symbol < table.size
  · have current : symbol < memory.current.size := fits.current ▸ inside
    have next : symbol < memory.next.size := fits.next ▸ inside
    simp only [Array.getElem?_eq_getElem current, Array.getElem?_eq_getElem next,
      Option.map_some, Option.getD_some]
    split
    · rename_i keeps
      rw [show table.copyPolicy[symbol]? = some true from keeps]
      rfl
    · rename_i lost
      rw [valid.copyPolicy_of_not_keeps inside lost]
      rfl
  · have current : ¬ symbol < memory.current.size := fits.current ▸ inside
    have next : ¬ symbol < memory.next.size := fits.next ▸ inside
    simp [Array.getElem?_eq_none (Nat.not_lt.mp current),
      Array.getElem?_eq_none (Nat.not_lt.mp next)]

/-! ### Writes of programs -/

/-- A program's write, which is refused for unknown and protected cells. -/
def stage (table : SymbolTable) (symbol : SymbolId) (word : Cell) (memory : Memory) :
    Except Fault Memory :=
  match table.protection[symbol]? with
  | none => .error (.unknownSymbol symbol)
  | some true => .error (.writeProtected symbol)
  | some false => .ok { memory with next := memory.next.setIfInBounds symbol word }

theorem write_eq (valid : table.Valid) (fits : memory.Fits table) (word : Cell) :
    memory.write table symbol word = .ok (memory.stage table symbol word) := by
  unfold write stage
  cases policy : table.protection[symbol]? with
  | none => rfl
  | some guarded =>
    cases guarded with
    | true => rfl
    | false =>
      have inside : symbol < memory.next.size := by
        rw [fits.next, ← valid.protection_size]
        exact (Array.getElem?_eq_some_iff.mp policy).1
      simp [Cells.put, inside, bind, Except.bind, pure, Except.pure]

/-- A write to an open cell is accepted. -/
theorem exists_stage (memory : Memory) (unguarded : table.protection[symbol]? = some false)
    (word : Cell) : ∃ after, memory.stage table symbol word = .ok after := by
  rw [stage, unguarded]
  exact ⟨_, rfl⟩

/-- What an accepted write leaves behind. -/
theorem stage_eq_ok {word : Cell} {after : Memory}
    (accepted : memory.stage table symbol word = .ok after) :
    table.protection[symbol]? = some false ∧
      after = { memory with next := memory.next.setIfInBounds symbol word } := by
  unfold stage at accepted
  split at accepted
  · cases accepted
  · cases accepted
  · rename_i unguarded
    cases accepted
    exact ⟨unguarded, rfl⟩

theorem Fits.stage {word : Cell} {after : Memory} (fits : memory.Fits table)
    (accepted : memory.stage table symbol word = .ok after) : after.Fits table := by
  obtain ⟨-, rfl⟩ := stage_eq_ok accepted
  exact ⟨fits.current, by simpa using fits.next⟩

/-- An accepted write sets its own cell and no other. -/
theorem readNext_stage {word : Cell} {after : Memory} (valid : table.Valid)
    (fits : memory.Fits table) (accepted : memory.stage table symbol word = .ok after)
    (probe : SymbolId) :
    after.readNext probe = if probe = symbol then word else memory.readNext probe := by
  obtain ⟨unguarded, rfl⟩ := stage_eq_ok accepted
  have inside : symbol < memory.next.size := by
    rw [fits.next, ← valid.protection_size]
    exact (Array.getElem?_eq_some_iff.mp unguarded).1
  by_cases same : probe = symbol
  · subst same
    simp [readNext, Array.getElem?_setIfInBounds_self_of_lt inside]
  · simp [readNext, Array.getElem?_setIfInBounds_ne (Ne.symm same), same]

/-! ### Messages -/

/-- A message arrives. -/
def accept (table : SymbolTable) (payload : Cells) (memory : Memory) : Memory :=
  { memory with
    next := (memory.next.extract 0 table.receive.start ++ payload ++
      memory.next.extract table.receive.stop memory.next.size).setIfInBounds table.incoming 1 }

/-- A row with other words in place of a span of the same length, cell by cell. -/
private theorem getElem?_overwritten {cells words : Cells} {start stop : Nat}
    (ordered : start ≤ stop) (within : stop ≤ cells.size) (length : words.size = stop - start)
    (probe : Nat) :
    (cells.extract 0 start ++ words ++ cells.extract stop cells.size)[probe]? =
      if start ≤ probe ∧ probe < stop then words[probe - start]? else cells[probe]? := by
  have first : (cells.extract 0 start).size = start := by
    simp only [Array.size_extract]
    omega
  have both : (cells.extract 0 start ++ words).size = stop := by
    rw [Array.size_append]
    omega
  by_cases before : probe < start
  · have outside : ¬ (start ≤ probe ∧ probe < stop) := by omega
    rw [if_neg outside, Array.getElem?_append_left (by omega), Array.getElem?_append_left (by omega),
      Array.getElem?_extract, if_pos (by omega), Nat.zero_add]
  · by_cases inside : probe < stop
    · rw [if_pos ⟨by omega, inside⟩, Array.getElem?_append_left (by omega),
        Array.getElem?_append_right (by omega), first]
    · have outside : ¬ (start ≤ probe ∧ probe < stop) := by omega
      rw [if_neg outside, Array.getElem?_append_right (by omega), both, Array.getElem?_extract]
      split
      · rw [Nat.add_sub_cancel' (by omega)]
      · rw [Array.getElem?_eq_none (by omega)]

private theorem size_overwritten (valid : table.Valid) (fits : memory.Fits table)
    {payload : Cells} (length : payload.size = table.receive.length) :
    (memory.next.extract 0 table.receive.start ++ payload ++
      memory.next.extract table.receive.stop memory.next.size).size = table.size := by
  obtain ⟨ordered, within⟩ := valid.receive_within
  rw [Span.length] at length
  have next := fits.next
  simp only [Array.size_append, Array.size_extract]
  omega

theorem deliver_eq (valid : table.Valid) (fits : memory.Fits table) {payload : Cells}
    (length : payload.size = table.receive.length) :
    memory.deliver table payload = .ok (memory.accept table payload) := by
  have within : table.receive.Within memory.next.size := fits.next ▸ valid.receive_within
  have flag := valid.incoming_lt
  rw [← size_overwritten valid fits length] at flag
  unfold deliver Cells.overwrite Cells.put
  rw [if_pos within, if_pos length]
  simp only [bind, Except.bind]
  rw [if_pos flag]
  rfl

theorem Fits.accept (valid : table.Valid) (fits : memory.Fits table) {payload : Cells}
    (length : payload.size = table.receive.length) : (memory.accept table payload).Fits table :=
  ⟨fits.current, by simpa [Memory.accept] using size_overwritten valid fits length⟩

/-- A message's words are in the receive cells and the incoming flag is one. -/
theorem readNext_accept (valid : table.Valid) (fits : memory.Fits table) {payload : Cells}
    (length : payload.size = table.receive.length) (probe : SymbolId) :
    (memory.accept table payload).readNext probe =
      if probe = table.incoming then 1
      else if table.receive.start ≤ probe ∧ probe < table.receive.stop then
        payload[probe - table.receive.start]?.getD 0
      else memory.readNext probe := by
  obtain ⟨ordered, within⟩ := valid.receive_within
  have flag := valid.incoming_lt
  rw [← size_overwritten valid fits length] at flag
  simp only [Memory.accept, readNext]
  by_cases same : probe = table.incoming
  · subst same
    rw [if_pos rfl, Array.getElem?_setIfInBounds_self_of_lt flag]
    rfl
  · rw [if_neg same, Array.getElem?_setIfInBounds_ne (Ne.symm same),
      getElem?_overwritten ordered (fits.next ▸ within) length]
    split <;> rfl

/-- The words a message sent now would carry. -/
def outgoing (table : SymbolTable) (memory : Memory) : Cells :=
  memory.next.extract table.send.start table.send.stop

theorem payload_eq (valid : table.Valid) (fits : memory.Fits table) :
    memory.payload table = .ok (memory.outgoing table) := by
  have within : table.send.Within memory.next.size := fits.next ▸ valid.send_within
  simp [payload, Cells.slice, within, outgoing]

theorem size_outgoing (valid : table.Valid) (fits : memory.Fits table) :
    (memory.outgoing table).size = table.payloadSize := by
  obtain ⟨ordered, within⟩ := valid.send_within
  have next := fits.next
  simp only [outgoing, Array.size_extract, SymbolTable.payloadSize, Span.length]
  omega

/-! ### Changes -/

/-- Some cell that programs may write to is about to change. -/
def pending (table : SymbolTable) (memory : Memory) : Bool :=
  table.symbols.any fun symbol =>
    !symbol.writeProtected && memory.readNext symbol.id != memory.read symbol.id

/-- A cell that programs may write to is about to change. -/
theorem pending_of_ne (valid : table.Valid) (unguarded : table.protection[symbol]? = some false)
    (changes : memory.readNext symbol ≠ memory.read symbol) : memory.pending table = true := by
  rw [valid.protection_get, Option.map_eq_some_iff] at unguarded
  obtain ⟨entry, found, unguarded⟩ := unguarded
  refine List.any_eq_true.mpr ⟨entry, List.mem_of_getElem? found, ?_⟩
  rw [unguarded, valid.id_eq found]
  simpa using changes

theorem hasPendingChange_eq (valid : table.Valid) (fits : memory.Fits table) :
    memory.hasPendingChange table = .ok (memory.pending table) := by
  unfold hasPendingChange pending
  have inside : ∀ symbol ∈ table.symbols, symbol.id < table.size := fun _ => valid.id_lt
  revert inside
  generalize table.symbols = symbols
  intro inside
  induction symbols with
  | nil => rfl
  | cons symbol rest ih =>
    obtain ⟨here, later⟩ := List.forall_mem_cons.mp inside
    have prepared : memory.next.fetch symbol.id = .ok (memory.readNext symbol.id) := by
      have bound : symbol.id < memory.next.size := fits.next ▸ here
      simp [Cells.fetch, readNext, bound]
    have held : memory.current.fetch symbol.id = .ok (memory.read symbol.id) := by
      have bound : symbol.id < memory.current.size := fits.current ▸ here
      simp [Cells.fetch, read, bound]
    rw [List.anyM_cons, List.any_cons, ih later, prepared, held]
    cases symbol.writeProtected with
    | true => rfl
    | false =>
      change (if memory.readNext symbol.id != memory.read symbol.id then pure true else _) = _
      cases memory.readNext symbol.id != memory.read symbol.id <;> rfl

end Memory

end Lockstep
