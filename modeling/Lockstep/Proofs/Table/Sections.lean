import Lockstep.Proofs.Table.Created

/-!
The sections of a table made from counts.

`TableLayout.sections` tells what a table is to hold: seven sections in order, with the kind of their
cells and the policies of each cell. Their spans, put one after another, are the positions of the
table, each of them once, and every cell is as its section says (`SymbolTable.laid_out`).
-/
namespace Lockstep

/-- The positions of the span, in order. -/
def Span.positions (span : Span) : List Nat :=
  List.range' span.start span.length

/-- The spans follow one another from `start` to `stop`. -/
def Span.Consecutive (start : Nat) : List Span → (stop : Nat) → Prop
  | [], stop => start = stop
  | span :: rest, stop => span.start = start ∧ start ≤ span.stop ∧ Consecutive span.stop rest stop

/-- Spans that follow one another hold every position between their ends once. -/
theorem Span.Consecutive.positions {spans : List Span} {start stop : Nat}
    (consecutive : Consecutive start spans stop) :
    start ≤ stop ∧ spans.flatMap Span.positions = List.range' start (stop - start) := by
  induction spans generalizing start with
  | nil =>
    cases consecutive
    exact ⟨Nat.le_refl _, by simp⟩
  | cons span rest ih =>
    obtain ⟨rfl, forward, follow⟩ := consecutive
    obtain ⟨onwards, held⟩ := ih follow
    refine ⟨Nat.le_trans forward onwards, ?_⟩
    have next : span.stop = span.start + (span.stop - span.start) := by omega
    have total : stop - span.start = (span.stop - span.start) + (stop - span.stop) := by omega
    rw [List.flatMap_cons, held, total, ← List.range'_append_1, ← next]
    rfl

/-- The policies of a cell. -/
structure Policies where
  /-- The cell keeps its word from one tick to the next. -/
  keeps : Bool
  /-- Programs may not write to the cell. -/
  guarded : Bool
  deriving DecidableEq

/-- A section of a table, with the policies of each of its cells. -/
structure Section where
  kind : SymbolKind
  span : Span
  cells : List Policies

namespace TableLayout

/-- The sections of a table: the constants, the words to send, the words received, the flag, the
number of the node, the variables and the extras. The last begin where the variables end. -/
def sections (layout : TableLayout) (extras : List SymbolSpec) (table : SymbolTable) :
    List Section :=
  [⟨.constant, table.constants,
      List.replicate (if layout.needsConstants then 3 else 0) ⟨true, true⟩⟩,
    ⟨.send, table.send, List.replicate (max 1 layout.sendReceivePairs) ⟨false, false⟩⟩,
    ⟨.receive, table.receive, List.replicate (max 1 layout.sendReceivePairs) ⟨false, true⟩⟩,
    ⟨.incomingFlag, ⟨table.incoming, table.incoming + 1⟩, [⟨false, true⟩]⟩,
    ⟨.nodeId, ⟨table.nodeId, table.nodeId + 1⟩, [⟨true, false⟩]⟩,
    ⟨.var, table.vars, List.replicate layout.variableCount ⟨true, false⟩⟩,
    ⟨.user, ⟨table.vars.stop, table.size⟩,
      extras.map fun extra => ⟨extra.copyToNext, extra.writeProtected⟩⟩]

variable (layout : TableLayout) (extras : List SymbolSpec)

/-- Every constant is kept and guarded. -/
theorem entry_constant {offset : Nat} (inside : offset < layout.sendStart) :
    ∃ name initial, (layout.entries extras)[offset]? =
      some (.constant, ⟨name, true, true, initial⟩) := by
  have first : offset < (layout.constantSpecs.map (SymbolKind.constant, ·)).length := by
    rwa [List.length_map, length_constantSpecs]
  have front : offset < (layout.constantSpecs.map (SymbolKind.constant, ·) ++
      layout.sendSpecs.map (SymbolKind.send, ·)).length := by
    rw [List.length_append]
    exact Nat.lt_add_right _ first
  rw [entries_eq, List.getElem?_append_left front, List.getElem?_append_left first]
  unfold sendStart at inside
  split at inside
  · rename_i needed
    rw [constantSpecs, if_pos needed]
    match offset, inside with
    | 0, _ | 1, _ | 2, _ => exact ⟨_, _, rfl⟩
  · exact absurd inside (Nat.not_lt_zero _)

/-- The extras come last, in the order they were given. -/
theorem entry_extra (offset : Nat) :
    (layout.entries extras)[layout.sendStart + layout.payloadSize + layout.payloadSize + 2 +
      layout.variableCount + offset]? = extras[offset]?.map (.user, ·) := by
  have length : (layout.entries []).length = layout.sendStart + layout.payloadSize +
      layout.payloadSize + 2 + layout.variableCount := length_entries layout []
  rw [entries_append, ← length, List.getElem?_append_right (Nat.le_add_right _ _), Nat.add_sub_cancel_left,
    List.getElem?_map]

end TableLayout

namespace SymbolTable

variable {layout : TableLayout} {extras : List SymbolSpec}

/-- The table has the cells of the section where its span says. -/
structure Lays (table : SymbolTable) (part : Section) : Prop where
  sized : part.span.length = part.cells.length
  symbol : ∀ (offset : Nat) (policies : Policies), part.cells[offset]? = some policies →
    ∃ symbol, table.get? (part.span.start + offset) = some symbol ∧
      symbol.id = part.span.start + offset ∧ symbol.kind = part.kind ∧
      symbol.copyToNext = policies.keeps ∧ symbol.writeProtected = policies.guarded
  flattened : ∀ (offset : Nat) (policies : Policies), part.cells[offset]? = some policies →
    table.copyPolicy[part.span.start + offset]? = some policies.keeps ∧
      table.protection[part.span.start + offset]? = some policies.guarded

theorem lays_of_entries {part : Section} (sized : part.span.length = part.cells.length)
    (entry : ∀ (offset : Nat) (policies : Policies), part.cells[offset]? = some policies →
      ∃ name initial, (layout.entries extras)[part.span.start + offset]? =
        some (part.kind, ⟨name, policies.keeps, policies.guarded, initial⟩)) :
    (create layout extras).Lays part := by
  have valid := valid_create layout extras
  have found : ∀ (offset : Nat) (policies : Policies), part.cells[offset]? = some policies →
      ∃ name initial, (create layout extras).symbols[part.span.start + offset]? =
        some ⟨part.span.start + offset, name, part.kind, policies.keeps, policies.guarded,
          initial⟩ := by
    intro offset policies placed
    obtain ⟨name, initial, listed⟩ := entry offset policies placed
    refine ⟨name, initial, ?_⟩
    rw [symbol_create, listed]
    rfl
  refine ⟨sized, fun offset policies placed => ?_, fun offset policies placed => ?_⟩
  · obtain ⟨name, initial, listed⟩ := found offset policies placed
    exact ⟨_, listed, rfl, rfl, rfl, rfl⟩
  · obtain ⟨name, initial, listed⟩ := found offset policies placed
    rw [valid.copyPolicy_get, valid.protection_get, listed]
    exact ⟨rfl, rfl⟩

/-- A section whose cells all have the same policies. -/
theorem lays_of_uniform {kind : SymbolKind} {span : Span} {count : Nat} {policies : Policies}
    (sized : span.length = count)
    (entry : ∀ offset < count, ∃ name initial, (layout.entries extras)[span.start + offset]? =
      some (kind, ⟨name, policies.keeps, policies.guarded, initial⟩)) :
    (create layout extras).Lays ⟨kind, span, List.replicate count policies⟩ := by
  apply lays_of_entries (by rw [List.length_replicate, sized])
  intro offset other listed
  rw [List.getElem?_replicate, Option.ite_none_right_eq_some, Option.some.injEq] at listed
  obtain ⟨inside, rfl⟩ := listed
  exact entry offset inside

/-- A section of one cell. -/
theorem lays_of_single {kind : SymbolKind} {position : Nat} {spec : SymbolSpec}
    (entry : (layout.entries extras)[position]? = some (kind, spec)) :
    (create layout extras).Lays
      ⟨kind, ⟨position, position + 1⟩, [⟨spec.copyToNext, spec.writeProtected⟩]⟩ := by
  have sized : Span.length ⟨position, position + 1⟩ = 1 := Nat.add_sub_cancel_left _ _
  refine lays_of_uniform sized fun offset inside => ?_
  cases Nat.lt_one_iff.mp inside
  exact ⟨_, _, entry⟩

theorem lays_sections (layout : TableLayout) (extras : List SymbolSpec) :
    ∀ part ∈ layout.sections extras (create layout extras), (create layout extras).Lays part := by
  have pairs : max 1 layout.sendReceivePairs = layout.payloadSize := Nat.max_comm _ _
  rw [TableLayout.sections, pairs]
  simp only [List.forall_mem_cons, List.not_mem_nil, false_imp_iff, implies_true, and_true]
  refine ⟨?_, ?_, ?_, ?_, ?_, ?_, ?_⟩
  · refine lays_of_uniform (Nat.sub_zero _) fun offset inside => ?_
    rw [show (create layout extras).constants.start = 0 from rfl, Nat.zero_add]
    exact layout.entry_constant extras inside
  · have sized : (create layout extras).send.length = layout.payloadSize :=
      Nat.add_sub_cancel_left _ _
    exact lays_of_uniform sized fun offset inside => ⟨_, _, layout.entry_send extras inside⟩
  · have sized : (create layout extras).receive.length = layout.payloadSize :=
      Nat.add_sub_cancel_left _ _
    exact lays_of_uniform sized fun offset inside => ⟨_, _, layout.entry_receive extras inside⟩
  · exact lays_of_single (layout.entry_incoming extras)
  · exact lays_of_single (layout.entry_nodeId extras)
  · have sized : (create layout extras).vars.length = layout.variableCount :=
      Nat.add_sub_cancel_left _ _
    exact lays_of_uniform sized fun offset inside => ⟨_, _, layout.entry_var extras inside⟩
  · apply lays_of_entries
    · rw [List.length_map, Span.length, size_create_eq]
      exact Nat.add_sub_cancel_left _ _
    · intro offset policies listed
      rw [List.getElem?_map, Option.map_eq_some_iff] at listed
      obtain ⟨extra, given, rfl⟩ := listed
      refine ⟨extra.name, extra.initial, (layout.entry_extra extras offset).trans ?_⟩
      rw [given]
      rfl

theorem consecutive_sections (layout : TableLayout) (extras : List SymbolSpec) :
    Span.Consecutive 0 ((layout.sections extras (create layout extras)).map (·.span))
      (create layout extras).size := by
  simp only [TableLayout.sections, List.map_cons, List.map_nil, Span.Consecutive, size_create_eq]
  simp only [create, true_and, and_true]
  omega

/-- A table made from counts has its sections one after another, which together hold each cell once.
Every cell is numbered by its position and has the kind and policies of its section; an extra has
those it was given with. Messages are as long as what is received, symbols are found at their place
in a section, and the table passes validation. -/
theorem laid_out (layout : TableLayout) (extras : List SymbolSpec) :
    let table := create layout extras
    let constants := if layout.needsConstants then 3 else 0
    table.size = constants + 2 * max 1 layout.sendReceivePairs + 2 + layout.variableCount +
        extras.length ∧
      (layout.sections extras table).flatMap (·.span.positions) = List.range table.size ∧
      (∀ part ∈ layout.sections extras table, table.Lays part) ∧
      table.send.length = table.receive.length ∧
      (∀ (part : TableSection) (position : Nat), position < (table.span part).length →
        table.symbolAt part position = .ok ((table.span part).start + position)) ∧
      table.validate = .ok () := by
  intro table constants
  have valid := valid_create layout extras
  have held := (consecutive_sections layout extras).positions.2
  rw [List.flatMap_map, Nat.sub_zero, ← List.range_eq_range'] at held
  refine ⟨?_, held, lays_sections layout extras, valid.payload,
    fun part position inside => if_pos inside, validate_eq_ok.mpr valid⟩
  have pairs : layout.payloadSize = max 1 layout.sendReceivePairs := Nat.max_comm _ _
  rw [size_create_eq, pairs, TableLayout.sendStart, Nat.two_mul, Nat.add_assoc constants]

end SymbolTable

end Lockstep
