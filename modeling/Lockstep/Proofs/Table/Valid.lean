import Lockstep.Table.Validity

/-!
What a network may rely on in a table that passed validation.

`SymbolTable.Valid` collects the four conditions that `SymbolTable.validate` checks. Cells are then
spoken of by number: `Keeps` are those whose word lasts, `Guards` those that programs may not write,
and a cell is `Fleeting` if only the network writes it and its word lasts one tick.
-/
namespace Lockstep.SymbolTable

variable {table : SymbolTable} {symbol : SymbolId}

/-- A table whose parts agree. -/
structure Valid (table : SymbolTable) : Prop where
  payload : table.send.length = table.receive.length
  numbered : table.Numbered
  inside : table.SectionsInside
  policies : table.PoliciesAgree

theorem validate_eq_ok : table.validate = .ok () ↔ table.Valid := by
  unfold validate
  constructor
  · intro accepted
    split at accepted
    · cases accepted
    · split at accepted
      · cases accepted
      · split at accepted
        · cases accepted
        · split at accepted
          · cases accepted
          · rename_i payload numbered inside policies
            exact ⟨Decidable.not_not.mp payload, Decidable.not_not.mp numbered,
              Decidable.not_not.mp inside, Decidable.not_not.mp policies⟩
  · intro valid
    simp [valid.payload, valid.numbered, valid.inside, valid.policies]

/-- The word of the cell lasts from one tick to the next. -/
def Keeps (table : SymbolTable) (symbol : SymbolId) : Prop :=
  table.copyPolicy[symbol]? = some true

/-- Programs may not write to the cell. -/
def Guards (table : SymbolTable) (symbol : SymbolId) : Prop :=
  table.protection[symbol]? = some true

/-- Only the network writes to the cell, and its word lasts one tick. -/
def Fleeting (table : SymbolTable) (symbol : SymbolId) : Prop :=
  table.copyPolicy[symbol]? = some false ∧ table.Guards symbol

instance (table : SymbolTable) : DecidablePred table.Keeps :=
  fun _ => inferInstanceAs (Decidable (_ = _))

instance (table : SymbolTable) : DecidablePred table.Guards :=
  fun _ => inferInstanceAs (Decidable (_ = _))

theorem Fleeting.not_keeps (fleeting : table.Fleeting symbol) : ¬ table.Keeps symbol := by
  intro keeps
  rw [Keeps, fleeting.1] at keeps
  cases keeps

namespace Valid

theorem copyPolicy_get (valid : table.Valid) (symbol : SymbolId) :
    table.copyPolicy[symbol]? = table.symbols[symbol]?.map (·.copyToNext) := by
  rw [← Array.getElem?_toList, valid.policies.1, List.getElem?_map]

theorem protection_get (valid : table.Valid) (symbol : SymbolId) :
    table.protection[symbol]? = table.symbols[symbol]?.map (·.writeProtected) := by
  rw [← Array.getElem?_toList, valid.policies.2, List.getElem?_map]

theorem copyPolicy_size (valid : table.Valid) : table.copyPolicy.size = table.size := by
  rw [← Array.length_toList, valid.policies.1, List.length_map, size]

theorem protection_size (valid : table.Valid) : table.protection.size = table.size := by
  rw [← Array.length_toList, valid.policies.2, List.length_map, size]

/-- A cell inside the table either keeps its word or starts each tick as zero. -/
theorem copyPolicy_of_not_keeps (valid : table.Valid) (inside : symbol < table.size)
    (fleeting : ¬ table.Keeps symbol) : table.copyPolicy[symbol]? = some false := by
  have bound : symbol < table.copyPolicy.size := valid.copyPolicy_size ▸ inside
  simp only [Keeps, Array.getElem?_eq_getElem bound, Option.some.injEq] at fleeting ⊢
  exact Bool.eq_false_iff.mpr fleeting

theorem id_eq (valid : table.Valid) {entry : Symbol} (found : table.symbols[symbol]? = some entry) :
    entry.id = symbol := by
  have numbered := congrArg (·[symbol]?) valid.numbered
  simp only [List.getElem?_map, found, Option.map_some] at numbered
  have bound := (List.getElem?_eq_some_iff.mp found).1
  rw [List.getElem?_range (by exact bound)] at numbered
  exact Option.some.inj numbered

theorem id_lt (valid : table.Valid) {entry : Symbol} (member : entry ∈ table.symbols) :
    entry.id < table.size := by
  have listed : entry.id ∈ table.symbols.map (·.id) := List.mem_map_of_mem member
  rw [valid.numbered] at listed
  exact List.mem_range.mp listed

theorem send_within (valid : table.Valid) : table.send.Within table.size :=
  valid.inside.1 _ (by simp)

theorem receive_within (valid : table.Valid) : table.receive.Within table.size :=
  valid.inside.1 _ (by simp)

theorem incoming_lt (valid : table.Valid) : table.incoming < table.size :=
  valid.inside.2.1

theorem payloadSize_eq (valid : table.Valid) : table.payloadSize = table.receive.length :=
  valid.payload

end Valid

end Lockstep.SymbolTable
