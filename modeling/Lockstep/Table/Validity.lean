import Lockstep.Network.Config
import Lockstep.Table.Basic

/-!
Validity: what a network relies on in a table.

Tables can be read from outside, where nothing need hold between their parts.
`SymbolTable.validate` answers the first of four conditions that fails.
-/
namespace Lockstep.SymbolTable

/-- Every symbol's number is its position. -/
def Numbered (table : SymbolTable) : Prop :=
  table.symbols.map (·.id) = List.range table.size

instance (table : SymbolTable) : Decidable table.Numbered :=
  inferInstanceAs (Decidable (_ = _))

/-- Sections and special symbols lie inside the table. -/
def SectionsInside (table : SymbolTable) : Prop :=
  (∀ span ∈ [table.constants, table.send, table.receive, table.vars],
      span.Within table.size) ∧
    table.incoming < table.size ∧ table.nodeId < table.size

instance (table : SymbolTable) : Decidable table.SectionsInside :=
  inferInstanceAs (Decidable (_ ∧ _))

/-- The policies kept by position are those of the symbols. -/
def PoliciesAgree (table : SymbolTable) : Prop :=
  table.copyPolicy.toList = table.symbols.map (·.copyToNext) ∧
    table.protection.toList = table.symbols.map (·.writeProtected)

instance (table : SymbolTable) : Decidable table.PoliciesAgree :=
  inferInstanceAs (Decidable (_ ∧ _))

/-- What a network relies on. The first failing check is answered. -/
def validate (table : SymbolTable) : Except ConfigError Unit :=
  if table.send.length ≠ table.receive.length then
    .error (.payloadMismatch table.send.length table.receive.length)
  else if ¬ table.Numbered then .error (.inconsistentTable .misnumbered)
  else if ¬ table.SectionsInside then .error (.inconsistentTable .outside)
  else if ¬ table.PoliciesAgree then .error (.inconsistentTable .policies)
  else .ok ()

end Lockstep.SymbolTable
