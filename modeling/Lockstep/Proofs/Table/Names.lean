import Lockstep.Proofs.Table.Sections
import Mathlib.Data.List.Nodup

/-!
Names and the cells they find.

A name finds the first cell that is called by it, and a name that calls no cell finds none
(`SymbolTable.find?_eq_some_iff`, `SymbolTable.find?_eq_none_iff`). The cells that a layout itself
asks for have different names, however many they are (`TableLayout.nodup_names`). So only the extras
of the caller can be hidden by a name that is taken (`SymbolTable.names_find_cells`).
-/
namespace Lockstep

namespace TableLayout

/-- What the layout itself asks for, by the kind of its cells. -/
def parts (layout : TableLayout) : List (SymbolKind × List SymbolSpec) :=
  [(.constant, layout.constantSpecs), (.send, layout.sendSpecs), (.receive, layout.receiveSpecs),
    (.incomingFlag, [incomingSpec]), (.nodeId, [nodeIdSpec]), (.var, layout.variableSpecs)]

/-- The kind of cell that a name is for, told by how the name begins. -/
def kindOfName (name : String) : SymbolKind :=
  match name.toList with
  | 'z' :: _ | 'o' :: _ | 'n' :: 'o' :: 'd' :: 'e' :: '_' :: 'c' :: _ => .constant
  | 's' :: _ => .send
  | 'r' :: _ => .receive
  | 'i' :: _ => .incomingFlag
  | 'n' :: _ => .nodeId
  | 'v' :: _ => .var
  | _ => .user

variable (layout : TableLayout)

theorem entries_parts :
    layout.entries [] = layout.parts.flatMap fun part => part.2.map (part.1, ·) := by
  simp [entries, parts]

theorem kindOfName_part :
    ∀ part ∈ layout.parts, ∀ spec ∈ part.2, kindOfName spec.name = part.1 := by
  simp only [parts, List.forall_mem_cons]
  refine ⟨?_, ?_, ?_, ?_, ?_, ?_, by simp⟩
  · unfold constantSpecs
    split
    · simp [kindOfName]
    · simp
  · simp [sendSpecs, kindOfName]
  · simp [receiveSpecs, kindOfName]
  · simp [incomingSpec, kindOfName]
  · simp [nodeIdSpec, kindOfName]
  · simp [variableSpecs, SymbolSpec.var, kindOfName]

/-- A name followed by a number tells the number. -/
theorem nodup_numbered (stem : String) (count : Nat) :
    ((List.range count).map fun i => stem ++ toString i).Nodup := by
  apply List.Nodup.map _ List.nodup_range
  intro i j same
  have written : i.repr = j.repr := (String.append_right_inj stem).mp same
  calc i = Nat.ofDigitChars 10 i.repr.toList 0 := by
        rw [Nat.toList_repr, Nat.ofDigitChars_ten_toDigits]
    _ = Nat.ofDigitChars 10 j.repr.toList 0 := by rw [written]
    _ = j := by rw [Nat.toList_repr, Nat.ofDigitChars_ten_toDigits]

theorem nodup_part : ∀ part ∈ layout.parts, (part.2.map (·.name)).Nodup := by
  simp only [parts, List.forall_mem_cons]
  refine ⟨?_, ?_, ?_, List.nodup_singleton _, List.nodup_singleton _, ?_, by simp⟩
  · unfold constantSpecs
    split
    · simp
    · exact List.nodup_nil
  · rw [sendSpecs, List.map_map]
    exact nodup_numbered "send" layout.payloadSize
  · rw [receiveSpecs, List.map_map]
    exact nodup_numbered "recv" layout.payloadSize
  · rw [variableSpecs, List.map_map]
    exact nodup_numbered "var" layout.variableCount

/-- No two of the layout's own cells have the same name. Those of one kind are told apart by their
number, those of different kinds by how the name begins. -/
theorem nodup_names : ((layout.entries []).map (·.2.name)).Nodup := by
  have names : (layout.entries []).map (·.2.name) =
      (layout.parts.map fun part => part.2.map (·.name)).flatten := by
    simp [entries_parts, List.flatMap_def, Function.comp_def]
  rw [names, List.nodup_flatten]
  refine ⟨?_, ?_⟩
  · intro names listed
    obtain ⟨part, member, rfl⟩ := List.mem_map.mp listed
    exact nodup_part layout part member
  · have kinds : layout.parts.Pairwise fun part other => part.1 ≠ other.1 := by
      simp [parts]
    rw [List.pairwise_map]
    refine kinds.imp_of_mem fun {part other} member otherMember apart name here there => ?_
    obtain ⟨spec, listed, rfl⟩ := List.mem_map.mp here
    obtain ⟨again, relisted, same⟩ := List.mem_map.mp there
    apply apart
    rw [← kindOfName_part layout part member spec listed, ← same,
      kindOfName_part layout other otherMember again relisted]

theorem kind_ne_user : ∀ entry ∈ layout.entries [], entry.1 ≠ .user := by
  have kinds : ∀ part ∈ layout.parts, part.1 ≠ .user := by simp [parts]
  intro entry listed
  rw [entries_parts, List.mem_flatMap] at listed
  obtain ⟨part, member, among⟩ := listed
  obtain ⟨spec, -, rfl⟩ := List.mem_map.mp among
  exact kinds part member

end TableLayout

namespace SymbolTable

/-- The cell is called by the name. -/
def Calls (table : SymbolTable) (name : String) (symbol : SymbolId) : Prop :=
  ∃ entry, table.get? symbol = some entry ∧ entry.name = name

variable {table : SymbolTable} {name : String} {symbol : SymbolId}

/-- A name finds the first of the cells called by it. -/
theorem find?_eq_some_iff (valid : table.Valid) :
    table.find? name = some symbol ↔
      table.Calls name symbol ∧ ∀ earlier < symbol, ¬ table.Calls name earlier := by
  unfold find?
  simp only [Option.map_eq_some_iff, List.find?_eq_some_iff_getElem]
  constructor
  · rintro ⟨entry, ⟨named, position, inside, rfl, before⟩, rfl⟩
    have found : table.symbols[position]? = some table.symbols[position] :=
      List.getElem?_eq_getElem inside
    rw [valid.id_eq found]
    refine ⟨⟨_, found, eq_of_beq named⟩, fun earlier less called => ?_⟩
    obtain ⟨other, listed, same⟩ := called
    obtain ⟨within, rfl⟩ := List.getElem?_eq_some_iff.mp listed
    have differs := before earlier less
    simp [same] at differs
  · rintro ⟨⟨entry, found, rfl⟩, first⟩
    obtain ⟨inside, here⟩ := List.getElem?_eq_some_iff.mp found
    refine ⟨entry, ⟨beq_self_eq_true _, symbol, inside, here, fun earlier less => ?_⟩,
      valid.id_eq found⟩
    have within : earlier < table.symbols.length := Nat.lt_trans less inside
    have differs : table.symbols[earlier].name ≠ entry.name := fun same =>
      first earlier less ⟨_, List.getElem?_eq_getElem within, same⟩
    simpa using differs

theorem find?_eq_none_iff : table.find? name = none ↔ ∀ symbol, ¬ table.Calls name symbol := by
  unfold find?
  rw [Option.map_eq_none_iff, List.find?_eq_none]
  constructor
  · rintro unnamed symbol ⟨entry, found, rfl⟩
    exact unnamed entry (List.mem_of_getElem? found) (beq_self_eq_true _)
  · intro uncalled entry member named
    obtain ⟨symbol, found⟩ := List.getElem?_of_mem member
    exact uncalled symbol ⟨entry, found, eq_of_beq named⟩

/-- A name that calls a cell finds one, and none after that cell. -/
theorem Calls.exists_first (called : table.Calls name symbol) (valid : table.Valid) :
    ∃ first ≤ symbol, table.find? name = some first ∧ table.Calls name first ∧
      ∀ earlier < first, ¬ table.Calls name earlier := by
  cases result : table.find? name with
  | none => exact absurd called (find?_eq_none_iff.mp result symbol)
  | some first =>
    obtain ⟨calledFirst, unclaimed⟩ := (find?_eq_some_iff valid).mp result
    have before : first ≤ symbol := Nat.le_of_not_lt fun later => unclaimed symbol later called
    exact ⟨first, before, rfl, calledFirst, unclaimed⟩

/-! ### Tables made from counts -/

variable {layout : TableLayout} {extras : List SymbolSpec} {entry : Symbol}

theorem get?_own (layout : TableLayout) (extras : List SymbolSpec) {symbol : SymbolId}
    (own : symbol < (create layout extras).vars.stop) :
    (create layout extras).get? symbol =
      (layout.entries [])[symbol]?.map fun entry => Symbol.ofEntry entry symbol := by
  have inside : symbol < (layout.entries []).length := by
    rw [TableLayout.length_entries]
    exact own
  rw [get?, symbol_create, TableLayout.entries_append, List.getElem?_append_left inside]

theorem get?_extra (layout : TableLayout) (extras : List SymbolSpec) (offset : Nat) :
    (create layout extras).get? ((create layout extras).vars.stop + offset) =
      extras[offset]?.map fun extra =>
        Symbol.ofEntry (.user, extra) ((create layout extras).vars.stop + offset) := by
  have given := layout.entry_extra extras offset
  rw [get?, symbol_create]
  rw [show (layout.entries extras)[(create layout extras).vars.stop + offset]? = _ from given,
    Option.map_map]
  rfl

/-- The extras are told from the layout's own cells by their kind. -/
theorem kind_ne_user_iff (found : (create layout extras).get? symbol = some entry) :
    entry.kind ≠ .user ↔ symbol < (create layout extras).vars.stop := by
  by_cases own : symbol < (create layout extras).vars.stop
  · rw [get?_own layout extras own, Option.map_eq_some_iff] at found
    obtain ⟨entry, listed, rfl⟩ := found
    exact iff_of_true (layout.kind_ne_user _ (List.mem_of_getElem? listed)) own
  · obtain ⟨offset, rfl⟩ := Nat.exists_eq_add_of_le (Nat.le_of_not_lt own)
    rw [get?_extra, Option.map_eq_some_iff] at found
    obtain ⟨extra, -, rfl⟩ := found
    exact iff_of_false (fun differs => differs rfl) own

/-- The layout's own cells are told apart by their names. -/
theorem Calls.own_inj {other : SymbolId} (here : (create layout extras).Calls name symbol)
    (there : (create layout extras).Calls name other)
    (own : symbol < (create layout extras).vars.stop)
    (otherOwn : other < (create layout extras).vars.stop) : symbol = other := by
  have named : ∀ {position : SymbolId}, position < (create layout extras).vars.stop →
      (create layout extras).Calls name position →
      ((layout.entries []).map (·.2.name))[position]? = some name := by
    rintro position inside ⟨entry, found, rfl⟩
    rw [get?_own layout extras inside, Option.map_eq_some_iff] at found
    obtain ⟨listed, placed, rfl⟩ := found
    rw [List.getElem?_map, placed]
    rfl
  have bound : symbol < ((layout.entries []).map (·.2.name)).length := by
    rw [List.length_map, TableLayout.length_entries]
    exact own
  apply (List.getElem?_inj bound layout.nodup_names).mp
  rw [named own here, named otherOwn there]

/-- What comes before an extra are the layout's own cells and the extras before it. -/
theorem unclaimed_iff (layout : TableLayout) (extras : List SymbolSpec) (name : String)
    (offset : Nat) :
    (∀ earlier < (create layout extras).vars.stop + offset,
        ¬ (create layout extras).Calls name earlier) ↔
      (∀ symbol entry, (create layout extras).get? symbol = some entry → entry.kind ≠ .user →
        entry.name ≠ name) ∧
      ∀ before < offset, ∀ other, extras[before]? = some other → other.name ≠ name := by
  constructor
  · intro unclaimed
    refine ⟨fun symbol entry found builtIn same => ?_, fun before less other given same => ?_⟩
    · have inside := (kind_ne_user_iff found).mp builtIn
      exact unclaimed symbol (Nat.lt_add_right offset inside) ⟨entry, found, same⟩
    · have found := get?_extra layout extras before
      rw [given] at found
      exact unclaimed _ (Nat.add_lt_add_left less _) ⟨_, found, same⟩
  · rintro ⟨apart, fresh⟩ earlier less ⟨entry, found, same⟩
    by_cases builtIn : entry.kind ≠ .user
    · exact apart earlier entry found builtIn same
    · have late : (create layout extras).vars.stop ≤ earlier := by
        apply Nat.le_of_not_lt
        exact fun inside => builtIn ((kind_ne_user_iff found).mpr inside)
      obtain ⟨before, rfl⟩ := Nat.exists_eq_add_of_le late
      rw [get?_extra, Option.map_eq_some_iff] at found
      obtain ⟨other, given, rfl⟩ := found
      exact fresh before (Nat.lt_of_add_lt_add_left less) other given same

/-- In a table made from counts and any extras, the name of each of the layout's own cells finds
that cell. The name of an extra finds the first cell called by it, which is the extra itself if and
only if neither a cell of the layout nor an extra before it has the name. A name finds nothing if
and only if it calls no cell. -/
theorem names_find_cells (layout : TableLayout) (extras : List SymbolSpec) :
    let table := create layout extras
    (∀ symbol entry, table.get? symbol = some entry → entry.kind ≠ .user →
      table.find? entry.name = some symbol) ∧
    (∀ (offset : Nat) (extra : SymbolSpec), extras[offset]? = some extra →
      table.get? (table.vars.stop + offset) =
          some (Symbol.ofEntry (.user, extra) (table.vars.stop + offset)) ∧
        ∃ first ≤ table.vars.stop + offset, table.find? extra.name = some first ∧
          table.Calls extra.name first ∧ (∀ earlier < first, ¬ table.Calls extra.name earlier) ∧
          (first = table.vars.stop + offset ↔
            (∀ symbol entry, table.get? symbol = some entry → entry.kind ≠ .user →
              entry.name ≠ extra.name) ∧
            ∀ before < offset, ∀ other, extras[before]? = some other →
              other.name ≠ extra.name)) ∧
    ∀ name, table.find? name = none ↔ ∀ symbol, ¬ table.Calls name symbol := by
  intro table
  have valid : table.Valid := valid_create layout extras
  refine ⟨?_, ?_, fun name => find?_eq_none_iff⟩
  · intro symbol entry found builtIn
    have inside := (kind_ne_user_iff found).mp builtIn
    have called : table.Calls entry.name symbol := ⟨entry, found, rfl⟩
    refine (find?_eq_some_iff valid).mpr ⟨called, fun earlier less already => ?_⟩
    have same := already.own_inj called (Nat.lt_trans less inside) inside
    exact absurd same (Nat.ne_of_lt less)
  · intro offset extra given
    have found : table.get? (table.vars.stop + offset) =
        some (Symbol.ofEntry (.user, extra) (table.vars.stop + offset)) := by
      rw [get?_extra, given]
      rfl
    have called : table.Calls extra.name (table.vars.stop + offset) := ⟨_, found, rfl⟩
    obtain ⟨first, before, result, calledFirst, unclaimed⟩ := called.exists_first valid
    refine ⟨found, first, before, result, calledFirst, unclaimed, ?_⟩
    rw [← unclaimed_iff layout extras extra.name offset]
    constructor
    · rintro rfl
      exact unclaimed
    · intro free
      exact Nat.le_antisymm before (Nat.le_of_not_lt fun less => free first less calledFirst)

/-- An extra that is called as a variable hides nothing, and an extra that is called as another
before it is hidden. -/
theorem names_find_cells_hidden :
    let table := create {} [.var "var0", .var "spare", .var "spare"]
    table.find? "var0" = some 7 ∧ table.find? "spare" ≠ some 11 := by
  intro table
  obtain ⟨own, extra, -⟩ := names_find_cells {} [.var "var0", .var "spare", .var "spare"]
  obtain ⟨-, first, -, found, -, -, itself⟩ := extra 2 (.var "spare") rfl
  refine ⟨own 7 _ rfl (by decide), fun last => ?_⟩
  have same : first = 11 := Option.some.inj (found.symm.trans last)
  exact (itself.mp same).2 1 (by decide) (.var "spare") rfl rfl

end SymbolTable

end Lockstep
