import Lockstep.Proofs.Node.Memory
import Lockstep.Table.Layout

/-!
Tables made from counts.

A table made by `SymbolTable.create` is valid (`valid_create`), and its sections are where the
layout puts them: every position of the table is known by its entry (`symbol_create`).
-/
namespace Lockstep

namespace TableLayout

variable (layout : TableLayout) (extras : List SymbolSpec)

theorem payloadSize_pos : 0 < layout.payloadSize :=
  Nat.lt_of_lt_of_le Nat.one_pos (Nat.le_max_right _ _)

theorem length_constantSpecs : layout.constantSpecs.length = layout.sendStart := by
  unfold constantSpecs sendStart
  split <;> rfl

/-- The entries of the network's own cells: received words, the flag, and the node's number. -/
theorem entries_eq :
    layout.entries extras =
      (layout.constantSpecs.map (.constant, ·) ++ layout.sendSpecs.map (.send, ·)) ++
        (layout.receiveSpecs.map (.receive, ·) ++ ((.incomingFlag, incomingSpec) ::
          (.nodeId, nodeIdSpec) ::
            (layout.variableSpecs.map (.var, ·) ++ extras.map (.user, ·)))) := by
  simp [entries]

/-- The extras come after what the layout itself asks for. -/
theorem entries_append :
    layout.entries extras = layout.entries [] ++ extras.map (.user, ·) := by
  simp [entries]

theorem length_front :
    (layout.constantSpecs.map (SymbolKind.constant, ·) ++
      layout.sendSpecs.map (SymbolKind.send, ·)).length = layout.sendStart + layout.payloadSize := by
  simp [length_constantSpecs, sendSpecs]

theorem length_entries :
    (layout.entries extras).length =
      layout.sendStart + layout.payloadSize + layout.payloadSize + 2 + layout.variableCount +
        extras.length := by
  rw [entries_eq, List.length_append, length_front]
  simp [receiveSpecs, variableSpecs]
  omega

theorem entry_send {offset : Nat} (inside : offset < layout.payloadSize) :
    (layout.entries extras)[layout.sendStart + offset]? =
      some (.send, ⟨"send" ++ toString offset, false, false, .zero⟩) := by
  have front : layout.sendStart + offset < (layout.constantSpecs.map (SymbolKind.constant, ·) ++
      layout.sendSpecs.map (SymbolKind.send, ·)).length := by
    rw [length_front]
    omega
  have behind : (layout.constantSpecs.map (SymbolKind.constant, ·)).length ≤
      layout.sendStart + offset := by
    rw [List.length_map, length_constantSpecs]
    exact Nat.le_add_right _ _
  rw [entries_eq, List.getElem?_append_left front, List.getElem?_append_right behind,
    List.length_map, length_constantSpecs, Nat.add_sub_cancel_left]
  simp [sendSpecs, inside]

theorem entry_receive {offset : Nat} (inside : offset < layout.payloadSize) :
    (layout.entries extras)[layout.sendStart + layout.payloadSize + offset]? =
      some (.receive, ⟨"recv" ++ toString offset, false, true, .zero⟩) := by
  have within : offset < (layout.receiveSpecs.map (SymbolKind.receive, ·)).length := by
    simpa [receiveSpecs] using inside
  rw [entries_eq, List.getElem?_append_right (by rw [length_front]; omega), length_front,
    Nat.add_sub_cancel_left, List.getElem?_append_left within]
  simp [receiveSpecs, inside]

theorem entry_incoming :
    (layout.entries extras)[layout.sendStart + layout.payloadSize + layout.payloadSize]? =
      some (.incomingFlag, incomingSpec) := by
  have length : (layout.receiveSpecs.map (SymbolKind.receive, ·)).length = layout.payloadSize := by
    simp [receiveSpecs]
  rw [entries_eq, List.getElem?_append_right (by rw [length_front]; omega), length_front,
    Nat.add_sub_cancel_left, List.getElem?_append_right (by omega), length, Nat.sub_self]
  rfl

theorem entry_nodeId :
    (layout.entries extras)[layout.sendStart + layout.payloadSize + layout.payloadSize + 1]? =
      some (.nodeId, nodeIdSpec) := by
  have length : (layout.receiveSpecs.map (SymbolKind.receive, ·)).length = layout.payloadSize := by
    simp [receiveSpecs]
  rw [entries_eq, List.getElem?_append_right (by rw [length_front]; omega), length_front,
    Nat.add_assoc, Nat.add_sub_cancel_left, List.getElem?_append_right (by omega), length,
    Nat.add_sub_cancel_left]
  rfl

theorem entry_var {offset : Nat} (inside : offset < layout.variableCount) :
    (layout.entries extras)[layout.sendStart + layout.payloadSize + layout.payloadSize + 2 +
      offset]? = some (.var, .var ("var" ++ toString offset)) := by
  have length : (layout.receiveSpecs.map (SymbolKind.receive, ·)).length = layout.payloadSize := by
    simp [receiveSpecs]
  have within : offset < (layout.variableSpecs.map (SymbolKind.var, ·)).length := by
    simpa [variableSpecs] using inside
  have behind : layout.sendStart + layout.payloadSize + layout.payloadSize + 2 + offset -
      (layout.sendStart + layout.payloadSize) = layout.payloadSize + (offset + 2) := by
    omega
  rw [entries_eq, List.getElem?_append_right (by rw [length_front]; omega), length_front, behind,
    List.getElem?_append_right (by omega), length, Nat.add_sub_cancel_left,
    List.getElem?_cons_succ, List.getElem?_cons_succ, List.getElem?_append_left within]
  simp [variableSpecs, inside]

end TableLayout

namespace SymbolTable

variable {layout : TableLayout} {extras : List SymbolSpec}

theorem size_create : (create layout extras).size = (layout.entries extras).length := by
  simp [create, size]

theorem symbol_create (layout : TableLayout) (extras : List SymbolSpec) (position : Nat) :
    (create layout extras).symbols[position]? =
      (layout.entries extras)[position]?.map fun entry => Symbol.ofEntry entry position := by
  simp only [create, List.getElem?_map, List.getElem?_zipIdx, Option.map_map, Nat.zero_add]
  rfl

theorem size_create_eq (layout : TableLayout) (extras : List SymbolSpec) :
    (create layout extras).size =
      layout.sendStart + layout.payloadSize + layout.payloadSize + 2 + layout.variableCount +
        extras.length := by
  rw [size_create, TableLayout.length_entries]

/-- Every table made from counts passes validation. -/
theorem valid_create (layout : TableLayout) (extras : List SymbolSpec) :
    (create layout extras).Valid := by
  have size := size_create_eq layout extras
  refine ⟨?_, ?_, ?_, ?_⟩
  · simp [create, Span.length]
  · apply List.ext_getElem?
    intro position
    rw [List.getElem?_map, symbol_create, size_create]
    by_cases inside : position < (layout.entries extras).length
    · rw [List.getElem?_range inside, List.getElem?_eq_getElem inside]
      rfl
    · rw [List.getElem?_eq_none (by omega), List.getElem?_eq_none (by simpa using inside)]
      rfl
  · have spans : ∀ span ∈ [(create layout extras).constants, (create layout extras).send,
        (create layout extras).receive, (create layout extras).vars],
        span.Within (create layout extras).size := by
      rw [size]
      simp only [create, List.forall_mem_cons, Span.Within]
      refine ⟨by omega, by omega, by omega, by omega, by simp⟩
    have incoming : layout.sendStart + layout.payloadSize + layout.payloadSize <
        (create layout extras).size := by
      omega
    have nodeId : layout.sendStart + layout.payloadSize + layout.payloadSize + 1 <
        (create layout extras).size := by
      omega
    exact ⟨spans, incoming, nodeId⟩
  · exact ⟨rfl, rfl⟩

/-- Without extras, what does not last starts as zero. -/
theorem initial_of_lost {symbol : Symbol} (member : symbol ∈ (create layout []).symbols)
    (lost : symbol.copyToNext = false) : symbol.initial = .zero := by
  obtain ⟨position, found⟩ := List.getElem?_of_mem member
  rw [symbol_create, Option.map_eq_some_iff] at found
  obtain ⟨entry, found, rfl⟩ := found
  have listed := List.mem_of_getElem? found
  simp only [TableLayout.entries, List.map_nil, List.append_nil, List.mem_append, List.mem_map,
    List.mem_singleton] at listed
  rcases listed with ((((constant | send) | receive) | rfl) | rfl) | var
  · obtain ⟨spec, here, rfl⟩ := constant
    unfold TableLayout.constantSpecs at here
    split at here
    · simp only [List.mem_cons, List.not_mem_nil, or_false] at here
      rcases here with rfl | rfl | rfl <;> cases lost
    · cases here
  · obtain ⟨spec, here, rfl⟩ := send
    obtain ⟨offset, -, rfl⟩ := List.mem_map.mp here
    rfl
  · obtain ⟨spec, here, rfl⟩ := receive
    obtain ⟨offset, -, rfl⟩ := List.mem_map.mp here
    rfl
  · rfl
  · cases lost
  · obtain ⟨spec, here, rfl⟩ := var
    obtain ⟨offset, -, rfl⟩ := List.mem_map.mp here
    cases lost

/-! ### The cells of programs -/

theorem symbol_nodeId :
    (create layout extras).symbols[(create layout extras).nodeId]? =
      some (Symbol.ofEntry (.nodeId, TableLayout.nodeIdSpec) (create layout extras).nodeId) :=
  (symbol_create layout extras _).trans
    (congrArg (Option.map fun entry => Symbol.ofEntry entry _) (layout.entry_nodeId extras))

/-- Every message has a word. -/
theorem sends_create : 0 < (create layout extras).send.length := by
  simpa [create, Span.length] using layout.payloadSize_pos

/-- Programs may write the first word to send. -/
theorem protection_send :
    (create layout extras).protection[(create layout extras).send.start]? = some false := by
  rw [show (create layout extras).send.start = layout.sendStart + 0 from rfl,
    (valid_create layout extras).protection_get, symbol_create,
    layout.entry_send extras layout.payloadSize_pos]
  rfl

/-- Programs may write the number of their node. -/
theorem protection_nodeId :
    (create layout extras).protection[(create layout extras).nodeId]? = some false := by
  rw [(valid_create layout extras).protection_get, symbol_nodeId]
  rfl

/-- A node starts with its own number. -/
theorem seeded_nodeId (index count : Nat) :
    (Memory.seeded (create layout extras) index count).read (create layout extras).nodeId =
        Cell.ofCount index ∧
      (Memory.seeded (create layout extras) index count).readNext (create layout extras).nodeId =
        Cell.ofCount index := by
  constructor
  · simp [Memory.read, Memory.seeded, symbol_nodeId, Symbol.ofEntry, TableLayout.nodeIdSpec,
      InitialValue.resolve]
  · simp [Memory.readNext, Memory.seeded, symbol_nodeId, Symbol.ofEntry, TableLayout.nodeIdSpec,
      InitialValue.resolve]

/-- Variables are open to programs, keep their words and start as zero. -/
theorem variable_create (layout : TableLayout) (extras : List SymbolSpec) {offset : Nat}
    (inside : offset < layout.variableCount) :
    (create layout extras).protection[(create layout extras).vars.start + offset]? = some false ∧
      (create layout extras).Keeps ((create layout extras).vars.start + offset) ∧
      ∀ index count,
        (Memory.seeded (create layout extras) index count).read
            ((create layout extras).vars.start + offset) = 0 ∧
          (Memory.seeded (create layout extras) index count).readNext
            ((create layout extras).vars.start + offset) = 0 := by
  have valid := valid_create layout extras
  have found := symbol_create layout extras ((create layout extras).vars.start + offset)
  rw [show (layout.entries extras)[(create layout extras).vars.start + offset]? = _ from
    layout.entry_var extras inside, Option.map_some] at found
  refine ⟨?_, ?_, fun index count => ⟨?_, ?_⟩⟩
  · rw [valid.protection_get, found]
    rfl
  · rw [Keeps, valid.copyPolicy_get, found]
    rfl
  · simp [Memory.read, Memory.seeded, found, Symbol.ofEntry, SymbolSpec.var, InitialValue.resolve]
  · simp [Memory.readNext, Memory.seeded, found, Symbol.ofEntry, SymbolSpec.var,
      InitialValue.resolve]

/-! ### The cells of the network -/

/-- A cell that only the network writes and that starts as zero. -/
theorem fleeting_of_entry {kind : SymbolKind} {name : String} {position : Nat}
    (entry : (layout.entries extras)[position]? = some (kind, ⟨name, false, true, .zero⟩)) :
    (create layout extras).Fleeting position ∧
      ∀ index count,
        (Memory.seeded (create layout extras) index count).readNext position = 0 := by
  have valid := valid_create layout extras
  have found := symbol_create layout extras position
  rw [entry, Option.map_some] at found
  refine ⟨⟨?_, ?_⟩, fun index count => ?_⟩
  · rw [valid.copyPolicy_get, found]
    rfl
  · rw [Guards, valid.protection_get, found]
    rfl
  · simp [Memory.readNext, Memory.seeded, found, Symbol.ofEntry, InitialValue.resolve]

/-- The flag is not one of the receive cells. -/
theorem incoming_apart :
    ¬ ((create layout extras).receive.start ≤ (create layout extras).incoming ∧
      (create layout extras).incoming < (create layout extras).receive.stop) :=
  fun inside => Nat.lt_irrefl _ inside.2

/-- The flag and the receive cells are the network's own, and start as zero. -/
theorem delivered_create {symbol : SymbolId}
    (here : symbol = (create layout extras).incoming ∨
      (create layout extras).receive.start ≤ symbol ∧
        symbol < (create layout extras).receive.stop) :
    (create layout extras).Fleeting symbol ∧
      ∀ index count,
        (Memory.seeded (create layout extras) index count).readNext symbol = 0 := by
  rcases here with rfl | ⟨first, last⟩
  · exact fleeting_of_entry (layout.entry_incoming extras)
  · obtain ⟨offset, rfl⟩ := Nat.exists_eq_add_of_le first
    have stop : (create layout extras).receive.stop =
        (create layout extras).receive.start + layout.payloadSize := rfl
    have inside : offset < layout.payloadSize := Nat.lt_of_add_lt_add_left (stop ▸ last)
    exact fleeting_of_entry (layout.entry_receive extras inside)

end SymbolTable

end Lockstep
