import Lockstep.Codec.Table
import Lockstep.Proofs.Json.Kept

/-!
Symbol tables are kept by their documents, given that their positions are words. They need not be
valid.
-/
namespace Lockstep

open Json

/-- Both ends of the span are words. -/
structure Span.InWords (span : Span) : Prop where
  start : span.start < wordCount
  stop : span.stop < wordCount

theorem Span.kept {span : Span} (words : span.InWords) : Kept toJson ofJson? span := by
  have start := kept_nat words.start
  have stop := kept_nat words.stop
  refine ⟨plain_member start.plain (plain_member stop.plain plain_empty), ?_⟩
  rw [toJson, ofJson?]
  exact made_of_form rfl <| made_of_form rfl <| made_of_required start rfl <|
    made_of_required stop rfl rfl

theorem InitialValue.kept (initial : InitialValue) : Kept toJson ofJson? initial := by
  cases initial with
  | constant word => exact kept_variant (kept_cell word) rfl (fun _ => rfl) rfl
  | zero | nodeIndex | nodeCount => exact ⟨.str _, rfl⟩

theorem SymbolKind.kept (kind : SymbolKind) : Kept toJson ofJson? kind := by
  cases kind <;> exact ⟨.str _, rfl⟩

theorem Symbol.kept {symbol : Symbol} (word : symbol.id < wordCount) :
    Kept toJson ofJson? symbol := by
  have id := kept_nat word
  have name := kept_str symbol.name
  have kind := symbol.kind.kept
  have copyToNext := kept_bool symbol.copyToNext
  have writeProtected := kept_bool symbol.writeProtected
  have initial := symbol.initial.kept
  refine ⟨plain_member id.plain <| plain_member name.plain <| plain_member kind.plain <|
    plain_member copyToNext.plain <| plain_member writeProtected.plain <|
      plain_member initial.plain plain_empty, ?_⟩
  rw [toJson, ofJson?]
  exact made_of_form rfl <| made_of_required id rfl <| made_of_required name rfl <|
    made_of_required kind rfl <| made_of_required copyToNext rfl <|
      made_of_required writeProtected rfl <| made_of_required initial rfl rfl

/-- Every position in the table is a word. -/
structure SymbolTable.InWords (table : SymbolTable) : Prop where
  symbols : ∀ symbol ∈ table.symbols, symbol.id < wordCount
  constants : table.constants.InWords
  send : table.send.InWords
  receive : table.receive.InWords
  incoming : table.incoming < wordCount
  nodeId : table.nodeId < wordCount
  vars : table.vars.InWords

theorem SymbolTable.kept {table : SymbolTable} (words : table.InWords) :
    Kept toJson ofJson? table := by
  have symbols : Kept (list Symbol.toJson) (list? Symbol.ofJson?) table.symbols :=
    kept_list fun symbol member => Symbol.kept (words.symbols symbol member)
  have constants := Span.kept words.constants
  have send := Span.kept words.send
  have receive := Span.kept words.receive
  have incoming := kept_nat words.incoming
  have nodeId := kept_nat words.nodeId
  have vars := Span.kept words.vars
  have copyPolicy : Kept (list bool) (list? bool?) table.copyPolicy.toList :=
    kept_list fun value _ => kept_bool value
  have protection : Kept (list bool) (list? bool?) table.protection.toList :=
    kept_list fun value _ => kept_bool value
  refine ⟨plain_member symbols.plain <| plain_member constants.plain <| plain_member send.plain <|
    plain_member receive.plain <| plain_member incoming.plain <| plain_member nodeId.plain <|
      plain_member vars.plain <| plain_member copyPolicy.plain <|
        plain_member protection.plain plain_empty, ?_⟩
  rw [toJson, ofJson?]
  exact made_of_form rfl <| made_of_required symbols rfl <| made_of_required constants rfl <|
    made_of_required send rfl <| made_of_required receive rfl <| made_of_required incoming rfl <|
      made_of_required nodeId rfl <| made_of_required vars rfl <|
        made_of_required copyPolicy rfl <| made_of_required protection rfl rfl

end Lockstep
