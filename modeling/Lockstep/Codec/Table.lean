import Lockstep.Json.Decode
import Lockstep.Table.Layout

/-!
Symbol tables and what they are made of as JSON.
-/
namespace Lockstep

open Json

/-- A span as JSON. -/
def Span.toJson (span : Span) : Json :=
  .obj [("start", .nat span.start), ("end", .nat span.stop)]

/-- The span of a JSON value. Unlike other records it may have no further members. -/
def Span.ofJson? (json : Json) : Option Span := do
  guard (json.isRecord .namedOrListed 2)
  match json with
  | .obj members => guard (members.all fun member => member.1 == "start" || member.1 == "end")
  | _ => pure ()
  let start ← json.required 0 "start" nat?
  let stop ← json.required 1 "end" nat?
  return ⟨start, stop⟩

/-- A starting word as JSON. -/
def InitialValue.toJson : InitialValue → Json
  | .zero => .str "Zero"
  | .constant word => .obj [("Constant", .cell word)]
  | .nodeIndex => .str "NodeIndex"
  | .nodeCount => .str "NodeCount"

/-- The starting word of a JSON value. -/
def InitialValue.ofJson? (json : Json) : Option InitialValue := do
  let (name, content) ← json.variant?
  match name with
  | "Zero" => carriesNothing content .zero
  | "Constant" => carries content cell? .constant
  | "NodeIndex" => carriesNothing content .nodeIndex
  | "NodeCount" => carriesNothing content .nodeCount
  | _ => none

/-- A kind as JSON. -/
def SymbolKind.toJson : SymbolKind → Json
  | .constant => .str "Constant"
  | .send => .str "Send"
  | .receive => .str "Receive"
  | .incomingFlag => .str "IncomingFlag"
  | .nodeId => .str "NodeId"
  | .var => .str "Variable"
  | .user => .str "User"

/-- The kind of a JSON value. -/
def SymbolKind.ofJson? (json : Json) : Option SymbolKind := do
  let (name, content) ← json.variant?
  match name with
  | "Constant" => carriesNothing content .constant
  | "Send" => carriesNothing content .send
  | "Receive" => carriesNothing content .receive
  | "IncomingFlag" => carriesNothing content .incomingFlag
  | "NodeId" => carriesNothing content .nodeId
  | "Variable" => carriesNothing content .var
  | "User" => carriesNothing content .user
  | _ => none

/-- A symbol as JSON. -/
def Symbol.toJson (symbol : Symbol) : Json :=
  .obj [
    ("id", .nat symbol.id),
    ("name", .str symbol.name),
    ("kind", symbol.kind.toJson),
    ("copy_to_next", .bool symbol.copyToNext),
    ("write_protected", .bool symbol.writeProtected),
    ("initial", symbol.initial.toJson)]

/-- The symbol of a JSON value. -/
def Symbol.ofJson? (json : Json) : Option Symbol := do
  guard (json.isRecord .namedOrListed 6)
  let id ← json.required 0 "id" nat?
  let name ← json.required 1 "name" str?
  let kind ← json.required 2 "kind" SymbolKind.ofJson?
  let copyToNext ← json.required 3 "copy_to_next" bool?
  let writeProtected ← json.required 4 "write_protected" bool?
  let initial ← json.required 5 "initial" InitialValue.ofJson?
  return { id, name, kind, copyToNext, writeProtected, initial }

/-- The extra of a JSON value. -/
def SymbolSpec.ofJson? (json : Json) : Option SymbolSpec := do
  guard (json.isRecord .namedOrListed 4)
  let name ← json.required 0 "name" str?
  let copyToNext ← json.required 1 "copy_to_next" bool?
  let writeProtected ← json.required 2 "write_protected" bool?
  let initial ← json.required 3 "initial" InitialValue.ofJson?
  return { name, copyToNext, writeProtected, initial }

/-- The layout of a JSON value. -/
def TableLayout.ofJson? (json : Json) : Option TableLayout := do
  guard (json.isRecord .namedOrListed 3)
  let variableCount ← json.required 0 "variable_count" nat?
  let needsConstants ← json.required 1 "needs_constants" bool?
  let sendReceivePairs ← json.required 2 "send_receive_pairs" nat?
  return { variableCount, needsConstants, sendReceivePairs }

/-- A table as JSON. -/
def SymbolTable.toJson (table : SymbolTable) : Json :=
  .obj [
    ("symbols", .list Symbol.toJson table.symbols),
    ("constants", table.constants.toJson),
    ("send", table.send.toJson),
    ("receive", table.receive.toJson),
    ("incoming", .nat table.incoming),
    ("node_id", .nat table.nodeId),
    ("variables", table.vars.toJson),
    ("copy_policy", .list .bool table.copyPolicy.toList),
    ("protection", .list .bool table.protection.toList)]

/-- The table of a JSON value. It need not be valid. -/
def SymbolTable.ofJson? (json : Json) : Option SymbolTable := do
  guard (json.isRecord .namedOrListed 9)
  let symbols ← json.required 0 "symbols" (list? Symbol.ofJson?)
  let constants ← json.required 1 "constants" Span.ofJson?
  let send ← json.required 2 "send" Span.ofJson?
  let receive ← json.required 3 "receive" Span.ofJson?
  let incoming ← json.required 4 "incoming" nat?
  let nodeId ← json.required 5 "node_id" nat?
  let vars ← json.required 6 "variables" Span.ofJson?
  let copyPolicy ← json.required 7 "copy_policy" (list? bool?)
  let protection ← json.required 8 "protection" (list? bool?)
  return { symbols, constants, send, receive, incoming, nodeId, vars
           copyPolicy := copyPolicy.toArray, protection := protection.toArray }

end Lockstep
