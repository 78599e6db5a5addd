import Lockstep.Json.Basic

/-!
Making values of JSON.

A record is an object with a member for each field, or an array of its fields in order. Members
that are no field are passed over, and no field may be given twice. A choice is the name of a
variant, or an object whose only member has that name and holds what the variant carries.
-/
namespace Lockstep.Json

/-- A count. -/
def nat? : Json → Option Nat
  | .int value => if 0 ≤ value ∧ value < wordCount then some value.toNat else none
  | _ => none

/-- A word. -/
def cell? : Json → Option Cell
  | .int value =>
    if -(negativeCount : Int) ≤ value ∧ value < negativeCount then some (Int64.ofInt value)
    else none
  | _ => none

/-- A truth value. -/
def bool? : Json → Option Bool
  | .bool value => some value
  | _ => none

/-- A text. -/
def str? : Json → Option String
  | .str text => some text
  | _ => none

/-- A float. Integers are read as the nearest one. -/
def float? : Json → Option Float
  | .int value =>
    if 0 ≤ value then some (UInt64.ofNat value.toNat).toFloat
    else some (Int64.ofInt value).toFloat
  | .real token => token.toFloat?
  | _ => none

/-- A value that may be missing. -/
def option? {α : Type} (decode : Json → Option α) : Json → Option (Option α)
  | .null => some none
  | json => (decode json).map some

/-- A list of values of one kind. -/
def list? {α : Type} (decode : Json → Option α) : Json → Option (List α)
  | .arr items => items.mapM decode
  | _ => none

/-- What the members hold under a name, if anything. The name must not occur twice. -/
def member? (members : List (String × Json)) (name : String) : Option (Option Json) :=
  match members.filter (·.1 == name) with
  | [] => some none
  | [member] => some (some member.2)
  | _ => none

/-- Where a record may be given as an array. -/
inductive RecordForm where
  /-- Only as an object. -/
  | named
  | namedOrListed
  deriving DecidableEq

/-- The record is an object, or an array of all its fields where that is allowed. -/
def isRecord (json : Json) (form : RecordForm) (fieldCount : Nat) : Bool :=
  match json with
  | .obj _ => true
  | .arr items => form == .namedOrListed && items.length == fieldCount
  | _ => false

/-- What a record holds for a field, if anything. -/
def field? (json : Json) (position : Nat) (name : String) : Option (Option Json) :=
  match json with
  | .obj members => member? members name
  | .arr items => some items[position]?
  | _ => none

/-- A field that must be there. -/
def required {α : Type} (json : Json) (position : Nat) (name : String)
    (decode : Json → Option α) : Option α := do
  decode (← (← json.field? position name))

/-- A field that may be missing or null. -/
def optional {α : Type} (json : Json) (position : Nat) (name : String)
    (decode : Json → Option α) : Option (Option α) := do
  match ← json.field? position name with
  | none => return none
  | some value => option? decode value

/-- A field that has a default. -/
def withDefault {α : Type} (json : Json) (position : Nat) (name : String) (default : α)
    (decode : Json → Option α) : Option α := do
  match ← json.field? position name with
  | none => return default
  | some value => decode value

/-- The name of a variant and what it carries, if anything. -/
def variant? : Json → Option (String × Option Json)
  | .str name => some (name, none)
  | .obj [(name, content)] => some (name, some content)
  | _ => none

/-- A variant that carries nothing, which may be written as null. -/
def carriesNothing {α : Type} (content : Option Json) (value : α) : Option α :=
  match content with
  | none => some value
  | some .null => some value
  | _ => none

/-- A variant that carries a value. -/
def carries {α β : Type} (content : Option Json) (decode : Json → Option α) (make : α → β) :
    Option β :=
  content.bind fun json => (decode json).map make

end Lockstep.Json
