import Lockstep.Json.Basic

/-!
Writing JSON, on one line or with one item on each.
-/
namespace Lockstep

/-- The character of a digit. -/
def digitText (digits : List Nat) : String :=
  String.ofList (digits.map Nat.digitChar)

/-- A number as it is written. An exponent has its sign. -/
def NumberToken.render (token : NumberToken) : String :=
  let sign := if token.negative then "-" else ""
  let fraction := match token.fraction with
    | none => ""
    | some digits => "." ++ digitText digits
  let exponent := match token.exponent with
    | none => ""
    | some exponent => (if exponent < 0 then "e-" else "e+") ++ toString exponent.natAbs
  sign ++ digitText token.whole ++ fraction ++ exponent

namespace Json

/-- A control character by its number, in four hexadecimal digits. -/
def controlText (c : Char) : String :=
  let digits := Nat.toDigits 16 c.toNat
  "\\u" ++ String.ofList (List.replicate (4 - digits.length) '0' ++ digits)

/-- A character of a string. Quotes, backslashes and the control characters below the blank are
the only ones not written as they are. -/
def charText (c : Char) : String :=
  match c with
  | '"' => "\\\""
  | '\\' => "\\\\"
  | '\x08' => "\\b"
  | '\x0c' => "\\f"
  | '\n' => "\\n"
  | '\r' => "\\r"
  | '\t' => "\\t"
  | c => if c.toNat < 0x20 then controlText c else c.toString

/-- A string between its quotes. -/
def strText (text : String) : String :=
  "\"" ++ String.join (text.toList.map charText) ++ "\""

/-- How the items of a value are set apart. -/
structure Style where
  /-- What stands between a member's name and its value. -/
  colon : String
  /-- The start of a line at a depth, line break included. -/
  newline : Nat → String

/-- Everything on one line and close together. -/
def Style.compact : Style :=
  ⟨":", fun _ => ""⟩

/-- Every item on a line of its own, two blanks further in than what it belongs to. -/
def Style.pretty : Style :=
  ⟨": ", fun depth => "\n" ++ String.ofList (List.replicate (2 * depth) ' ')⟩

/-- Items between brackets, or the brackets alone. -/
def Style.enclose (style : Style) (depth : Nat) (left right : String) : List String → String
  | [] => left ++ right
  | items =>
    left ++ style.newline (depth + 1) ++ (("," ++ style.newline (depth + 1)).intercalate items) ++
      style.newline depth ++ right

mutual

/-- Writes a value that stands at a depth. -/
def renderAt (style : Style) (depth : Nat) : Json → String
  | .null => "null"
  | .bool value => if value then "true" else "false"
  | .int value => toString value
  | .real token => token.render
  | .str text => strText text
  | .unpaired => "null"
  | .arr items => style.enclose depth "[" "]" (renderItems style (depth + 1) items)
  | .obj members =>
    style.enclose depth "\x7b" "\x7d" (renderMembers style (depth + 1) members)

/-- Writes each item of an array. -/
def renderItems (style : Style) (depth : Nat) : List Json → List String
  | [] => []
  | item :: rest => renderAt style depth item :: renderItems style depth rest

/-- Writes each member of an object. -/
def renderMembers (style : Style) (depth : Nat) : List (String × Json) → List String
  | [] => []
  | (name, value) :: rest =>
    (strText name ++ style.colon ++ renderAt style depth value) ::
      renderMembers style depth rest

end

/-- The value on one line. -/
def compact (json : Json) : String :=
  renderAt .compact 0 json

/-- The value with one item on each line. There is no line break at the end. -/
def pretty (json : Json) : String :=
  renderAt .pretty 0 json

end Json

end Lockstep
