import Lockstep.Json.Basic

/-!
Reading JSON, strictly: one value, with nothing but blanks about it.

Every reader takes the characters before it and answers what it has read with what is left. The
readers of nested values are given fuel; each value takes at least one character, so the length of
the text is enough.
-/
namespace Lockstep.Json

/-- The characters that may stand between tokens. -/
def isBlank (c : Char) : Bool :=
  c == ' ' || c == '\n' || c == '\t' || c == '\r'

/-- Leaves out blanks. -/
def skipBlanks (text : List Char) : List Char :=
  text.dropWhile isBlank

/-- The value of a hexadecimal digit. -/
def hexDigit? (c : Char) : Option Nat :=
  if '0' ≤ c ∧ c ≤ '9' then some (c.toNat - '0'.toNat)
  else if 'a' ≤ c ∧ c ≤ 'f' then some (c.toNat - 'a'.toNat + 10)
  else if 'A' ≤ c ∧ c ≤ 'F' then some (c.toNat - 'A'.toNat + 10)
  else none

/-- The unit named by four hexadecimal digits. -/
def readUnit : List Char → Option (Nat × List Char)
  | a :: b :: c :: d :: rest => do
    let a ← hexDigit? a
    let b ← hexDigit? b
    let c ← hexDigit? c
    let d ← hexDigit? d
    return (((a * 16 + b) * 16 + c) * 16 + d, rest)
  | _ => none

/-- The first half of a surrogate pair. -/
def isLeading (unit : Nat) : Bool :=
  0xD800 ≤ unit && unit < 0xDC00

/-- The second half of a surrogate pair. -/
def isTrailing (unit : Nat) : Bool :=
  0xDC00 ≤ unit && unit < 0xE000

/-- The character of an escaped unit and of the unit after it, if the two make a pair. There is no
character for half a pair. -/
def readEscapedUnit (text : List Char) : Option (Option Char × List Char) := do
  let (unit, rest) ← readUnit text
  if isTrailing unit then return (none, rest)
  else if isLeading unit then
    match rest with
    | '\\' :: 'u' :: more =>
      match readUnit more with
      | some (second, after) =>
        if isTrailing second then
          return (some (Char.ofNat (0x10000 + (unit - 0xD800) * 0x400 + (second - 0xDC00))), after)
        else return (none, rest)
      | none => none
    | _ => return (none, rest)
  else return (some (Char.ofNat unit), rest)

/-- The character of an escape, given what follows the backslash. -/
def readEscape : List Char → Option (Option Char × List Char)
  | '"' :: rest => some (some '"', rest)
  | '\\' :: rest => some (some '\\', rest)
  | '/' :: rest => some (some '/', rest)
  | 'b' :: rest => some (some '\x08', rest)
  | 'f' :: rest => some (some '\x0c', rest)
  | 'n' :: rest => some (some '\n', rest)
  | 'r' :: rest => some (some '\r', rest)
  | 't' :: rest => some (some '\t', rest)
  | 'u' :: rest => readEscapedUnit rest
  | _ => none

/-- The characters of a string up to its closing quote, the latest first. There is no string if one
of them is half a pair. -/
def readChars :
    (fuel : Nat) → (read : Option (List Char)) → List Char → Option (Option String × List Char)
  | 0, _, _ => none
  | fuel + 1, read, text =>
    match text with
    | [] => none
    | '"' :: rest => some (read.map fun chars => String.ofList chars.reverse, rest)
    | '\\' :: rest => do
      let (c, rest) ← readEscape rest
      readChars fuel (do return (← c) :: (← read)) rest
    | c :: rest => if c.toNat < 0x20 then none else readChars fuel (read.map (c :: ·)) rest

/-- A string, given what follows its opening quote. -/
def readString (text : List Char) : Option (Option String × List Char) :=
  readChars (text.length + 1) (some []) text

/-- The digits at the start of a text. -/
def readDigits (text : List Char) : List Nat × List Char :=
  ((text.takeWhile Char.isDigit).map fun c => c.toNat - '0'.toNat, text.dropWhile Char.isDigit)

/-- Digits, of which there must be one. -/
def readSomeDigits (text : List Char) : Option (List Nat × List Char) :=
  match readDigits text with
  | ([], _) => none
  | found => some found

/-- The digits before the point. More than one must not start with zero. -/
def readWhole (text : List Char) : Option (List Nat × List Char) :=
  match readDigits text with
  | ([], _) => none
  | (0 :: _ :: _, _) => none
  | found => some found

/-- The digits after the point, if there is one. -/
def readFraction : List Char → Option (Option (List Nat) × List Char)
  | '.' :: rest => (readSomeDigits rest).map fun (digits, rest) => (some digits, rest)
  | text => some (none, text)

/-- The number of a row of digits. -/
def numberOf (digits : List Nat) : Nat :=
  digits.foldl (fun number digit => number * 10 + digit) 0

/-- The exponent, if there is one, given what follows its letter. -/
def readSignedExponent : List Char → Option (Int × List Char)
  | '+' :: rest => (readSomeDigits rest).map fun (digits, rest) => (numberOf digits, rest)
  | '-' :: rest => (readSomeDigits rest).map fun (digits, rest) => (-(numberOf digits : Int), rest)
  | text => (readSomeDigits text).map fun (digits, rest) => (numberOf digits, rest)

/-- The exponent, if there is one. -/
def readExponent : List Char → Option (Option Int × List Char)
  | 'e' :: rest => (readSignedExponent rest).map fun (exponent, rest) => (some exponent, rest)
  | 'E' :: rest => (readSignedExponent rest).map fun (exponent, rest) => (some exponent, rest)
  | text => some (none, text)

/-- The value of a number. Without a fraction and an exponent it is an integer, unless it is too
great for one or is minus zero. -/
def ofToken (token : NumberToken) : Json :=
  let size := numberOf token.whole
  match token.fraction, token.exponent with
  | none, none =>
    if token.negative then
      if size = 0 ∨ negativeCount < size then .real token else .int (-(size : Int))
    else if wordCount ≤ size then .real token
    else .int size
  | _, _ => .real token

/-- A number without its sign. -/
def readUnsigned (negative : Bool) (text : List Char) : Option (Json × List Char) := do
  let (whole, rest) ← readWhole text
  let (fraction, rest) ← readFraction rest
  let (exponent, rest) ← readExponent rest
  return (ofToken { negative, whole, fraction, exponent }, rest)

/-- A number. -/
def readNumber : List Char → Option (Json × List Char)
  | '-' :: rest => readUnsigned true rest
  | text => readUnsigned false text

/-- What is left after a character that must come next, blanks aside. -/
def expect (c : Char) (text : List Char) : Option (List Char) :=
  match skipBlanks text with
  | d :: rest => if c = d then some rest else none
  | [] => none

/-- An object with these members. One whose name is half a pair makes it no value. -/
def ofMembers (members : List (Option String × Json)) : Json :=
  match members.mapM fun (name, value) => name.map fun name => (name, value) with
  | some members => .obj members
  | none => .unpaired

mutual

/-- A value. -/
def readValue : (fuel : Nat) → List Char → Option (Json × List Char)
  | 0, _ => none
  | fuel + 1, text =>
    match skipBlanks text with
    | 'n' :: 'u' :: 'l' :: 'l' :: rest => some (.null, rest)
    | 't' :: 'r' :: 'u' :: 'e' :: rest => some (.bool true, rest)
    | 'f' :: 'a' :: 'l' :: 's' :: 'e' :: rest => some (.bool false, rest)
    | '"' :: rest =>
      (readString rest).map fun (text, rest) => (text.elim .unpaired .str, rest)
    | '[' :: rest =>
      match skipBlanks rest with
      | ']' :: rest => some (.arr [], rest)
      | rest => (readItems fuel rest).map fun (items, rest) => (.arr items, rest)
    | '\x7b' :: rest =>
      match skipBlanks rest with
      | '\x7d' :: rest => some (.obj [], rest)
      | rest => (readMembers fuel rest).map fun (members, rest) => (ofMembers members, rest)
    | text => readNumber text

/-- The items of an array up to its closing bracket. There must be one. -/
def readItems : (fuel : Nat) → List Char → Option (List Json × List Char)
  | 0, _ => none
  | fuel + 1, text => do
    let (item, rest) ← readValue fuel text
    match skipBlanks rest with
    | ',' :: rest =>
      let (items, rest) ← readItems fuel rest
      return (item :: items, rest)
    | ']' :: rest => return ([item], rest)
    | _ => none

/-- The members of an object up to its closing brace. There must be one. -/
def readMembers : (fuel : Nat) → List Char → Option (List (Option String × Json) × List Char)
  | 0, _ => none
  | fuel + 1, text => do
    let rest ← expect '"' text
    let (name, rest) ← readString rest
    let rest ← expect ':' rest
    let (value, rest) ← readValue fuel rest
    match skipBlanks rest with
    | ',' :: rest =>
      let (members, rest) ← readMembers fuel rest
      return ((name, value) :: members, rest)
    | '\x7d' :: rest => return ([(name, value)], rest)
    | _ => none

end

/-- The value of a text. -/
def parse? (text : String) : Option Json := do
  let chars := text.toList
  let (value, rest) ← readValue (chars.length + 1) chars
  if skipBlanks rest = [] then return value else none

end Lockstep.Json
