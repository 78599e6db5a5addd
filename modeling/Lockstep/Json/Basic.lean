import Lockstep.Decimal.Shortest

/-!
JSON values, as far as the documents of this library need them.

An integer is kept apart from a number written with a fraction or an exponent, because the two are
not read as the same types. Members of an object keep their order and may repeat.
-/
namespace Lockstep

/-- A number as it is written: digits, digits after the point and an exponent. -/
structure NumberToken where
  negative : Bool
  /-- The digits before the point, from zero to nine each. -/
  whole : List Nat
  /-- The digits after the point, if there is one. -/
  fraction : Option (List Nat)
  exponent : Option Int
  deriving DecidableEq

/-- A JSON value. -/
inductive Json where
  | null
  | bool (value : Bool)
  /-- An integer from the least signed word to the greatest unsigned one, without a fraction or an
  exponent. -/
  | int (value : Int)
  /-- Any other number. -/
  | real (token : NumberToken)
  | str (text : String)
  /-- A string with half of a surrogate pair, or an object with such a name. It is no value, but a
  reader may skip it. -/
  | unpaired
  | arr (items : List Json)
  | obj (members : List (String × Json))

namespace NumberToken

/-- The greatest integer that digits are gathered to. -/
def greatestSignificand : Nat := wordCount - 1

/-- Appends digits to an integer as long as it does not grow too great. Answers the integer and
how many digits were not used. -/
def gather : (significand : Nat) → List Nat → Nat × Nat
  | significand, [] => (significand, 0)
  | significand, digit :: rest =>
    if significand * 10 + digit ≤ greatestSignificand then gather (significand * 10 + digit) rest
    else (significand, rest.length + 1)

/-- The greatest power of ten that is a float. -/
def greatestPower : Nat := 308

/-- Multiplies a float by a power of ten, in steps that are powers of ten themselves. There is no
answer if it grows too great. -/
def scale : (fuel : Nat) → Float → (exponent : Int) → Option Float
  | 0, _, _ => some 0
  | fuel + 1, float, exponent =>
    if exponent.natAbs ≤ greatestPower then
      if 0 ≤ exponent then
        let product := float * Float.ofScientific 1 false exponent.natAbs
        if product.isInf then none else some product
      else some (float / Float.ofScientific 1 false exponent.natAbs)
    else if float == 0 then some float
    else if 0 ≤ exponent then none
    else scale fuel (float / Float.ofScientific 1 false greatestPower) (exponent + greatestPower)

/-- The float a number is read as, if it is not too great for one. At most nineteen or twenty
digits count, and the result may be a neighbour of the nearest float. -/
def toFloat? (token : NumberToken) : Option Float := do
  let (significand, skipped) := gather 0 token.whole
  let fraction := token.fraction.getD []
  let (significand, unused) := gather significand fraction
  let exponent : Int := skipped - (fraction.length - unused : Nat) + token.exponent.getD 0
  let float ← scale 4 (UInt64.ofNat significand).toFloat exponent
  return if token.negative then -float else float

/-- The decimal digits of a number. -/
def digitsOf (number : Nat) : List Nat :=
  (Nat.toDigits 10 number).map fun c => c.toNat - '0'.toNat

/-- Decimals whose first digit stands for a lower power of ten are written with an exponent. -/
def leastPlain : Int := -5

/-- Decimals whose first digit stands for this power of ten, or a higher one, are written with an
exponent. -/
def firstScientific : Int := 16

/-- How a decimal is written: with at least one digit after the point, or with an exponent and no
more digits than it has. -/
def ofDecimal (negative : Bool) (decimal : Decimal) : NumberToken :=
  let digits := digitsOf decimal.digits
  let first : Int := decimal.exponent + digits.length - 1
  if first < leastPlain ∨ firstScientific ≤ first then
    { negative
      whole := digits.take 1
      fraction := if digits.length = 1 then none else some (digits.drop 1)
      exponent := some first }
  else if first < 0 then
    { negative
      whole := [0]
      fraction := some (List.replicate (-first - 1).toNat 0 ++ digits)
      exponent := none }
  else
    let padded := digits ++ List.replicate decimal.exponent.toNat 0
    let fraction := padded.drop (first + 1).toNat
    { negative
      whole := padded.take (first + 1).toNat
      fraction := some (if fraction = [] then [0] else fraction)
      exponent := none }

/-- How a finite float is written: with the fewest digits that read back. -/
def ofFloat (float : Float) : NumberToken :=
  let magnitude := Dyadic.ofBits float.toBits
  if magnitude.mantissa = 0 then ⟨isSigned float, [0], some [0], none⟩
  else ofDecimal (isSigned float) magnitude.shortest

end NumberToken

namespace Json

/-- A count. -/
def nat (value : Nat) : Json :=
  .int value

/-- A word. -/
def cell (value : Cell) : Json :=
  .int value.toInt

/-- A float. What is not a finite number becomes null. -/
def float (value : Float) : Json :=
  if value.isNaN || value.isInf then .null else .real (.ofFloat value)

/-- A value that may be missing. -/
def option {α : Type} (encode : α → Json) : Option α → Json
  | none => .null
  | some value => encode value

/-- The values of a list. -/
def list {α : Type} (encode : α → Json) (values : List α) : Json :=
  .arr (values.map encode)

end Json

end Lockstep
