import Lockstep.Cell

/-!
Decimals of floats: the shortest that reads back, and the nearest with a fixed number of places.

A finite float is an integer times a power of two. The reals that round to it form an interval
about it, whose ends belong to it if the integer is even. All arithmetic here is exact, on natural
numbers.
-/
namespace Lockstep

/-- The number `digits * 10 ^ exponent`. -/
structure Decimal where
  digits : Nat
  exponent : Int
  deriving DecidableEq

namespace Decimal

/-- The same number without zeros at the end of its digits. At most `fuel` are taken off. -/
def trim : (fuel : Nat) → Decimal → Decimal
  | 0, decimal => decimal
  | fuel + 1, decimal =>
    if decimal.digits ≠ 0 ∧ decimal.digits % 10 = 0 then
      trim fuel ⟨decimal.digits / 10, decimal.exponent + 1⟩
    else decimal

end Decimal

/-- The positive number `mantissa * 2 ^ exponent`, as floats store it. -/
structure Dyadic where
  mantissa : Nat
  exponent : Int
  deriving DecidableEq

namespace Dyadic

/-- The highest bit of a mantissa of full length, which is not stored. -/
def hiddenBit : Nat := Nat.pow 2 52

/-- How many exponents can be stored. The last is that of no finite float. -/
def biasedCount : Nat := Nat.pow 2 11

/-- The exponent of the least floats. -/
def leastExponent : Int := -1074

/-- The size of the float with these bits, which must be those of a finite float. -/
def ofBits (bits : UInt64) : Dyadic :=
  let fraction := bits.toNat % hiddenBit
  let biased := bits.toNat / hiddenBit % biasedCount
  if biased = 0 then ⟨fraction, leastExponent⟩
  else ⟨fraction + hiddenBit, leastExponent + (biased - 1 : Nat)⟩

/-- Below the least mantissa of full length floats lie twice as dense, unless there are none. -/
def denserBelow (float : Dyadic) : Bool :=
  float.mantissa == hiddenBit && float.exponent != leastExponent

/-- A float on the scale of a decimal grid: the float is `value / unit` grid steps, and the reals
that round to it are those from `low / unit` to `high / unit` grid steps. -/
structure OnGrid where
  value : Nat
  low : Nat
  high : Nat
  unit : Nat

/-- The float on the grid of multiples of `10 ^ step`. -/
def onGrid (float : Dyadic) (step : Int) : OnGrid :=
  let exponent := float.exponent - 2
  let scale := Nat.pow 2 exponent.toNat * Nat.pow 10 (-step).toNat
  { value := 4 * float.mantissa * scale
    low := (4 * float.mantissa - if float.denserBelow then 1 else 2) * scale
    high := (4 * float.mantissa + 2) * scale
    unit := Nat.pow 2 (-exponent).toNat * Nat.pow 10 step.toNat }

/-- The grid point reads back as the float. -/
def OnGrid.admits (grid : OnGrid) (closed : Bool) (point : Nat) : Bool :=
  if closed then grid.low ≤ point * grid.unit && point * grid.unit ≤ grid.high
  else grid.low < point * grid.unit && point * grid.unit < grid.high

/-- The grid point next to the float that reads back as it: of two, the nearer, and of two as near,
the even one. -/
def OnGrid.hit? (grid : OnGrid) (closed : Bool) : Option Nat :=
  let below := grid.value / grid.unit
  let rest := grid.value % grid.unit
  match grid.admits closed below, grid.admits closed (below + 1) with
  | false, false => none
  | true, false => some below
  | false, true => some (below + 1)
  | true, true =>
    if 2 * rest < grid.unit then some below
    else if grid.unit < 2 * rest then some (below + 1)
    else if below % 2 = 0 then some below else some (below + 1)

/-- How many decimal places are surely enough to bring any float above one. -/
def widePlaces : Nat := 400

/-- The exponent of the first digit of a positive float. -/
def firstDigit (float : Dyadic) : Int :=
  let grid := float.onGrid (-widePlaces)
  (Nat.toDigits 10 (grid.value / grid.unit)).length - 1 - widePlaces

/-- The shortest decimal with at least `count` digits, and no more than `count + fuel`, that reads
back as the float. -/
def shortestFrom (float : Dyadic) : (fuel count : Nat) → Decimal
  | 0, count =>
    let step := float.firstDigit - count + 1
    let grid := float.onGrid step
    ⟨grid.value / grid.unit, step⟩
  | fuel + 1, count =>
    let step := float.firstDigit - count + 1
    match (float.onGrid step).hit? (float.mantissa % 2 == 0) with
    | some digits => ⟨digits, step⟩
    | none => shortestFrom float fuel (count + 1)

/-- The shortest decimal that reads back as a positive float. Seventeen digits always do. -/
def shortest (float : Dyadic) : Decimal :=
  (float.shortestFrom 17 1).trim 17

/-- The multiple of `10 ^ (-places)` nearest to the float, counted in that unit. Of two as near it
is the even one. -/
def nearest (float : Dyadic) (places : Nat) : Nat :=
  let grid := float.onGrid (-places)
  let below := grid.value / grid.unit
  let rest := grid.value % grid.unit
  if 2 * rest < grid.unit then below
  else if grid.unit < 2 * rest then below + 1
  else if below % 2 = 0 then below else below + 1

end Dyadic

/-- The float has its sign bit set. -/
def isSigned (float : Float) : Bool :=
  negativeCount ≤ float.toBits.toNat

/-- A float with a fixed number of places, which is not zero. -/
def fixedPlaces (places : Nat) (float : Float) : String :=
  let sign := if isSigned float then "-" else ""
  if float.isNaN then "NaN"
  else if float.isInf then sign ++ "inf"
  else
    let units := (Dyadic.ofBits float.toBits).nearest places
    let fraction := toString (units % Nat.pow 10 places)
    sign ++ toString (units / Nat.pow 10 places) ++ "." ++
      String.ofList (List.replicate (places - fraction.length) '0') ++ fraction

end Lockstep
