namespace PacketDivert.Text

/-- The number `numerator / denominator`, and the bounds between which a decimal reads back as it.
The bounds belong to the interval if `closed`. All three share the denominator. -/
structure Interval where
  low : Nat
  value : Nat
  high : Nat
  denominator : Nat
  closed : Bool

/-- The fraction field has 52 bits. -/
def fractionRange : Nat := 0x10000000000000

/-- The finite positive number with the given fraction and exponent fields. A fraction of 0 has a
narrower gap below it, except at the smallest exponents. -/
def Interval.ofFields (exponent fraction : Nat) : Interval :=
  let mantissa := if exponent = 0 then fraction else fractionRange + fraction
  let scale := (if exponent = 0 then 1 else exponent)
  let below := if fraction = 0 ∧ 1 < exponent then 1 else 2
  let up := Nat.pow 2 (scale - 1077)
  { low := (4 * mantissa - below) * up
    value := 4 * mantissa * up
    high := (4 * mantissa + 2) * up
    denominator := Nat.pow 2 (1077 - scale)
    closed := mantissa % 2 = 0 }

namespace Interval

def contains (interval : Interval) (numerator denominator : Nat) : Bool :=
  let scaled := numerator * interval.denominator
  if interval.closed then
    interval.low * denominator ≤ scaled && scaled ≤ interval.high * denominator
  else
    interval.low * denominator < scaled && scaled < interval.high * denominator

/-- How often a number below 1 must be multiplied by ten to reach 1, at most `fuel` times. -/
def leadingZeros (numerator denominator : Nat) : (fuel : Nat) → Nat
  | 0 => 0
  | fuel + 1 =>
    if denominator ≤ numerator then 0 else leadingZeros (numerator * 10) denominator fuel + 1

/-- The power of ten of the first digit. No positive number is below ten to the minus 324. -/
def exponent (interval : Interval) : Int :=
  if interval.denominator ≤ interval.value then
    (Nat.toDigits 10 (interval.value / interval.denominator)).length - 1
  else -(leadingZeros interval.value interval.denominator 400 : Nat)

/-- A decimal: a number of units, each a power of ten. -/
structure Decimal where
  units : Nat
  unit : Int

/-- The nearer of the two neighbours with a given number of digits that reads back, if there is
one; of two equally near ones the even one. -/
def neighbour? (interval : Interval) (digits : Nat) : Option Decimal :=
  let unit : Int := interval.exponent - (digits - 1 : Nat)
  let up := Nat.pow 10 unit.toNat
  let down := Nat.pow 10 (-unit).toNat
  let step := interval.denominator * up
  let below := interval.value * down / step
  let twice := 2 * (interval.value * down % step)
  let fits (units : Nat) : Bool := interval.contains (units * up) down
  let (near, far) :=
    if twice < step ∨ (twice = step ∧ below % 2 = 0) then (below, below + 1) else (below + 1, below)
  if fits near then some ⟨near, unit⟩ else if fits far then some ⟨far, unit⟩ else none

/-- The decimal with the fewest digits that reads back. Seventeen always suffice. -/
def shortest (interval : Interval) : Decimal :=
  ((List.range 17).findSome? fun count => interval.neighbour? (count + 1)).getD ⟨0, 0⟩

end Interval

namespace Interval.Decimal

/-- The digits without zeros at their end, and the power of ten of the first. -/
def scientific (decimal : Decimal) : List Char × Int :=
  let digits := Nat.toDigits 10 decimal.units
  ((digits.reverse.dropWhile (· == '0')).reverse, decimal.unit + digits.length - 1)

/-- Positional from ten to the minus 5 up to ten to the 16, always with a point; outside of that
one digit before the point and a signed exponent. -/
def text (decimal : Decimal) : String :=
  let (digits, exponent) := decimal.scientific
  if exponent < -5 ∨ 16 ≤ exponent then
    let point := if digits.length = 1 then [] else '.' :: digits.drop 1
    String.ofList (digits.take 1 ++ point ++ ['e', if exponent < 0 then '-' else '+'] ++
      Nat.toDigits 10 exponent.natAbs)
  else if exponent < 0 then
    String.ofList ("0.".toList ++ List.replicate (exponent.natAbs - 1) '0' ++ digits)
  else
    let whole := exponent.toNat + 1
    let padded := digits ++ List.replicate (whole - digits.length) '0'
    let fraction := padded.drop whole
    String.ofList (padded.take whole ++ ['.'] ++ if fraction.isEmpty then ['0'] else fraction)

end Interval.Decimal

/-- A finite number in the fewest digits that read back. -/
def shortestDecimal (number : Float) : String :=
  let bits := number.toBits.toNat
  let exponent := bits / fractionRange % 0x800
  let fraction := bits % fractionRange
  (if bits < 0x8000000000000000 then "" else "-") ++
    if exponent = 0 ∧ fraction = 0 then "0.0"
    else (Interval.ofFields exponent fraction).shortest.text

end PacketDivert.Text
