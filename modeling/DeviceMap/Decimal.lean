/-! Decimal numbers and the doubles that they are read as. A decimal is exact;
reading it rounds once, to the nearest double. -/
namespace DeviceMap

/-- A decimal, `coefficient · 10 ^ exponent` with its sign kept apart, so that
there are two zeros. -/
structure Decimal where
  negative : Bool
  coefficient : Nat
  exponent : Int
deriving DecidableEq

namespace Decimal

/-- Moves up to `fuel` zeros from the end of a coefficient to the exponent. -/
def moveZeros : Nat → Nat → Int → Nat × Int
  | 0, coefficient, exponent => (coefficient, exponent)
  | fuel + 1, coefficient, exponent =>
    if coefficient % 10 = 0 then moveZeros fuel (coefficient / 10) (exponent + 1)
    else (coefficient, exponent)

/-- The decimal with the same value whose coefficient does not end in a zero.
Every zero has the exponent zero. -/
def normal (d : Decimal) : Decimal :=
  if d.coefficient = 0 then { d with exponent := 0 }
  else
    let (coefficient, exponent) := moveZeros (d.coefficient.log2 + 1) d.coefficient d.exponent
    { d with coefficient, exponent }

/-- The nearest double. What is too large for one is infinite. The normal form
comes first, so that decimals of one value are read alike. -/
def toFloat (d : Decimal) : Float :=
  let n := d.normal
  let size := Float.ofScientific n.coefficient (n.exponent < 0) n.exponent.natAbs
  if n.negative then -size else size

/-- The digits of a number in base ten, the most significant first. -/
def digits (n : Nat) : List Char := Nat.toDigits 10 n

/-- The number that digits in base ten stand for. -/
def ofDigits (digits : List Char) : Nat := digits.foldl (fun n c => 10 * n + (c.toNat - 48)) 0

/-- The decimal written as digits before and after a point, and a power of ten. -/
def ofParts (negative : Bool) (whole fraction : List Char) (power : Int) : Decimal :=
  ⟨negative, ofDigits (whole ++ fraction), power - fraction.length⟩

/-- Divides two numbers and rounds to the nearest, halves to the even one. -/
def divideToEven (p q : Nat) : Nat :=
  let floor := p / q
  let twice := 2 * (p % q)
  if twice < q ∨ (twice = q ∧ floor % 2 = 0) then floor else floor + 1

end Decimal
end DeviceMap
