/-! The numbers that the map computes with. Every geometric definition is
written once over this class, so that the same definition runs on binary
floating point and can be reasoned about over the exact reals. The operations
are only named here: what holds of them is a matter of the instance. -/
namespace DeviceMap

/-- Arithmetic, comparison and the few functions that the geometry needs.
A number may fail to be finite or fail to be a number at all; over the reals
neither happens. -/
class Scalar (α : Type) extends Add α, Sub α, Mul α, Div α, Neg α, LT α, LE α, BEq α,
    OfScientific α where
  decLt : DecidableLT α
  decLe : DecidableLE α
  pi : α
  abs : α → α
  sqrt : α → α
  /-- The nearest whole number; halves go away from zero. -/
  round : α → α
  sin : α → α
  cos : α → α
  atan : α → α
  /-- The angle of the point with the second argument as abscissa and the
  first as ordinate. -/
  atan2 : α → α → α
  isFinite : α → Bool
  isNaN : α → Bool

attribute [reducible, instance] Scalar.decLt Scalar.decLe

/-- Whole literals are decimals without a fraction. -/
instance (priority := 10) [Scalar α] : OfNat α n := ⟨OfScientific.ofScientific n false 0⟩

namespace Scalar
variable [Scalar α]

/-- The smaller of two numbers, and the other one if one is not a number. Of
two equal numbers it is the first. -/
def least (x y : α) : α := if isNaN x then y else if y < x then y else x

/-- The larger of two numbers, and the other one if one is not a number. Of
two equal numbers it is the second. -/
def greatest (x y : α) : α := if isNaN y then x else if y < x then x else y

/-- The nearest number between two bounds. What cannot be compared with them
passes unchanged. -/
def clamp (low high x : α) : α := if x < low then low else if high < x then high else x

/-- Degrees to radians. The quotient is formed first. -/
def radians (degrees : α) : α := degrees * (pi / 180)

/-- Radians to degrees. The quotient is formed first. -/
def degrees (radians : α) : α := radians * (180 / pi)

end Scalar
end DeviceMap
