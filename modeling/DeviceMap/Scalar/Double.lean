import DeviceMap.Scalar

/-! Double precision floating point as the numbers of the map. Everything but
the trigonometric functions is defined in the logic; rounding to a whole number
is defined here from the significand and the exponent of the number. -/
namespace DeviceMap.Double

/-- The nearest whole number, halves away from zero. The sign of a zero is
kept, and what has no fraction stays as it is. -/
def round (x : Float) : Float :=
  match x.toModel.unpack with
  | .finite sign significand exponent _ =>
    if exponent < 0 then
      let unit := Nat.pow 2 exponent.natAbs
      let whole := Float.ofNat ((2 * significand + unit) / (2 * unit))
      match sign with
      | .positive => whole
      | .negative => -whole
    else x
  | _ => x

/-- The number nearest to the ratio of a circle's circumference to its
diameter. -/
def pi : Float := 3.141592653589793

end Double

instance : Scalar Float where
  decLt := inferInstance
  decLe := inferInstance
  pi := Double.pi
  abs := Float.abs
  sqrt := Float.sqrt
  round := Double.round
  sin := Float.sin
  cos := Float.cos
  atan := Float.atan
  atan2 := Float.atan2
  isFinite := Float.isFinite
  isNaN := Float.isNaN

end DeviceMap
