import DeviceMap.Decimal.Shortest

/-! How decimals are written: by position, with a power of ten, or with a fixed
number of places. -/
namespace DeviceMap.Decimal

/-- Digits with a point before the last `places` of them. -/
def pointed (digits : List Char) (places : Nat) : List Char :=
  let padded := List.replicate (places + 1 - digits.length) '0' ++ digits
  let whole := padded.length - places
  padded.take whole ++ '.' :: padded.drop whole

/-- A sign in front of what is negative. -/
def signed (negative : Bool) (text : List Char) : List Char :=
  if negative then '-' :: text else text

/-- The decimal by position, without a point if it is whole. -/
def positional (d : Decimal) : List Char :=
  signed d.negative <|
    if d.exponent < 0 then pointed (digits d.coefficient) d.exponent.natAbs
    else digits d.coefficient ++ List.replicate d.exponent.natAbs '0'

/-- The decimal by position, with a fraction even if it is whole. -/
def fractional (d : Decimal) : List Char :=
  if d.exponent < 0 then d.positional else d.positional ++ ['.', '0']

/-- The power of ten of the first digit. -/
def firstPower (d : Decimal) : Int := (digits d.coefficient).length - 1 + d.exponent

/-- The decimal as one digit before the point and a power of ten, whose sign is
always written. -/
def scientific (d : Decimal) : List Char :=
  let power := d.firstPower
  let mantissa :=
    match digits d.coefficient with
    | first :: second :: rest => first :: '.' :: second :: rest
    | short => short
  signed d.negative <|
    mantissa ++ 'e' :: (if power < 0 then '-' else '+') :: digits power.natAbs

/-- The name of a double that is not finite. -/
def nonFinite (x : Float) : String :=
  if x.isNaN then "NaN" else if x < 0 then "-inf" else "inf"

/-- A double as messages show it: the shortest digits by position, however many
zeros that takes. -/
def plain (x : Float) : String :=
  match shortest? .away x with
  | some d => String.ofList d.positional
  | none => nonFinite x

/-- A double with a fixed number of places. The exact value is rounded once,
halves to the even digit. -/
def fixed (places : Nat) (x : Float) : String :=
  match x.toModel.unpack with
  | .zero sign => String.ofList (signed (sign matches .negative) (pointed ['0'] places))
  | .finite sign significand exponent _ =>
    let (p, q) := Shortest.ratio significand exponent
    let units := divideToEven (p * Nat.pow 10 places) q
    String.ofList (signed (sign matches .negative) (pointed (digits units) places))
  | _ => nonFinite x

end DeviceMap.Decimal
