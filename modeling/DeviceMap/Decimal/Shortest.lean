import DeviceMap.Decimal

/-! The shortest decimal that reads back as a double: the fewest digits for
which one of the two decimals next to the exact value reads back, and of these
two the nearer one. Two texts may differ in what they do with a value half way
between them, so this is a parameter. -/
namespace DeviceMap.Decimal

/-- What becomes of a value half way between two decimals. -/
inductive Tie where
  | away
  | even

namespace Shortest

/-- The exact size of a double with this significand and exponent, as a
numerator and a denominator. -/
def ratio (significand : Nat) (exponent : Int) : Nat × Nat :=
  if exponent < 0 then (significand, Nat.pow 2 exponent.natAbs)
  else (significand * Nat.pow 2 exponent.natAbs, 1)

/-- The ratio divided by a power of ten. -/
def scaled (p q : Nat) (power : Int) : Nat × Nat :=
  if power < 0 then (p * Nat.pow 10 power.natAbs, q)
  else (p, q * Nat.pow 10 power.natAbs)

/-- The power of ten of a ratio's first digit. The binary logarithms give a
lower estimate that is a few powers short at most. -/
def magnitude (p q : Nat) : Int :=
  climb 4 (((p.log2 : Int) - q.log2 - 1) * 30103 / 100000 - 1)
where
  climb : Nat → Int → Int
    | 0, power => power
    | fuel + 1, power =>
      let (n, d) := scaled p q (power + 1)
      if d ≤ n then climb fuel (power + 1) else power

/-- Whether the lower of the two decimals next to a ratio is the nearer one. -/
def prefersLower (tie : Tie) (p q : Nat) : Bool :=
  let twice := 2 * (p % q)
  match tie with
  | .away => twice < q
  | .even => twice < q || (twice == q && p / q % 2 == 0)

/-- One of the two decimals next to a ratio, in units of a power of ten, that
reads back as `x`. -/
def onGrid? (tie : Tie) (x : Float) (negative : Bool) (p q : Nat) (power : Int) : Option Decimal :=
  let (n, d) := scaled p q power
  let lower : Decimal := ⟨negative, n / d, power⟩
  let upper : Decimal := ⟨negative, n / d + 1, power⟩
  if lower.toFloat == x then
    if prefersLower tie n d then some lower
    else if upper.toFloat == x then some upper else some lower
  else if upper.toFloat == x then some upper else none

/-- The exact value, for when nothing shorter reads back. -/
def exact (negative : Bool) (significand : Nat) (exponent : Int) : Decimal :=
  if exponent < 0 then ⟨negative, significand * Nat.pow 5 exponent.natAbs, exponent⟩
  else ⟨negative, significand * Nat.pow 2 exponent.natAbs, 0⟩

end Shortest

open Shortest in
/-- The shortest decimal that reads back as a finite double. Seventeen digits
are always enough. The first grid is the one above the first digit, because a
value just below a power of ten may read back from that power. -/
def shortest? (tie : Tie) (x : Float) : Option Decimal :=
  match x.toModel.unpack with
  | .zero sign => some ⟨sign matches .negative, 0, 0⟩
  | .finite sign significand exponent _ =>
    let negative := sign matches .negative
    let (p, q) := ratio significand exponent
    let first := magnitude p q
    let found := (List.range 18).findSome? fun (more : Nat) =>
      onGrid? tie x negative p q (first + 1 - more)
    some (found.getD (exact negative significand exponent))
  | _ => none

end DeviceMap.Decimal
