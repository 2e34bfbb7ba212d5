import DeviceMap.Vector

/-! Affine maps of the plane, given by the six coefficients that drawing
formats write for them. -/
namespace DeviceMap
variable {α : Type} [Scalar α]

/-- The map that takes `(x, y)` to `(a·x + c·y + e, b·x + d·y + f)`. -/
structure Affine (α : Type) where
  a : α
  b : α
  c : α
  d : α
  e : α
  f : α

namespace Affine

/-- The image of an offset: the map without its translation. -/
def linear (m : Affine α) (p : Vec2 α) : Vec2 α := ⟨m.a * p.x + m.c * p.y, m.b * p.x + m.d * p.y⟩

/-- The image of a point. -/
def apply (m : Affine α) (p : Vec2 α) : Vec2 α := m.linear p + ⟨m.e, m.f⟩

def determinant (m : Affine α) : α := m.a * m.d - m.b * m.c

/-- The inverse map. Without a determinant other than zero its coefficients
are those that the division gives, and mean nothing. -/
def inverse (m : Affine α) : Affine α :=
  let i := 1.0 / m.determinant
  let back : Affine α := ⟨m.d * i, m.b * -i, m.c * -i, m.a * i, 0, 0⟩
  let shift := back.linear ⟨m.e, m.f⟩
  { back with e := -shift.x, f := -shift.y }

/-- The coefficients in the order in which they are written. -/
def toList (m : Affine α) : List α := [m.a, m.b, m.c, m.d, m.e, m.f]

end Affine
end DeviceMap
