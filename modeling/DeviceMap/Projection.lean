import DeviceMap.Affine
import DeviceMap.Rotation

/-! The fixed isometric view of the world plane. The view tips the plane about
one axis, turns it about another and shrinks it; what remains in the plane of
the screen is an affine map, whose inverse interprets pointer positions. -/
namespace DeviceMap
variable {α : Type} [Scalar α]

/-- A view of the world: the full matrix for drawing in space, its affine part
on the plane, and the inverse of that part. -/
structure Projection (α : Type) where
  matrix : Mat4 α
  forward : Affine α
  inverse : Affine α

namespace Projection

/-- The turn about the vertical axis of the plane, in degrees. -/
def turn : α := -45.0

/-- The scale applied after both rotations. -/
def scale : α := 0.7

/-- The angle by which an isometric view tips the plane, in degrees: the one
whose tangent is the square root of two. -/
def tilt : α := Scalar.degrees (Scalar.atan (Scalar.sqrt 2))

/-- The view given by a matrix. A point of the plane has no third coordinate,
and the third coordinate of its image is dropped. -/
def ofMatrix (m : Mat4 α) : Projection α :=
  let forward : Affine α := ⟨m.x.x, m.x.y, m.y.x, m.y.y, m.w.x, m.w.y⟩
  ⟨m, forward, forward.inverse⟩

/-- The isometric view. -/
def isometric : Projection α :=
  ofMatrix (Mat4.identity * Mat4.rotationX (Scalar.radians tilt) *
    Mat4.rotationZ (Scalar.radians turn) * Mat4.scaling scale)

/-- Where a point of the world plane is drawn. -/
def toScreen (p : Projection α) (world : Vec2 α) : Vec2 α := p.forward.apply world

/-- The point of the world plane drawn at a screen point. -/
def toWorld (p : Projection α) (screen : Vec2 α) : Vec2 α := p.inverse.apply screen

end Projection
end DeviceMap
