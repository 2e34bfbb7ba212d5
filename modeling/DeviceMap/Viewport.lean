import DeviceMap.Projection

/-! The place of the projected surface on the host's screen. The surface is
scaled by one factor and drawn about a centre. -/
namespace DeviceMap
variable {α : Type} [Scalar α]

/-- The centre of the surface on the screen and its scale. -/
structure Viewport (α : Type) where
  center : Vec2 α
  scale : α

namespace Viewport

/-- The side of the square of the world plane that the surface shows. -/
def extent : α := 1200

/-- The screen is the projected plane itself. -/
def identity : Viewport α := ⟨.zero, 1⟩

/-- The surface fitted into a box of the host, keeping its proportions. A box
that gives no positive finite scale or no finite centre is disregarded. -/
def fit (left top width height : α) : Viewport α :=
  let scale := Scalar.least width height / extent
  let center : Vec2 α := ⟨left + width / 2, top + height / 2⟩
  if Scalar.isFinite scale ∧ scale > 0 ∧ center.isFinite then ⟨center, scale⟩ else identity

/-- Where a point of the world plane is drawn in the host's screen. -/
def toScreen (v : Viewport α) (p : Projection α) (world : Vec2 α) : Vec2 α :=
  v.center + p.toScreen world * v.scale

/-- The point of the world plane that the host draws at a screen point. -/
def toWorld (v : Viewport α) (p : Projection α) (screen : Vec2 α) : Vec2 α :=
  p.toWorld ((screen - v.center) / v.scale)

end Viewport
end DeviceMap
