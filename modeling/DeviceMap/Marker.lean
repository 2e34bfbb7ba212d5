import DeviceMap.Device

/-! Markers on the world plane. A marker is drawn as three faces of a cube, a
square one and two skewed ones; a raised marker also has a stem with an
arrowhead that reaches back toward the ground. -/
namespace DeviceMap.Marker
variable {α : Type} [Scalar α]

/-- The length of an edge of the cube. -/
def size : α := 40

/-- The centre of the elevation handle, relative to the marker. -/
def handleCenter : Vec2 α := ⟨36, -36.0⟩

def handleRadius : α := 8

/-- Half the width of the strokes of the stem and its arrowhead. -/
def stemHalfWidth : α := 2.5

/-- Half the length of each stroke of the arrowhead. -/
def arrowHalfLength : α := 10

/-- The origin of a device's marker on the world plane. Elevation shifts it
along the diagonal, so that a raised device appears above its ground point. -/
def anchor (position : Vec3 α) : Vec2 α := ⟨-position.x + position.y, position.z - position.y⟩

/-- The horizontal coordinates, in whole centimetres, of a device whose marker
has a given origin at a given elevation. They are not bounded. -/
def ground (anchor : Vec2 α) (elevation : α) : α × α :=
  (Scalar.round (-anchor.x) + elevation, Scalar.round anchor.y + elevation)

/-- The skew along the second axis that draws a side face. -/
def skewY (p : Vec2 α) : Vec2 α := ⟨p.x, p.y - p.x⟩

/-- The skew along the first axis in the sense of the arrowhead. It undoes the
skew of the other side face. -/
def skewX (p : Vec2 α) : Vec2 α := ⟨p.x + p.y, p.y⟩

/-- Undoes `skewY`. -/
def unskewY (p : Vec2 α) : Vec2 α := ⟨p.x, p.y + p.x⟩

/-- Whether a point lies in a closed rectangle. -/
def inRect (p low high : Vec2 α) : Bool :=
  p.x ≥ low.x && p.x ≤ high.x && p.y ≥ low.y && p.y ≤ high.y

/-- The distance of a point from a segment, which may be a single point. -/
def distanceToSegment (p a b : Vec2 α) : α :=
  let ab := b - a
  if ab.lengthSquared == 0 then p.distance a
  else
    let t := Scalar.clamp 0 1 ((p - a).dot ab / ab.lengthSquared)
    p.distance (a + ab * t)

/-- The strokes of a raised marker: the stem and the two of its arrowhead. -/
def strokes (elevation : α) : List (Vec2 α × Vec2 α) :=
  let tip := -(size + elevation)
  let low : Vec2 α := ⟨tip, -arrowHalfLength⟩
  let high : Vec2 α := ⟨tip, arrowHalfLength⟩
  [(skewY ⟨-size, 0⟩, skewY ⟨tip, 0⟩), (skewY low, skewY high),
    (skewY (skewX low), skewY (skewX high))]

/-- Whether a point relative to the marker lies on one of the three faces. -/
def onFace (p : Vec2 α) : Bool :=
  inRect p ⟨0, -size⟩ ⟨size, 0⟩ || inRect (unskewY p) ⟨-size, -size⟩ .zero ||
    inRect (skewX p) .zero ⟨size, size⟩

/-- Whether a point relative to the marker lies on the strokes of a raised one. -/
def onStem (p : Vec2 α) (elevation : α) : Bool :=
  elevation != 0 &&
    (strokes elevation).any fun (a, b) => distanceToSegment p a b ≤ stemHalfWidth

/-- Whether a point relative to the marker lies on the marker. -/
def contains (p : Vec2 α) (elevation : α) : Bool := onFace p || onStem p elevation

/-- Whether a point relative to the marker lies on the elevation handle. -/
def onHandle (p : Vec2 α) : Bool := p.distance handleCenter ≤ handleRadius

/-- Where and how the marker of a device is drawn. -/
structure Placement (α : Type) where
  mac : Mac
  anchor : Vec2 α
  selected : Bool
  /-- The length of the stem, which a marker on the ground does not have. -/
  stem : Option α

/-- The placement of a device's marker. -/
def place (selected : Option Mac) (device : Device α) : Placement α :=
  { mac := device.mac
    anchor := anchor device.position
    selected := selected == some device.mac
    stem := if device.position.y != 0 then some (size + device.position.y) else none }

/-- The placements of all markers in the order of drawing. -/
def layout (devices : List (Device α)) (selected : Option Mac) : List (Placement α) :=
  devices.map (place selected)

end DeviceMap.Marker
