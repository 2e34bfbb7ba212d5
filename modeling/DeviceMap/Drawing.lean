import DeviceMap.Decimal.Notation
import DeviceMap.Dial
import DeviceMap.Marker
import DeviceMap.Projection
import DeviceMap.Scalar.Double

/-! The transforms that drawing formats take, as texts. Style sheets turn by
named rotations and separate numbers by commas; vector graphics take
coefficients that are separated by blanks. -/
namespace DeviceMap
open Decimal

/-- The style transform of an arc. -/
def Arc.css (arc : Arc Float) : String :=
  s!"rotateZ({plain arc.rotateZ}deg) rotateX({plain arc.rotateX}deg)"

/-- The style transform of an axis, which has a third rotation only if it is set. -/
def Axis.css (axis : Axis Float) : String :=
  let turned := s!"rotateZ({plain axis.rotateZ}deg) rotateX({plain axis.rotateX}deg)"
  match axis.rotateY with
  | some y => s!"{turned} rotateY({plain y}deg)"
  | none => turned

/-- The graphics transform of an affine map. -/
def Affine.svg (m : Affine Float) : String :=
  let coefficients := " ".intercalate (m.toList.map plain)
  s!"matrix({coefficients})"

/-- The style transform of a projection in space, column after column. -/
def Projection.css (p : Projection Float) : String :=
  let entries := ", ".intercalate (p.matrix.toList.map plain)
  s!"matrix3d({entries})"

/-- The graphics transform that moves a marker to its place. -/
def Marker.Placement.svg (p : Marker.Placement Float) : String :=
  s!"translate({plain p.anchor.x} {plain p.anchor.y})"

end DeviceMap
