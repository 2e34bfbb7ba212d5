import DeviceMap.Device

/-! The dial that shows a heading: two arcs of a circle turned in space, and two
axes along the heading. -/
namespace DeviceMap
variable {α : Type} [Scalar α]

/-- An arc: how far it sweeps, and how its circle is turned, in degrees. -/
structure Arc (α : Type) where
  sweep : α
  rotateZ : α
  rotateX : α
deriving BEq

/-- An axis and how it is turned, in degrees. -/
structure Axis (α : Type) where
  rotateZ : α
  rotateX : α
  rotateY : Option α
deriving BEq

/-- All that is needed to draw the dial of a heading. -/
structure Dial (α : Type) where
  unit : α
  bearingArc : Arc α
  tiltArc : Arc α
  depthAxis : Axis α
  planarAxis : Axis α
deriving BEq

namespace Dial

/-- The side of the view box. A circle with a quarter of it as radius has a
circumference of 360, so that a dash of some length draws as many degrees. -/
def side : α := 0.5 / Scalar.pi * 360 * 4

/-- A whole circle, the gap in the dash pattern of every arc. -/
def fullTurn : α := 360

/-- The fixed axes behind the dial. -/
def referenceAxes : List (Axis α) :=
  [⟨-180.0, 0, none⟩, ⟨-90.0, 0, none⟩, ⟨0, -90.0, none⟩]

/-- The dial of a heading, whose angles are brought into range first. The arc
of a bearing is turned over unless the bearing is positive; that of a tilt is
turned up or down, or lies flat. -/
def ofAngles (bearing tilt : α) : Dial α :=
  let heading := Orientation.clamped ⟨bearing, tilt⟩
  let axis : Axis α := ⟨180 + heading.bearing, 0 - heading.tilt, none⟩
  { unit := side
    bearingArc :=
      { sweep := Scalar.abs heading.bearing
        rotateZ := 90
        rotateX := if heading.bearing > 0 then 0 else 180 }
    tiltArc :=
      { sweep := Scalar.abs heading.tilt
        rotateZ := 90 + heading.bearing
        rotateX := if heading.tilt > 0 then 90 else if heading.tilt < 0 then -90.0 else 0 }
    depthAxis := { axis with rotateY := some 90 }
    planarAxis := axis }

/-- The radius of the circles. -/
def radius (dial : Dial α) : α := dial.unit / 4

/-- The width of a stroke that fills a circle from its centre to its rim. -/
def strokeWidth (dial : Dial α) : α := dial.unit / 2

/-- The view box of both arcs: left, top, width and height. -/
def viewBox (dial : Dial α) : List α := [-dial.unit / 2, -dial.unit / 2, dial.unit, dial.unit]

end Dial

/-- The dash and the gap that draw an arc. -/
def Arc.dash (arc : Arc α) : α × α := (arc.sweep, Dial.fullTurn)

def Orientation.dial (o : Orientation α) : Dial α := .ofAngles o.bearing o.tilt

def Neighbor.dial (n : Neighbor α) : Dial α := .ofAngles n.bearing n.tilt

def Device.dial (device : Device α) : Dial α := device.orientation.dial

end DeviceMap
