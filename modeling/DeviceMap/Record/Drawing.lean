import DeviceMap.Dial
import DeviceMap.Marker
import DeviceMap.Record
import DeviceMap.Viewport

/-! What is drawn, as data: affine maps, viewports, dials and the placements of
markers. -/
namespace DeviceMap
open Record

instance : Codec (Affine Float) where
  encode m := .record [("a", encode m.a), ("b", encode m.b), ("c", encode m.c),
    ("d", encode m.d), ("e", encode m.e), ("f", encode m.f)]
  decode format d := do
    let [a, b, c, d, e, f] ← entries? format ["a", "b", "c", "d", "e", "f"] d | none
    return ⟨← a.required? format, ← b.required? format, ← c.required? format,
      ← d.required? format, ← e.required? format, ← f.required? format⟩

instance : Codec (Viewport Float) where
  encode v := .record [("center", encode v.center), ("scale", encode v.scale)]
  decode format d := do
    let [center, scale] ← entries? format ["center", "scale"] d | none
    return ⟨← center.required? format, ← scale.required? format⟩

instance : Codec (Arc Float) where
  encode arc := .record [("sweep", encode arc.sweep), ("rotate_z", encode arc.rotateZ),
    ("rotate_x", encode arc.rotateX)]
  decode format d := do
    let [sweep, z, x] ← entries? format ["sweep", "rotate_z", "rotate_x"] d | none
    return ⟨← sweep.required? format, ← z.required? format, ← x.required? format⟩

/-- An axis without a third angle is written without it. -/
instance : Codec (Axis Float) where
  encode axis := .record ([("rotate_z", encode axis.rotateZ), ("rotate_x", encode axis.rotateX)] ++
    (axis.rotateY.map fun y => ("rotate_y", encode y)).toList)
  decode format d := do
    let [z, x, y] ← entries? format ["rotate_z", "rotate_x", "rotate_y"] d | none
    return ⟨← z.required? format, ← x.required? format, ← y.orElse? format none⟩

instance : Codec (Dial Float) where
  encode dial := .record [("unit", encode dial.unit), ("bearing_arc", encode dial.bearingArc),
    ("tilt_arc", encode dial.tiltArc), ("depth_axis", encode dial.depthAxis),
    ("planar_axis", encode dial.planarAxis)]
  decode format d := do
    let [unit, bearing, tilt, depth, planar] ←
      entries? format ["unit", "bearing_arc", "tilt_arc", "depth_axis", "planar_axis"] d | none
    return ⟨← unit.required? format, ← bearing.required? format, ← tilt.required? format,
      ← depth.required? format, ← planar.required? format⟩

instance : Codec (Marker.Placement Float) where
  encode p := .record [("mac", encode p.mac), ("anchor", encode p.anchor),
    ("selected", encode p.selected), ("stem_length", encode p.stem)]
  decode format d := do
    let [mac, anchor, selected, stem] ←
      entries? format ["mac", "anchor", "selected", "stem_length"] d | none
    return ⟨← mac.required? format, ← anchor.required? format, ← selected.required? format,
      ← stem.nullable? format⟩

end DeviceMap
