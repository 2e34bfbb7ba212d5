import DeviceMap.Device
import DeviceMap.Record

/-! Devices and their parts as data. Of a device only the address has to be
given; a measurement is given in full. -/
namespace DeviceMap
open Record

instance : Codec (Vec3 Float) where
  encode p := .record [("x", encode p.x), ("y", encode p.y), ("z", encode p.z)]
  decode format d := do
    let [x, y, z] ← entries? format ["x", "y", "z"] d | none
    return ⟨← x.orElse? format 0, ← y.orElse? format 0, ← z.orElse? format 0⟩

instance : Codec (Orientation Float) where
  encode o := .record [("bearing", encode o.bearing), ("tilt", encode o.tilt)]
  decode format d := do
    let [bearing, tilt] ← entries? format ["bearing", "tilt"] d | none
    return ⟨← bearing.orElse? format 0, ← tilt.orElse? format 0⟩

instance : Codec (Neighbor Float) where
  encode n := .record [("mac", encode n.mac), ("distance", encode n.distance),
    ("bearing", encode n.bearing), ("tilt", encode n.tilt)]
  decode format d := do
    let [mac, distance, bearing, tilt] ←
      entries? format ["mac", "distance", "bearing", "tilt"] d | none
    return ⟨← mac.required? format, ← distance.required? format, ← bearing.required? format,
      ← tilt.required? format⟩

instance : Codec (Device Float) where
  encode device := .record [("mac", encode device.mac), ("position", encode device.position),
    ("orientation", encode device.orientation), ("neighbor", encode device.neighbors)]
  decode format d := do
    let [mac, position, orientation, neighbors] ←
      entries? format ["mac", "position", "orientation", "neighbor"] d | none
    return ⟨← mac.required? format, ← position.orElse? format .zero,
      ← orientation.orElse? format .zero, ← neighbors.orElse? format []⟩

end DeviceMap
