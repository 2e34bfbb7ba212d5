import DeviceMap.Marker

/-! What a point of the world plane lands on. Later devices are drawn over
earlier ones and are tested first. -/
namespace DeviceMap
variable {α : Type} [Scalar α]

/-- The place of a press. -/
inductive Target where
  /-- The elevation handle of the selected device. -/
  | handle
  | marker (mac : Mac)
  | background
deriving DecidableEq

namespace Target

/-- What a point lands on among the device's own handle and marker. Only the
selected device has a handle, and it lies over its marker. -/
def onDevice? (selected : Option Mac) (point : Vec2 α) (device : Device α) : Option Target :=
  let p := point - Marker.anchor device.position
  if selected = some device.mac ∧ Marker.onHandle p then some .handle
  else if Marker.contains p device.position.y then some (.marker device.mac)
  else none

/-- What a point lands on. A point that is not finite is in the background. -/
def ofPoint (devices : List (Device α)) (selected : Option Mac) (point : Vec2 α) : Target :=
  if point.isFinite then (devices.reverse.findSome? (onDevice? selected point)).getD .background
  else .background

end Target
end DeviceMap
