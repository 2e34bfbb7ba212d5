import DeviceMap.Mac
import DeviceMap.Vector

/-! Devices, their headings, and what they have measured of each other. Nothing
here checks a value: the bounds are stated, and clamping into them is a
separate operation. -/
namespace DeviceMap
variable {α : Type} [Scalar α]

/-- A heading in degrees: the bearing within half a turn to both sides, the
tilt within a quarter. -/
structure Orientation (α : Type) where
  bearing : α
  tilt : α

namespace Orientation

def zero : Orientation α := ⟨0, 0⟩

def isFinite (o : Orientation α) : Bool := Scalar.isFinite o.bearing && Scalar.isFinite o.tilt

/-- An angle within a limit to both sides. An angle that is not finite is zero. -/
def clampAngle (limit angle : α) : α :=
  if Scalar.isFinite angle then Scalar.clamp (-limit) limit angle else 0

/-- The heading with each angle brought into its range. -/
def clamped (o : Orientation α) : Orientation α := ⟨clampAngle 180 o.bearing, clampAngle 90 o.tilt⟩

end Orientation

/-- What a device has measured of another: the distance in centimetres and the
direction in degrees. -/
structure Neighbor (α : Type) where
  mac : Mac
  distance : α
  bearing : α
  tilt : α

/-- A device in the world. -/
structure Device (α : Type) where
  mac : Mac
  position : Vec3 α
  orientation : Orientation α
  neighbors : List (Neighbor α)

namespace World

/-- Half the side of the square world plane. -/
def halfExtent : α := 600

/-- What a marker keeps from the edge of the plane. -/
def margin : α := 40

/-- The largest horizontal coordinate of a device, to both sides. -/
def limit : α := halfExtent - margin

/-- A horizontal coordinate brought within the limit. -/
def clampHorizontal (value : α) : α := Scalar.clamp (-limit) limit value

end World

namespace Device

/-- The height above the ground. -/
def elevation (device : Device α) : α := device.position.y

/-- The position is finite, within the horizontal limit and not below ground. -/
def isInBounds (device : Device α) : Bool :=
  let p := device.position
  p.isFinite && Scalar.abs p.x ≤ World.limit && Scalar.abs p.z ≤ World.limit && p.y ≥ 0

/-- The measurement of the device with an address. -/
def neighbor? (device : Device α) (mac : Mac) : Option (Neighbor α) :=
  device.neighbors.find? (·.mac = mac)

/-- The first device with an address. -/
def find? (devices : List (Device α)) (mac : Mac) : Option (Device α) :=
  devices.find? (·.mac = mac)

/-- Overwrites the first device that has the address of the given one. -/
def put (device : Device α) : List (Device α) → List (Device α)
  | [] => []
  | first :: rest => if first.mac = device.mac then device :: rest else first :: put device rest

end Device
end DeviceMap
