import DeviceMap.Device
import DeviceMap.Rotation

/-! Measurements between devices: the distance of another device, and the
direction in which it is seen in the observer's own frame. -/
namespace DeviceMap.Ranging
variable {α : Type} [Scalar α]

/-- The rotation from the world into the frame of an observer. -/
def observerFrame (o : Orientation α) : Quaternion α :=
  .ofAngles (Scalar.radians o.tilt) (Scalar.radians o.bearing)

/-- The angle of a direction about the vertical in degrees, zero along the last
axis and growing toward the first. -/
def azimuth (direction : Vec3 α) : α := Scalar.degrees (Scalar.atan2 direction.x direction.z)

/-- The angle of a direction above the horizontal plane in degrees. -/
def altitude (direction : Vec3 α) : α :=
  let horizontal := Scalar.sqrt (direction.x * direction.x + direction.z * direction.z)
  Scalar.degrees (Scalar.atan2 direction.y horizontal)

/-- The offset between two devices in the frame of the first. -/
def direction (observer target : Device α) : Vec3 α :=
  (observerFrame observer.orientation).rotate (target.position - observer.position)

/-- What one device measures of another. The angles are whole degrees; they are
zero where the offset has no direction. -/
def measure (observer target : Device α) : Neighbor α :=
  let direction := direction observer target
  let seen := direction.isFinite && direction.lengthSquared > 0
  { mac := target.mac
    distance := (target.position - observer.position).length
    bearing :=
      if seen then Scalar.clamp (-180.0) 180 (Scalar.round (azimuth direction)) else 0
    tilt := if seen then Scalar.clamp (-90.0) 90 (Scalar.round (altitude direction)) else 0 }

/-- Measures all devices anew: each one measures every entry with another
address, in the order of the list. -/
def refresh (devices : List (Device α)) : List (Device α) :=
  devices.map fun device =>
    { device with neighbors := (devices.filter (·.mac ≠ device.mac)).map (measure device) }

end DeviceMap.Ranging
