import DeviceMap.Scene

/-! The admission of devices to a scene. A stored device list may hold anything;
a scene starts only from devices with different addresses and finite numbers,
which are then brought into the bounds of the world. -/
namespace DeviceMap
variable {α : Type} [Scalar α]

/-- What is wrong with a device. -/
inductive Fault where
  | duplicateAddress
  | positionNotFinite
  | orientationNotFinite
deriving DecidableEq

namespace Device

/-- What is wrong with a device when others are already enrolled. A repeated
address counts before the position, and the position before the heading. -/
def fault? (device : Device α) (enrolled : List Mac) : Option Fault :=
  if enrolled.contains device.mac then some .duplicateAddress
  else if !device.position.isFinite then some .positionNotFinite
  else if !device.orientation.isFinite then some .orientationNotFinite
  else none

/-- The device brought into the bounds of the world and the ranges of its
angles. A position within bounds is left as it is. -/
def normalized (device : Device α) : Device α :=
  let p := device.position
  { device with
    position :=
      if device.isInBounds then p
      else ⟨World.clampHorizontal p.x, Scalar.greatest p.y 0, World.clampHorizontal p.z⟩
    orientation := device.orientation.clamped }

/-- Enrolls devices one after the other. The first one with a fault is named. -/
def enroll (enrolled : List Mac) : List (Device α) → Except (Mac × Fault) (List (Device α))
  | [] => .ok []
  | device :: rest =>
    match device.fault? enrolled with
    | some fault => .error (device.mac, fault)
    | none => (enroll (device.mac :: enrolled) rest).map (device.normalized :: ·)

end Device

/-- A scene of stored devices, with the screen as the projected plane. -/
def Scene.ofDevices (devices : List (Device α)) : Except (Mac × Fault) (Scene α) :=
  (Device.enroll [] devices).map (Scene.start · .identity)

end DeviceMap
