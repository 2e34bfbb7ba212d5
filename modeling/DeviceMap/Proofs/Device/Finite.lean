import DeviceMap.Device

/-! Devices with finite numbers, those of their measurements included. -/
namespace DeviceMap
variable {α : Type} [Scalar α]

def Neighbor.isFinite (n : Neighbor α) : Bool :=
  Scalar.isFinite n.distance && Scalar.isFinite n.bearing && Scalar.isFinite n.tilt

/-- All numbers of the device are finite. -/
def Device.isFinite (device : Device α) : Bool :=
  device.position.isFinite && device.orientation.isFinite && device.neighbors.all (·.isFinite)

end DeviceMap
