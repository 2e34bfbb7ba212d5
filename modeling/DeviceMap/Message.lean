import DeviceMap.Decimal.Notation
import DeviceMap.Interaction
import DeviceMap.Scene.Admission

/-! The wording of what goes wrong. -/
namespace DeviceMap
open Decimal

/-- Why a move changed nothing. -/
def MoveError.message : MoveError Float → String
  | .pointerNotFinite x y => s!"Invalid input: pointer at ({plain x}, {plain y})"
  | .pointerUnmapped x y mappedX mappedZ =>
    s!"Invalid input: pointer at ({plain x}, {plain y}) maps to ({plain mappedX}, {plain mappedZ})"
  | .movementNotFinite movement => s!"Invalid input: vertical movement {plain movement}"
  | .elevationNotFinite current step =>
    s!"Invalid input: elevation {plain current} moved by {plain step}"
  | .noSelection => "No device is selected"

/-- What is wrong with a device. -/
def Fault.message : Fault → String
  | .duplicateAddress => "duplicate MAC address"
  | .positionNotFinite => "position is not finite"
  | .orientationNotFinite => "orientation is not finite"

end DeviceMap
