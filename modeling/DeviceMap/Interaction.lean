import DeviceMap.Marker.Target
import DeviceMap.Viewport

/-! Pointer gestures that edit the selected device. A gesture is a press, any
number of moves and a release. The list of devices belongs to the host and is
handed to every operation; the state itself only holds which address is
selected, what the gesture is doing, and how the screen maps to the plane. -/
namespace DeviceMap
variable {α : Type} [Scalar α]

/-- What the current gesture is doing. -/
inductive Mode where
  | idle
  /-- Moving the selected device across the horizontal plane. -/
  | dragging
  /-- Raising or lowering the selected device. -/
  | lifting
deriving DecidableEq

/-- What a press leaves selected. -/
structure Selection (α : Type) where
  device : Option (Device α)

/-- What an operation did, with the edited device as it is now stored. -/
inductive Outcome (α : Type) where
  | none
  | moved (device : Device α)
  | ended (device : Device α)
  | reoriented (device : Device α)

namespace Outcome

/-- The device that an outcome carries. -/
def device? : Outcome α → Option (Device α)
  | .none => Option.none
  | .moved device | .ended device | .reoriented device => some device

end Outcome

/-- Why a move changed nothing. -/
inductive MoveError (α : Type) where
  | pointerNotFinite (x y : α)
  /-- The plane coordinates of the pointer are not numbers. -/
  | pointerUnmapped (x y mappedX mappedZ : α)
  | movementNotFinite (movement : α)
  | elevationNotFinite (current step : α)
  | noSelection

/-- Selection, gesture and view of one surface. -/
structure Interaction (α : Type) where
  selected : Option Mac
  mode : Mode
  projection : Projection α
  viewport : Viewport α

namespace Interaction

/-- Nothing is selected and no gesture is going on. -/
def start (viewport : Viewport α) : Interaction α := ⟨none, .idle, .isometric, viewport⟩

/-- The selected device, if it is still in the list. -/
def selectedDevice? (state : Interaction α) (devices : List (Device α)) : Option (Device α) :=
  state.selected.bind (Device.find? devices)

/-- The point of the world plane under a screen point. -/
def toWorld (state : Interaction α) (screen : Vec2 α) : Vec2 α :=
  state.viewport.toWorld state.projection screen

/-- Nothing selected and no gesture, as after a press on the background. -/
def cleared (state : Interaction α) : Interaction α := { state with selected := none, mode := .idle }

/-- A press. On the handle it takes up the elevation of the selected device, on
a marker it selects the device and takes it up for dragging. Anything else,
also a handle or a marker without a device, clears the selection. -/
def press (state : Interaction α) (devices : List (Device α)) (target : Target) :
    Interaction α × Selection α :=
  match target with
  | .handle =>
    match state.selectedDevice? devices with
    | some device => ({ state with mode := .lifting }, ⟨some device⟩)
    | none => (state.cleared, ⟨none⟩)
  | .marker mac =>
    match Device.find? devices mac with
    | some device =>
      ({ state with selected := some device.mac, mode := .dragging }, ⟨some device⟩)
    | none => (state.cleared, ⟨none⟩)
  | .background => (state.cleared, ⟨none⟩)

/-- The selected device after it is dragged to a screen point. It keeps its
elevation. Infinite coordinates end at the bounds. -/
def drag (state : Interaction α) (devices : List (Device α)) (screen : Vec2 α) :
    Except (MoveError α) (Device α) :=
  if !screen.isFinite then .error (.pointerNotFinite screen.x screen.y)
  else match state.selectedDevice? devices with
    | none => .error .noSelection
    | some device =>
      let (x, z) := Marker.ground (state.toWorld screen) device.position.y
      if Scalar.isNaN x || Scalar.isNaN z then
        .error (.pointerUnmapped screen.x screen.y x z)
      else
        let position :=
          { device.position with x := World.clampHorizontal x, z := World.clampHorizontal z }
        .ok { device with position }

/-- The selected device after a vertical movement of the pointer. It is lowered
by twice the movement but by no more than its elevation. -/
def lift (state : Interaction α) (devices : List (Device α)) (movement : α) :
    Except (MoveError α) (Device α) :=
  if !Scalar.isFinite movement then .error (.movementNotFinite movement)
  else match state.selectedDevice? devices with
    | none => .error .noSelection
    | some device =>
      let current := device.position.y
      let step := Scalar.least (movement * 2) current
      let elevation := Scalar.greatest (current - step) 0
      if Scalar.isFinite elevation then
        .ok { device with position := { device.position with y := elevation } }
      else .error (.elevationNotFinite current step)

/-- A move, with the edited list and what it did, or the reason why it did
nothing. -/
def tryMove (state : Interaction α) (devices : List (Device α)) (screen : Vec2 α) (movement : α) :
    Except (MoveError α) (List (Device α) × Outcome α) :=
  match state.mode with
  | .idle => .ok (devices, .none)
  | .dragging => (state.drag devices screen).map fun device => (device.put devices, .moved device)
  | .lifting => (state.lift devices movement).map fun device => (device.put devices, .moved device)

/-- A move. One that is not possible changes nothing. -/
def move (state : Interaction α) (devices : List (Device α)) (screen : Vec2 α) (movement : α) :
    List (Device α) × Outcome α :=
  match state.tryMove devices screen movement with
  | .ok result => result
  | .error _ => (devices, .none)

/-- A release. It ends the gesture and keeps the selection. -/
def release (state : Interaction α) (devices : List (Device α)) : Interaction α × Outcome α :=
  let outcome :=
    match state.mode, state.selectedDevice? devices with
    | .dragging, some device | .lifting, some device => .ended device
    | _, _ => .none
  ({ state with mode := .idle }, outcome)

/-- Turns the selected device. Angles out of range are brought into it, and a
heading that is not finite is refused. -/
def orient (state : Interaction α) (devices : List (Device α)) (orientation : Orientation α) :
    List (Device α) × Outcome α :=
  if orientation.isFinite then
    match state.selectedDevice? devices with
    | some device =>
      let device := { device with orientation := orientation.clamped }
      (device.put devices, .reoriented device)
    | none => (devices, .none)
  else (devices, .none)

end Interaction
end DeviceMap
