import DeviceMap.Interaction

/-! A map surface: devices together with the interaction that edits them,
driven by pointer events in the host's screen. -/
namespace DeviceMap
variable {α : Type} [Scalar α]

/-- The devices of a surface and the state of its interaction. -/
structure Scene (α : Type) where
  devices : List (Device α)
  interaction : Interaction α

/-- One step of a scripted gesture, in screen coordinates. -/
inductive Gesture (α : Type) where
  | down (x y : α)
  | move (x y movement : α)
  | up
  | orient (bearing tilt : α)

/-- What a scene reports for one step. -/
inductive Event (α : Type) where
  | selection (selection : Selection α)
  | outcome (outcome : Outcome α)

/-- The device that an event carries. -/
def Event.device? : Event α → Option (Device α)
  | .selection left => left.device
  | .outcome result => result.device?

namespace Scene

/-- A scene in which nothing is selected. -/
def start (devices : List (Device α)) (viewport : Viewport α) : Scene α :=
  ⟨devices, .start viewport⟩

/-- The same scene on another place of the screen. -/
def withViewport (scene : Scene α) (viewport : Viewport α) : Scene α :=
  { scene with interaction := { scene.interaction with viewport } }

/-- The selected device, if it is still in the list. -/
def selectedDevice? (scene : Scene α) : Option (Device α) :=
  scene.interaction.selectedDevice? scene.devices

/-- What a press at a screen point would land on. -/
def target (scene : Scene α) (screen : Vec2 α) : Target :=
  .ofPoint scene.devices scene.interaction.selected (scene.interaction.toWorld screen)

/-- A press at a screen point. One that is not finite changes nothing. -/
def press (scene : Scene α) (screen : Vec2 α) : Scene α × Selection α :=
  if screen.isFinite then
    let (interaction, selection) := scene.interaction.press scene.devices (scene.target screen)
    ({ scene with interaction }, selection)
  else (scene, ⟨scene.selectedDevice?⟩)

/-- A move of the pointer. -/
def move (scene : Scene α) (screen : Vec2 α) (movement : α) : Scene α × Outcome α :=
  let (devices, outcome) := scene.interaction.move scene.devices screen movement
  ({ scene with devices }, outcome)

/-- A release of the pointer. -/
def release (scene : Scene α) : Scene α × Outcome α :=
  let (interaction, outcome) := scene.interaction.release scene.devices
  ({ scene with interaction }, outcome)

/-- A new heading for the selected device. -/
def orient (scene : Scene α) (orientation : Orientation α) : Scene α × Outcome α :=
  let (devices, outcome) := scene.interaction.orient scene.devices orientation
  ({ scene with devices }, outcome)

/-- One step of a script. -/
def step (scene : Scene α) : Gesture α → Scene α × Event α
  | .down x y => (scene.press ⟨x, y⟩).map id .selection
  | .move x y movement => (scene.move ⟨x, y⟩ movement).map id .outcome
  | .up => scene.release.map id .outcome
  | .orient bearing tilt => (scene.orient ⟨bearing, tilt⟩).map id .outcome

/-- A whole script, with one event for each of its steps. -/
def replay (scene : Scene α) : List (Gesture α) → Scene α × List (Event α)
  | [] => (scene, [])
  | gesture :: rest =>
    let (next, event) := scene.step gesture
    let (last, events) := next.replay rest
    (last, event :: events)

/-- The placements of all markers. -/
def markers (scene : Scene α) : List (Marker.Placement α) :=
  Marker.layout scene.devices scene.interaction.selected

end Scene
end DeviceMap
