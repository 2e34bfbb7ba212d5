import DeviceMap.Proofs.Exact.View
import DeviceMap.Proofs.Scene.Run

/-! Scripts on different surfaces. A pointer only counts through the point of the
world plane that lies under it, so a script that was recorded on one place of the
screen can be carried over to another and edits the same devices in the same way. -/
namespace DeviceMap
variable {α : Type} [Scalar α]

/-- The screen point of another surface under which the same plane point lies. -/
def Viewport.carry (source target : Viewport α) (p : Projection α) (screen : Vec2 α) : Vec2 α :=
  target.toScreen p (source.toWorld p screen)

/-- The gesture on another surface. Movements, releases and turns have no place. -/
def Gesture.carry (source target : Viewport α) (p : Projection α) : Gesture α → Gesture α
  | .down x y =>
    let point := source.carry target p ⟨x, y⟩
    .down point.x point.y
  | .move x y movement =>
    let point := source.carry target p ⟨x, y⟩
    .move point.x point.y movement
  | .up => .up
  | .orient bearing tilt => .orient bearing tilt

namespace Interaction

/-- The same selection and gesture on another surface. -/
def withViewport (state : Interaction α) (viewport : Viewport α) : Interaction α :=
  { state with viewport }

omit [Scalar α] in
/-- A press does not look at the surface. -/
theorem press_withViewport (state : Interaction α) (viewport : Viewport α)
    (devices : List (Device α)) (target : Target) :
    (state.withViewport viewport).press devices target =
      ((state.press devices target).1.withViewport viewport, (state.press devices target).2) := by
  have same : (state.withViewport viewport).selectedDevice? devices =
      state.selectedDevice? devices := rfl
  cases target with
  | handle =>
    simp only [press, same]
    cases state.selectedDevice? devices <;> rfl
  | marker mac =>
    simp only [press]
    cases Device.find? devices mac <;> rfl
  | background => rfl

omit [Scalar α] in
theorem press_view (state : Interaction α) (devices : List (Device α)) (target : Target) :
    (state.press devices target).1.viewport = state.viewport ∧
      (state.press devices target).1.projection = state.projection := by
  unfold press
  split
  · split <;> exact ⟨rfl, rfl⟩
  · split <;> exact ⟨rfl, rfl⟩
  · exact ⟨rfl, rfl⟩

/-- A drag only looks at the plane point under the pointer. Only the wording of a
refusal tells where on the screen that was. -/
theorem drag_withViewport {state : Interaction α} {viewport : Viewport α} {screen other : Vec2 α}
    (under : (state.withViewport viewport).toWorld other = state.toWorld screen)
    (finite : screen.isFinite = true ∧ other.isFinite = true) (devices : List (Device α))
    (edited : Device α) : (state.withViewport viewport).drag devices other = .ok edited ↔
      state.drag devices screen = .ok edited := by
  rw [drag_ok_iff, drag_ok_iff, under, finite.1, finite.2]
  exact Iff.rfl

theorem move_withViewport {state : Interaction α} {viewport : Viewport α} {screen other : Vec2 α}
    (under : (state.withViewport viewport).toWorld other = state.toWorld screen)
    (finite : screen.isFinite = true ∧ other.isFinite = true) (devices : List (Device α))
    (movement : α) : (state.withViewport viewport).move devices other movement =
      state.move devices screen movement := by
  have agree := drag_withViewport under finite devices
  have same : (state.withViewport viewport).mode = state.mode := rfl
  unfold move tryMove
  rw [same]
  cases state.mode with
  | idle | lifting => rfl
  | dragging =>
    cases accepted : state.drag devices screen with
    | ok edited => rw [(agree edited).mpr accepted]
    | error reason =>
      cases carried : (state.withViewport viewport).drag devices other with
      | error _ => rfl
      | ok edited =>
        rw [(agree edited).mp carried] at accepted
        cases accepted

end Interaction

namespace Scene

/-- A gesture leaves the view as it is. -/
theorem step_view (scene : Scene α) (gesture : Gesture α) :
    (scene.step gesture).1.interaction.viewport = scene.interaction.viewport ∧
      (scene.step gesture).1.interaction.projection = scene.interaction.projection := by
  cases gesture with
  | move x y movement => exact ⟨rfl, rfl⟩
  | up => exact ⟨rfl, rfl⟩
  | orient bearing tilt => exact ⟨rfl, rfl⟩
  | down x y =>
    change (scene.press ⟨x, y⟩).1.interaction.viewport = _ ∧
      (scene.press ⟨x, y⟩).1.interaction.projection = _
    unfold press
    split
    · exact Interaction.press_view _ _ _
    · exact ⟨rfl, rfl⟩

section Carried
variable {scene : Scene ℝ} {target : Viewport ℝ} (scaled : target.scale ≠ 0)
  (invertible : scene.interaction.projection.Invertible)
include scaled invertible

theorem carry_under (screen : Vec2 ℝ) :
    (scene.interaction.withViewport target).toWorld
        (scene.interaction.viewport.carry target scene.interaction.projection screen) =
      scene.interaction.toWorld screen :=
  Viewport.toWorld_toScreen scaled invertible _

/-- One gesture does on another surface what it does on its own. -/
theorem step_carry (gesture : Gesture ℝ) :
    (scene.withViewport target).step
        (gesture.carry scene.interaction.viewport target scene.interaction.projection) =
      ((scene.step gesture).1.withViewport target, (scene.step gesture).2) := by
  cases gesture with
  | up => rfl
  | orient bearing tilt => rfl
  | move x y movement =>
    have under := carry_under scaled invertible ⟨x, y⟩
    have moved := Interaction.move_withViewport under ⟨rfl, rfl⟩ scene.devices movement
    unfold step Scene.move
    exact congrArg (fun result : List (Device ℝ) × Outcome ℝ =>
      ((⟨result.1, scene.interaction.withViewport target⟩ : Scene ℝ), Event.outcome result.2)) moved
  | down x y =>
    have under := carry_under scaled invertible ⟨x, y⟩
    let screen := scene.interaction.viewport.carry target scene.interaction.projection ⟨x, y⟩
    have hit : (scene.withViewport target).target screen = scene.target ⟨x, y⟩ :=
      congrArg (Target.ofPoint scene.devices scene.interaction.selected) under
    have pressed :=
      (congrArg ((scene.interaction.withViewport target).press scene.devices) hit).trans
      (scene.interaction.press_withViewport target scene.devices (scene.target ⟨x, y⟩))
    exact congrArg (fun result : Interaction ℝ × Selection ℝ =>
      ((⟨scene.devices, result.1⟩ : Scene ℝ), Event.selection result.2)) pressed

end Carried

theorem replay_carry (scene : Scene ℝ) {target : Viewport ℝ} (scaled : target.scale ≠ 0)
    (invertible : scene.interaction.projection.Invertible) (script : List (Gesture ℝ)) :
    (scene.withViewport target).replay (script.map
        (Gesture.carry scene.interaction.viewport target scene.interaction.projection)) =
      ((scene.replay script).1.withViewport target, (scene.replay script).2) := by
  induction script generalizing scene with
  | nil => rfl
  | cons gesture rest ih =>
    obtain ⟨viewport, projection⟩ := scene.step_view gesture
    have first := step_carry scaled invertible gesture
    have others := ih (scene.step gesture).1 (projection ▸ invertible)
    rw [viewport, projection] at others
    simp only [List.map_cons, replay, first, others]

/-- A script with its presses and moves carried over to another surface gives
the same events and leaves the same devices, the same selection and the same
gesture. Of the two surfaces only the one that the script is carried to needs a
scale. -/
theorem replay_carried {scene : Scene ℝ} (source : Viewport ℝ) {target : Viewport ℝ}
    (scaled : target.scale ≠ 0) (invertible : scene.interaction.projection.Invertible)
    (script : List (Gesture ℝ)) :
    let recorded := (scene.withViewport source).replay script
    let carried := (scene.withViewport target).replay
      (script.map (Gesture.carry source target scene.interaction.projection))
    carried.2 = recorded.2 ∧ carried.1.devices = recorded.1.devices ∧
      carried.1.interaction.selected = recorded.1.interaction.selected ∧
      carried.1.interaction.mode = recorded.1.interaction.mode := by
  intro recorded carried
  have same : carried = (recorded.1.withViewport target, recorded.2) :=
    replay_carry (scene.withViewport source) scaled invertible script
  rw [same]
  exact ⟨rfl, rfl, rfl, rfl⟩

/-- A press, a drag and a turn on the plane itself, replayed on a surface of
twice the size with its centre elsewhere. -/
theorem drag_replayed_at_twice_the_size :
    let device : Device ℝ := ⟨⟨1⟩, ⟨0, 0, 0⟩, .zero, []⟩
    let scene : Scene ℝ := .flat [device] none .idle
    let script : List (Gesture ℝ) := [.down 0 0, .move 30 40 0, .orient 10 20, .up]
    let target : Viewport ℝ := ⟨⟨100, 50⟩, 2⟩
    let carried := script.map (Gesture.carry .identity target scene.interaction.projection)
    (target.scale ≠ 0 ∧ scene.interaction.projection.Invertible) ∧
      ((scene.withViewport target).replay carried).2 = (scene.replay script).2 := by
  intro device scene script target carried
  have scaled : target.scale ≠ 0 := by norm_num [target]
  have invertible : scene.interaction.projection.Invertible := by
    refine ⟨?_, rfl⟩
    simp [scene, flat, Projection.ofMatrix, Mat4.identity, Affine.determinant]
  exact ⟨⟨scaled, invertible⟩, (replay_carried .identity scaled invertible script).1⟩

end Scene
end DeviceMap
