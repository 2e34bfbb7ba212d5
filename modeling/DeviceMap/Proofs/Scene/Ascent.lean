import DeviceMap.Proofs.Exact.Inverse
import DeviceMap.Proofs.Scene.Elevation

/-! Raising and lowering as it is seen on the screen. Elevation moves the anchor of a
marker along a diagonal of the plane, and the isometric view draws that diagonal
upright: both axes go across the screen alike, and up and down by the same amount. So
a marker stays above its ground point, at a height that the elevation alone decides. -/
namespace DeviceMap
open Exact

/-- The position at another elevation. -/
def Vec3.atLevel {α : Type} (position : Vec3 α) (level : α) : Vec3 α := { position with y := level }

/-- How far a unit of elevation goes up the screen, where a unit of the plane is not scaled. It
moves an anchor by a unit along both axes, and each of these goes up alike. -/
noncomputable def Projection.rise : ℝ := stretch / √3 + stretch / √3

theorem Projection.rise_eq : rise = 7 / 5 / √6 := by
  have roots : √(6 : ℝ) = √2 * √3 := by
    rw [← Real.sqrt_mul (by norm_num)]
    norm_num
  rw [rise, stretch_eq, roots]
  field_simp
  norm_num

theorem Projection.rise_pos : 0 < rise := by
  rw [rise_eq]
  positivity

/-- In the image of an anchor the elevation cancels across the screen and doubles up it. -/
theorem Projection.isometric_anchor (position : Vec3 ℝ) :
    isometric.toScreen (Marker.anchor position) =
      ⟨stretch * (position.z - position.x),
        stretch / √3 * (position.z + position.x) - rise * position.y⟩ := by
  rw [isometric_toScreen, rise, Vec2.mk.injEq, Marker.anchor]
  constructor <;> ring

namespace Viewport

/-- Where the isometric view shows the marker of a device at a position. -/
def marked {α : Type} [Scalar α] (view : Viewport α) (position : Vec3 α) : Vec2 α :=
  view.toScreen .isometric (Marker.anchor position)

/-- A marker is shown straight above its ground point. -/
theorem marked_above (view : Viewport ℝ) (position : Vec3 ℝ) (level : ℝ) :
    view.marked (position.atLevel level) =
      ⟨(view.marked (position.atLevel 0)).x,
        (view.marked (position.atLevel 0)).y - Projection.rise * view.scale * level⟩ := by
  unfold marked toScreen
  rw [Projection.isometric_anchor, Projection.isometric_anchor, Vec2.mk.injEq]
  obtain ⟨⟨left, top⟩, scale⟩ := view
  refine ⟨rfl, ?_⟩
  let upright := Projection.stretch / √3 * (position.z + position.x)
  change top + (upright - Projection.rise * level) * scale =
    top + (upright - Projection.rise * 0) * scale - Projection.rise * scale * level
  ring

/-- Ordinates of the screen grow downwards. -/
theorem marked_strictAnti {view : Viewport ℝ} (scaled : 0 < view.scale) (position : Vec3 ℝ) :
    StrictAnti fun level => (view.marked (position.atLevel level)).y := by
  intro lower higher order
  change (view.marked _).y < (view.marked _).y
  rw [marked_above, marked_above view position lower]
  exact sub_lt_sub_left
    (mul_lt_mul_of_pos_left order (mul_pos Projection.rise_pos scaled)) _

end Viewport

namespace Elevation
open Interaction

theorem reached_next (level : ℝ) (movements : List ℝ) (movement : ℝ) :
    reached level (movements ++ [movement]) = max 0 (reached level movements - 2 * movement) := by
  rw [reached_append, reached_cons]
  rfl

end Elevation

namespace Scene
open Elevation

/-- Where the screen shows the marker of the selected device, if that is present. -/
def shown? {α : Type} [Scalar α] (scene : Scene α) : Option (Vec2 α) :=
  scene.selectedDevice?.map fun device =>
    scene.interaction.viewport.toScreen scene.interaction.projection
      (Marker.anchor device.position)

section Lifted
variable {scene : Scene ℝ} (lifting : scene.interaction.mode = .lifting) {device : Device ℝ}
  (found : scene.selectedDevice? = some device)
include lifting found

/-- Moves that lift leave the device as it was but for its elevation. -/
theorem lifted_device (path : List (Vec2 ℝ × ℝ)) :
    (scene.replay (Gesture.moves path)).1.selectedDevice? =
      some (device.raised (reached device.position.y (path.map Prod.snd))) := by
  rw [replay_lifting lifting found, amend_selected, found]
  rfl

theorem lifted_shown (isometric : scene.interaction.projection = .isometric)
    (path : List (Vec2 ℝ × ℝ)) : (scene.replay (Gesture.moves path)).1.shown? =
      some (scene.interaction.viewport.marked
        (device.position.atLevel (reached device.position.y (path.map Prod.snd)))) := by
  have kept : (scene.replay (Gesture.moves path)).1.interaction = scene.interaction := by
    rw [replay_lifting lifting found, amend_interaction]
  unfold shown?
  rw [lifted_device lifting found, kept, isometric]
  rfl

end Lifted

/-- While a device is raised and lowered, its marker is shown straight above its ground point, at
a height that is the elevation times the scale and a constant. So the higher of two
elevations is shown strictly higher, no movement down the screen takes the marker up, and
every movement up the screen does. -/
theorem lifted_straight_up {scene : Scene ℝ}
    (isometric : scene.interaction.projection = .isometric)
    (scaled : 0 < scene.interaction.viewport.scale)
    (lifting : scene.interaction.mode = .lifting) {device : Device ℝ}
    (found : scene.selectedDevice? = some device) (above : 0 ≤ device.position.y) :
    let view := scene.interaction.viewport
    let after (path : List (Vec2 ℝ × ℝ)) : Scene ℝ := (scene.replay (Gesture.moves path)).1
    let ground := view.marked (device.position.atLevel 0)
    let rise : ℝ := 7 / 5 / √6
    0 < rise ∧
    (∀ path, ∃ level, 0 ≤ level ∧ (after path).selectedDevice? = some (device.raised level) ∧
      (after path).shown? = some ⟨ground.x, ground.y - rise * view.scale * level⟩) ∧
    (∀ (position : Vec3 ℝ) lower higher, lower < higher →
      (view.marked (position.atLevel higher)).x = (view.marked (position.atLevel lower)).x ∧
      (view.marked (position.atLevel higher)).y < (view.marked (position.atLevel lower)).y) ∧
    ∀ path pointer movement, ∃ before next, (after path).shown? = some before ∧
      (after (path ++ [(pointer, movement)])).shown? = some next ∧ next.x = before.x ∧
        (0 < movement → before.y ≤ next.y) ∧ (movement < 0 → next.y < before.y) := by
  intro view after ground rise
  have constant : rise = Projection.rise := Projection.rise_eq.symm
  rw [constant]
  have falling (position : Vec3 ℝ) := Viewport.marked_strictAnti scaled position
  have upright (position : Vec3 ℝ) (lower higher : ℝ) :
      (view.marked (position.atLevel higher)).x = (view.marked (position.atLevel lower)).x := by
    rw [view.marked_above, view.marked_above position lower]
  have shown (path) := lifted_shown lifting found isometric path
  refine ⟨Projection.rise_pos, fun path => ?_, fun position lower higher order =>
    ⟨upright position lower higher, falling position order⟩, fun path pointer movement => ?_⟩
  · refine ⟨_, reached_above above _, lifted_device lifting found path, ?_⟩
    exact (shown path).trans (congrArg some (view.marked_above device.position _))
  · have height := reached_above above (path.map Prod.snd)
    refine ⟨_, _, shown path, shown _, upright _ _ _, fun down => ?_, fun up => ?_⟩
    · apply (falling device.position).antitone
      rw [List.map_append, List.map_singleton, reached_next]
      exact max_le height (by linarith)
    · apply falling device.position
      rw [List.map_append, List.map_singleton, reached_next]
      exact lt_max_of_lt_right (by linarith)

/-- A device is lowered to the ground and raised again on a surface drawn at twice its size. -/
theorem lowered_then_shown_higher :
    let device : Device ℝ := ⟨⟨1⟩, ⟨10, 5, 20⟩, .zero, []⟩
    let scene : Scene ℝ := ⟨[device], ⟨some ⟨1⟩, .lifting, .isometric, ⟨⟨100, 50⟩, 2⟩⟩⟩
    let lowered := (scene.replay (Gesture.moves [(⟨3, 4⟩, 9)])).1
    let raised := (scene.replay (Gesture.moves [(⟨3, 4⟩, 9), (⟨3, 1⟩, -3)])).1
    ∃ before next, lowered.shown? = some before ∧ raised.shown? = some next ∧
      next.x = before.x ∧ next.y < before.y := by
  intro device scene lowered raised
  have scaled : 0 < scene.interaction.viewport.scale := by norm_num [scene]
  have above : 0 ≤ device.position.y := by norm_num [device]
  obtain ⟨-, -, -, moves⟩ := lifted_straight_up rfl scaled rfl rfl above
  obtain ⟨before, next, first, second, across, -, up⟩ := moves [(⟨3, 4⟩, 9)] ⟨3, 1⟩ (-3)
  exact ⟨before, next, first, second, across, up (by norm_num)⟩

end Scene
end DeviceMap
