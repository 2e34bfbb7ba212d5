import DeviceMap.Proofs.Exact.Marker
import DeviceMap.Proofs.Exact.View
import DeviceMap.Proofs.Interaction.Edit
import DeviceMap.Proofs.Marker.Topmost
import DeviceMap.Proofs.Scene.Run

/-! A drag keeps the marker under the pointer. Dragging snaps the ground position
to whole centimetres with the elevation taken into account; the anchor comes back
within a half of the pointer, and hit testing there finds the marker again. -/
namespace DeviceMap
open Exact

/-- Where no bound is in the way, the elevation in the ground position cancels
the one in the anchor. -/
theorem Device.placed_anchor {device : Device ℝ} {x z : ℝ}
    (across : |x + device.position.y| ≤ 560) (along : |z + device.position.y| ≤ 560) :
    Marker.anchor (device.placed (x + device.position.y) (z + device.position.y)).position =
      ⟨-x, z⟩ := by
  unfold placed
  rw [World.clampHorizontal_inside across, World.clampHorizontal_inside along]
  have first : -(x + device.position.y) + device.position.y = -x := by ring
  have second : z + device.position.y - device.position.y = z := by ring
  exact congrArg₂ Vec2.mk first second

/-- Only the selected device has a handle, and that is away from its anchor. -/
private theorem handle_out_of_reach {devices : List (Device ℝ)}
    (distinct : Device.Distinct devices) {place : Nat} {device : Device ℝ}
    (entry : devices[place]? = some device) {selected : Option Mac}
    (chosen : selected = some device.mac) {point : Vec2 ℝ}
    (near : Near (Marker.anchor device.position).x point.x) :
    ∀ other ∈ devices, ¬(selected = some other.mac ∧
      Marker.onHandle (point - Marker.anchor other.position)) := by
  rintro other member ⟨marked, reached⟩
  obtain ⟨twin, found⟩ := List.getElem?_of_mem member
  have same : device.mac = other.mac := Option.some.inj (chosen.symm.trans marked)
  obtain rfl := Device.place_unique distinct entry found same
  rw [entry] at found
  cases found
  exact Marker.near_off_handle near reached

namespace Scene

/-- A drag stores the device at the whole ground position that is nearest under
the pointer, brought within the limit. -/
theorem drag_stores {scene : Scene ℝ} {device : Device ℝ} {screen point : Vec2 ℝ}
    (dragging : scene.interaction.mode = .dragging)
    (found : scene.selectedDevice? = some device)
    (mapped : scene.interaction.toWorld screen = point) (movement : ℝ) :
    (scene.move screen movement).1.devices =
      (device.placed (Scalar.round (-point.x) + device.position.y)
        (Scalar.round point.y + device.position.y)).put scene.devices := by
  have ground : Marker.ground (scene.interaction.toWorld screen) device.position.y =
      (Scalar.round (-point.x) + device.position.y, Scalar.round point.y + device.position.y) :=
    mapped ▸ rfl
  exact congrArg Prod.fst
    (Interaction.move_dragging dragging rfl found ground ⟨rfl, rfl⟩ movement)

/-- After a drag to a point whose ground position is within the limit, the anchor
of the dragged device is the whole point nearest to the one under the pointer,
and the pointer is on its marker; no other device has changed. Hit testing there
names the device, or the last of those listed after it whose marker also holds
the point, and never the background or a handle. Where the view can be inverted,
the point is the one that is drawn under the pointer. -/
theorem drag_keeps_marker_under_pointer {scene : Scene ℝ}
    (distinct : Device.Distinct scene.devices) (dragging : scene.interaction.mode = .dragging)
    {place : Nat} {device : Device ℝ} (entry : scene.devices[place]? = some device)
    (chosen : scene.interaction.selected = some device.mac) {screen point : Vec2 ℝ}
    (mapped : scene.interaction.toWorld screen = point)
    (across : |Scalar.round (-point.x) + device.position.y| ≤ 560)
    (along : |Scalar.round point.y + device.position.y| ≤ 560) (movement : ℝ) :
    let view := scene.interaction
    let after := (scene.move screen movement).1
    let covered (other : Device ℝ) : Prop :=
      Marker.contains (point - Marker.anchor other.position) other.position.y
    (view.viewport.scale ≠ 0 → view.projection.Invertible →
      view.viewport.toScreen view.projection point = screen) ∧
    (∀ other, other ≠ place → after.devices[other]? = scene.devices[other]?) ∧
    ∃ moved, after.devices[place]? = some moved ∧ moved.mac = device.mac ∧
      moved.position.y = device.position.y ∧
      Marker.anchor moved.position = ⟨-Scalar.round (-point.x), Scalar.round point.y⟩ ∧
      Near (Marker.anchor moved.position).x point.x ∧
      Near (Marker.anchor moved.position).y point.y ∧ covered moved ∧
      ((∀ later other, place < later → after.devices[later]? = some other → ¬covered other) →
        after.target screen = .marker device.mac) ∧
      (∀ last other, place < last → after.devices[last]? = some other → covered other →
        (∀ later above, last < later → after.devices[later]? = some above → ¬covered above) →
          after.target screen = .marker other.mac) ∧
      after.target screen ≠ .background ∧ after.target screen ≠ .handle := by
  intro view after covered
  let moved := device.placed (Scalar.round (-point.x) + device.position.y)
    (Scalar.round point.y + device.position.y)
  have found : scene.selectedDevice? = some device :=
    (Interaction.selected_iff distinct).mpr ⟨List.mem_of_getElem? entry, chosen⟩
  have stored : after.devices = moved.put scene.devices :=
    drag_stores dragging found mapped movement
  have held : after.devices[place]? = some moved := stored ▸ Device.put_entry distinct entry rfl
  have anchored : Marker.anchor moved.position = ⟨-Scalar.round (-point.x), Scalar.round point.y⟩ :=
    Device.placed_anchor across along
  have nearX : Near (Marker.anchor moved.position).x point.x :=
    anchored ▸ neg_round_neg_near point.x
  have nearY : Near (Marker.anchor moved.position).y point.y := anchored ▸ round_near point.y
  have inside : covered moved := Marker.near_contains nearX nearY moved.position.y
  have noHandle := handle_out_of_reach (stored ▸ Device.put_distinct distinct moved) held
    chosen nearX
  have hit : after.target screen = Target.ofPoint after.devices view.selected point :=
    congrArg (Target.ofPoint after.devices view.selected) mapped
  rw [hit]
  refine ⟨fun scaled invertible => ?_, fun other elsewhere => ?_, moved, held, rfl, rfl, anchored,
    nearX, nearY, inside, fun free => ?_, fun last other _ there covers => ?_, ?_⟩
  · rw [← mapped]
    exact Viewport.toScreen_toWorld scaled invertible screen
  · rw [stored]
    exact Device.put_other distinct entry rfl elsewhere
  · change _ = Target.marker moved.mac
    exact Target.ofPoint_last_marker rfl noHandle held inside free
  · exact Target.ofPoint_last_marker rfl noHandle there covers
  · obtain ⟨mac, named⟩ :=
      Target.ofPoint_on_marker rfl noHandle (List.mem_of_getElem? held) inside
    rw [named]
    exact ⟨Target.noConfusion, Target.noConfusion⟩

theorem flat_toWorld (devices : List (Device ℝ)) (selected : Option Mac) (mode : Mode)
    (screen : Vec2 ℝ) : (flat devices selected mode).interaction.toWorld screen = screen := by
  simp [flat, Interaction.toWorld, Viewport.toWorld, Viewport.identity, Projection.toWorld,
    Projection.ofMatrix, Mat4.identity, Affine.inverse, Affine.determinant, Affine.apply,
    Affine.linear, Vec2.zero]

/-- A raised device is dragged under a later one that stands on the ground. -/
theorem drag_under_later_marker :
    let lower : Device ℝ := ⟨⟨1⟩, ⟨0, 10, 0⟩, .zero, []⟩
    let upper : Device ℝ := ⟨⟨2⟩, ⟨-20, 0, 30⟩, .zero, []⟩
    let scene : Scene ℝ := .flat [lower, upper] (some ⟨1⟩) .dragging
    let after := (scene.move ⟨30, 40⟩ 0).1
    (∃ moved, after.devices[0]? = some moved ∧
      Marker.contains (⟨30, 40⟩ - Marker.anchor moved.position) moved.position.y) ∧
      after.target ⟨30, 40⟩ = .marker ⟨2⟩ := by
  intro lower upper scene after
  have distinct : Device.Distinct scene.devices := by decide
  have mapped : scene.interaction.toWorld ⟨30, 40⟩ = ⟨30, 40⟩ := flat_toWorld _ _ _ _
  have across : |Scalar.round (-30 : ℝ) + 10| ≤ 560 :=
    (round_add_le (-30) 10).trans (by norm_num)
  have along : |Scalar.round (40 : ℝ) + 10| ≤ 560 := (round_add_le 40 10).trans (by norm_num)
  have entry : scene.devices[0]? = some lower := rfl
  obtain ⟨-, kept, moved, held, -, -, -, -, -, inside, -, later, -⟩ :=
    drag_keeps_marker_under_pointer distinct rfl entry rfl mapped across along 0
  have above : after.devices[1]? = some upper := kept 1 (by decide)
  have covers : Marker.contains (⟨30, 40⟩ - Marker.anchor upper.position) upper.position.y := by
    unfold Marker.contains
    rw [Marker.onFace_iff.mpr (by norm_num [upper, Marker.anchor, abs_le])]
    rfl
  refine ⟨⟨moved, held, inside⟩, later 1 upper (by decide) above covers ?_⟩
  intro last other order found
  match last with
  | beyond + 2 =>
    rw [kept (beyond + 2) (by omega)] at found
    cases found

end Scene
end DeviceMap
