import DeviceMap.Proofs.Interaction.Edit
import DeviceMap.Proofs.Marker.Topmost
import DeviceMap.Proofs.Scene.Run
import DeviceMap.Scalar.Double

/-! A press acts on the topmost thing under it. Hit testing names an address,
and the state machine looks the address up from the front of the list; where
addresses differ from each other, both mean the same device. -/
namespace DeviceMap.Scene
variable {α : Type} [Scalar α]

/-- What a press on the background leaves: nothing selected, no gesture, and no
device to report. -/
def cleared (scene : Scene α) : Scene α × Selection α :=
  ({ scene with interaction := scene.interaction.cleared }, ⟨none⟩)

/-- What a press on the handle of a device leaves. -/
def lifted (scene : Scene α) (device : Device α) : Scene α × Selection α :=
  ({ scene with interaction := { scene.interaction with mode := .lifting } }, ⟨some device⟩)

/-- What a press on the marker of a device leaves. -/
def grabbed (scene : Scene α) (device : Device α) : Scene α × Selection α :=
  ({ scene with interaction :=
      { scene.interaction with selected := some device.mac, mode := .dragging } }, ⟨some device⟩)

theorem press_background {scene : Scene α} {screen : Vec2 α} (finite : screen.isFinite)
    (hit : scene.target screen = .background) : scene.press screen = scene.cleared := by
  unfold press
  rw [if_pos finite, hit]
  rfl

theorem press_marker {scene : Scene α} {screen : Vec2 α} {device : Device α}
    (finite : screen.isFinite) (hit : scene.target screen = .marker device.mac)
    (found : Device.find? scene.devices device.mac = some device) :
    scene.press screen = scene.grabbed device := by
  unfold press
  rw [if_pos finite, hit]
  simp only [Interaction.press, found]
  rfl

theorem press_handle {scene : Scene α} {screen : Vec2 α} {device : Device α}
    (finite : screen.isFinite) (hit : scene.target screen = .handle)
    (found : scene.selectedDevice? = some device) :
    scene.press screen = scene.lifted device := by
  unfold selectedDevice? at found
  unfold press
  rw [if_pos finite, hit]
  simp only [Interaction.press, found]
  rfl

/-- A press takes up the topmost device that it touches, by the handle if that
is the selected device and the point lies on its handle, and by the marker
otherwise. Touching nothing, or a place of the plane that is not finite, clears
the selection. A press at a screen point that is not finite changes nothing and
reports the selected device if it is present. -/
theorem press_takes_topmost {scene : Scene α} (distinct : Device.Distinct scene.devices)
    (screen : Vec2 α) :
    let point := scene.interaction.toWorld screen
    let selected := scene.interaction.selected
    (screen.isFinite → point.isFinite →
      ((∀ device ∈ scene.devices, ¬Target.Touches selected point device) →
        scene.press screen = scene.cleared) ∧
      ∀ place device, Target.Topmost scene.devices selected point place device →
        scene.press screen =
          if selected = some device.mac ∧ Marker.onHandle (point - Marker.anchor device.position)
          then scene.lifted device else scene.grabbed device) ∧
    (screen.isFinite → point.isFinite = false → scene.press screen = scene.cleared) ∧
    (screen.isFinite = false → (scene.press screen).1 = scene ∧
      ∀ device, (scene.press screen).2.device = some device ↔
        device ∈ scene.devices ∧ selected = some device.mac) := by
  intro point selected
  refine ⟨fun onScreen finite => ⟨fun untouched => ?_, fun place device topmost => ?_⟩,
    fun onScreen infinite => ?_, fun offScreen => ?_⟩
  · exact press_background onScreen (Target.ofPoint_untouched untouched)
  · have hit : scene.target screen = _ := Target.ofPoint_topmost finite topmost
    by_cases handle : selected = some device.mac ∧
      Marker.onHandle (point - Marker.anchor device.position)
    · rw [if_pos handle] at hit ⊢
      have member := List.mem_of_getElem? topmost.entry
      have held := (Interaction.selected_iff distinct).mpr ⟨member, handle.1⟩
      exact press_handle onScreen hit held
    · rw [if_neg handle] at hit ⊢
      exact press_marker onScreen hit (Device.find_entry distinct topmost.entry)
  · have hit : scene.target screen = .background := by
      unfold target Target.ofPoint
      exact if_neg (Bool.not_eq_true _ ▸ infinite)
    exact press_background onScreen hit
  · have ignored : scene.press screen = (scene, ⟨scene.selectedDevice?⟩) :=
      if_neg (Bool.not_eq_true _ ▸ offScreen)
    rw [ignored]
    exact ⟨rfl, fun device => Interaction.selected_iff distinct⟩

/-- Of two markers that overlap the later one is taken up, although the other is
selected; the handle of the other is still within reach beside it. -/
theorem overlapping_markers_pressed :
    let lower : Device Float := ⟨⟨1⟩, ⟨0, 0, 0⟩, .zero, []⟩
    let upper : Device Float := ⟨⟨2⟩, ⟨20, 0, 20⟩, .zero, []⟩
    let scene : Scene Float := .flat [lower, upper] (some ⟨1⟩) .idle
    Device.Distinct scene.devices ∧ scene.press ⟨0, 0⟩ = scene.grabbed upper ∧
      scene.press ⟨36, -36.0⟩ = scene.lifted lower ∧ scene.press ⟨500, 500⟩ = scene.cleared := by
  intro lower upper scene
  have distinct : Device.Distinct scene.devices := by decide
  have overlap : Target.Topmost scene.devices (some ⟨1⟩) (scene.interaction.toWorld ⟨0, 0⟩) 1
      upper := by
    refine ⟨rfl, by decide +kernel, ?_⟩
    intro later other order found
    match later with
    | above + 2 => cases found
  have beside : Target.Topmost scene.devices (some ⟨1⟩)
      (scene.interaction.toWorld ⟨36, -36.0⟩) 0 lower := by
    refine ⟨rfl, by decide +kernel, ?_⟩
    intro later other order found
    match later with
    | 1 =>
      cases found
      decide +kernel
    | above + 2 => cases found
  have apart : ∀ device ∈ scene.devices,
      ¬Target.Touches (some ⟨1⟩) (scene.interaction.toWorld ⟨500, 500⟩) device := by
    decide +kernel
  have onMarker := ((press_takes_topmost distinct ⟨0, 0⟩).1 (by decide +kernel)
    (by decide +kernel)).2 1 upper overlap
  have onHandle := ((press_takes_topmost distinct ⟨36, -36.0⟩).1 (by decide +kernel)
    (by decide +kernel)).2 0 lower beside
  have onGround := ((press_takes_topmost distinct ⟨500, 500⟩).1 (by decide +kernel)
    (by decide +kernel)).1 apart
  refine ⟨distinct, onMarker.trans (if_neg ?_), onHandle.trans (if_pos ?_), onGround⟩
  · decide +kernel
  · decide +kernel

end DeviceMap.Scene
