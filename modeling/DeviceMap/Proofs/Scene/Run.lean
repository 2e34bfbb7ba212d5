import DeviceMap.Proofs.Interaction.Edit
import DeviceMap.Scene

/-! Runs of a scene: what one gesture can do to it, and what any number of
gestures and changes of the viewport keep. -/
namespace DeviceMap
variable {α : Type} [Scalar α]

/-- What the host can ask of a scene. -/
inductive Operation (α : Type) where
  | gesture (gesture : Gesture α)
  | view (viewport : Viewport α)

namespace Scene

/-- A scene seen from above: its screen is its plane, without trigonometry. -/
def flat (devices : List (Device α)) (selected : Option Mac) (mode : Mode) : Scene α :=
  ⟨devices, ⟨selected, mode, .ofMatrix .identity, .identity⟩⟩

/-- The scene after an operation. -/
def perform (scene : Scene α) : Operation α → Scene α
  | .gesture gesture => (scene.step gesture).1
  | .view viewport => scene.withViewport viewport

/-- The scene after a sequence of operations. -/
def run (scene : Scene α) (operations : List (Operation α)) : Scene α :=
  operations.foldl perform scene

/-- What every operation keeps holds after every run. -/
theorem run_keeps {holds : Scene α → Prop}
    (kept : ∀ scene operation, holds scene → holds (scene.perform operation))
    {scene : Scene α} (start : holds scene) (operations : List (Operation α)) :
    holds (scene.run operations) := by
  induction operations generalizing scene with
  | nil => exact start
  | cons operation rest ih => exact ih (kept scene operation start)

/-- A press at any screen point carries a stored entry and edits none. -/
theorem press_reports (scene : Scene α) (screen : Vec2 α) :
    (scene.press screen).1.devices = scene.devices ∧
      ∀ device, (scene.press screen).2.device = some device →
        Device.find? scene.devices device.mac = some device := by
  unfold press
  split
  · exact ⟨rfl, fun device carried => Interaction.press_found carried⟩
  · exact ⟨rfl, fun device carried => Interaction.selected_found carried⟩

/-- A gesture either leaves the devices alone and carries a stored entry, if
any, or stores one edit of the selected device and carries that. -/
theorem step_cases (scene : Scene α) (gesture : Gesture α) :
    ((scene.step gesture).1.devices = scene.devices ∧
      ∀ device, (scene.step gesture).2.device? = some device →
        Device.find? scene.devices device.mac = some device) ∨
    ∃ device edited, scene.selectedDevice? = some device ∧ Edit device edited ∧
      (scene.step gesture).1.devices = edited.put scene.devices ∧
        (scene.step gesture).2.device? = some edited := by
  cases gesture with
  | down x y => exact Or.inl (scene.press_reports ⟨x, y⟩)
  | up => exact Or.inl ⟨rfl, fun device carried => Interaction.release_found carried⟩
  | move x y movement =>
    rcases scene.interaction.move_cases scene.devices ⟨x, y⟩ movement with
      ignored | ⟨device, edited, found, edit, accepted⟩
    · refine Or.inl ⟨congrArg Prod.fst ignored, fun device carried => ?_⟩
      have nothing : (scene.move ⟨x, y⟩ movement).2 = .none := congrArg Prod.snd ignored
      simp [step, Event.device?, nothing, Outcome.device?] at carried
    · have reported : (scene.move ⟨x, y⟩ movement).2 = .moved edited := congrArg Prod.snd accepted
      refine Or.inr ⟨device, edited, found, edit, congrArg Prod.fst accepted, ?_⟩
      simp [step, Event.device?, reported, Outcome.device?]
  | orient bearing tilt =>
    rcases scene.interaction.orient_cases scene.devices ⟨bearing, tilt⟩ with
      ignored | ⟨device, edited, found, edit, accepted⟩
    · refine Or.inl ⟨congrArg Prod.fst ignored, fun device carried => ?_⟩
      have nothing : (scene.orient ⟨bearing, tilt⟩).2 = .none := congrArg Prod.snd ignored
      simp [step, Event.device?, nothing, Outcome.device?] at carried
    · have reported : (scene.orient ⟨bearing, tilt⟩).2 = .reoriented edited :=
        congrArg Prod.snd accepted
      refine Or.inr ⟨device, edited, found, edit, congrArg Prod.fst accepted, ?_⟩
      simp [step, Event.device?, reported, Outcome.device?]

/-- After a gesture every entry is one from before or an edit of the selected
one. -/
theorem mem_step {scene : Scene α} {gesture : Gesture α} {entry : Device α}
    (member : entry ∈ (scene.step gesture).1.devices) :
    entry ∈ scene.devices ∨ ∃ device ∈ scene.devices, Edit device entry := by
  rcases scene.step_cases gesture with ⟨same, -⟩ | ⟨device, edited, found, edit, stored, -⟩
  · exact Or.inl (same ▸ member)
  · rw [stored] at member
    rcases Device.mem_put member with rfl | kept
    · exact Or.inr ⟨device, Device.find_mem (Interaction.selected_found found), edit⟩
    · exact Or.inl kept

end Scene
end DeviceMap
