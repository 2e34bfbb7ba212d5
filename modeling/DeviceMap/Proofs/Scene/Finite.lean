import DeviceMap.Proofs.Ranging.Measure
import DeviceMap.Proofs.Report
import DeviceMap.Proofs.Scene.Bounds

/-! Which of the stored numbers can fail to be finite. Positions and headings
cannot. The measurements of a device are taken over from its file as they are,
edits leave them alone, and new ones are stored as they are measured; so one
that is not finite stays until the devices are measured anew. -/
namespace DeviceMap

/-- What the host does with a scene: it asks for an operation, or has the
devices measure each other. -/
inductive Task (α : Type) where
  | operation (operation : Operation α)
  | refresh

namespace Scene

section Tasks
variable {α : Type} [Scalar α]

/-- The scene after a task. -/
def attend (scene : Scene α) : Task α → Scene α
  | .operation operation => scene.perform operation
  | .refresh => { scene with devices := Ranging.refresh scene.devices }

/-- The scene after all tasks. -/
def attendAll (scene : Scene α) (tasks : List (Task α)) : Scene α := tasks.foldl attend scene

theorem attendAll_succ (scene : Scene α) (tasks : List (Task α)) (steps : Nat) :
    scene.attendAll (tasks.take (steps + 1)) =
      tasks[steps]?.elim (scene.attendAll (tasks.take steps))
        (scene.attendAll (tasks.take steps)).attend := by
  rw [List.take_add_one, attendAll, List.foldl_append]
  cases tasks[steps]? <;> rfl

/-- No operation changes what a device has measured. -/
theorem neighbors_of_perform {scene : Scene α} {operation : Operation α} {device : Device α}
    (member : device ∈ (scene.perform operation).devices) :
    ∃ before ∈ scene.devices, before.neighbors = device.neighbors := by
  cases operation with
  | view viewport => exact ⟨device, member, rfl⟩
  | gesture gesture =>
    rcases mem_step member with kept | ⟨before, held, edit⟩
    · exact ⟨device, kept, rfl⟩
    · exact ⟨before, held, edit.neighbors.symm⟩

end Tasks

/-- All stored numbers are finite. -/
def Finite (scene : Scene Float) : Prop := scene.devices.all Device.isFinite = true

/-- Each device can measure all others. -/
def Measurable (scene : Scene Float) : Prop :=
  ∀ observer ∈ scene.devices, ∀ target ∈ scene.devices, target.mac ≠ observer.mac →
    Ranging.Measurable observer target

theorem attend_bounded (scene : Scene Float) (task : Task Float) (bounded : scene.Bounded) :
    (scene.attend task).Bounded := by
  cases task with
  | operation operation => exact scene.perform_bounded operation bounded
  | refresh =>
    intro entry member
    obtain ⟨device, held, rfl⟩ := List.mem_map.mp member
    obtain ⟨position, bearing, tilt⟩ := bounded device held
    exact ⟨position, bearing, tilt⟩

/-- Within the bounds only measurements can fail to be finite. -/
theorem finite_iff_neighbors {scene : Scene Float} (bounded : scene.Bounded) :
    scene.Finite ↔ ∀ device ∈ scene.devices, device.neighbors.all (·.isFinite) = true := by
  simp only [Finite, List.all_eq_true (l := scene.devices)]
  refine forall₂_congr fun device held => ?_
  obtain ⟨position, orientation⟩ := (bounded device held).finite
  simp [Device.isFinite, position, orientation]

theorem perform_finite {scene : Scene Float} {operation : Operation Float}
    (bounded : scene.Bounded) (finite : scene.Finite) : (scene.perform operation).Finite := by
  rw [finite_iff_neighbors (scene.perform_bounded operation bounded)]
  intro device member
  obtain ⟨before, held, same⟩ := neighbors_of_perform member
  rw [← same]
  exact (finite_iff_neighbors bounded).mp finite before held

theorem refresh_finite_iff {scene : Scene Float} (bounded : scene.Bounded) :
    (scene.attend .refresh).Finite ↔ scene.Measurable := by
  rw [finite_iff_neighbors (scene.attend_bounded .refresh bounded)]
  simp only [attend, Ranging.refresh, Measurable, List.forall_mem_map, List.all_eq_true,
    Ranging.measure_isFinite_iff, List.mem_filter, decide_eq_true_eq, and_imp]

theorem attendAll_bounded {scene : Scene Float} (bounded : scene.Bounded)
    (tasks : List (Task Float)) : (scene.attendAll tasks).Bounded := by
  induction tasks generalizing scene with
  | nil => exact bounded
  | cons task rest ih => exact ih (scene.attend_bounded task bounded)

/-- All numbers stay finite exactly if they are so at first, and the devices can
measure each other whenever they are asked to. -/
theorem attendAll_finite_iff {scene : Scene Float} (bounded : scene.Bounded)
    (tasks : List (Task Float)) :
    (∀ steps, (scene.attendAll (tasks.take steps)).Finite) ↔
      scene.Finite ∧ ∀ steps, tasks[steps]? = some .refresh →
        (scene.attendAll (tasks.take steps)).Measurable := by
  have before (steps : Nat) := attendAll_bounded bounded (tasks.take steps)
  constructor
  · intro finite
    refine ⟨finite 0, fun steps next => ?_⟩
    have after := finite (steps + 1)
    rw [attendAll_succ, next] at after
    exact (refresh_finite_iff (before steps)).mp after
  · rintro ⟨first, measurable⟩ steps
    induction steps with
    | zero => exact first
    | succ steps ih =>
      rw [attendAll_succ]
      cases next : tasks[steps]? with
      | none => exact ih
      | some task =>
        cases task with
        | operation operation => exact perform_finite (before steps) ih
        | refresh => exact (refresh_finite_iff (before steps)).mpr (measurable steps next)

/-- Whatever is done with a loaded scene, its positions and headings are finite
after each step. All of its numbers are, exactly if the measurements in its text
were and the devices can measure each other whenever they are asked to. A report
of the devices is read back if their numbers are finite, and refused if not. -/
theorem numbers_finite_iff_measurable {text : String} {scene : Scene Float}
    (loaded : Scene.parse text = .ok scene) (viewport : Viewport Float)
    (tasks : List (Task Float)) :
    let after (steps : Nat) := (scene.withViewport viewport).attendAll (tasks.take steps)
    (∀ steps, ∀ device ∈ (after steps).devices,
        device.position.isFinite = true ∧ device.orientation.isFinite = true) ∧
      ((∀ steps, (after steps).Finite) ↔
        (∀ device ∈ scene.devices, device.neighbors.all (·.isFinite) = true) ∧
          ∀ steps, tasks[steps]? = some .refresh → (after steps).Measurable) ∧
      ∀ steps (gestures : List (Gesture Float)) (events : List (Event Float)),
        let devices := (after steps).devices
        let read := if devices.all Device.isFinite then some devices else none
        Record.ofText? (Report.devices .json devices) = read ∧
          Report.replayed? (Report.replay .json gestures events devices) = read := by
  have start : (scene.withViewport viewport).Bounded :=
    fun device held => parse_bounded loaded device held
  refine ⟨fun steps device held => ?_, ?_, fun steps gestures events => ?_⟩
  · exact (attendAll_bounded start _ device held).finite
  · rw [attendAll_finite_iff start, finite_iff_neighbors start]
    exact Iff.rfl
  · exact ⟨Report.listed_devices _, Report.replayed_devices gestures events _⟩

/-- What is checked of the scene of a text holds of the scene that is loaded. -/
private theorem loaded_of_check {text : String} {check : Scene Float → Bool}
    (passed : (Scene.parse text).toOption.any check = true) :
    ∃ scene, Scene.parse text = .ok scene ∧ check scene = true := by
  cases loaded : Scene.parse text with
  | error reason =>
    rw [loaded] at passed
    cases passed
  | ok scene =>
    rw [loaded] at passed
    exact ⟨scene, rfl, passed⟩

/-- A device that has measured another one at some distance. -/
def textOfDistance (distance : String) : String :=
  "[[device]]\nmac = 1\n[[device.neighbor]]\nmac = 2\nbearing = 45.0\ntilt = 0.0\ndistance = " ++
    distance

/-- A device that is alone on its map. It forgets its measurement when it is
asked to measure anew, and it is turned. -/
theorem lone_device_stays_finite : ∃ scene, Scene.parse (textOfDistance "300.0") = .ok scene ∧
    scene.devices.length = 1 ∧ ∀ steps, ((scene.withViewport .identity).attendAll
      ([.refresh, .operation (.gesture (.orient 500 0))].take steps)).Finite := by
  have checked : (Scene.parse (textOfDistance "300.0")).toOption.any (fun scene =>
      scene.devices.length == 1 && scene.devices.all (·.neighbors.all (·.isFinite))) = true := by
    decide +kernel
  obtain ⟨scene, loaded, checked⟩ := loaded_of_check checked
  simp only [Bool.and_eq_true, beq_iff_eq, List.all_eq_true (l := scene.devices)] at checked
  obtain ⟨alone, finite⟩ := checked
  refine ⟨scene, loaded, alone, ?_⟩
  refine (numbers_finite_iff_measurable loaded .identity _).2.1.mpr ⟨finite, fun steps next => ?_⟩
  cases steps with
  | succ steps => cases steps <;> simp at next
  | zero =>
    intro observer observing target targeted other
    obtain ⟨device, only⟩ := List.length_eq_one_iff.mp alone
    change observer ∈ scene.devices at observing
    change target ∈ scene.devices at targeted
    simp only [only, List.mem_singleton] at observing targeted
    exact absurd (by rw [observing, targeted]) other

/-- A device whose text gives no number for a distance is stored and printed as
it is, and so is a distance that overflows when it is measured. -/
theorem infinite_numbers_stored :
    (∃ scene, Scene.parse (textOfDistance "nan") = .ok scene ∧ ¬scene.Finite ∧
      Report.replayed? (Report.replay .json [] [] scene.devices) = none) ∧
    ∃ scene, Scene.parse "[[device]]\nmac = 1\n[[device]]\nmac = 2\nposition.y = 1e200" =
        .ok scene ∧ scene.Finite ∧ ¬(scene.attend .refresh).Finite ∧
      (Record.ofText? (Report.devices .json (Ranging.refresh scene.devices)) :
        Option (List (Device Float))) = none := by
  constructor
  · have checked : (Scene.parse (textOfDistance "nan")).toOption.any
        (fun scene => !scene.devices.all Device.isFinite) = true := by
      decide +kernel
    obtain ⟨scene, loaded, checked⟩ := loaded_of_check checked
    rw [Bool.not_eq_true'] at checked
    refine ⟨scene, loaded, by simp [Finite, checked], ?_⟩
    rw [Report.replayed_devices, checked]
    rfl
  · have checked : (Scene.parse
        "[[device]]\nmac = 1\n[[device]]\nmac = 2\nposition.y = 1e200").toOption.any (fun scene =>
          scene.devices.all Device.isFinite &&
            !(Ranging.refresh scene.devices).all Device.isFinite) = true := by
      decide +kernel
    obtain ⟨scene, loaded, checked⟩ := loaded_of_check checked
    rw [Bool.and_eq_true, Bool.not_eq_true'] at checked
    refine ⟨scene, loaded, checked.1, by simp [Finite, attend, checked.2], ?_⟩
    rw [Report.listed_devices, checked.2]
    rfl

end Scene
end DeviceMap
