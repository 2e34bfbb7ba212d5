import DeviceMap.Proofs.Scene.Admission
import DeviceMap.Proofs.Scene.Run

/-! A scene that was loaded from a text stays within the bounds of the world.
Admission establishes the bounds for every device, and every operation keeps
them, with no condition on the numbers that the host passes. -/
namespace DeviceMap

/-- What has no fault is admitted in its normalized form. -/
theorem Device.enroll_bounded {enrolled : List Mac} {devices admitted : List (Device Float)}
    (accepted : Device.enroll enrolled devices = .ok admitted) :
    ∀ device ∈ admitted, device.Bounded := by
  obtain ⟨-, ⟨-, finite⟩, rfl⟩ := enroll_ok_iff.mp accepted
  intro device member
  obtain ⟨stored, held, rfl⟩ := List.mem_map.mp member
  exact normalized_bounded (finite stored held).1

namespace Scene

/-- Every device of the scene is within its bounds. -/
def Bounded (scene : Scene Float) : Prop := ∀ device ∈ scene.devices, device.Bounded

theorem parse_bounded {text : String} {scene : Scene Float}
    (loaded : Scene.parse text = .ok scene) : scene.Bounded := by
  unfold Scene.parse at loaded
  cases file : DeviceMap.parse DeviceFile text with
  | error reason =>
    rw [file] at loaded
    cases loaded
  | ok stored =>
    rw [file] at loaded
    change Except.mapError _ ((Device.enroll [] stored.devices).map _) = _ at loaded
    cases admission : Device.enroll [] stored.devices with
    | error fault =>
      rw [admission] at loaded
      cases loaded
    | ok admitted =>
      rw [admission] at loaded
      cases loaded
      exact Device.enroll_bounded admission

theorem perform_bounded (scene : Scene Float) (operation : Operation Float)
    (bounded : scene.Bounded) : (scene.perform operation).Bounded := by
  cases operation with
  | view viewport => exact bounded
  | gesture gesture =>
    intro entry member
    rcases mem_step member with kept | ⟨device, held, edit⟩
    · exact bounded entry kept
    · exact (bounded device held).edit edit

/-- After every step of any sequence of gestures and changes of the viewport,
with any numbers, every device of a loaded scene is in the bounds of the world,
and its angles are finite and in their ranges. -/
theorem loaded_scene_stays_bounded {text : String} {scene : Scene Float}
    (loaded : Scene.parse text = .ok scene) (viewport : Viewport Float)
    (operations : List (Operation Float)) (steps : Nat) :
    ∀ device ∈ ((scene.withViewport viewport).run (operations.take steps)).devices,
      device.Bounded := by
  have start : (scene.withViewport viewport).Bounded :=
    fun device held => parse_bounded loaded device held
  exact run_keeps perform_bounded start (operations.take steps)

/-- A device stored far outside, on a viewport without extent, under a press, a
drag to nowhere and a turn beyond the range. -/
theorem far_device_stays_bounded : ∃ scene,
    Scene.parse "[[device]]\nmac = 1\nposition.x = 900\nposition.y = -3" = .ok scene ∧
      scene.devices.length = 1 ∧
      ∀ device ∈ ((scene.withViewport ⟨.zero, 0⟩).run ([.gesture (.down 0 0),
        .gesture (.move (1.0 / 0.0) 0 (0.0 / 0.0)), .gesture (.orient 500 0)].take 3)).devices,
        device.Bounded := by
  have admitted : (Scene.parse
      "[[device]]\nmac = 1\nposition.x = 900\nposition.y = -3").toOption.map
      (fun scene => scene.devices.length) = some 1 := by
    decide +kernel
  cases loaded : Scene.parse "[[device]]\nmac = 1\nposition.x = 900\nposition.y = -3" with
  | error reason =>
    rw [loaded] at admitted
    cases admitted
  | ok scene =>
    rw [loaded] at admitted
    exact ⟨scene, rfl, Option.some.inj admitted, loaded_scene_stays_bounded loaded _ _ _⟩

end Scene
end DeviceMap
