import DeviceMap.Proofs.Scene.Run
import DeviceMap.Scalar.Double

/-! The events of a scene as a log of its edits. A host that never sees the list
of devices again, but overwrites entries of its own copy with the devices that
events carry, holds the same list as the scene after every gesture. -/
namespace DeviceMap
variable {α : Type} [Scalar α]

/-- Whether an event tells of a press. -/
def Event.isSelection : Event α → Bool
  | .selection _ => true
  | .outcome _ => false

/-- Whether a gesture is a press. -/
def Gesture.isPress : Gesture α → Bool
  | .down _ _ => true
  | _ => false

/-- What an event makes of the host's copy of the devices. One without a device
leaves the copy as it is. -/
def Event.mirror (devices : List (Device α)) (event : Event α) : List (Device α) :=
  match event.device? with
  | some device => Device.overwrite devices device
  | none => devices

namespace Scene

theorem step_kind (scene : Scene α) (gesture : Gesture α) :
    (scene.step gesture).2.isSelection = gesture.isPress := by
  cases gesture <;> rfl

theorem step_distinct {scene : Scene α} (distinct : Device.Distinct scene.devices)
    (gesture : Gesture α) : Device.Distinct (scene.step gesture).1.devices := by
  rcases scene.step_cases gesture with ⟨same, -⟩ | ⟨-, edited, -, -, stored, -⟩
  · rw [same]
    exact distinct
  · rw [stored]
    exact Device.put_distinct distinct edited

/-- The event of one gesture says all that the gesture did to the devices. -/
theorem step_mirror {scene : Scene α} (distinct : Device.Distinct scene.devices)
    (gesture : Gesture α) :
    (scene.step gesture).2.mirror scene.devices = (scene.step gesture).1.devices := by
  unfold Event.mirror
  rcases scene.step_cases gesture with ⟨same, carries⟩ | ⟨-, edited, -, -, stored, carried⟩
  · rw [same]
    split
    · rename_i device carried
      exact Device.overwrite_found distinct (carries device carried)
    · rfl
  · rw [carried, stored]
    exact (Device.put_eq_overwrite distinct edited).symm

theorem replay_kinds (scene : Scene α) (script : List (Gesture α)) :
    (scene.replay script).2.map Event.isSelection = script.map Gesture.isPress := by
  induction script generalizing scene with
  | nil => rfl
  | cons gesture rest ih =>
    have first := scene.step_kind gesture
    have others := ih (scene.step gesture).1
    simp [replay, first, others]

theorem replay_take (scene : Scene α) (script : List (Gesture α)) (steps : Nat) :
    (scene.replay (script.take steps)).2 = (scene.replay script).2.take steps := by
  induction script generalizing scene steps with
  | nil => simp [replay]
  | cons gesture rest ih =>
    cases steps with
    | zero => rfl
    | succ steps =>
      have others := ih (scene.step gesture).1 steps
      simp [replay, others]

/-- A further gesture of a script acts on what the gestures before it left. -/
theorem replay_succ {script : List (Gesture α)} {steps : Nat} {gesture : Gesture α}
    (scene : Scene α) (next : script[steps]? = some gesture) :
    (scene.replay (script.take (steps + 1))).1 =
        ((scene.replay (script.take steps)).1.step gesture).1 ∧
      (scene.replay script).2[steps]? =
        some ((scene.replay (script.take steps)).1.step gesture).2 := by
  induction script generalizing scene steps with
  | nil => simp at next
  | cons first rest ih =>
    cases steps with
    | zero =>
      cases next
      exact ⟨rfl, rfl⟩
    | succ steps =>
      have later : rest[steps]? = some gesture := by simpa using next
      exact ih (scene.step first).1 later

theorem replay_mirror {scene : Scene α} (distinct : Device.Distinct scene.devices)
    (script : List (Gesture α)) :
    (scene.replay script).2.foldl Event.mirror scene.devices = (scene.replay script).1.devices := by
  induction script generalizing scene with
  | nil => rfl
  | cons gesture rest ih =>
    have first := step_mirror distinct gesture
    have others := ih (step_distinct distinct gesture)
    simpa [replay, first] using others

/-- The events of a script are a complete log of its edits. There is one for
each gesture, in order, and it is of the kind of the gesture; the log of any
first part of the script, read over the initial devices, gives the devices that
the scene then holds; and where an event carries no device, none changed. -/
theorem events_log_edits {scene : Scene α} (distinct : Device.Distinct scene.devices)
    (script : List (Gesture α)) :
    (scene.replay script).2.map Event.isSelection = script.map Gesture.isPress ∧
      ∀ steps,
        let before := (scene.replay (script.take steps)).1
        ((scene.replay script).2.take steps).foldl Event.mirror scene.devices = before.devices ∧
          ∀ gesture, script[steps]? = some gesture →
            let after := (scene.replay (script.take (steps + 1))).1
            (scene.replay script).2[steps]? = some (before.step gesture).2 ∧
              after = (before.step gesture).1 ∧
              ((before.step gesture).2.device? = none → after.devices = before.devices) := by
  refine ⟨scene.replay_kinds script, fun steps => ⟨?_, fun gesture next => ?_⟩⟩
  · rw [← replay_take]
    exact replay_mirror distinct (script.take steps)
  · obtain ⟨state, event⟩ := replay_succ scene next
    refine ⟨event, state, fun silent => ?_⟩
    rw [state]
    rcases step_cases (scene.replay (script.take steps)).1 gesture with
      ⟨same, -⟩ | ⟨-, edited, -, -, -, carried⟩
    · exact same
    · rw [silent] at carried
      cases carried

/-- One of two devices is pressed, dragged and turned before a press on neither. -/
theorem drag_and_turn_logged :
    let scene : Scene Float :=
      .flat [⟨⟨1⟩, ⟨0, 0, 0⟩, .zero, []⟩, ⟨⟨2⟩, ⟨100, 0, 100⟩, .zero, []⟩] none .idle
    let script : List (Gesture Float) :=
      [.down 0 0, .move 30 40 0, .orient 10 20, .down 500 500]
    Device.Distinct scene.devices ∧
      (scene.replay script).2.map (·.device?.isSome) = [true, true, true, false] ∧
      ((scene.replay script).2.take 3).foldl Event.mirror scene.devices =
        (scene.replay (script.take 3)).1.devices := by
  intro scene script
  have distinct : Device.Distinct scene.devices := by decide
  exact ⟨distinct, by decide +kernel, ((events_log_edits distinct script).2 3).1⟩

end Scene
end DeviceMap
