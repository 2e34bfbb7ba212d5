import DeviceMap.Device
import DeviceMap.Proofs.Double.Bounds
import DeviceMap.Proofs.Interaction.Edit
import DeviceMap.Scene.Admission

/-! The bounds of devices over doubles. Admission brings every finite device
within them, and no edit of a device that is within them leads outside, whatever
numbers a handler was given. -/
namespace DeviceMap
open Double

theorem World.limit_eq : (World.limit : Float) = 560 := by decide +kernel

/-- A double is within a limit to both sides, and so it is finite. -/
def Double.Within (limit x : Float) : Prop := x.isFinite = true ∧ -limit ≤ x ∧ x ≤ limit

namespace Device

/-- The horizontal coordinates are within the limit. -/
def Inside (device : Device Float) : Prop :=
  Within 560 device.position.x ∧ Within 560 device.position.z

/-- The elevation is finite and not below ground. -/
def Above (device : Device Float) : Prop :=
  device.position.y.isFinite = true ∧ 0 ≤ device.position.y

theorem isInBounds_iff (device : Device Float) :
    device.isInBounds = true ↔ device.Inside ∧ device.Above := by
  have meaning : device.isInBounds = true ↔ device.position.isFinite = true ∧
      device.position.x.abs ≤ 560 ∧ device.position.z.abs ≤ 560 ∧ 0 ≤ device.position.y := by
    unfold isInBounds
    simp only [World.limit_eq, Bool.and_eq_true, decide_eq_true_eq, and_assoc]
    exact Iff.rfl
  rw [meaning, abs_le_iff, abs_le_iff]
  simp only [Vec3.isFinite, Bool.and_eq_true, Inside, Above, Within]
  constructor
  · rintro ⟨⟨⟨x, y⟩, z⟩, xBounds, zBounds, above⟩
    exact ⟨⟨⟨x, xBounds⟩, z, zBounds⟩, y, above⟩
  · rintro ⟨⟨⟨x, xBounds⟩, z, zBounds⟩, y, above⟩
    exact ⟨⟨⟨x, y⟩, z⟩, xBounds, zBounds, above⟩

/-- The position of the device is in the bounds of the world, and the angles of
its heading are finite and in their ranges. -/
structure Bounded (device : Device Float) : Prop where
  position : device.isInBounds = true
  bearing : Within 180 device.orientation.bearing
  tilt : Within 90 device.orientation.tilt

end Device

section Clamped
variable {limit : Float} (finite : limit.isFinite = true) (sides : -limit ≤ 0 ∧ 0 ≤ limit)
include sides

theorem Double.zero_within : Within limit 0 := ⟨zero_finite, sides⟩

include finite

/-- A number is clamped within a limit to both sides. -/
theorem Double.clamp_within {x : Float} (number : x.isNaN = false) :
    Within limit (Scalar.clamp (-limit) limit x) := by
  obtain ⟨above, below⟩ := clamp_between (Double.le_trans sides.1 sides.2) number
  exact ⟨finite_of_between (finite_neg finite) finite above below, above, below⟩

/-- Any angle is brought within its limit, also one that is not finite. -/
theorem Orientation.clampAngle_within (angle : Float) :
    Within limit (Orientation.clampAngle limit angle) := by
  unfold Orientation.clampAngle
  split
  · rename_i known
    exact clamp_within finite sides (number_of_finite known)
  · exact zero_within sides

end Clamped

/-- A coordinate that is a number is clamped within the limit. -/
theorem World.clampHorizontal_within {x : Float} (number : x.isNaN = false) :
    Within 560 (World.clampHorizontal x) := by
  unfold World.clampHorizontal
  rw [World.limit_eq]
  obtain ⟨finite, sides⟩ := bound_literal 560 (by simp)
  exact clamp_within finite sides number

/-- What is within its limits is left as it is. -/
theorem Orientation.clamped_of_within {orientation : Orientation Float}
    (bearing : Within 180 orientation.bearing) (tilt : Within 90 orientation.tilt) :
    orientation.clamped = orientation := by
  have kept {limit angle : Float} (within : Within limit angle) : clampAngle limit angle = angle :=
    (if_pos within.1).trans (clamp_of_between within.2.1 within.2.2)
  exact congrArg₂ Orientation.mk (kept bearing) (kept tilt)

theorem Orientation.clamped_within (orientation : Orientation Float) :
    Within 180 orientation.clamped.bearing ∧ Within 90 orientation.clamped.tilt := by
  obtain ⟨half, halfSides⟩ := bound_literal 180 (by simp)
  obtain ⟨quarter, quarterSides⟩ := bound_literal 90 (by simp)
  exact ⟨clampAngle_within half halfSides _, clampAngle_within quarter quarterSides _⟩

namespace Device

section Edits
variable {device edited : Device Float}

/-- A device that is placed is inside, wherever it was. -/
theorem placed_inside (device : Device Float) {x z : Float}
    (numbers : x.isNaN = false ∧ z.isNaN = false) : (device.placed x z).Inside :=
  ⟨World.clampHorizontal_within numbers.1, World.clampHorizontal_within numbers.2⟩

/-- A device that is raised or lowered is above ground, wherever it was. -/
theorem raised_above (device : Device Float) {level : Float}
    (finite : (Scalar.greatest level 0).isFinite = true) :
    (device.raised (Scalar.greatest level 0)).Above :=
  ⟨finite, le_greatest (number_of_finite zero_finite)⟩

theorem Inside.edit (inside : device.Inside) (edit : Edit device edited) : edited.Inside := by
  cases edit with
  | turned => exact inside
  | shifted shifted =>
    cases shifted with
    | dragged x z numbers => exact device.placed_inside numbers
    | lifted => exact inside

theorem Above.edit (above : device.Above) (edit : Edit device edited) : edited.Above := by
  cases edit with
  | turned => exact above
  | shifted shifted =>
    cases shifted with
    | dragged => exact above
    | lifted level finite => exact device.raised_above finite

/-- What passed the checks of a handler is within the bounds, and the rest of
the device is as it was. -/
theorem Bounded.edit (bounded : device.Bounded) (edit : Edit device edited) :
    edited.Bounded := by
  obtain ⟨position, bearing, tilt⟩ := bounded
  obtain ⟨inside, above⟩ := (isInBounds_iff device).mp position
  have inBounds := (isInBounds_iff edited).mpr ⟨inside.edit edit, above.edit edit⟩
  cases edit with
  | shifted shifted =>
    obtain ⟨position, rfl⟩ := shifted.position_only
    exact ⟨inBounds, bearing, tilt⟩
  | turned orientation _ =>
    obtain ⟨turnedBearing, turnedTilt⟩ := orientation.clamped_within
    exact ⟨inBounds, turnedBearing, turnedTilt⟩

end Edits

/-- Nothing but a measurement of a device within the bounds can fail to be finite. -/
theorem Bounded.finite {device : Device Float} (bounded : device.Bounded) :
    device.position.isFinite = true ∧ device.orientation.isFinite = true := by
  obtain ⟨position, bearing, tilt⟩ := bounded
  simp only [isInBounds, Bool.and_eq_true] at position
  exact ⟨position.1.1.1, by simp [Orientation.isFinite, Scalar.isFinite, bearing.1, tilt.1]⟩

/-- Admission brings every device with a finite position within the bounds. -/
theorem normalized_bounded {device : Device Float} (finite : device.position.isFinite = true) :
    device.normalized.Bounded := by
  obtain ⟨bearing, tilt⟩ := device.orientation.clamped_within
  refine ⟨?_, bearing, tilt⟩
  by_cases inBounds : device.isInBounds = true
  · have same : device.normalized.position = device.position := if_pos inBounds
    rw [isInBounds_iff] at *
    unfold Inside Above at *
    rwa [same]
  · have moved : device.normalized.position = ⟨World.clampHorizontal device.position.x,
        Scalar.greatest device.position.y 0, World.clampHorizontal device.position.z⟩ :=
      if_neg inBounds
    simp only [Vec3.isFinite, Bool.and_eq_true] at finite
    obtain ⟨⟨x, y⟩, z⟩ := finite
    have inside := device.placed_inside ⟨number_of_finite x, number_of_finite z⟩
    have above := device.raised_above (finite_greatest y zero_finite)
    rw [isInBounds_iff]
    unfold Inside Above at *
    rw [moved]
    exact ⟨inside, above⟩

end Device
end DeviceMap
