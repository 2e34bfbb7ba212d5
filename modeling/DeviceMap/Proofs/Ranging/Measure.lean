import DeviceMap.Proofs.Device.Finite
import DeviceMap.Proofs.Double.Number
import DeviceMap.Ranging

/-! The numbers of a measurement. Its angles are clamped, so that they can only
fail to be numbers; nothing bounds its distance. -/
namespace DeviceMap.Ranging
open Double

/-- Whether the observer sees the target in some direction. -/
def sees (observer target : Device Float) : Bool :=
  (direction observer target).isFinite && (direction observer target).lengthSquared > 0

/-- What a measurement needs to be finite: that the distance does not overflow,
and that the direction of a target in sight has angles. -/
structure Measurable (observer target : Device Float) : Prop where
  distance : (target.position - observer.position).length.isFinite = true
  angles : sees observer target = true → let d := direction observer target
    (Float.atan2 d.x d.z).isNaN = false ∧
      (Float.atan2 d.y (d.x * d.x + d.z * d.z).sqrt).isNaN = false

theorem isNaN_degrees (x : Float) : (Scalar.degrees x).isNaN = x.isNaN :=
  isNaN_mul x (by decide +kernel) (by decide +kernel)

/-- A direction has its angle within the limit, unless it has none. -/
theorem angle_finite_iff {limit : Float} (finite : limit.isFinite = true)
    (sides : -limit ≤ 0 ∧ 0 ≤ limit) (angle : Float) :
    (Scalar.clamp (-limit) limit (Scalar.round (Scalar.degrees angle))).isFinite = true ↔
      angle.isNaN = false := by
  have number : (Scalar.round (Scalar.degrees angle)).isNaN = angle.isNaN :=
    (isNaN_round _).trans (isNaN_degrees angle)
  rw [clamp_finite_iff (finite_neg finite) finite (Double.le_trans sides.1 sides.2), number]

/-- What is measured is finite exactly if it can be measured. -/
theorem measure_isFinite_iff (observer target : Device Float) :
    (measure observer target).isFinite = true ↔ Measurable observer target := by
  obtain ⟨half, halfSides⟩ := bound_literal 180 (by simp)
  obtain ⟨quarter, quarterSides⟩ := bound_literal 90 (by simp)
  have parts : (measure observer target).isFinite = true ↔
      (target.position - observer.position).length.isFinite = true ∧
      (if sees observer target then Scalar.clamp (-180) 180
        (Scalar.round (azimuth (direction observer target))) else 0).isFinite = true ∧
      (if sees observer target then Scalar.clamp (-90) 90
        (Scalar.round (altitude (direction observer target))) else 0).isFinite = true := by
    simp only [Neighbor.isFinite, Bool.and_eq_true, and_assoc]
    exact Iff.rfl
  rw [parts]
  cases seen : sees observer target with
  | false =>
    simp only [Bool.false_eq_true, ↓reduceIte, zero_finite, and_true]
    constructor
    · exact fun distance => ⟨distance, fun visible => by simp [seen] at visible⟩
    · exact Measurable.distance
  | true =>
    simp only [↓reduceIte, azimuth, altitude, angle_finite_iff half halfSides,
      angle_finite_iff quarter quarterSides]
    constructor
    · exact fun ⟨distance, angles⟩ => ⟨distance, fun _ => angles⟩
    · exact fun measurable => ⟨measurable.distance, measurable.angles seen⟩

end DeviceMap.Ranging
