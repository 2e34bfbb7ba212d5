import Mathlib.LinearAlgebra.Matrix.Notation
import DeviceMap.Proofs.Exact.Isometric
import DeviceMap.Ranging

/-! The direction of a target over the exact reals. The frame of an observer is a
turn by its bearing followed by one by its tilt. Turning keeps lengths, so a target
has a direction unless it stands where the observer does, and the two angles that are
measured of it, with the distance, give the direction back. -/
namespace DeviceMap
open Exact Matrix

namespace Vec3

/-- The coordinates of an offset as a column. -/
def column (v : Vec3 ℝ) : Fin 3 → ℝ := ![v.x, v.y, v.z]

theorem add_mk (a b c d e f : ℝ) : (⟨a, b, c⟩ : Vec3 ℝ) + ⟨d, e, f⟩ = ⟨a + d, b + e, c + f⟩ := rfl

theorem mul_mk (a b c k : ℝ) : (⟨a, b, c⟩ : Vec3 ℝ) * k = ⟨a * k, b * k, c * k⟩ := rfl

theorem lengthSquared_eq (v : Vec3 ℝ) : v.lengthSquared = v.x ^ 2 + v.y ^ 2 + v.z ^ 2 := by
  rw [lengthSquared, dot]
  ring

theorem offset_pos_iff {p q : Vec3 ℝ} : 0 < (p - q).lengthSquared ↔ p ≠ q := by
  have squares : (p - q).lengthSquared = (p.x - q.x) ^ 2 + (p.y - q.y) ^ 2 + (p.z - q.z) ^ 2 :=
    lengthSquared_eq (p - q)
  rw [squares]
  constructor
  · rintro positive rfl
    simp at positive
  · intro apart
    by_contra none
    have first := sq_nonneg (p.x - q.x)
    have second := sq_nonneg (p.y - q.y)
    have third := sq_nonneg (p.z - q.z)
    have same (a b : ℝ) (flat : (a - b) ^ 2 ≤ 0) : a = b :=
      sub_eq_zero.mp (pow_eq_zero_iff two_ne_zero |>.mp (le_antisymm flat (sq_nonneg _)))
    apply apart
    obtain ⟨a, b, c⟩ := p
    obtain ⟨d, e, f⟩ := q
    rw [mk.injEq]
    exact ⟨same a d (by linarith), same b e (by linarith), same c f (by linarith)⟩

end Vec3

namespace Quaternion

/-- The rotation as a linear map of the coordinates. -/
theorem rotate_eq (q : Quaternion ℝ) (v : Vec3 ℝ) : q.rotate v =
    ⟨(q.w ^ 2 + q.x ^ 2 - q.y ^ 2 - q.z ^ 2) * v.x + 2 * (q.x * q.y - q.w * q.z) * v.y +
        2 * (q.x * q.z + q.w * q.y) * v.z,
      2 * (q.x * q.y + q.w * q.z) * v.x + (q.w ^ 2 - q.x ^ 2 + q.y ^ 2 - q.z ^ 2) * v.y +
        2 * (q.y * q.z - q.w * q.x) * v.z,
      2 * (q.x * q.z - q.w * q.y) * v.x + 2 * (q.y * q.z + q.w * q.x) * v.y +
        (q.w ^ 2 - q.x ^ 2 - q.y ^ 2 + q.z ^ 2) * v.z⟩ := by
  obtain ⟨x, y, z⟩ := v
  simp only [rotate, Vec3.dot, Vec3.cross, Vec3.add_mk, Vec3.mul_mk, literal, Vec3.mk.injEq]
  refine ⟨?_, ?_, ?_⟩ <;> push_cast <;> ring

theorem rotate_lengthSquared (q : Quaternion ℝ) (v : Vec3 ℝ) : (q.rotate v).lengthSquared =
    (q.x ^ 2 + q.y ^ 2 + q.z ^ 2 + q.w ^ 2) ^ 2 * v.lengthSquared := by
  rw [rotate_eq, Vec3.lengthSquared, Vec3.lengthSquared, Vec3.dot, Vec3.dot]
  ring

end Quaternion

namespace Ranging

/-- The turn about the first axis, which takes the second axis toward the third. -/
noncomputable def tiltTurn (angle : ℝ) : Matrix (Fin 3) (Fin 3) ℝ :=
  !![1, 0, 0; 0, Real.cos angle, -Real.sin angle; 0, Real.sin angle, Real.cos angle]

/-- The turn about the second axis, which takes the third axis toward the first. -/
noncomputable def bearingTurn (angle : ℝ) : Matrix (Fin 3) (Fin 3) ℝ :=
  !![Real.cos angle, 0, Real.sin angle; 0, 1, 0; -Real.sin angle, 0, Real.cos angle]

theorem turns_column (tilt bearing : ℝ) (v : Vec3 ℝ) :
    (tiltTurn tilt * bearingTurn bearing) *ᵥ v.column =
      ![Real.cos bearing * v.x + Real.sin bearing * v.z,
        Real.sin tilt * Real.sin bearing * v.x + Real.cos tilt * v.y -
          Real.sin tilt * Real.cos bearing * v.z,
        -(Real.cos tilt * Real.sin bearing) * v.x + Real.sin tilt * v.y +
          Real.cos tilt * Real.cos bearing * v.z] := by
  rw [← Matrix.mulVec_mulVec]
  ext i
  fin_cases i <;>
    simp [tiltTurn, bearingTurn, Vec3.column, Matrix.mulVec, dotProduct, Fin.sum_univ_three] <;> ring

/-- The frame of an observer by the halves of its angles. The turn about the third axis, which
is none, drops out. -/
theorem ofAngles_eq (tilt bearing : ℝ) : Quaternion.ofAngles tilt bearing =
    ⟨Real.sin (tilt / 2) * Real.cos (bearing / 2), Real.cos (tilt / 2) * Real.sin (bearing / 2),
      Real.sin (tilt / 2) * Real.sin (bearing / 2),
      Real.cos (tilt / 2) * Real.cos (bearing / 2)⟩ := by
  have sine (angle : ℝ) : Scalar.sin angle = Real.sin angle := rfl
  have cosine (angle : ℝ) : Scalar.cos angle = Real.cos angle := rfl
  have half (angle : ℝ) : angle * 0.5 = angle / 2 := by norm_num [div_eq_mul_inv]
  simp only [Quaternion.ofAngles, literal, Nat.cast_zero, Nat.cast_one, half, sine, cosine, neg_div,
    zero_div, Real.sin_neg, Real.cos_neg, Real.sin_zero, Real.cos_zero, Quaternion.mk.injEq]
  refine ⟨?_, ?_, ?_, ?_⟩ <;> ring

/-- Turning by the frame is the turn by its bearing followed by the one by its tilt. -/
theorem rotate_column (tilt bearing : ℝ) (v : Vec3 ℝ) :
    ((Quaternion.ofAngles tilt bearing).rotate v).column =
      (tiltTurn tilt * bearingTurn bearing) *ᵥ v.column := by
  have tiltUnit := Real.sin_sq_add_cos_sq (tilt / 2)
  have bearingUnit := Real.sin_sq_add_cos_sq (bearing / 2)
  have whole (angle : ℝ) : 2 * (angle / 2) = angle := by ring
  have sine (angle : ℝ) : Real.sin angle = 2 * Real.sin (angle / 2) * Real.cos (angle / 2) := by
    rw [← Real.sin_two_mul, whole]
  have cosine (angle : ℝ) :
      Real.cos angle = Real.cos (angle / 2) ^ 2 - Real.sin (angle / 2) ^ 2 := by
    rw [← Real.cos_two_mul', whole]
  rw [turns_column, ofAngles_eq, Quaternion.rotate_eq, sine tilt, sine bearing, cosine tilt,
    cosine bearing, Vec3.column]
  generalize Real.sin (tilt / 2) = s at *
  generalize Real.cos (tilt / 2) = c at *
  generalize Real.sin (bearing / 2) = p at *
  generalize Real.cos (bearing / 2) = q at *
  congr 1
  · linear_combination ((q ^ 2 - p ^ 2) * v.x + 2 * p * q * v.z) * tiltUnit
  · congr 1
    · linear_combination (c ^ 2 - s ^ 2) * v.y * bearingUnit
    · congr 1
      linear_combination 2 * s * c * v.y * bearingUnit

theorem ofAngles_unit (tilt bearing : ℝ) : let q := Quaternion.ofAngles tilt bearing
    q.x ^ 2 + q.y ^ 2 + q.z ^ 2 + q.w ^ 2 = 1 := by
  have tiltUnit := Real.sin_sq_add_cos_sq (tilt / 2)
  have bearingUnit := Real.sin_sq_add_cos_sq (bearing / 2)
  intro q
  simp only [q, ofAngles_eq]
  linear_combination tiltUnit + (Real.sin (tilt / 2) ^ 2 + Real.cos (tilt / 2) ^ 2) * bearingUnit

theorem direction_lengthSquared (observer target : Device ℝ) :
    (direction observer target).lengthSquared =
      (target.position - observer.position).lengthSquared := by
  rw [direction, Quaternion.rotate_lengthSquared, observerFrame, ofAngles_unit, one_pow, one_mul]

theorem direction_length (observer target : Device ℝ) :
    (direction observer target).length = (target.position - observer.position).length := by
  rw [Vec3.length, direction_lengthSquared, Vec3.length]

/-- Only a device in the same place has no direction. -/
theorem seen_iff (observer target : Device ℝ) :
    ((direction observer target).isFinite = true ∧ 0 < (direction observer target).lengthSquared) ↔
      target.position ≠ observer.position := by
  have finite : (direction observer target).isFinite = true := rfl
  rw [direction_lengthSquared, Vec3.offset_pos_iff, finite]
  simp

section Angles
variable (d : Vec3 ℝ)

/-- How far a direction goes along the ground. -/
noncomputable def ground : ℝ := √(d.x * d.x + d.z * d.z)

theorem radians_azimuth : Scalar.radians (azimuth d) = Complex.arg ⟨d.z, d.x⟩ :=
  Projection.radians_degrees _

theorem radians_altitude : Scalar.radians (altitude d) = Complex.arg ⟨ground d, d.y⟩ :=
  Projection.radians_degrees _

theorem norm_ground : ‖(⟨d.z, d.x⟩ : ℂ)‖ = ground d := by
  rw [Complex.norm_def, Complex.normSq_mk, add_comm, ground]

theorem norm_length : ‖(⟨ground d, d.y⟩ : ℂ)‖ = d.length := by
  have square : ground d * ground d = d.x * d.x + d.z * d.z :=
    Real.mul_self_sqrt (add_nonneg (mul_self_nonneg _) (mul_self_nonneg _))
  rw [Complex.norm_def, Complex.normSq_mk, square, Vec3.length, Vec3.lengthSquared, Vec3.dot]
  exact congrArg Real.sqrt (add_right_comm ..)

/-- The length and the two angles of a direction give it back. -/
theorem spherical : let α := Scalar.radians (azimuth d)
    let ε := Scalar.radians (altitude d)
    d = ⟨d.length * (Real.cos ε * Real.sin α), d.length * Real.sin ε,
      d.length * (Real.cos ε * Real.cos α)⟩ := by
  intro α ε
  have level : d.length * Real.cos ε = ground d := by
    rw [← norm_length, show ε = _ from radians_altitude d, Complex.norm_mul_cos_arg]
  have up : d.length * Real.sin ε = d.y := by
    rw [← norm_length, show ε = _ from radians_altitude d, Complex.norm_mul_sin_arg]
  have ahead : ground d * Real.cos α = d.z := by
    rw [← norm_ground, show α = _ from radians_azimuth d, Complex.norm_mul_cos_arg]
  have aside : ground d * Real.sin α = d.x := by
    rw [← norm_ground, show α = _ from radians_azimuth d, Complex.norm_mul_sin_arg]
  rw [← mul_assoc, ← mul_assoc, level, up, ahead, aside]

theorem degrees_within {angle limit : ℝ} (within : |angle| ≤ limit * (Real.pi / 180)) :
    |Scalar.degrees angle| ≤ limit := by
  have positive := Real.pi_pos
  have degrees : Scalar.degrees angle = angle * (180 / Real.pi) := by
    rw [Scalar.degrees, literal]
    norm_cast
  rw [degrees, abs_mul, abs_of_pos (a := 180 / Real.pi) (by positivity)]
  calc |angle| * (180 / Real.pi) ≤ limit * (Real.pi / 180) * (180 / Real.pi) := by gcongr
    _ = limit := by field_simp

theorem azimuth_within : |azimuth d| ≤ 180 := by
  refine degrees_within ((Complex.abs_arg_le_pi _).trans ?_)
  linarith

theorem altitude_within : |altitude d| ≤ 90 := by
  refine degrees_within ((Complex.abs_arg_le_pi_div_two_iff.mpr (Real.sqrt_nonneg _)).trans ?_)
  linarith

end Angles

/-- The limits of the measured angles are those of the angles themselves. -/
theorem clamp_rounded {n : ℕ} {angle : ℝ} (within : |angle| ≤ n) :
    Scalar.clamp (-(n : ℝ)) n (Scalar.round angle) = Scalar.round angle := by
  obtain ⟨above, below⟩ := abs_le.mp (round_within within)
  exact clamp_inside above below

section Measured
variable {observer target : Device ℝ}

/-- What a measurement asks for before it looks at the angles. -/
theorem guard_iff : ((direction observer target).isFinite &&
    decide ((direction observer target).lengthSquared > 0)) = true ↔
      target.position ≠ observer.position := by
  rw [Bool.and_eq_true, decide_eq_true_eq]
  exact seen_iff observer target

theorem measure_coincident (same : target.position = observer.position) :
    measure observer target = ⟨target.mac, 0, 0, 0⟩ := by
  have unseen := Bool.eq_false_iff.mpr (mt guard_iff.mp (not_not.mpr same))
  have none : (target.position - observer.position).length = 0 := by
    have flat := mt Vec3.offset_pos_iff.mp (not_not.mpr same)
    exact Real.sqrt_eq_zero_of_nonpos (not_lt.mp flat)
  simp only [measure, unseen, none, literal, Nat.cast_zero]
  rfl

theorem measure_apart (apart : target.position ≠ observer.position) :
    measure observer target = ⟨target.mac, (target.position - observer.position).length,
      Scalar.round (azimuth (direction observer target)),
      Scalar.round (altitude (direction observer target))⟩ := by
  have seen := guard_iff.mpr apart
  have half : (-180.0 : ℝ) = -(180 : ℕ) := by norm_num
  have quarter : (-90.0 : ℝ) = -(90 : ℕ) := by norm_num
  have azimuth := clamp_rounded (n := 180) (azimuth_within (direction observer target))
  have altitude := clamp_rounded (n := 90) (altitude_within (direction observer target))
  simp only [measure, seen, half, quarter, literal, Nat.cast_zero, azimuth, altitude, ↓reduceIte]

end Measured

/-- The direction in which a target is seen is its offset, turned by the observer's bearing and
then by its tilt, and as long as the offset, which is the measured distance. A target has no
direction exactly if it stands in the same place. Otherwise the direction is the one with the
measured distance and the two angles before they are rounded, and rounding leaves neither
of them outside of its range. -/
theorem direction_spherical (observer target : Device ℝ) :
    let offset := target.position - observer.position
    let seen := direction observer target
    let heading := observer.orientation
    seen.column = (tiltTurn (Scalar.radians heading.tilt) *
      bearingTurn (Scalar.radians heading.bearing)) *ᵥ offset.column ∧
    (seen.length = offset.length ∧ (measure observer target).distance = offset.length) ∧
    ((seen.isFinite = true ∧ 0 < seen.lengthSquared) ↔ target.position ≠ observer.position) ∧
    (target.position = observer.position → measure observer target = ⟨target.mac, 0, 0, 0⟩) ∧
    (target.position ≠ observer.position →
      let α := Scalar.radians (azimuth seen)
      let ε := Scalar.radians (altitude seen)
      seen = ⟨offset.length * (Real.cos ε * Real.sin α), offset.length * Real.sin ε,
        offset.length * (Real.cos ε * Real.cos α)⟩ ∧
      azimuth seen ∈ Set.Icc (-180) 180 ∧ altitude seen ∈ Set.Icc (-90) 90 ∧
      measure observer target = ⟨target.mac, offset.length, Scalar.round (azimuth seen),
        Scalar.round (altitude seen)⟩) := by
  intro offset seen heading
  have length := direction_length observer target
  refine ⟨rotate_column _ _ _, ⟨length, rfl⟩, seen_iff observer target, measure_coincident,
    fun apart => ⟨?_, abs_le.mp (azimuth_within seen), abs_le.mp (altitude_within seen),
      measure_apart apart⟩⟩
  rw [show offset.length = _ from length.symm]
  exact spherical seen

/-- With a quarter turn about each axis, what stands to the side is seen straight above. In the
other order of the turns it would be seen behind. -/
theorem aside_seen_above :
    let observer : Device ℝ := ⟨⟨1⟩, ⟨0, 0, 0⟩, ⟨90, 90⟩, []⟩
    let target : Device ℝ := ⟨⟨2⟩, ⟨10, 0, 0⟩, .zero, []⟩
    let seen := direction observer target
    let α := Scalar.radians (azimuth seen)
    let ε := Scalar.radians (altitude seen)
    (target.position ≠ observer.position ∧ seen.column = ![0, 10, 0] ∧
      seen = ⟨10 * (Real.cos ε * Real.sin α), 10 * Real.sin ε, 10 * (Real.cos ε * Real.cos α)⟩) ∧
    measure observer observer = ⟨⟨1⟩, 0, 0, 0⟩ := by
  intro observer target seen α ε
  have apart : target.position ≠ observer.position := by simp [observer, target]
  have quarter : Scalar.radians (90 : ℝ) = Real.pi / 2 := by
    rw [Scalar.radians, literal]
    change 90 * (Real.pi / _) = _
    push_cast
    ring
  have length : (target.position - observer.position).length = 10 := by
    change √((10 - 0) * (10 - 0) + (0 - 0) * (0 - 0) + (0 - 0) * (0 - 0)) = (10 : ℝ)
    rw [Real.sqrt_eq_iff_mul_self_eq_of_pos] <;> norm_num
  obtain ⟨turned, -, -, -, angles⟩ := direction_spherical observer target
  obtain ⟨-, -, -, coincident, -⟩ := direction_spherical observer observer
  obtain ⟨parts, -⟩ := angles apart
  rw [length] at parts
  refine ⟨⟨apart, ?_, parts⟩, coincident rfl⟩
  have offset : target.position - observer.position = ⟨10 - 0, 0 - 0, 0 - 0⟩ := rfl
  have heading : observer.orientation = ⟨90, 90⟩ := rfl
  rw [turned, turns_column, offset, heading, quarter]
  simp

end Ranging
end DeviceMap
