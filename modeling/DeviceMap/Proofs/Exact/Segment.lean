import DeviceMap.Proofs.Exact.Real
import DeviceMap.Marker

/-! The distance of a point from a segment over the exact reals. It is the least of the
distances from the points of the segment: the place along the segment that is taken
is the foot of the perpendicular, or the end next to it. -/
namespace DeviceMap
open Exact

namespace Vec2

/-- The point at a share of the way from one point to another. -/
def between {α : Type} [Scalar α] (a b : Vec2 α) (share : α) : Vec2 α := a + (b - a) * share

/-- Some point of the segment is no further away than a radius. -/
def Within (p a b : Vec2 ℝ) (radius : ℝ) : Prop :=
  ∃ share ∈ Set.Icc (0 : ℝ) 1, p.distance (a.between b share) ≤ radius

theorem between_lengthSquared (p a b : Vec2 ℝ) (share : ℝ) :
    (p - a.between b share).lengthSquared = (p - a).lengthSquared -
      2 * share * (p - a).dot (b - a) + share ^ 2 * (b - a).lengthSquared := by
  obtain ⟨x, y⟩ := p
  obtain ⟨u, v⟩ := a
  obtain ⟨s, t⟩ := b
  change (x - (u + (s - u) * share)) * (x - (u + (s - u) * share)) +
      (y - (v + (t - v) * share)) * (y - (v + (t - v) * share)) =
    (x - u) * (x - u) + (y - v) * (y - v) - 2 * share * ((x - u) * (s - u) + (y - v) * (t - v)) +
      share ^ 2 * ((s - u) * (s - u) + (t - v) * (t - v))
  ring

theorem lengthSquared_nonneg (p : Vec2 ℝ) : 0 ≤ p.lengthSquared :=
  add_nonneg (mul_self_nonneg p.x) (mul_self_nonneg p.y)

/-- A segment without length has one point only. -/
theorem between_flat {a b : Vec2 ℝ} (flat : (b - a).lengthSquared = 0) (share : ℝ) :
    a.between b share = a := by
  obtain ⟨u, v⟩ := a
  obtain ⟨s, t⟩ := b
  obtain ⟨across, along⟩ := (mul_self_add_mul_self_eq_zero (a := s - u) (b := t - v)).mp flat
  change (⟨u + (s - u) * share, v + (t - v) * share⟩ : Vec2 ℝ) = ⟨u, v⟩
  rw [across, along, zero_mul, add_zero, add_zero]

end Vec2

namespace Marker

/-- The share that is taken along a segment lies on it. -/
theorem clamp_share (x : ℝ) : Scalar.clamp (0 : ℝ) 1 x ∈ Set.Icc (0 : ℝ) 1 := by
  unfold Scalar.clamp
  split
  · simp
  · rename_i above
    split
    · simp
    · rename_i below
      exact ⟨not_lt.mp above, not_lt.mp below⟩

/-- A parabola that opens upwards is lowest, between zero and one, at its vertex or at the
end next to it. -/
theorem clamp_lowest (slope : ℝ) {curve share : ℝ} (opens : 0 < curve)
    (inside : share ∈ Set.Icc (0 : ℝ) 1) :
    let taken := Scalar.clamp (0 : ℝ) 1 (slope / curve)
    taken ^ 2 * curve - 2 * taken * slope ≤ share ^ 2 * curve - 2 * share * slope := by
  obtain ⟨above, below⟩ := inside
  intro taken
  have vertex : slope / curve * curve = slope := div_mul_cancel₀ _ opens.ne'
  have rise : share ^ 2 * curve - 2 * share * slope - (taken ^ 2 * curve - 2 * taken * slope) =
      (share - taken) * ((share + taken) * curve - 2 * slope) := by ring
  rw [← sub_nonneg, rise]
  change 0 ≤ (share - Scalar.clamp (0 : ℝ) 1 (slope / curve)) *
    ((share + Scalar.clamp (0 : ℝ) 1 (slope / curve)) * curve - 2 * slope)
  unfold Scalar.clamp
  split
  · rename_i before
    have falling : slope < 0 := by
      rw [← vertex]
      exact mul_neg_of_neg_of_pos before opens
    have risen : 0 ≤ share * curve := mul_nonneg above opens.le
    exact mul_nonneg (by linarith) (by linarith)
  · split
    · rename_i beyond
      have steep : curve < slope := by
        rw [← vertex]
        exact lt_mul_of_one_lt_left opens beyond
      have short : share * curve ≤ curve := mul_le_of_le_one_left opens.le below
      exact mul_nonneg_of_nonpos_of_nonpos (by linarith) (by linarith)
    · have square : (share - slope / curve) * ((share + slope / curve) * curve - 2 * slope) =
          (share - slope / curve) ^ 2 * curve := by
        linear_combination (share - slope / curve) * (-2) * (-vertex)
      rw [square]
      positivity

/-- The distance from a segment is the least of the distances from its points. -/
theorem distanceToSegment_least (p a b : Vec2 ℝ) :
    IsLeast ((fun share => p.distance (a.between b share)) '' Set.Icc (0 : ℝ) 1)
      (distanceToSegment p a b) := by
  unfold distanceToSegment
  simp only [literal, Nat.cast_zero, Nat.cast_one, beq_iff_eq]
  split
  · rename_i flat
    have single (share : ℝ) := congrArg p.distance (Vec2.between_flat flat share)
    refine ⟨⟨0, by simp, single 0⟩, ?_⟩
    rintro _ ⟨share, -, rfl⟩
    exact (single share).ge
  · rename_i extended
    have opens := (b - a).lengthSquared_nonneg.lt_of_ne' extended
    refine ⟨⟨_, clamp_share _, rfl⟩, ?_⟩
    rintro _ ⟨share, inside, rfl⟩
    apply Real.sqrt_le_sqrt
    have lowest := clamp_lowest ((p - a).dot (b - a)) opens inside
    change (p - a.between b _).lengthSquared ≤ _
    rw [Vec2.between_lengthSquared, Vec2.between_lengthSquared]
    linarith

/-- A point is as near to a segment as to the nearest of its points. -/
theorem distanceToSegment_le_iff {p a b : Vec2 ℝ} {radius : ℝ} :
    distanceToSegment p a b ≤ radius ↔ p.Within a b radius := by
  obtain ⟨⟨nearest, inside, reached⟩, least⟩ := distanceToSegment_least p a b
  constructor
  · intro near
    exact ⟨nearest, inside, reached.trans_le near⟩
  · rintro ⟨share, inside, near⟩
    exact (least ⟨share, inside, rfl⟩).trans near

end Marker
end DeviceMap
