import Mathlib
import DeviceMap.Proofs.Exact.Segment

/-! The distance from a stroke as geometry has it. Points of the world plane are points of
the Euclidean plane, and the distance from a segment is the least of the distances from
its points there. Nothing is assumed of a quotient by zero, not even for a segment that
is a single point. -/
namespace DeviceMap
open Exact

namespace Vec2

/-- The point in the Euclidean plane. -/
noncomputable def euclidean (p : Vec2 ℝ) : EuclideanSpace ℝ (Fin 2) :=
  (EuclideanSpace.equiv (Fin 2) ℝ).symm ![p.x, p.y]

theorem dist_euclidean (p q : Vec2 ℝ) : dist p.euclidean q.euclidean = p.distance q := by
  rw [EuclideanSpace.dist_eq, Fin.sum_univ_two]
  change √(|p.x - q.x| ^ 2 + |p.y - q.y| ^ 2) =
    √((p.x - q.x) * (p.x - q.x) + (p.y - q.y) * (p.y - q.y))
  rw [sq_abs, sq_abs, sq, sq]

theorem euclidean_between (a b : Vec2 ℝ) (share : ℝ) :
    (a.between b share).euclidean = a.euclidean + share • (b.euclidean - a.euclidean) := by
  ext i
  fin_cases i
  · change a.x + (b.x - a.x) * share = a.x + share * (b.x - a.x)
    rw [mul_comm]
  · change a.y + (b.y - a.y) * share = a.y + share * (b.y - a.y)
    rw [mul_comm]

end Vec2

/-- The exact reals with some other quotient of each number by zero. -/
@[reducible] noncomputable def Exact.dividing (byZero : ℝ → ℝ) : Scalar ℝ :=
  { (inferInstance : Scalar ℝ) with div := fun x y => if y = 0 then byZero x else x / y }

namespace Marker
variable (p a b : Vec2 ℝ)

/-- The distances of a point from the points of a segment. -/
def distances : Set ℝ := dist p.euclidean '' segment ℝ a.euclidean b.euclidean

theorem distances_eq :
    distances p a b = (fun share => p.distance (a.between b share)) '' Set.Icc (0 : ℝ) 1 := by
  unfold distances
  rw [segment_eq_image', Set.image_image]
  refine Set.image_congr fun share _ => ?_
  rw [← Vec2.euclidean_between, Vec2.dist_euclidean]

theorem distanceToSegment_isLeast : IsLeast (distances p a b) (distanceToSegment p a b) := by
  rw [distances_eq]
  exact distanceToSegment_least p a b

theorem distanceToSegment_nonneg : 0 ≤ distanceToSegment p a b := by
  obtain ⟨⟨q, -, reached⟩, -⟩ := distanceToSegment_isLeast p a b
  exact reached ▸ dist_nonneg

theorem distanceToSegment_eq_zero_iff :
    distanceToSegment p a b = 0 ↔ p.euclidean ∈ segment ℝ a.euclidean b.euclidean := by
  obtain ⟨⟨q, on, reached⟩, least⟩ := distanceToSegment_isLeast p a b
  constructor
  · intro zero
    rwa [dist_eq_zero.mp (reached.trans zero)]
  · intro on
    exact le_antisymm (least ⟨_, on, dist_self _⟩) (distanceToSegment_nonneg p a b)

theorem distanceToSegment_comm : distanceToSegment p b a = distanceToSegment p a b := by
  have turned := distanceToSegment_isLeast p b a
  unfold distances at turned
  rw [segment_symm] at turned
  exact turned.unique (distanceToSegment_isLeast p a b)

theorem distanceToSegment_dividing (byZero : ℝ → ℝ) :
    @distanceToSegment ℝ (dividing byZero) p a b = distanceToSegment p a b := by
  let size := (b - a).lengthSquared
  let slope := (p - a).dot (b - a)
  change (if (size == _) = true then p.distance a else p.distance (a.between b
      (Scalar.clamp _ _ (if size = 0 then byZero slope else slope / size)))) =
    if (size == _) = true then p.distance a else p.distance (a.between b
      (Scalar.clamp _ _ (slope / size)))
  simp only [literal, Nat.cast_zero, beq_iff_eq]
  -- Only a segment that is a single point has no size, and its share is not asked for.
  split <;> rfl

/-- The distance from a segment is the least of the Euclidean distances from its points, also
where the segment is a single point. So a point is within a radius of the segment exactly
if it is within that radius of a point of it, it has no distance exactly on the segment,
and the ends may be exchanged. No quotient by zero is ever taken. -/
theorem distanceToSegment_exact :
    IsLeast (dist p.euclidean '' segment ℝ a.euclidean b.euclidean) (distanceToSegment p a b) ∧
    (∀ radius : ℝ, distanceToSegment p a b ≤ radius ↔ ∃ share ∈ Set.Icc (0 : ℝ) 1,
      dist p.euclidean (a.euclidean + share • (b.euclidean - a.euclidean)) ≤ radius) ∧
    0 ≤ distanceToSegment p a b ∧
    (distanceToSegment p a b = 0 ↔ p.euclidean ∈ segment ℝ a.euclidean b.euclidean) ∧
    distanceToSegment p b a = distanceToSegment p a b ∧
    ∀ byZero : ℝ → ℝ,
      @distanceToSegment ℝ (dividing byZero) p a b = distanceToSegment p a b := by
  refine ⟨distanceToSegment_isLeast p a b, fun radius => ?_, distanceToSegment_nonneg p a b,
    distanceToSegment_eq_zero_iff p a b, distanceToSegment_comm p a b,
    distanceToSegment_dividing p a b⟩
  simp only [distanceToSegment_le_iff, Vec2.Within, ← Vec2.euclidean_between,
    Vec2.dist_euclidean]

end Marker
end DeviceMap
