import DeviceMap.Proofs.Exact.Real
import DeviceMap.Marker

/-! The limit of the coordinates of devices and the faces of a marker over the exact
reals. The square face and the two skewed ones meet at the anchor and fill one
hexagon around it, so that a point near the anchor lies on a face whichever side
of it the point is on. -/
namespace DeviceMap
open Exact

namespace World

theorem exact_limit_eq : (limit : ℝ) = 560 := by
  simp only [limit, halfExtent, margin, literal]
  norm_num

theorem clampHorizontal_inside {x : ℝ} (inside : |x| ≤ 560) : clampHorizontal x = x := by
  obtain ⟨left, right⟩ := abs_le.mp inside
  unfold clampHorizontal
  rw [exact_limit_eq]
  exact clamp_inside left right

end World

namespace Marker

theorem size_eq : (size : ℝ) = 40 := by
  simp [size]

theorem handleCenter_eq : (handleCenter : Vec2 ℝ) = ⟨36, -36⟩ := by
  have whole : (36.0 : ℝ) = 36 := by norm_num
  rw [handleCenter, whole]
  simp

theorem handleRadius_eq : (handleRadius : ℝ) = 8 := by
  simp [handleRadius]

theorem onHandle_iff {p : Vec2 ℝ} :
    onHandle p ↔ (p.x - 36) * (p.x - 36) + (p.y - -36) * (p.y - -36) ≤ 64 := by
  unfold onHandle
  rw [decide_eq_true_iff, handleCenter_eq, handleRadius_eq]
  change √((p.x - 36) * (p.x - 36) + (p.y - -36) * (p.y - -36)) ≤ 8 ↔ _
  rw [Real.sqrt_le_left (by norm_num)]
  norm_num

theorem inRect_iff {p low high : Vec2 ℝ} :
    inRect p low high ↔ (low.x ≤ p.x ∧ p.x ≤ high.x) ∧ low.y ≤ p.y ∧ p.y ≤ high.y := by
  simp [inRect, and_assoc]

private theorem faces_iff {p : Vec2 ℝ} : onFace p ↔
    ((0 ≤ p.x ∧ p.x ≤ 40) ∧ -40 ≤ p.y ∧ p.y ≤ 0 ∨
      (-40 ≤ p.x ∧ p.x ≤ 0) ∧ -40 ≤ p.y + p.x ∧ p.y + p.x ≤ 0) ∨
      (0 ≤ p.x + p.y ∧ p.x + p.y ≤ 40) ∧ 0 ≤ p.y ∧ p.y ≤ 40 := by
  unfold onFace
  simp only [Bool.or_eq_true, inRect_iff, unskewY, skewX, Vec2.zero, size_eq, literal,
    Nat.cast_zero]

/-- The three faces are one hexagon. -/
theorem onFace_iff {p : Vec2 ℝ} :
    onFace p ↔ |p.x| ≤ 40 ∧ |p.y| ≤ 40 ∧ |p.x + p.y| ≤ 40 := by
  rw [faces_iff, abs_le, abs_le, abs_le]
  constructor
  · rintro ((⟨⟨left, right⟩, top, bottom⟩ | ⟨⟨left, right⟩, top, bottom⟩) |
      ⟨⟨left, right⟩, top, bottom⟩)
    all_goals refine ⟨⟨?_, ?_⟩, ⟨?_, ?_⟩, ⟨?_, ?_⟩⟩ <;> linarith
  · rintro ⟨⟨left, right⟩, ⟨top, bottom⟩, above, below⟩
    -- The sign of the coordinate that two neighbouring faces share tells them apart.
    rcases le_total 0 p.x with east | west
    · rcases le_total p.y 0 with north | south
      · exact Or.inl (Or.inl ⟨⟨east, right⟩, top, north⟩)
      · exact Or.inr ⟨⟨by linarith, below⟩, south, bottom⟩
    · rcases le_total 0 (p.x + p.y) with low | high
      · exact Or.inr ⟨⟨low, below⟩, by linarith, bottom⟩
      · exact Or.inl (Or.inr ⟨⟨left, west⟩, by linarith, by linarith⟩)

section Near
variable {point anchor : Vec2 ℝ} (across : Near anchor.x point.x)
include across

/-- A point that is near the anchor in both coordinates lies on a face, whichever
side of the anchor it is on. -/
theorem near_on_face (along : Near anchor.y point.y) : onFace (point - anchor) := by
  have first : |(point - anchor).x| ≤ 1 / 2 := by
    rw [Vec2.sub_x, abs_sub_comm]
    exact across
  have second : |(point - anchor).y| ≤ 1 / 2 := by
    rw [Vec2.sub_y, abs_sub_comm]
    exact along
  have both := abs_add_le (point - anchor).x (point - anchor).y
  exact onFace_iff.mpr ⟨by linarith, by linarith, by linarith⟩

theorem near_contains (along : Near anchor.y point.y) (elevation : ℝ) :
    contains (point - anchor) elevation := by
  unfold contains
  rw [near_on_face across along]
  rfl

/-- A point that is near the anchor is out of reach of the handle. -/
theorem near_off_handle : ¬onHandle (point - anchor) := by
  intro reached
  have close := onHandle_iff.mp reached
  have height := mul_self_nonneg ((point - anchor).y - -36)
  rw [Vec2.sub_x] at close
  obtain ⟨left, right⟩ := abs_le.mp across
  nlinarith

end Near
end Marker
end DeviceMap
