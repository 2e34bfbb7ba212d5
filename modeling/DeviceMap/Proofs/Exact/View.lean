import DeviceMap.Proofs.Exact.Real
import DeviceMap.Viewport

/-! The view of the plane and its inverse over the exact reals: what a screen
point is taken for is what the view draws there. -/
namespace DeviceMap

/-- The inverse that a view carries is one of its affine part. -/
def Projection.Invertible (p : Projection ℝ) : Prop :=
  p.forward.determinant ≠ 0 ∧ p.inverse = p.forward.inverse

private theorem Affine.unit {m : Affine ℝ} (determined : m.determinant ≠ 0) :
    m.determinant * (1.0 / m.determinant) = 1 := by
  rw [Exact.decimal_one]
  exact mul_one_div_cancel determined

theorem Affine.apply_inverse {m : Affine ℝ} (determined : m.determinant ≠ 0) (p : Vec2 ℝ) :
    m.apply (m.inverse.apply p) = p := by
  have unit := Affine.unit determined
  obtain ⟨a, b, c, d, e, f⟩ := m
  obtain ⟨x, y⟩ := p
  simp only [inverse, apply, linear, determinant, Vec2.add_mk] at unit ⊢
  generalize 1.0 / (a * d - b * c) = i at unit ⊢
  rw [Vec2.mk.injEq]
  constructor
  · linear_combination (x - e) * unit
  · linear_combination (y - f) * unit

theorem Affine.inverse_apply {m : Affine ℝ} (determined : m.determinant ≠ 0) (p : Vec2 ℝ) :
    m.inverse.apply (m.apply p) = p := by
  have unit := Affine.unit determined
  obtain ⟨a, b, c, d, e, f⟩ := m
  obtain ⟨x, y⟩ := p
  simp only [inverse, apply, linear, determinant, Vec2.add_mk] at unit ⊢
  generalize 1.0 / (a * d - b * c) = i at unit ⊢
  rw [Vec2.mk.injEq]
  constructor
  · linear_combination x * unit
  · linear_combination y * unit

namespace Projection
variable {p : Projection ℝ} (invertible : p.Invertible)
include invertible

theorem toWorld_toScreen (world : Vec2 ℝ) : p.toWorld (p.toScreen world) = world := by
  rw [toWorld, toScreen, invertible.2, Affine.inverse_apply invertible.1]

theorem toScreen_toWorld (screen : Vec2 ℝ) : p.toScreen (p.toWorld screen) = screen := by
  rw [toWorld, toScreen, invertible.2, Affine.apply_inverse invertible.1]

end Projection

/-- A screen point is where the plane point under it is drawn. -/
theorem Viewport.toScreen_toWorld {v : Viewport ℝ} {p : Projection ℝ} (scaled : v.scale ≠ 0)
    (invertible : p.Invertible) (screen : Vec2 ℝ) :
    v.toScreen p (v.toWorld p screen) = screen := by
  unfold toScreen toWorld
  rw [Projection.toScreen_toWorld invertible]
  obtain ⟨⟨left, top⟩, scale⟩ := v
  obtain ⟨x, y⟩ := screen
  change (⟨left + (x - left) / scale * scale, top + (y - top) / scale * scale⟩ : Vec2 ℝ) = ⟨x, y⟩
  rw [div_mul_cancel₀ _ scaled, div_mul_cancel₀ _ scaled]
  ring_nf

/-- A plane point is the one under the screen point where it is drawn. -/
theorem Viewport.toWorld_toScreen {v : Viewport ℝ} {p : Projection ℝ} (scaled : v.scale ≠ 0)
    (invertible : p.Invertible) (world : Vec2 ℝ) :
    v.toWorld p (v.toScreen p world) = world := by
  have undone : (v.center + p.toScreen world * v.scale - v.center) / v.scale =
      p.toScreen world := by
    obtain ⟨⟨left, top⟩, scale⟩ := v
    obtain ⟨x, y⟩ := p.toScreen world
    change (⟨(left + x * scale - left) / scale, (top + y * scale - top) / scale⟩ : Vec2 ℝ) =
      ⟨x, y⟩
    rw [add_sub_cancel_left, add_sub_cancel_left, mul_div_cancel_right₀ _ scaled,
      mul_div_cancel_right₀ _ scaled]
  unfold toScreen toWorld
  rw [undone, Projection.toWorld_toScreen invertible]

end DeviceMap
