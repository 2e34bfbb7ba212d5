import DeviceMap.Proofs.Double.Value
import DeviceMap.Proofs.Exact.Isometric
import DeviceMap.Proofs.Exact.View

/-! Screen and plane under the isometric view. The view takes the plane onto the
screen without loss, and so does every surface that a host can fit into a box:
a box without extent leaves the surface at its own size rather than at none. -/
namespace DeviceMap
open Exact

namespace Mat4

/-- Over the reals the first factor of the view changes nothing. -/
theorem identity_mul (m : Mat4 ℝ) : identity * m = m := by
  simp only [Mat4.mul_columns, Mat4.identity, Mat4.apply, Vec4.mul_mk, Vec4.add_mk, literal]
  push_cast
  simp only [one_mul, zero_mul, add_zero, zero_add]

end Mat4

namespace Projection

/-- The view as a product of its two turns and its scale. -/
theorem isometric_matrix : (isometric : Projection ℝ).matrix =
    Mat4.rotationX (Real.arctan √2) * Mat4.rotationZ (-(Real.pi / 4)) * Mat4.scaling (7 / 10) := by
  have tip : Scalar.radians (tilt : ℝ) = Real.arctan √2 := by
    rw [tilt, radians_degrees, literal]
    rfl
  simp only [isometric, ofMatrix, tip, radians_turn, scale_eq, Mat4.identity_mul]

theorem stretch_eq : stretch = 7 / 10 / √2 := by
  unfold stretch
  rw [eq_div_iff (by positivity), Nat.cast_ofNat, mul_assoc, Real.mul_self_sqrt (by norm_num)]
  norm_num

/-- Both axes are stretched alike, so the determinant is twice the product of the stretches. -/
theorem isometric_determinant :
    (isometric : Projection ℝ).forward.determinant = 2 * stretch * (stretch / √3) := by
  rw [isometric_forward, Affine.determinant]
  ring

theorem isometric_invertible : (isometric : Projection ℝ).Invertible := by
  have positive := stretch_bounds.1
  refine ⟨?_, rfl⟩
  rw [isometric_determinant]
  positivity

end Projection

namespace Viewport

/-- The surface with the exact values of its numbers. -/
noncomputable def exact (v : Viewport Float) : Viewport ℝ :=
  ⟨⟨Double.value v.center.x, Double.value v.center.y⟩, Double.value v.scale⟩

/-- The scale of a fitted surface is a positive finite one that the box gives, or one. -/
theorem fit_scale {α : Type} [Scalar α] (Fits : α → Prop) (unit : Fits 1)
    (positive : ∀ scale, Scalar.isFinite scale = true → scale > 0 → Fits scale)
    (left top width height : α) : Fits (fit left top width height).scale := by
  unfold fit
  dsimp only
  split
  · rename_i accepted
    exact positive _ accepted.1 accepted.2.1
  · exact unit

theorem fit_scaled (left top width height : ℝ) : (fit left top width height).scale ≠ 0 := by
  refine fit_scale (fun scale => scale ≠ 0) (by simp) (fun scale _ positive => ?_) left top
    width height
  rw [literal, Nat.cast_zero] at positive
  exact positive.ne'

/-- Boxes whose numbers overflow, are infinite or are no numbers are fitted to as well. -/
theorem fit_exact_scaled (left top width height : Float) :
    (fit left top width height).exact.scale ≠ 0 := by
  have unit : Double.value 1 ≠ 0 := by decide +kernel
  refine Rat.cast_ne_zero.mpr (fit_scale (fun scale => Double.value scale ≠ 0) unit
    (fun scale finite positive => ?_) left top width height)
  have above := Double.value_lt Double.zero_finite finite positive
  rw [Double.bound_value.1] at above
  exact above.ne'

/-- What the surface shows at each screen point is drawn there, and what it draws at a
screen point is shown there. -/
def Faithful (v : Viewport ℝ) (p : Projection ℝ) : Prop :=
  Function.LeftInverse (v.toWorld p) (v.toScreen p) ∧
    Function.RightInverse (v.toWorld p) (v.toScreen p)

theorem faithful_of_scaled {v : Viewport ℝ} (scaled : v.scale ≠ 0) : v.Faithful .isometric :=
  ⟨toWorld_toScreen scaled Projection.isometric_invertible,
    toScreen_toWorld scaled Projection.isometric_invertible⟩

/-- The view turns the plane by an eighth of a turn, tips it by the angle whose tangent is the
root of two and shrinks it. Both axes then go across the screen by seven tenths over that
root, and up or down by that over the root of three. So the view loses nothing, and no
surface with a scale does. A surface that is fitted into a box has one, whatever the box;
this holds of boxes of exact numbers and, in the exact values of what it gives, of boxes
of doubles. -/
theorem isometric_faithful :
    let view : Projection ℝ := .isometric
    let across : ℝ := 7 / 10 / √2
    (view.matrix = Mat4.rotationX (Real.arctan √2) * Mat4.rotationZ (-(Real.pi / 4)) *
        Mat4.scaling (7 / 10) ∧
      view.forward = ⟨across, -(across / √3), across, across / √3, 0, 0⟩ ∧
      view.forward.determinant ≠ 0) ∧
    (Function.LeftInverse view.toWorld view.toScreen ∧
      Function.RightInverse view.toWorld view.toScreen) ∧
    (∀ surface : Viewport ℝ, surface.scale ≠ 0 → surface.Faithful view) ∧
    (∀ left top width height : ℝ, (fit left top width height).scale ≠ 0 ∧
      (fit left top width height).Faithful view) ∧
    ∀ left top width height : Float, (fit left top width height).exact.scale ≠ 0 ∧
      (fit left top width height).exact.Faithful view := by
  intro view across
  have invertible : view.Invertible := Projection.isometric_invertible
  refine ⟨⟨Projection.isometric_matrix, ?_, invertible.1⟩,
    ⟨Projection.toWorld_toScreen invertible, Projection.toScreen_toWorld invertible⟩,
    fun surface => faithful_of_scaled, fun left top width height => ?_,
    fun left top width height => ?_⟩
  · change (Projection.isometric : Projection ℝ).forward = _
    rw [Projection.isometric_forward, Projection.stretch_eq]
  · have scaled := fit_scaled left top width height
    exact ⟨scaled, faithful_of_scaled scaled⟩
  · have scaled := fit_exact_scaled left top width height
    exact ⟨scaled, faithful_of_scaled scaled⟩

/-- A surface that is drawn upside down about a centre of its own. -/
theorem mirrored_surface_faithful :
    let surface : Viewport ℝ := ⟨⟨100, 50⟩, -2⟩
    surface.scale ≠ 0 ∧ surface.toWorld .isometric (surface.toScreen .isometric ⟨3, 4⟩) = ⟨3, 4⟩ := by
  intro surface
  have scaled : surface.scale ≠ 0 := by norm_num [surface]
  obtain ⟨-, -, faithful, -⟩ := isometric_faithful
  exact ⟨scaled, (faithful surface scaled).1 ⟨3, 4⟩⟩

end Viewport
end DeviceMap
