import DeviceMap.Proofs.Exact.Marker
import DeviceMap.Viewport

/-! The isometric view over the exact reals: its coefficients in closed form, and
the box of the host that it is fitted into. Nothing of the world plane leaves the
box, and no marker on the ground leaves the world plane. -/
namespace DeviceMap
open Exact

section Products
variable {α : Type} [Scalar α]

theorem Mat4.mul_columns (m n : Mat4 α) :
    m * n = ⟨m.apply n.x, m.apply n.y, m.apply n.z, m.apply n.w⟩ := rfl

theorem Vec4.add_mk (a b c d e f g h : α) :
    (⟨a, b, c, d⟩ : Vec4 α) + ⟨e, f, g, h⟩ = ⟨a + e, b + f, c + g, d + h⟩ := rfl

theorem Vec4.mul_mk (a b c d k : α) :
    (⟨a, b, c, d⟩ : Vec4 α) * k = ⟨a * k, b * k, c * k, d * k⟩ := rfl

end Products

namespace Projection

theorem radians_degrees (angle : ℝ) : Scalar.radians (Scalar.degrees angle) = angle := by
  simp only [Scalar.radians, Scalar.degrees, literal]
  change angle * (_ / Real.pi) * (Real.pi / _) = angle
  have positive := Real.pi_pos
  field_simp

theorem radians_turn : Scalar.radians (turn : ℝ) = -(Real.pi / 4) := by
  have angle : (turn : ℝ) = -45 := by
    unfold turn
    norm_num
  simp only [Scalar.radians, literal, angle]
  change -45 * (Real.pi / _) = _
  push_cast
  ring

theorem scale_eq : (scale : ℝ) = 7 / 10 := by
  unfold scale
  norm_num

/-- How far a step along either axis of the plane goes across the screen. -/
noncomputable def stretch : ℝ := 7 / 20 * √(2 : ℕ)

/-- Both axes go across the screen alike, and up and down by the same amount. -/
theorem isometric_forward : (isometric : Projection ℝ).forward =
    ⟨stretch, -(stretch / √3), stretch, stretch / √3, 0, 0⟩ := by
  have tip : Scalar.cos (Scalar.radians (tilt : ℝ)) = 1 / √3 := by
    rw [tilt, radians_degrees]
    change Real.cos (Real.arctan (√ _)) = _
    rw [Real.cos_arctan, literal, Real.sq_sqrt (by norm_num)]
    norm_num
  have across : Scalar.cos (Scalar.radians (turn : ℝ)) = √2 / 2 := by
    rw [radians_turn]
    exact (Real.cos_neg _).trans Real.cos_pi_div_four
  have along : Scalar.sin (Scalar.radians (turn : ℝ)) = -(√2 / 2) := by
    rw [radians_turn]
    exact (Real.sin_neg _).trans (congrArg _ Real.sin_pi_div_four)
  simp only [isometric, ofMatrix, Mat4.mul_columns, Mat4.identity, Mat4.rotationX, Mat4.rotationZ,
    Mat4.scaling, Mat4.apply, Vec4.mul_mk, Vec4.add_mk, literal, tip, across, along, scale_eq,
    Affine.mk.injEq, stretch]
  refine ⟨?_, ?_, ?_, ?_, ?_, ?_⟩ <;> push_cast <;> ring

/-- The plane is turned on its corner, so it is this bound that makes it fit. -/
theorem stretch_bounds : 0 < stretch ∧ stretch ≤ 1 / 2 := by
  unfold stretch
  rw [Nat.cast_ofNat]
  have root : √2 ≤ 10 / 7 := Real.sqrt_le_iff.mpr ⟨by norm_num, by norm_num⟩
  exact ⟨by positivity, by linarith⟩

theorem isometric_toScreen (point : Vec2 ℝ) : isometric.toScreen point =
    ⟨stretch * (point.x + point.y), stretch / √3 * (point.y - point.x)⟩ := by
  unfold toScreen
  rw [isometric_forward]
  simp only [Affine.apply, Affine.linear, Vec2.add_mk, Vec2.mk.injEq]
  constructor <;> ring

end Projection

namespace Viewport

theorem exact_least (x y : ℝ) : Scalar.least x y = min x y := by
  have number : Scalar.isNaN x = false := rfl
  unfold Scalar.least
  rw [number, min_comm, min_def_lt]
  rfl

/-- A box that extends in both directions gives its centre and the scale of its
shorter side. -/
theorem fit_eq (left top : ℝ) {width height : ℝ} (wide : 0 < width) (high : 0 < height) :
    fit left top width height =
      ⟨⟨left + width / 2, top + height / 2⟩, min width height / 1200⟩ := by
  have scaled : Scalar.least width height / extent = min width height / 1200 := by
    rw [exact_least, extent, literal]
    norm_num
  have positive : min width height / 1200 > 0 := by positivity
  unfold fit
  simp only [scaled, literal]
  rw [if_pos ⟨rfl, by simpa using positive, rfl⟩]
  norm_num

/-- A length of at most half the extent to both sides stays within a box that is no
shorter than the scaled side. -/
private theorem centred_inside (low : ℝ) {length side k u : ℝ} (small : |k| ≤ 1 / 2)
    (reach : |u| ≤ 1200) (positive : 0 < side) (fits : side ≤ length) :
    low + length / 2 + k * u * (side / 1200) ∈ Set.Icc low (low + length) := by
  have product : |k * u| ≤ 600 := by
    rw [abs_mul]
    calc |k| * |u| ≤ 1 / 2 * 1200 := mul_le_mul small reach (abs_nonneg u) (by norm_num)
      _ = 600 := by norm_num
  have offset : |k * u * (side / 1200)| ≤ length / 2 := by
    rw [abs_mul, abs_of_pos (by positivity : 0 < side / 1200)]
    calc |k * u| * (side / 1200) ≤ 600 * (side / 1200) :=
          mul_le_mul_of_nonneg_right product (by positivity)
      _ ≤ length / 2 := by linarith
  obtain ⟨above, below⟩ := abs_le.mp offset
  constructor <;> linarith

/-- The whole world plane is drawn inside the box, whatever its proportions. -/
theorem plane_inside (left top : ℝ) {width height : ℝ} (wide : 0 < width) (high : 0 < height)
    {point : Vec2 ℝ} (across : |point.x| ≤ 600) (along : |point.y| ≤ 600) :
    ((fit left top width height).toScreen .isometric point).x ∈ Set.Icc left (left + width) ∧
      ((fit left top width height).toScreen .isometric point).y ∈ Set.Icc top (top + height) := by
  obtain ⟨positive, small⟩ := Projection.stretch_bounds
  have steep : Projection.stretch / √3 ≤ 1 / 2 :=
    (div_le_self positive.le (Real.one_le_sqrt.mpr (by norm_num))).trans small
  have sum := (abs_add_le point.x point.y).trans (add_le_add across along)
  have difference := (abs_sub point.y point.x).trans (add_le_add along across)
  have side : 0 < min width height := lt_min wide high
  rw [fit_eq left top wide high, toScreen, Projection.isometric_toScreen]
  constructor
  · refine centred_inside left ?_ (sum.trans (by norm_num)) side (min_le_left ..)
    rwa [abs_of_pos positive]
  · refine centred_inside top ?_ (difference.trans (by norm_num)) side (min_le_right ..)
    rwa [abs_of_pos (by positivity)]

end Viewport

namespace Device

/-- Every exact number is finite, so only the limits count. -/
theorem exact_inBounds_iff {device : Device ℝ} : device.isInBounds = true ↔
    |device.position.x| ≤ 560 ∧ |device.position.z| ≤ 560 ∧ 0 ≤ device.position.y := by
  have finite : device.position.isFinite = true := rfl
  unfold isInBounds
  simp only [finite, World.exact_limit_eq, literal, Nat.cast_zero, Bool.true_and, Bool.and_eq_true,
    decide_eq_true_eq, and_assoc]
  exact Iff.rfl

end Device

namespace Marker

/-- A marker on the ground is nothing but its faces. -/
theorem contains_grounded {p : Vec2 ℝ} : contains p 0 = true ↔ onFace p = true := by
  have flat : onStem p 0 = false := by simp [onStem]
  rw [contains, flat, Bool.or_false]

/-- No marker of a device on the ground leaves the world plane, and none leaves the
box that the plane is fitted into. -/
theorem grounded_inside (left top : ℝ) {width height : ℝ} (wide : 0 < width) (high : 0 < height)
    {device : Device ℝ} (inBounds : device.isInBounds = true) (grounded : device.elevation = 0)
    {point : Vec2 ℝ} (touched : contains (point - anchor device.position) 0 = true) :
    (point.x ∈ Set.Icc (-600) 600 ∧ point.y ∈ Set.Icc (-600) 600) ∧
      ((Viewport.fit left top width height).toScreen .isometric point).x ∈
          Set.Icc left (left + width) ∧
        ((Viewport.fit left top width height).toScreen .isometric point).y ∈
          Set.Icc top (top + height) := by
  obtain ⟨xLimit, zLimit, -⟩ := Device.exact_inBounds_iff.mp inBounds
  obtain ⟨xNear, yNear, -⟩ := onFace_iff.mp (contains_grounded.mp touched)
  have level : device.position.y = 0 := grounded
  have xApart : (point - anchor device.position).x = point.x + device.position.x := by
    change point.x - (-device.position.x + device.position.y) = _
    rw [level]
    ring
  have yApart : (point - anchor device.position).y = point.y - device.position.z := by
    change point.y - (device.position.z - device.position.y) = _
    rw [level, sub_zero]
  rw [xApart] at xNear
  rw [yApart] at yNear
  have across : |point.x| ≤ 600 := by
    calc |point.x| = |point.x + device.position.x - device.position.x| := by
          rw [add_sub_cancel_right]
      _ ≤ |point.x + device.position.x| + |device.position.x| := abs_sub _ _
      _ ≤ 600 := by linarith
  have along : |point.y| ≤ 600 := by
    calc |point.y| = |point.y - device.position.z + device.position.z| := by rw [sub_add_cancel]
      _ ≤ |point.y - device.position.z| + |device.position.z| := abs_add_le _ _
      _ ≤ 600 := by linarith
  exact ⟨⟨abs_le.mp across, abs_le.mp along⟩, Viewport.plane_inside left top wide high across along⟩

/-- The outermost point of a marker in the corner of the world, in a wide box. -/
theorem corner_inside : ∃ device : Device ℝ, device.isInBounds = true ∧ device.elevation = 0 ∧
    contains (⟨-600, -560⟩ - anchor device.position) 0 = true ∧
      ((Viewport.fit 0 0 1000 500).toScreen .isometric (⟨-600, -560⟩ : Vec2 ℝ)).x ∈
          Set.Icc 0 (0 + 1000) ∧
        ((Viewport.fit 0 0 1000 500).toScreen .isometric (⟨-600, -560⟩ : Vec2 ℝ)).y ∈
          Set.Icc 0 (0 + 500) := by
  let corner : Device ℝ := ⟨⟨1⟩, ⟨560, 0, -560⟩, .zero, []⟩
  have inBounds : corner.isInBounds = true :=
    Device.exact_inBounds_iff.mpr ⟨by norm_num [corner], by norm_num [corner], le_rfl⟩
  have touched : contains (⟨-600, -560⟩ - anchor corner.position) 0 = true := by
    have apart : (⟨-600, -560⟩ : Vec2 ℝ) - anchor corner.position = ⟨-40, 0⟩ := by
      change (⟨-600 - (-560 + 0), -560 - (-560 - 0)⟩ : Vec2 ℝ) = _
      norm_num
    rw [apart, contains_grounded, onFace_iff]
    norm_num
  have inside := grounded_inside 0 0 (by norm_num : (0 : ℝ) < 1000) (by norm_num : (0 : ℝ) < 500)
    inBounds rfl touched
  exact ⟨corner, inBounds, rfl, touched, inside.2⟩

end Marker
end DeviceMap
