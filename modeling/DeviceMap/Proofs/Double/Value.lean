import DeviceMap.Proofs.Double.Bounds
import DeviceMap.Proofs.Double.Exact

/-! The exact values of finite doubles, in the order of the doubles. What clamping
and taking the larger of two give is the nearest number of a range, by its exact
distance and among all rational numbers. -/
namespace DeviceMap.Double
open Float.Model Float.Model.UnpackedFloat

/-- The exact value of an unpacked number. What is not finite counts as zero. -/
def valueOf : UnpackedFloat → ℚ
  | .finite sign significand exponent _ => (sign.apply (significand : Int) : Int) * 2 ^ exponent
  | _ => 0

/-- The exact value of a finite double. -/
def value (x : Float) : ℚ := valueOf x.toModel.unpack

/-- A significand, with its leading bit unless the exponent is the least. -/
private def Aligned (m : Nat) (e : Int) : Prop :=
  m < 2 ^ 53 ∧ -1074 ≤ e ∧ (2 ^ 52 ≤ m ∨ e = -1074)

/-- The size with the greater place is greater. -/
private theorem size_lt {m n : Nat} {e f : Int} (first : Aligned m e) (second : Aligned n f)
    (below : (e + 1074) * 2 ^ 52 + (m : Int) < (f + 1074) * 2 ^ 52 + (n : Int)) :
    (m : ℚ) * 2 ^ e < n * 2 ^ f := by
  obtain ⟨narrow, least, lead⟩ := first
  obtain ⟨otherNarrow, otherLeast, otherLead⟩ := second
  have order : e ≤ f := by omega
  have shifted : m < n * 2 ^ (f - e).toNat := by
    rcases order.eq_or_lt with rfl | strict
    · simp
      omega
    · have leading : 2 ^ 52 ≤ n := by omega
      have step : 2 ^ 1 ≤ 2 ^ (f - e).toNat := Nat.pow_le_pow_right (by omega) (by omega)
      calc m < 2 ^ 52 * 2 ^ 1 := by omega
        _ ≤ n * 2 ^ (f - e).toNat := Nat.mul_le_mul leading step
  rw [← size_shifted n order]
  exact mul_lt_mul_of_pos_right (by exact_mod_cast shifted) (by positivity)

/-- A finite double is a signed size. A zero has no bit of its own. -/
private theorem finite_parts {x : Float} (finite : x.isFinite = true) :
    ∃ (sign : Sign) (m : Nat) (e : Int), Aligned m e ∧
      rank x = sign.apply ((e + 1074) * 2 ^ 52 + m) ∧
        value x = (sign.apply (m : Int) : Int) * 2 ^ e := by
  change x.toModel.unpack.isFinite = true at finite
  have canonical := canonical_model x
  unfold rank value
  cases shape : x.toModel.unpack with
  | notANumber => simp [shape, UnpackedFloat.isFinite] at finite
  | infinity sign => simp [shape, UnpackedFloat.isFinite] at finite
  | zero sign => exact ⟨.positive, 0, -1074, by simp [Aligned, place, valueOf, Sign.apply]⟩
  | finite sign m e positive =>
    rw [shape] at canonical
    obtain ⟨narrow, least, -, lead⟩ := canonical
    exact ⟨sign, m, e, ⟨narrow, least, lead⟩, rfl, rfl⟩

private theorem value_zero {x : Float} (finite : x.isFinite = true) (zero : rank x = 0) :
    value x = 0 := by
  obtain ⟨sign, m, e, ⟨-, least, -⟩, xRank, xValue⟩ := finite_parts finite
  have empty : m = 0 := by
    rw [xRank] at zero
    cases sign <;> simp only [Sign.apply] at zero <;> omega
  rw [xValue, empty]
  cases sign <;> simp [Sign.apply]

/-- Exact values lie in the order of the doubles. -/
theorem value_lt {x y : Float} (xFinite : x.isFinite = true) (yFinite : y.isFinite = true)
    (below : x < y) : value x < value y := by
  obtain ⟨-, -, below⟩ := (lt_iff_rank x y).mp below
  obtain ⟨s, m, e, first, xRank, xValue⟩ := finite_parts xFinite
  obtain ⟨t, n, f, second, yRank, yValue⟩ := finite_parts yFinite
  have left : (0 : ℚ) ≤ m * 2 ^ e := by positivity
  have right : (0 : ℚ) ≤ n * 2 ^ f := by positivity
  rw [xRank, yRank] at below
  rw [xValue, yValue]
  have least := first.2.1
  have otherLeast := second.2.1
  -- Sizes only have to be compared where the signs agree.
  cases s with
  | positive =>
    cases t with
    | positive =>
      have sizes := size_lt first second below
      simpa [Sign.apply] using sizes
    | negative =>
      simp only [Sign.apply] at below
      omega
  | negative =>
    cases t with
    | positive =>
      have occupied : 0 < m ∨ 0 < n := by
        obtain ⟨-, -, lead⟩ := first
        obtain ⟨-, -, otherLead⟩ := second
        simp only [Sign.apply] at below
        omega
      simp only [Sign.apply, Int.cast_neg, Int.cast_natCast]
      rcases occupied with occupied | occupied
      · have positive : (0 : ℚ) < m * 2 ^ e := by positivity
        linarith
      · have positive : (0 : ℚ) < n * 2 ^ f := by positivity
        linarith
    | negative =>
      have sizes := size_lt second first (by simp only [Sign.apply] at below; omega)
      simp only [Sign.apply, Int.cast_neg, Int.cast_natCast]
      linarith

theorem value_le {x y : Float} (xFinite : x.isFinite = true) (yFinite : y.isFinite = true)
    (below : x ≤ y) : value x ≤ value y := by
  obtain ⟨xNumber, yNumber, order⟩ := (le_iff_rank x y).mp below
  rcases order.lt_or_eq with strict | same
  · exact (value_lt xFinite yFinite ((lt_iff_rank x y).mpr ⟨xNumber, yNumber, strict⟩)).le
  · by_cases zero : rank y = 0
    · rw [value_zero xFinite (same.trans zero), value_zero yFinite zero]
    · rw [eq_of_beq ((beq_iff_rank x y).mpr ⟨xNumber, yNumber, same⟩) zero]

theorem lt_iff_value {x y : Float} (xFinite : x.isFinite = true) (yFinite : y.isFinite = true) :
    x < y ↔ value x < value y := by
  refine ⟨value_lt xFinite yFinite, fun below => ?_⟩
  by_contra notBelow
  have xNumber := number_of_finite xFinite
  have yNumber := number_of_finite yFinite
  rw [lt_iff_rank] at notBelow
  have above : y ≤ x := (le_iff_rank y x).mpr ⟨yNumber, xNumber, by simp_all⟩
  exact absurd below (value_le yFinite xFinite above).not_gt

theorem value_neg (x : Float) : value (-x) = -value x := by
  rw [value, unpack_neg, value]
  cases x.toModel.unpack with
  | notANumber | infinity | zero => simp [UnpackedFloat.neg, valueOf]
  | finite sign m e positive => cases sign <;> simp [UnpackedFloat.neg, valueOf, Sign.apply]

theorem value_abs (x : Float) : value x.abs = |value x| := by
  rw [value, unpack_abs, value]
  cases x.toModel.unpack with
  | notANumber | infinity | zero => simp [UnpackedFloat.abs, valueOf]
  | finite sign m e positive =>
    have size : |(m : ℚ) * 2 ^ e| = m * 2 ^ e := abs_of_nonneg (by positivity)
    cases sign <;> simp [UnpackedFloat.abs, valueOf, Sign.apply, size]

/-- Finite doubles compare as equal if they have the same exact value. -/
theorem beq_iff_value {x y : Float} (xFinite : x.isFinite = true) (yFinite : y.isFinite = true) :
    (x == y) = true ↔ value x = value y := by
  have xNumber := number_of_finite xFinite
  have yNumber := number_of_finite yFinite
  have below := lt_iff_value xFinite yFinite
  have above := lt_iff_value yFinite xFinite
  simp only [lt_iff_rank, xNumber, yNumber, true_and] at below above
  have ranks : rank x = rank y ↔ value x = value y := by
    simp only [le_antisymm_iff, ← not_lt, below, above]
  simp only [beq_iff_rank, xNumber, yNumber, true_and, ranks]

theorem bound_value : value 0 = 0 ∧ value 90 = 90 ∧ value 180 = 180 ∧ value 560 = 560 := by
  decide +kernel

/-- The nearest number of a range to the exact value of a double. -/
structure Nearest (range : Set ℚ) (x y : Float) : Prop where
  finite : y.isFinite = true
  inside : value y ∈ range
  closest : ∀ q ∈ range, |value y - value x| ≤ |q - value x|

/-- What is in the range is the nearest to itself. -/
theorem Nearest.refl {range : Set ℚ} {x : Float} (finite : x.isFinite = true)
    (inside : value x ∈ range) : Nearest range x x :=
  ⟨finite, inside, fun q _ => by simp⟩

theorem clamp_nearest {low high x : Float} (lowFinite : low.isFinite = true)
    (highFinite : high.isFinite = true) (ordered : low ≤ high) (finite : x.isFinite = true) :
    Nearest (Set.Icc (value low) (value high)) x (Scalar.clamp low high x) := by
  have order := value_le lowFinite highFinite ordered
  unfold Scalar.clamp
  split
  · rename_i below
    have below := value_lt finite lowFinite below
    refine ⟨lowFinite, ⟨le_rfl, order⟩, fun q inside => ?_⟩
    rw [abs_of_pos (sub_pos.mpr below), abs_of_pos (sub_pos.mpr (below.trans_le inside.1))]
    exact sub_le_sub_right inside.1 _
  · rename_i notBelow
    split
    · rename_i above
      have above := value_lt highFinite finite above
      refine ⟨highFinite, ⟨order, le_rfl⟩, fun q inside => ?_⟩
      rw [abs_of_neg (sub_neg.mpr above), abs_of_neg (sub_neg.mpr (inside.2.trans_lt above))]
      exact neg_le_neg (sub_le_sub_right inside.2 _)
    · rename_i notAbove
      rw [lt_iff_value finite lowFinite, not_lt] at notBelow
      rw [lt_iff_value highFinite finite, not_lt] at notAbove
      exact .refl finite ⟨notBelow, notAbove⟩

theorem greatest_nearest {low x : Float} (lowFinite : low.isFinite = true)
    (finite : x.isFinite = true) : Nearest (Set.Ici (value low)) x (Scalar.greatest x low) := by
  have known : Scalar.isNaN low = false := number_of_finite lowFinite
  unfold Scalar.greatest
  rw [known]
  simp only [Bool.false_eq_true, ↓reduceIte, lt_iff_value lowFinite finite]
  split
  · rename_i above
    exact .refl finite above.le
  · rename_i notAbove
    rw [not_lt] at notAbove
    refine ⟨lowFinite, Set.self_mem_Ici, fun q inside => ?_⟩
    rw [abs_of_nonneg (sub_nonneg.mpr notAbove), abs_of_nonneg (sub_nonneg.mpr
      (notAbove.trans inside))]
    exact sub_le_sub_right inside _

/-- What is clamped to both sides of a limit is the nearest number within it. -/
theorem clamp_nearest_within {limit x : Float} (limitFinite : limit.isFinite = true)
    (ordered : -limit ≤ limit) (finite : x.isFinite = true) :
    Nearest (Set.Icc (-value limit) (value limit)) x (Scalar.clamp (-limit) limit x) := by
  rw [← value_neg]
  exact clamp_nearest (finite_neg limitFinite) limitFinite ordered finite

end DeviceMap.Double
