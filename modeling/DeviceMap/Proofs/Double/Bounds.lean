import DeviceMap.Proofs.Double.Rank

/-! What clamping, taking the larger of two and taking the size do to doubles,
with what is infinite or no number included. -/
namespace DeviceMap.Double

theorem number_of_finite {x : Float} (finite : x.isFinite = true) : x.isNaN = false :=
  ((isFinite_iff_rank x).mp finite).1

theorem finite_neg {x : Float} (finite : x.isFinite = true) : (-x).isFinite = true := by
  rw [isFinite_iff_rank] at *
  rw [isNaN_neg, rank_neg]
  exact ⟨finite.1, by omega, by omega⟩

theorem finite_abs {x : Float} (finite : x.isFinite = true) : x.abs.isFinite = true := by
  rw [isFinite_iff_rank] at *
  rw [isNaN_abs, rank_abs]
  exact ⟨finite.1, by omega, by omega⟩

theorem beq_self {x : Float} (finite : x.isFinite = true) : (x == x) = true :=
  (beq_iff_rank x x).mpr ⟨number_of_finite finite, number_of_finite finite, rfl⟩

theorem le_trans {x y z : Float} (first : x ≤ y) (second : y ≤ z) : x ≤ z := by
  rw [le_iff_rank] at *
  exact ⟨first.1, second.2.1, Int.le_trans first.2.2 second.2.2⟩

/-- The literals that bound what the map holds are finite and lie around zero. -/
theorem bound_literal : ∀ limit ∈ [(0 : Float), 90, 180, 560],
    limit.isFinite = true ∧ -limit ≤ 0 ∧ 0 ≤ limit := by
  decide +kernel

theorem zero_finite : (0 : Float).isFinite = true := (bound_literal 0 (by simp)).1

/-- Only infinities and what is no number are outside of all finite bounds. -/
theorem finite_of_between {low high x : Float} (lowFinite : low.isFinite = true)
    (highFinite : high.isFinite = true) (above : low ≤ x) (below : x ≤ high) :
    x.isFinite = true := by
  rw [isFinite_iff_rank] at *
  rw [le_iff_rank] at above below
  exact ⟨above.2.1, by omega, by omega⟩

theorem abs_le_iff {x limit : Float} : x.abs ≤ limit ↔ -limit ≤ x ∧ x ≤ limit := by
  simp only [le_iff_rank, isNaN_abs, isNaN_neg, rank_abs, rank_neg]
  constructor
  · rintro ⟨number, bounded, within⟩
    exact ⟨⟨bounded, number, by omega⟩, number, bounded, by omega⟩
  · rintro ⟨⟨bounded, number, above⟩, -, -, below⟩
    exact ⟨number, bounded, by omega⟩

theorem abs_nonneg {x : Float} (finite : x.isFinite = true) : 0 ≤ x.abs := by
  have zero : rank 0 = 0 := rfl
  rw [le_iff_rank, isNaN_abs, rank_abs, zero]
  exact ⟨number_of_finite zero_finite, number_of_finite finite, by omega⟩

/-- A number is clamped into its bounds. -/
theorem clamp_between {low high x : Float} (ordered : low ≤ high) (number : x.isNaN = false) :
    low ≤ Scalar.clamp low high x ∧ Scalar.clamp low high x ≤ high := by
  obtain ⟨lowNumber, highNumber, order⟩ := (le_iff_rank low high).mp ordered
  unfold Scalar.clamp
  simp only [le_iff_rank, lt_iff_rank, number, lowNumber, highNumber, true_and]
  split
  · exact ⟨⟨lowNumber, Int.le_refl _⟩, lowNumber, order⟩
  · split
    · exact ⟨⟨highNumber, order⟩, highNumber, Int.le_refl _⟩
    · exact ⟨⟨number, by omega⟩, number, by omega⟩

/-- What is between the bounds is clamped to itself. -/
theorem clamp_of_between {low high x : Float} (above : low ≤ x) (below : x ≤ high) :
    Scalar.clamp low high x = x := by
  rw [le_iff_rank] at above below
  simp only [Scalar.clamp, lt_iff_rank]
  rw [if_neg (by omega), if_neg (by omega)]

/-- What is clamped between finite bounds is finite, unless it is no number. -/
theorem clamp_finite_iff {low high : Float} (lowFinite : low.isFinite = true)
    (highFinite : high.isFinite = true) (ordered : low ≤ high) (x : Float) :
    (Scalar.clamp low high x).isFinite = true ↔ x.isNaN = false := by
  cases number : x.isNaN with
  | true =>
    have passed : Scalar.clamp low high x = x := by
      simp only [Scalar.clamp, lt_iff_rank, number, Bool.true_eq_false, false_and, and_false,
        ↓reduceIte]
    rw [passed, isFinite_iff_rank, number]
    simp
  | false =>
    obtain ⟨above, below⟩ := clamp_between ordered number
    simp [finite_of_between lowFinite highFinite above below]

/-- The larger of two, one of which is a number, is no less than that one. -/
theorem le_greatest {x y : Float} (number : y.isNaN = false) : y ≤ Scalar.greatest x y := by
  have known : Scalar.isNaN y = false := number
  unfold Scalar.greatest
  rw [known]
  simp only [le_iff_rank, lt_iff_rank, Bool.false_eq_true, ↓reduceIte]
  split
  · rename_i below
    exact ⟨number, below.2.1, by omega⟩
  · exact ⟨number, number, by omega⟩

theorem finite_greatest {x y : Float} (xFinite : x.isFinite = true) (yFinite : y.isFinite = true) :
    (Scalar.greatest x y).isFinite = true := by
  unfold Scalar.greatest
  split
  · exact xFinite
  · split
    · exact xFinite
    · exact yFinite

end DeviceMap.Double
