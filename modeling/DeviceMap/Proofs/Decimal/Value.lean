import DeviceMap.Decimal
import DeviceMap.Proofs.Double.Scientific

/-! The size of a decimal as an exact number. Reading depends on the size and
the sign alone, and a decimal with the size of a double is read as this double. -/
namespace DeviceMap.Decimal
open Double
open Float.Model Float.Model.UnpackedFloat

/-- The exact number that a decimal stands for, without its sign. -/
def size (d : Decimal) : ℚ := d.coefficient * 10 ^ d.exponent

theorem size_eq_zero {d : Decimal} : d.size = 0 ↔ d.coefficient = 0 := by
  have power : (10 : ℚ) ^ d.exponent ≠ 0 := zpow_ne_zero _ (by norm_num)
  simp [size, power]

private theorem moveZeros_size (fuel coefficient : Nat) (exponent : Int) :
    ((moveZeros fuel coefficient exponent).1 : ℚ) * 10 ^ (moveZeros fuel coefficient exponent).2 =
      coefficient * 10 ^ exponent := by
  induction fuel generalizing coefficient exponent with
  | zero => rfl
  | succ fuel ih =>
    unfold moveZeros
    split
    · rename_i even
      obtain ⟨tenth, rfl⟩ := Nat.dvd_of_mod_eq_zero even
      rw [ih, Nat.mul_div_cancel_left _ (by decide), zpow_add₀ (by norm_num)]
      push_cast
      ring
    · rfl

/-- There is fuel for one zero for each bit, which is more than there are zeros. -/
private theorem moveZeros_last (fuel coefficient : Nat) (exponent : Int)
    (positive : 0 < coefficient) (enough : coefficient < 2 ^ fuel) :
    (moveZeros fuel coefficient exponent).1 % 10 ≠ 0 := by
  induction fuel generalizing coefficient exponent with
  | zero => omega
  | succ fuel ih =>
    unfold moveZeros
    split
    · exact ih _ _ (by omega) (by rw [pow_succ] at enough; omega)
    · assumption

@[simp] theorem normal_negative (d : Decimal) : d.normal.negative = d.negative := by
  unfold normal
  split <;> rfl

@[simp] theorem normal_size (d : Decimal) : d.normal.size = d.size := by
  unfold normal
  split
  · rename_i zero
    simp [size, zero]
  · exact moveZeros_size _ _ _

private theorem normal_last {d : Decimal} (occupied : d.coefficient ≠ 0) :
    d.normal.coefficient % 10 ≠ 0 := by
  unfold normal
  rw [if_neg occupied]
  exact moveZeros_last _ _ _ (Nat.pos_of_ne_zero occupied) Nat.lt_log2_self

private theorem tenfold_unique {m n : Nat} {i j : Int} (last : m % 10 ≠ 0)
    (same : (m : ℚ) * 10 ^ i = n * 10 ^ j) (order : i ≤ j) : m = n ∧ i = j := by
  obtain ⟨more, rfl⟩ := Int.le.dest order
  have whole : m = n * 10 ^ more := by
    rw [zpow_add₀ (by norm_num), zpow_natCast, mul_comm ((10 : ℚ) ^ i), ← mul_assoc] at same
    exact_mod_cast mul_right_cancel₀ (zpow_ne_zero i (by norm_num)) same
  cases more with
  | zero => simpa using whole
  | succ more =>
    rw [pow_succ, ← mul_assoc] at whole
    omega

/-- Decimals with one sign and one size have one normal form. -/
theorem normal_unique {c d : Decimal} (negative : c.negative = d.negative)
    (same : c.size = d.size) : c.normal = d.normal := by
  by_cases zero : c.coefficient = 0
  · have other : d.coefficient = 0 := by rwa [← size_eq_zero, ← same, size_eq_zero]
    simp [normal, zero, other, negative]
  · have other : d.coefficient ≠ 0 := by rwa [ne_eq, ← size_eq_zero, ← same, size_eq_zero]
    have values : (c.normal.coefficient : ℚ) * 10 ^ c.normal.exponent =
        d.normal.coefficient * 10 ^ d.normal.exponent := by
      have sizes : c.normal.size = d.normal.size := by simpa using same
      exact sizes
    have parts : c.normal.coefficient = d.normal.coefficient ∧
        c.normal.exponent = d.normal.exponent := by
      rcases le_total c.normal.exponent d.normal.exponent with order | order
      · exact tenfold_unique (normal_last zero) values order
      · obtain ⟨coefficient, exponent⟩ := tenfold_unique (normal_last other) values.symm order
        exact ⟨coefficient.symm, exponent.symm⟩
    have sign : c.normal.negative = d.normal.negative := by simpa using negative
    cases left : c.normal
    cases right : d.normal
    simp_all

/-- Decimals of one value are read alike, however their digits are split
between coefficient and exponent. -/
theorem toFloat_of_size {c d : Decimal} (negative : c.negative = d.negative)
    (same : c.size = d.size) : c.toFloat = d.toFloat := by
  unfold toFloat
  rw [normal_unique negative same]

/-- A decimal with the sign and the size of a double is read as this double. -/
theorem toFloat_exact {d : Decimal} {x : Float} {sign : Sign} {m : Nat} {e : Int}
    {positive : 0 < m} (unpacked : x.toModel.unpack = .finite sign m e positive)
    (negative : d.negative = true ↔ sign = .negative) (same : d.size = m * 2 ^ e) :
    d.toFloat = x := by
  have values : (d.normal.coefficient : ℚ) * 10 ^ d.normal.exponent = m * 2 ^ e := by
    rw [← same, ← normal_size d]
    rfl
  unfold toFloat
  cases sign with
  | positive =>
    have plain : d.normal.negative = false := by simpa using negative
    simp only [plain, Bool.false_eq_true, ↓reduceIte]
    exact ofScientific_exact unpacked values
  | negative =>
    have minus : d.normal.negative = true := by simpa using negative
    have opposite : (-x).toModel.unpack = .finite .positive m e positive := by
      rw [unpack_neg, unpacked]
      rfl
    simp only [minus, ↓reduceIte]
    rw [ofScientific_exact opposite values]
    apply unpack_injective
    rw [unpack_neg, opposite, unpacked]
    rfl

end DeviceMap.Decimal
