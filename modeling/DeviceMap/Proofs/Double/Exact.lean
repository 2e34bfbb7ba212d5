import DeviceMap.Proofs.Double.Rank

/-! Arithmetic whose exact result is a double: rounding then changes nothing.
A size is a significand times a power of two; the same size may be given with
any finer exponent before it is rounded. -/
namespace DeviceMap.Double
open Float.Model Float.Model.UnpackedFloat

theorem size_shifted (n : Nat) {e f : Int} (finer : e ≤ f) :
    ((n * 2 ^ (f - e).toNat : Nat) : ℚ) * 2 ^ e = n * 2 ^ f := by
  push_cast
  rw [mul_assoc, ← zpow_natCast, ← zpow_add₀ two_ne_zero]
  congr 2
  omega

/-- Equal sizes, the coarser exponent on the right. -/
theorem shifted_of_size {m n : Nat} {e f : Int} (same : (m : ℚ) * 2 ^ e = n * 2 ^ f)
    (finer : e ≤ f) : m = n * 2 ^ (f - e).toNat := by
  rw [← size_shifted n finer] at same
  exact_mod_cast mul_right_cancel₀ (zpow_ne_zero e two_ne_zero) same

theorem log_shifted {m : Nat} (positive : 0 < m) (k : Nat) : (m * 2 ^ k).log2 = m.log2 + k := by
  have low := Nat.log2_self_le positive.ne'
  have high := Nat.lt_log2_self (n := m)
  rw [Nat.log2_eq_iff (by positivity)]
  constructor
  · rw [pow_add]
    exact Nat.mul_le_mul_right _ low
  · rw [show m.log2 + k + 1 = m.log2 + 1 + k by omega, pow_add]
    exact Nat.mul_lt_mul_of_pos_right high (by positivity)

/-- The place of the leading bit depends on the size alone. -/
theorem log_of_size {m n : Nat} {e f : Int} (left : 0 < m) (right : 0 < n)
    (same : (m : ℚ) * 2 ^ e = n * 2 ^ f) : (m.log2 : Int) + e = n.log2 + f := by
  rcases le_total e f with finer | finer
  · rw [shifted_of_size same finer, log_shifted right]
    omega
  · rw [shifted_of_size same.symm finer, log_shifted left]
    omega

/-- A canonical size has the exponent that rounding aims at. -/
theorem target_canonical {sign : Sign} {m : Nat} {e : Int} {positive : 0 < m}
    (canonical : Canonical (.finite sign m e positive)) :
    Format.binary64.targetExponent (totalExponent m e) = e := by
  obtain ⟨narrow, least, -, shape⟩ := canonical
  have log : m.log2 < 53 := (Nat.log2_lt positive.ne').mpr narrow
  have width : (Format.binary64.mantissaBits : Int) = 53 := by decide
  have bottom : Format.binary64.minExponent = -1074 := by decide
  rw [Format.targetExponent, totalExponent, width, bottom]
  rcases shape with normal | subnormal
  · have : 52 ≤ m.log2 := (Nat.le_log2 positive.ne').mpr normal
    omega
  · omega

private theorem shift_zeros (m k : Nat) :
    (ExtendedMantissa.mk (m * 2 ^ k) false false) >>> k = ⟨m, false, false⟩ := by
  change k.repeat ExtendedMantissa.shiftRightOne _ = _
  induction k generalizing m with
  | zero => simp [Nat.repeat]
  | succ k ih =>
    have halved : m * 2 ^ (k + 1) = (2 * m) * 2 ^ k := by ring
    rw [Nat.repeat, halved, ih]
    simp [ExtendedMantissa.shiftRightOne]

private theorem shift_exact {sign : Sign} {m : Nat} {e : Int} {positive : 0 < m}
    (canonical : Canonical (.finite sign m e positive)) (k : Nat) :
    shiftToTargetExponent .binary64 (m * 2 ^ k) (e - k) .exact = (⟨m, false, false⟩, e) := by
  have total : totalExponent (m * 2 ^ k) (e - k) = totalExponent m e := by
    rw [totalExponent, totalExponent, log_shifted positive]
    push_cast
    ring
  have amount : (e - (e - (k : Int))).toNat = k := by omega
  rw [shiftToTargetExponent, total, target_canonical canonical, shiftToExponent, amount]
  simp only [ExtendedMantissa.ofMantissaAndAccuracy, shift_zeros, sub_add_cancel]

/-- Rounding gives a canonical size back. -/
theorem round_exact {sign : Sign} {m n : Nat} {e f : Int} {positive : 0 < n}
    (canonical : Canonical (.finite sign n f positive)) (same : (m : ℚ) * 2 ^ e = n * 2 ^ f)
    (finer : e ≤ f) :
    roundWithAccuracy .binary64 sign m e .exact = .finite sign n f positive := by
  have exponent : e = f - (f - e).toNat := by omega
  have again := shift_exact canonical 0
  simp only [pow_zero, mul_one, Nat.cast_zero, sub_zero] at again
  rw [shifted_of_size same finer, exponent]
  simp only [roundWithAccuracy, Int.sub_sub_self, Int.toNat_natCast, shift_exact canonical,
    ExtendedMantissa.roundedMantissa, ExtendedMantissa.accuracy, Accuracy.roundToNearestEven,
    again, positive.ne', ↓reduceDIte]

/-- A product that is a double is found, given that no bit of it is missing. -/
theorem mul_exact {m₁ m₂ n : Nat} {e₁ e₂ f : Int} {positive₁ : 0 < m₁} {positive₂ : 0 < m₂}
    {positive : 0 < n} (canonical : Canonical (.finite .positive n f positive))
    (same : (m₁ : ℚ) * 2 ^ e₁ * (m₂ * 2 ^ e₂) = n * 2 ^ f) (wide : 2 ^ 52 ≤ m₁ * m₂) :
    UnpackedFloat.mul .binary64 (.finite .positive m₁ e₁ positive₁)
      (.finite .positive m₂ e₂ positive₂) = .finite .positive n f positive := by
  have product : ((m₁ * m₂ : Nat) : ℚ) * 2 ^ (e₁ + e₂) = n * 2 ^ f := by
    rw [zpow_add₀ two_ne_zero, ← same]
    push_cast
    ring
  have logs := log_of_size (Nat.mul_pos positive₁ positive₂) positive product
  have finer : e₁ + e₂ ≤ f := by
    have := (Nat.le_log2 (by omega)).mpr wide
    have := (Nat.log2_lt positive.ne').mpr canonical.1
    omega
  exact round_exact canonical product finer

private theorem log_mul_le {m n : Nat} (left : 0 < m) (right : 0 < n) :
    (m * n).log2 ≤ m.log2 + n.log2 + 1 := by
  have bound : m * n < 2 ^ (m.log2 + 1) * 2 ^ (n.log2 + 1) :=
    Nat.mul_lt_mul'' Nat.lt_log2_self Nat.lt_log2_self
  rw [← pow_add] at bound
  have := (Nat.log2_lt (Nat.mul_pos left right).ne').mpr bound
  omega

/-- A quotient that is a double leaves no remainder. -/
theorem div_exact {m₁ m₂ n : Nat} {e₁ e₂ f : Int} {positive₁ : 0 < m₁} {positive₂ : 0 < m₂}
    {positive : 0 < n} (canonical : Canonical (.finite .positive n f positive))
    (same : (m₁ : ℚ) * 2 ^ e₁ = n * 2 ^ f * (m₂ * 2 ^ e₂)) :
    UnpackedFloat.div .binary64 (.finite .positive m₁ e₁ positive₁)
      (.finite .positive m₂ e₂ positive₂) = .finite .positive n f positive := by
  have product : (m₁ : ℚ) * 2 ^ (e₁ - e₂) = (n * m₂ : Nat) * 2 ^ f := by
    rw [zpow_sub₀ two_ne_zero, ← mul_div_assoc, same]
    field_simp
    push_cast
    ring
  have logs := log_of_size positive₁ (Nat.mul_pos positive positive₂) product
  have spread := log_mul_le positive positive₂
  have aim := target_canonical canonical
  -- The quotient is computed with at least as many bits as its exact value needs.
  generalize chosen : min (e₁ - e₂)
    (Format.binary64.targetExponent (totalExponent m₁ e₁ - totalExponent m₂ e₂)) = target
  have finer : target ≤ f := by
    simp only [Format.targetExponent, totalExponent] at aim chosen
    omega
  have shifted : m₁ * 2 ^ (e₁ - e₂ - target).toNat = n * 2 ^ (f - target).toNat * m₂ := by
    have coarse : target ≤ e₁ - e₂ := by omega
    have same : ((m₁ * 2 ^ (e₁ - e₂ - target).toNat : Nat) : ℚ) * 2 ^ target =
        (n * m₂ : Nat) * 2 ^ f := by
      rw [← product, size_shifted m₁ coarse]
    rw [shifted_of_size same finer]
    ring
  simp only [UnpackedFloat.div, divCore, chosen, Nat.shiftLeft_eq, shifted,
    Nat.mul_div_cancel _ positive₂, Nat.mul_mod_left, accuracyOfFraction, ↓reduceIte]
  exact round_exact canonical (size_shifted n finer) finer

end DeviceMap.Double
