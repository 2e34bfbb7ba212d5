import DeviceMap.Proofs.Double.Exact

/-! Doubles from decimal literals. A literal whose exact size is that of a
double gives this double, whichever of the ways to compute it is taken. -/
namespace DeviceMap.Double
open Float.Model Float.Model.UnpackedFloat

/-- A positive double with a leading bit in its significand, as its exact size. -/
def IsSize (u : UnpackedFloat) (size : ℚ) : Prop :=
  ∃ m e, ∃ positive : 0 < m, u = .finite .positive m e positive ∧ 2 ^ 52 ≤ m ∧ size = m * 2 ^ e

theorem unpack_ofModel {u : UnpackedFloat} (canonical : Canonical u) :
    (Float.ofModel (.pack u)).toModel.unpack = u := unpack_pack canonical

/-- A whole number of up to 53 bits, moved up to the leading bit. -/
private theorem leading_shift {n : Nat} (positive : 0 < n) (short : n.log2 ≤ 52) :
    2 ^ 52 ≤ n * 2 ^ (52 - n.log2) ∧ n * 2 ^ (52 - n.log2) < 2 ^ 53 := by
  have low := Nat.log2_self_le positive.ne'
  have high := Nat.lt_log2_self (n := n)
  constructor
  · calc 2 ^ 52 = 2 ^ n.log2 * 2 ^ (52 - n.log2) := by rw [← pow_add]; congr 1; omega
      _ ≤ n * 2 ^ (52 - n.log2) := Nat.mul_le_mul_right _ low
  · calc n * 2 ^ (52 - n.log2) < 2 ^ (n.log2 + 1) * 2 ^ (52 - n.log2) :=
        Nat.mul_lt_mul_of_pos_right high (by positivity)
      _ = 2 ^ 53 := by rw [← pow_add]; congr 1; omega

private theorem ofNat_leading {n : Nat} (positive : 0 < n) (short : n.log2 ≤ 52)
    {occupied : 0 < n * 2 ^ (52 - n.log2)}
    (canonical : Canonical (.finite .positive (n * 2 ^ (52 - n.log2)) (n.log2 - 52) occupied)) :
    UnpackedFloat.ofNat .binary64 n =
      .finite .positive (n * 2 ^ (52 - n.log2)) (n.log2 - 52) occupied := by
  have width : (Format.binary64.mantissaBits : Int) = 53 := by decide
  have bottom : Format.binary64.minExponent = -1074 := by decide
  have aim : Format.binary64.targetExponent (totalExponent n 0) = n.log2 - 52 := by
    rw [Format.targetExponent, totalExponent, width, bottom]
    omega
  have amount : (0 - ((n.log2 : Int) - 52)).toNat = 52 - n.log2 := by omega
  have exponent : (0 : Int) - (52 - n.log2 : Nat) = n.log2 - 52 := by omega
  have above : compare (n : Int) 0 = .gt := Int.compare_eq_gt.mpr (by omega)
  simp only [UnpackedFloat.ofNat, UnpackedFloat.ofInt, UnpackedFloat.normalize, above,
    UnpackedFloat.round, aim, decreaseExponent, Int.toNat_natCast, amount, exponent,
    Nat.shiftLeft_eq]
  exact round_exact canonical rfl (le_refl _)

/-- Whole numbers of up to 53 bits are doubles. -/
theorem toFloat_size {n : Nat} (positive : 0 < n) (small : n < 2 ^ 53) :
    IsSize n.toUInt64.toFloat.toModel.unpack n := by
  have short : n.log2 ≤ 52 := by
    have := (Nat.log2_lt positive.ne').mpr small
    omega
  obtain ⟨leading, narrow⟩ := leading_shift positive short
  have occupied : 0 < n * 2 ^ (52 - n.log2) := by omega
  have canonical : Canonical (.finite .positive (n * 2 ^ (52 - n.log2)) (n.log2 - 52) occupied) :=
    ⟨narrow, by omega, by omega, Or.inl leading⟩
  have size : ((n * 2 ^ (52 - n.log2) : Nat) : ℚ) * 2 ^ ((n.log2 : Int) - 52) = n := by
    have shifted := size_shifted n (e := n.log2 - 52) (f := 0) (by omega)
    have amount : (0 - ((n.log2 : Int) - 52)).toNat = 52 - n.log2 := by omega
    rw [amount] at shifted
    simpa using shifted
  have word : n.toUInt64.toNat = n := by
    rw [Nat.toUInt64, UInt64.toNat_ofNat']
    exact Nat.mod_eq_of_lt (by omega)
  refine ⟨_, _, occupied, ?_, leading, size.symm⟩
  change (Float.ofModel (.pack (UnpackedFloat.ofNat .binary64 n.toUInt64.toNat))).toModel.unpack = _
  rw [word, ofNat_leading positive short canonical, unpack_ofModel canonical]

/-- Whether an unpacked double is a power of ten, with whole numbers on both sides. -/
private def isTenfold (k : Nat) : UnpackedFloat → Bool
  | .finite .positive m e _ =>
    decide (2 ^ 52 ≤ m) && decide (-52 ≤ e) && m * 2 ^ (e + 52).toNat == 10 ^ k * 2 ^ 52
  | _ => false

private theorem table_tenfold : ∀ k : Fin Float.exactlyRepresentablePowersOfTen.size,
    isTenfold k Float.exactlyRepresentablePowersOfTen[k].toModel.unpack = true := by
  decide +kernel

/-- The table of powers of ten holds them exactly. -/
theorem power_size {k : Nat} (listed : k < Float.exactlyRepresentablePowersOfTen.size) :
    IsSize Float.exactlyRepresentablePowersOfTen[k].toModel.unpack (10 ^ k) := by
  have tenfold := table_tenfold ⟨k, listed⟩
  change isTenfold k Float.exactlyRepresentablePowersOfTen[k].toModel.unpack = true at tenfold
  generalize Float.exactlyRepresentablePowersOfTen[k].toModel.unpack = u at tenfold
  unfold isTenfold at tenfold
  split at tenfold
  · rename_i m e positive
    simp only [Bool.and_eq_true, decide_eq_true_eq, beq_iff_eq] at tenfold
    obtain ⟨⟨leading, fine⟩, whole⟩ := tenfold
    refine ⟨m, e, positive, rfl, leading, ?_⟩
    have split : e = ((e + 52).toNat : Int) - 52 := by omega
    rw [split, zpow_sub₀ two_ne_zero, zpow_natCast, ← mul_div_assoc, eq_div_iff (by norm_num)]
    exact_mod_cast whole.symm
  · cases tenfold

/-- The table and one exact operation suffice for short decimals. -/
private theorem ofScientific_short {n m : Nat} {k e : Int} {positive : 0 < m}
    (canonical : Canonical (.finite .positive m e positive)) (same : (n : ℚ) * 10 ^ k = m * 2 ^ e)
    (occupied : 0 < n) (short : n < 2 ^ 53)
    (listed : k.natAbs < Float.exactlyRepresentablePowersOfTen.size) :
    (if k < 0 then n.toUInt64.toFloat / Float.exactlyRepresentablePowersOfTen[k.natAbs]
      else n.toUInt64.toFloat * Float.exactlyRepresentablePowersOfTen[k.natAbs]).toModel.unpack =
      .finite .positive m e positive := by
  obtain ⟨m₁, e₁, positive₁, left, leading₁, size₁⟩ := toFloat_size occupied short
  obtain ⟨m₂, e₂, positive₂, right, leading₂, size₂⟩ := power_size listed
  split
  · have value : (m₁ : ℚ) * 2 ^ e₁ = m * 2 ^ e * (m₂ * 2 ^ e₂) := by
      rw [← size₁, ← size₂, ← same, mul_assoc, ← zpow_natCast, ← zpow_add₀ (by norm_num)]
      have : k + (k.natAbs : Int) = 0 := by omega
      rw [this, zpow_zero, mul_one]
    change (Float.ofModel (.pack (UnpackedFloat.div .binary64 _ _))).toModel.unpack = _
    rw [left, right, div_exact canonical value, unpack_ofModel canonical]
  · have value : (m₁ : ℚ) * 2 ^ e₁ * (m₂ * 2 ^ e₂) = m * 2 ^ e := by
      have : k = (k.natAbs : Int) := by omega
      rw [← size₁, ← size₂, ← same, this, zpow_natCast, Int.natAbs_natCast]
    have wide : 2 ^ 52 ≤ m₁ * m₂ := leading₁.trans (Nat.le_mul_of_pos_right m₁ positive₂)
    change (Float.ofModel (.pack (UnpackedFloat.mul .binary64 _ _))).toModel.unpack = _
    rw [left, right, mul_exact canonical value wide, unpack_ofModel canonical]

/-- Neither beyond all doubles nor below the least positive one. -/
private theorem power_range {sign : Sign} {n m : Nat} {k e : Int} {positive : 0 < m}
    (canonical : Canonical (.finite sign m e positive)) (same : (n : ℚ) * 10 ^ k = m * 2 ^ e)
    (occupied : 0 < n) : k ≤ 1024 ∧ -(1075 + (n.log2 : Int)) ≤ k := by
  obtain ⟨narrow, least, most, -⟩ := canonical
  have narrow : (m : ℚ) < 2 ^ (53 : ℤ) := by exact_mod_cast narrow
  have some : (1 : ℚ) ≤ m := by exact_mod_cast positive
  have one : (1 : ℚ) ≤ n := by exact_mod_cast occupied
  have below : (n : ℚ) < 2 ^ ((n.log2 : Int) + 1) := by exact_mod_cast Nat.lt_log2_self (n := n)
  have unit : (0 : ℚ) < 2 ^ e := by positivity
  constructor
  · by_contra! large
    have chain : (2 : ℚ) ^ k < 2 ^ (1024 : ℤ) := by
      calc (2 : ℚ) ^ k ≤ 10 ^ k := zpow_le_zpow_left₀ (by omega) (by norm_num) (by norm_num)
        _ ≤ n * 10 ^ k := le_mul_of_one_le_left (by positivity) one
        _ = m * 2 ^ e := same
        _ < 2 ^ (53 : ℤ) * 2 ^ e := mul_lt_mul_of_pos_right narrow unit
        _ = 2 ^ (53 + e) := (zpow_add₀ two_ne_zero _ _).symm
        _ ≤ 2 ^ (1024 : ℤ) := zpow_le_zpow_right₀ (by norm_num) (by omega)
    have := (zpow_lt_zpow_iff_right₀ (by norm_num : (1 : ℚ) < 2)).mp chain
    omega
  · by_contra! small
    have down : (10 : ℚ) ^ k ≤ 2 ^ k := by
      have up : (2 : ℚ) ^ (-k) ≤ 10 ^ (-k) :=
        zpow_le_zpow_left₀ (by omega) (by norm_num) (by norm_num)
      rw [zpow_neg, zpow_neg] at up
      exact (inv_le_inv₀ (by positivity) (by positivity)).mp up
    have chain : (2 : ℚ) ^ (-1074 : ℤ) < 2 ^ ((n.log2 : Int) + 1 + k) := by
      calc (2 : ℚ) ^ (-1074 : ℤ) ≤ 2 ^ e := zpow_le_zpow_right₀ (by norm_num) least
        _ ≤ m * 2 ^ e := le_mul_of_one_le_left unit.le some
        _ = n * 10 ^ k := same.symm
        _ ≤ n * 2 ^ k := mul_le_mul_of_nonneg_left down (by positivity)
        _ < 2 ^ ((n.log2 : Int) + 1) * 2 ^ k := mul_lt_mul_of_pos_right below (by positivity)
        _ = 2 ^ ((n.log2 : Int) + 1 + k) := (zpow_add₀ two_ne_zero _ _).symm
    have := (zpow_lt_zpow_iff_right₀ (by norm_num : (1 : ℚ) < 2)).mp chain
    omega

/-- Any other decimal is computed from whole numbers of any length. -/
private theorem ofScientific_long {n m : Nat} {k e : Int} {positive : 0 < m}
    (canonical : Canonical (.finite .positive m e positive)) (same : (n : ℚ) * 10 ^ k = m * 2 ^ e)
    (occupied : 0 < n) :
    UnpackedFloat.ofScientific .binary64 n k = .finite .positive m e positive := by
  obtain ⟨notLarge, notSmall⟩ := power_range canonical same occupied
  have spread : (2 : Int) ^ Format.binary64.exponentBits = 2048 := by decide
  unfold UnpackedFloat.ofScientific
  rw [dif_neg occupied.ne', if_neg (by omega), if_neg (by omega)]
  split
  · rename_i upward
    have value : ((n <<< 53 : Nat) : ℚ) * 2 ^ (-53 : ℤ) * ((10 ^ k.toNat : Nat) * 2 ^ (0 : ℤ)) =
        m * 2 ^ e := by
      have power : (10 : ℚ) ^ k = 10 ^ k.toNat := by
        rw [← zpow_natCast, Int.toNat_of_nonneg upward]
      rw [← same, power, Nat.shiftLeft_eq]
      push_cast
      norm_num
      ring
    have wide : 2 ^ 52 ≤ n <<< 53 * 10 ^ k.toNat := by
      rw [Nat.shiftLeft_eq]
      have : 0 < 10 ^ k.toNat := by positivity
      nlinarith
    exact mul_exact canonical value wide
  · rename_i downward
    have value : (n : ℚ) * 2 ^ (0 : ℤ) = m * 2 ^ e * ((10 ^ (-k).toNat : Nat) * 2 ^ (0 : ℤ)) := by
      have back : k + ((-k).toNat : Int) = 0 := by omega
      push_cast
      rw [← same, ← zpow_natCast, mul_one, mul_one, mul_assoc, ← zpow_add₀ (by norm_num), back,
        zpow_zero, mul_one]
    exact div_exact canonical value

/-- A decimal whose size is that of a double is read as this double. -/
theorem ofScientific_exact {x : Float} {n m : Nat} {k e : Int} {positive : 0 < m}
    (unpacked : x.toModel.unpack = .finite .positive m e positive)
    (same : (n : ℚ) * 10 ^ k = m * 2 ^ e) :
    Float.ofScientific n (k < 0) k.natAbs = x := by
  have canonical := canonical_model x
  rw [unpacked] at canonical
  have occupied : 0 < n := by
    apply Nat.pos_of_ne_zero
    rintro rfl
    have : (0 : ℚ) < m * 2 ^ e := by positivity
    simp [← same] at this
  have power :
      (if decide (k < 0) = true then Int.negOfNat k.natAbs else Int.ofNat k.natAbs) = k := by
    cases k with
    | ofNat size => simp
    | negSucc size => simp [Int.negSucc_lt_zero, Int.negOfNat]
  apply unpack_injective
  rw [unpacked]
  unfold Float.ofScientific
  split
  · rename_i short
    have listed : k.natAbs < Float.exactlyRepresentablePowersOfTen.size :=
      Nat.lt_succ_of_le short.2
    have value := ofScientific_short canonical same occupied short.1 listed
    simp only [decide_eq_true_eq]
    exact value
  · rw [power]
    change (Float.ofModel (.pack (UnpackedFloat.ofScientific .binary64 n k))).toModel.unpack = _
    rw [ofScientific_long canonical same occupied, unpack_ofModel canonical]

end DeviceMap.Double
