import DeviceMap.Proofs.Double.Bounds
import DeviceMap.Proofs.Double.Scientific

/-! What stays a number and what stays finite. Rounding may lose the size of a
result or its last bits, but it makes no number into none, and a whole number of
one machine word is rounded to a finite double. -/
namespace DeviceMap.Double
open Float.Model Float.Model.UnpackedFloat

theorem isNaN_rounded (sign : Sign) (m : Nat) (e : Int) (accuracy : Accuracy) :
    (roundWithAccuracy .binary64 sign m e accuracy).isNaN = false := by
  unfold roundWithAccuracy
  dsimp only
  split <;> rfl

/-- A product with a finite number other than zero is a number if the other
factor is one. -/
theorem isNaN_mul (x : Float) {y : Float} (finite : y.isFinite = true) (occupied : rank y ≠ 0) :
    (x * y).isNaN = x.isNaN := by
  change (UnpackedFloat.unpack .binary64 (UnpackedFloat.pack .binary64
    (UnpackedFloat.mul .binary64 x.toModel.unpack y.toModel.unpack))).isNaN =
      x.toModel.unpack.isNaN
  change y.toModel.unpack.isFinite = true at finite
  rw [isNaN_pack]
  rw [rank] at occupied
  generalize y.toModel.unpack = v at finite occupied
  cases v with
  | notANumber | infinity sign => cases finite
  | zero sign => exact absurd rfl occupied
  | finite sign m e positive =>
    cases x.toModel.unpack with
    | notANumber | infinity sign | zero sign => rfl
    | finite sign m e positive => exact isNaN_rounded ..

private theorem shifted_mantissa (extended : ExtendedMantissa) (k : Nat) :
    (extended >>> k).mantissa = extended.mantissa / 2 ^ k := by
  change (k.repeat ExtendedMantissa.shiftRightOne extended).mantissa = _
  induction k with
  | zero => exact (Nat.div_one _).symm
  | succ k ih =>
    rw [pow_succ, ← Nat.div_div_eq_div_mul, ← ih]
    rfl

private theorem rounded_le (extended : ExtendedMantissa) :
    extended.roundedMantissa ≤ extended.mantissa + 1 := by
  unfold ExtendedMantissa.roundedMantissa Accuracy.roundToNearestEven
  split <;> omega

/-- Also zero has no more bits than there is room for. -/
theorem log_le {n k : Nat} (below : n < 2 ^ (k + 1)) : n.log2 ≤ k := by
  rcases Nat.eq_zero_or_pos n with rfl | positive
  · simp
  · exact Nat.lt_succ_iff.mp ((Nat.log2_lt positive.ne').mpr below)

/-- A shift leaves the bits of one significand, and drops no more than it has to. -/
private theorem shift_bounds (m : Nat) {e : Int} (accuracy : Accuracy) (least : -1074 ≤ e) :
    (shiftToTargetExponent .binary64 m e accuracy).1.mantissa < 2 ^ 53 ∧
      e ≤ (shiftToTargetExponent .binary64 m e accuracy).2 ∧
      (shiftToTargetExponent .binary64 m e accuracy).2 ≤ max e (m.log2 + e - 52) := by
  have width : (Format.binary64.mantissaBits : Int) = 53 := by decide
  have bottom : Format.binary64.minExponent = -1074 := by decide
  have aim : Format.binary64.targetExponent (totalExponent m e) =
      max ((m.log2 : Int) + 1 + e - 53) (-1074) := by
    rw [Format.targetExponent, totalExponent, width, bottom]
  have whole : (ExtendedMantissa.ofMantissaAndAccuracy m accuracy).mantissa = m := by
    unfold ExtendedMantissa.ofMantissaAndAccuracy
    split <;> rfl
  simp only [shiftToTargetExponent, shiftToExponent, aim, shifted_mantissa, whole]
  refine ⟨?_, by omega, by omega⟩
  rw [Nat.div_lt_iff_lt_mul (by positivity), ← pow_add]
  exact Nat.lt_log2_self.trans_le (Nat.pow_le_pow_right (by decide) (by omega))

/-- What is below the largest doubles by one bit is rounded to a finite double. -/
theorem isFinite_rounded {sign : Sign} {m : Nat} {e : Int} (accuracy : Accuracy)
    (least : -1074 ≤ e) (low : e ≤ 970) (small : m.log2 + e ≤ 1022) :
    (UnpackedFloat.unpack .binary64 (UnpackedFloat.pack .binary64
      (roundWithAccuracy .binary64 sign m e accuracy))).isFinite = true := by
  have first := shift_bounds m accuracy least
  unfold roundWithAccuracy
  dsimp only
  generalize shiftToTargetExponent .binary64 m e accuracy = shifted at first
  obtain ⟨narrow, above, below⟩ := first
  have carried : shifted.1.roundedMantissa < 2 ^ 54 := by
    have := rounded_le shifted.1
    omega
  have log := log_le carried
  have second := shift_bounds shifted.1.roundedMantissa .exact (least.trans above)
  split
  · cases sign <;> rfl
  · exact isFinite_pack sign _ (by omega)

/-- Whole numbers of up to 53 bits are converted as words are. -/
theorem ofNat_short {n : Nat} (positive : 0 < n) (short : n < 2 ^ 53) :
    Float.ofNat n = n.toUInt64.toFloat := by
  obtain ⟨m, e, occupied, unpacked, -, size⟩ := toFloat_size positive short
  have same : (n : ℚ) * 10 ^ (0 : Int) = m * 2 ^ e := by simpa using size
  exact ofScientific_exact unpacked same

/-- The whole numbers of a word are finite doubles, if not all of them exactly. -/
theorem ofNat_finite {n : Nat} (word : n < 2 ^ 64) : (Float.ofNat n).isFinite = true := by
  rcases Nat.eq_zero_or_pos n with rfl | positive
  · exact zero_finite
  · by_cases short : n < 2 ^ 53
    · obtain ⟨m, e, occupied, unpacked, -, -⟩ := toFloat_size positive short
      rw [ofNat_short positive short]
      change n.toUInt64.toFloat.toModel.unpack.isFinite = true
      rw [unpacked]
      rfl
    · have long : Float.ofNat n = Float.ofModel (.ofScientific n 0) :=
        dif_neg fun both => short both.1
      have spread : (2 : Int) ^ Format.binary64.exponentBits = 2048 := by decide
      have computed : UnpackedFloat.ofScientific .binary64 n 0 =
          roundWithAccuracy .binary64 .positive (n <<< 53 * 1) (-53 + 0) .exact := by
        unfold UnpackedFloat.ofScientific
        rw [dif_neg positive.ne', if_neg (by omega), if_neg (by omega), if_pos (le_refl 0)]
        rfl
      rw [long]
      change (UnpackedFloat.unpack .binary64 (UnpackedFloat.pack .binary64
        (UnpackedFloat.ofScientific .binary64 n 0))).isFinite = true
      rw [computed]
      have bits : n.log2 < 64 := (Nat.log2_lt positive.ne').mpr word
      have shifted : (n <<< 53 * 1).log2 = n.log2 + 53 := by
        rw [Nat.mul_one, Nat.shiftLeft_eq, log_shifted positive]
      exact isFinite_rounded .exact (by omega) (by omega) (by omega)

theorem ofInt_finite {n : Int} (word : -2 ^ 64 < n ∧ n < 2 ^ 64) :
    (Float.ofInt n).isFinite = true := by
  cases n with
  | ofNat n => exact ofNat_finite (by simpa using word.2)
  | negSucc n => exact finite_neg (ofNat_finite (by omega))

/-- The nearest number of units has no more bits than the significand. -/
theorem units_short {m : Nat} (narrow : m < 2 ^ 53) (k : Nat) :
    (2 * m + Nat.pow 2 k) / (2 * Nat.pow 2 k) < 2 ^ 53 := by
  have unit : 0 < Nat.pow 2 k := Nat.pow_pos (by decide)
  rw [Nat.div_lt_iff_lt_mul (by omega)]
  nlinarith

theorem isNaN_round (x : Float) : (round x).isNaN = x.isNaN := by
  have canonical := canonical_model x
  have form : x.isNaN = x.toModel.unpack.isNaN := rfl
  rw [form]
  unfold round
  split
  · rename_i sign m e positive unpacked
    rw [unpacked] at canonical ⊢
    split
    · have small := units_short canonical.1 e.natAbs
      cases sign with
      | positive => exact number_of_finite (ofNat_finite (by omega))
      | negative =>
        rw [isNaN_neg]
        exact number_of_finite (ofNat_finite (by omega))
    · rw [form, unpacked]
  · rw [form]

end DeviceMap.Double
