import Mathlib
import DeviceMap.Scalar.Double

/-! The order of doubles through whole numbers. A double that is a number has a
rank: its position among all doubles, counted from zero outwards, in which both
zeros share a place and the infinities are the ends. Comparison is comparison
of ranks, so facts about bounds are linear arithmetic. -/
namespace DeviceMap.Double
open Float.Model Float.Model.UnpackedFloat

/-- What unpacking the bits of a double can give. A significand without its
leading bit occurs only with the least exponent. -/
def Canonical : UnpackedFloat → Prop
  | .finite _ significand exponent _ =>
    significand < 2 ^ 53 ∧ -1074 ≤ exponent ∧ exponent ≤ 971 ∧
      (2 ^ 52 ≤ significand ∨ exponent = -1074)
  | _ => True

/-- The place of an unpacked number. With one exponent more, the significands
start where those of the exponent before have ended. -/
def place : UnpackedFloat → Int
  | .notANumber | .zero _ => 0
  | .infinity sign => sign.apply (2047 * 2 ^ 52)
  | .finite sign significand exponent _ => sign.apply ((exponent + 1074) * 2 ^ 52 + significand)

private theorem leading_bit (v : BitVec 52) : (1#1 ++ v).toNat = 2 ^ 52 + v.toNat := by
  have disjoint := Nat.two_pow_add_eq_or_of_lt v.isLt 1
  rw [BitVec.toNat_append, Nat.shiftLeft_eq, Nat.mul_comm]
  exact disjoint.symm

theorem canonical_unpack (bits : BitVec Format.binary64.numBits) :
    Canonical (UnpackedFloat.unpack .binary64 bits) := by
  have bias : (Format.binary64.exponentBias : Int) = 1023 := by decide
  have exponentBound : (unpackExponent bits).toNat < 2 ^ 11 := (unpackExponent bits).isLt
  have significandBound : (unpackMantissa bits).toNat < 2 ^ 52 := (unpackMantissa bits).isLt
  simp only [UnpackedFloat.unpack]
  split
  · split <;> trivial
  · rename_i bounded
    have notFull : (unpackExponent bits).toNat ≠ 2047 := fun full =>
      bounded (BitVec.eq_of_toNat_eq full)
    split
    · rename_i least
      split
      · trivial
      · have zero : (unpackExponent bits).toNat = 0 := congrArg BitVec.toNat least
        simp only [Canonical, zero, bias]
        omega
    · rename_i normal
      have notZero : (unpackExponent bits).toNat ≠ 0 := fun zero =>
        normal (BitVec.eq_of_toNat_eq zero)
      have significand := leading_bit (unpackMantissa bits)
      simp only [Canonical, bias]
      omega

private theorem unpack_sign {format : Format} (sign : Sign)
    (exponent : BitVec format.exponentBits)
    (significand : BitVec format.mantissaBitsWithoutImplicit) :
    Sign.ofBitVec (unpackSign (packComponents format sign exponent significand)) = sign := by
  have bit : unpackSign (packComponents format sign exponent significand) = sign.toBitVec := by
    ext i bound
    obtain rfl : i = 0 := by omega
    simp [unpackSign, packComponents, BitVec.getLsbD_append, BitVec.getElem_append]
  rw [bit]
  cases sign <;> rfl

private theorem unpack_components (sign : Sign) (exponent : BitVec 11) (significand : BitVec 52) :
    UnpackedFloat.unpack .binary64 (packComponents .binary64 sign exponent significand) =
      if exponent = -1#11 then if significand = 0#52 then .infinity sign else .notANumber
      else if exponent = 0#11 then
        if h : significand = 0#52 then .zero sign
        else .finite sign significand.toNat (exponent.toNat - (1023 + 52) + 1)
          (by simpa [BitVec.toNat_pos, BitVec.pos_iff_ne_zero])
      else .finite sign (1#1 ++ significand).toNat (exponent.toNat - (1023 + 52))
        (by rw [leading_bit]; omega) := by
  have bias : (Format.binary64.exponentBias : Int) = 1023 := by decide
  simp only [UnpackedFloat.unpack, unpackMantissa_packComponents, unpackExponent_packComponents,
    unpack_sign, bias]
  rfl

/-- Packing loses nothing of what unpacking gave. -/
theorem unpack_pack {u : UnpackedFloat} (canonical : Canonical u) :
    UnpackedFloat.unpack .binary64 (UnpackedFloat.pack .binary64 u) = u := by
  cases u with
  | notANumber => rfl
  | infinity sign => cases sign <;> rfl
  | zero sign => cases sign <;> rfl
  | finite sign significand exponent positive =>
    obtain ⟨narrow, least, most, shape⟩ := canonical
    have bias : (Format.binary64.exponentBias : Int) = 1023 := by decide
    have width : Format.binary64.mantissaBits = 53 := by decide
    have log : significand.log2 < 53 := (Nat.log2_lt (by omega)).mpr narrow
    simp only [UnpackedFloat.pack, bias, width]
    generalize stored : (exponent + 1023 + ((52 : Nat) : Int)).toNat = biased
    have range : 0 < biased ∧ biased < 2047 ∧ (biased : Int) = exponent + 1075 := by omega
    rw [if_neg (by omega)]
    rcases Nat.lt_or_ge significand (2 ^ 52) with low | high
    · have short : significand.log2 < 52 := (Nat.log2_lt (by omega)).mpr low
      have kept : (BitVec.ofNat 52 significand).toNat = significand :=
        Nat.mod_eq_of_lt low
      have occupied : BitVec.ofNat 52 significand ≠ 0#52 := by
        intro empty
        have : significand = 0 := by simpa [kept] using congrArg BitVec.toNat empty
        omega
      rw [if_neg (by omega), unpack_components, if_neg (by decide), if_pos rfl, dif_neg occupied]
      have bottom : exponent = -1074 := by omega
      simp [kept, bottom]
    · have full : 52 ≤ significand.log2 := (Nat.le_log2 (by omega)).mpr high
      have kept : (BitVec.ofNat 11 biased).toNat = biased := Nat.mod_eq_of_lt (by omega)
      have notFull : BitVec.ofNat 11 biased ≠ -1#11 := by
        intro ones
        have : biased = 2047 := by simpa [kept] using congrArg BitVec.toNat ones
        omega
      have notZero : BitVec.ofNat 11 biased ≠ 0#11 := by
        intro zero
        have : biased = 0 := by simpa [kept] using congrArg BitVec.toNat zero
        omega
      rw [if_pos (by omega), unpack_components, if_neg notFull, if_neg notZero]
      simp only [leading_bit, kept, BitVec.toNat_ofNat]
      congr 1 <;> omega

private theorem components_finite {sign : Sign} {exponent : BitVec 11} (significand : BitVec 52)
    (notFull : exponent ≠ -1#11) : (UnpackedFloat.unpack .binary64
      (packComponents .binary64 sign exponent significand)).isFinite = true := by
  rw [unpack_components, if_neg notFull]
  split
  · split <;> rfl
  · rfl

section Pack
variable (sign : Sign) {m : Nat} {e : Int} (positive : 0 < m)

private theorem pack_large (large : 971 < e) :
    UnpackedFloat.pack .binary64 (.finite sign m e positive) = packedInfinity .binary64 sign := by
  have bias : (Format.binary64.exponentBias : Int) = 1023 := by decide
  simp only [UnpackedFloat.pack, bias]
  rw [if_pos (by omega)]

/-- What is packed with a small exponent stays finite. -/
theorem isFinite_pack (small : e ≤ 971) : (UnpackedFloat.unpack .binary64
    (UnpackedFloat.pack .binary64 (.finite sign m e positive))).isFinite = true := by
  have bias : (Format.binary64.exponentBias : Int) = 1023 := by decide
  simp only [UnpackedFloat.pack, bias]
  generalize stored : (e + 1023 + ((52 : Nat) : Int)).toNat = biased
  rw [if_neg (by omega)]
  split
  · apply components_finite
    intro full
    have same : biased % 2 ^ 11 = 2047 := by simpa using congrArg BitVec.toNat full
    omega
  · exact components_finite _ (by decide)

end Pack

/-- Packing may lose a size, but what is a number stays one. -/
theorem isNaN_pack (u : UnpackedFloat) :
    (UnpackedFloat.unpack .binary64 (UnpackedFloat.pack .binary64 u)).isNaN = u.isNaN := by
  cases u with
  | notANumber => rfl
  | infinity sign => cases sign <;> rfl
  | zero sign => cases sign <;> rfl
  | finite sign m e positive =>
    rcases Int.lt_or_le 971 e with large | small
    · rw [pack_large sign positive large]
      cases sign <;> rfl
    · have finite := isFinite_pack sign positive small
      generalize UnpackedFloat.unpack _ _ = u at finite ⊢
      cases u with
      | notANumber => cases finite
      | infinity | zero | finite => rfl

private theorem components_abs (sign : Sign) (exponent : BitVec 11) (significand : BitVec 52) :
    (UnpackedFloat.unpack .binary64 (packComponents .binary64 sign exponent significand)).abs =
      UnpackedFloat.unpack .binary64
        (packComponents .binary64 .positive exponent significand) := by
  rw [unpack_components, unpack_components]
  split
  · split <;> rfl
  · split
    · split <;> rfl
    · rfl

/-- What is lost in packing does not depend on the sign. -/
theorem unpack_pack_abs (u : UnpackedFloat) :
    UnpackedFloat.unpack .binary64 (UnpackedFloat.pack .binary64 u.abs) =
      (UnpackedFloat.unpack .binary64 (UnpackedFloat.pack .binary64 u)).abs := by
  cases u with
  | notANumber => rfl
  | infinity sign => cases sign <;> rfl
  | zero sign => cases sign <;> rfl
  | finite sign m e positive =>
    simp only [UnpackedFloat.abs, UnpackedFloat.pack, packedInfinity]
    split
    · exact (components_abs ..).symm
    · split <;> exact (components_abs ..).symm

private theorem components (bits : BitVec Format.binary64.numBits) :
    packComponents .binary64 (Sign.ofBitVec (unpackSign bits)) (unpackExponent bits)
      (unpackMantissa bits) = bits := by
  have sign : (Sign.ofBitVec (unpackSign bits)).toBitVec = unpackSign bits := by
    generalize unpackSign bits = s
    revert s
    decide
  unfold packComponents
  rw [sign]
  apply BitVec.eq_of_getLsbD_eq
  intro i bound
  simp only [BitVec.getLsbD_append, unpackSign, unpackExponent, unpackMantissa,
    BitVec.getLsbD_cast, BitVec.getLsbD_extractLsb]
  grind

private theorem pack_subnormal (sign : Sign) {significand : BitVec 52}
    (positive : 0 < significand.toNat) :
    UnpackedFloat.pack .binary64 (.finite sign significand.toNat (-1074) positive) =
      packComponents .binary64 sign 0#11 significand := by
  have bias : (Format.binary64.exponentBias : Int) = 1023 := by decide
  have width : Format.binary64.mantissaBits = 53 := by decide
  have log : significand.toNat.log2 < 52 := (Nat.log2_lt positive.ne').mpr significand.isLt
  simp only [UnpackedFloat.pack, bias, width]
  rw [if_neg (by simp), if_neg (by omega)]
  simp

private theorem pack_normal (sign : Sign) {exponent : BitVec 11} {significand : BitVec 52}
    (notFull : exponent.toNat ≠ 2047) (positive : 0 < (1#1 ++ significand).toNat) :
    UnpackedFloat.pack .binary64
        (.finite sign (1#1 ++ significand).toNat (exponent.toNat - 1075) positive) =
      packComponents .binary64 sign exponent significand := by
  have bias : (Format.binary64.exponentBias : Int) = 1023 := by decide
  have width : Format.binary64.mantissaBits = 53 := by decide
  have bound : exponent.toNat < 2 ^ 11 := exponent.isLt
  have small : significand.toNat < 2 ^ 52 := significand.isLt
  have size := leading_bit significand
  have log : (1#1 ++ significand).toNat.log2 = 52 :=
    (Nat.log2_eq_iff (by omega)).mpr ⟨by omega, by omega⟩
  have biased : (exponent.toNat - 1075 + 1023 + ((52 : Nat) : Int)).toNat = exponent.toNat := by
    omega
  have low : BitVec.ofNat 52 (2 ^ 52 + significand.toNat) = significand := by
    apply BitVec.eq_of_toNat_eq
    rw [BitVec.toNat_ofNat]
    omega
  simp only [UnpackedFloat.pack, bias, width, log]
  rw [biased, if_neg (by omega), if_pos trivial, size, low, BitVec.ofNat_toNat,
    BitVec.setWidth_eq]

/-- Unpacking loses nothing but the payload of what is no number. -/
theorem pack_unpack {bits : BitVec Format.binary64.numBits} (valid : Format.binary64.Valid bits) :
    UnpackedFloat.pack .binary64 (UnpackedFloat.unpack .binary64 bits) = bits := by
  have bias : (Format.binary64.exponentBias : Int) = 1023 := by decide
  have whole := components bits
  simp only [UnpackedFloat.unpack, bias]
  split
  · rename_i full
    split
    · rename_i empty
      rw [full, empty] at whole
      exact whole
    · rename_i payload
      exact (valid.eq_packedNaN full payload).symm
  · rename_i bounded
    split
    · rename_i least
      rw [least] at whole
      split
      · rename_i empty
        rw [empty] at whole
        exact whole
      · rename_i occupied
        have positive : 0 < (unpackMantissa bits).toNat :=
          Nat.pos_of_ne_zero fun zero => occupied (BitVec.eq_of_toNat_eq zero)
        have exponent : ((unpackExponent bits).toNat : Int) - (1023 + ((52 : Nat) : Int)) + 1 =
            -1074 := by
          rw [least]
          rfl
        simp only [exponent]
        exact (pack_subnormal _ positive).trans whole
    · have notFull : (unpackExponent bits).toNat ≠ 2047 := fun full =>
        bounded (BitVec.eq_of_toNat_eq full)
      exact (pack_normal _ notFull _).trans whole

/-- With leading bits in place, the greater exponent decides. -/
private theorem compare_significands {m₁ m₂ : Nat} {e₁ e₂ : Int}
    (first : m₁ < 2 ^ 53 ∧ -1074 ≤ e₁ ∧ e₁ ≤ 971 ∧ (2 ^ 52 ≤ m₁ ∨ e₁ = -1074))
    (second : m₂ < 2 ^ 53 ∧ -1074 ≤ e₂ ∧ e₂ ≤ 971 ∧ (2 ^ 52 ≤ m₂ ∨ e₂ = -1074)) :
    (compare e₁ e₂).then (compare m₁ m₂) =
      compare ((e₁ + 1074) * 2 ^ 52 + (m₁ : Int)) ((e₂ + 1074) * 2 ^ 52 + (m₂ : Int)) := by
  rcases Int.lt_trichotomy e₁ e₂ with below | rfl | above
  · rw [Int.compare_eq_lt.mpr below]
    exact (Int.compare_eq_lt.mpr (by omega)).symm
  · rw [Int.compare_eq_eq.mpr rfl]
    rcases Nat.lt_trichotomy m₁ m₂ with below | rfl | above
    · exact (Nat.compare_eq_lt.mpr below).trans (Int.compare_eq_lt.mpr (by omega)).symm
    · exact (Nat.compare_eq_eq.mpr rfl).trans (Int.compare_eq_eq.mpr rfl).symm
    · exact (Nat.compare_eq_gt.mpr above).trans (Int.compare_eq_gt.mpr (by omega)).symm
  · rw [Int.compare_eq_gt.mpr above]
    exact (Int.compare_eq_gt.mpr (by omega)).symm

private theorem swap_compare (a b : Int) : (compare a b).swap = compare (-a) (-b) := by
  rcases Int.lt_trichotomy a b with below | rfl | above
  · rw [Int.compare_eq_lt.mpr below, Int.compare_eq_gt.mpr (by omega)]
    rfl
  · rw [Int.compare_eq_eq.mpr rfl, Int.compare_eq_eq.mpr rfl]
    rfl
  · rw [Int.compare_eq_gt.mpr above, Int.compare_eq_lt.mpr (by omega)]
    rfl

private theorem finite_place_range {sign : Sign} {m : Nat} {e : Int} {positive : 0 < m}
    (canonical : Canonical (.finite sign m e positive)) :
    0 < (e + 1074) * 2 ^ 52 + (m : Int) ∧ (e + 1074) * 2 ^ 52 + (m : Int) < 2047 * 2 ^ 52 := by
  obtain ⟨narrow, least, most, shape⟩ := canonical
  omega

private theorem decided_lt {a b : Int} (below : a < b) : some .lt = some (compare a b) :=
  congrArg some (Int.compare_eq_lt.mpr below).symm

private theorem decided_gt {a b : Int} (above : b < a) : some .gt = some (compare a b) :=
  congrArg some (Int.compare_eq_gt.mpr above).symm

/-- Numbers compare as their places do. -/
theorem compare_places {u v : UnpackedFloat} (canonicalU : Canonical u) (canonicalV : Canonical v)
    (numberU : u.isNaN = false) (numberV : v.isNaN = false) :
    u.compare v = some (compare (place u) (place v)) := by
  cases u with
  | notANumber => cases numberU
  | infinity s =>
    cases v with
    | notANumber => cases numberV
    | infinity t => cases s <;> cases t <;> rfl
    | zero t => cases s <;> rfl
    | finite t m e positive =>
      have range := finite_place_range canonicalV
      cases s with
      | positive => exact decided_gt (by cases t <;> simp only [place, Sign.apply] <;> omega)
      | negative => exact decided_lt (by cases t <;> simp only [place, Sign.apply] <;> omega)
  | zero s =>
    cases v with
    | notANumber => cases numberV
    | infinity t => cases t <;> rfl
    | zero t => rfl
    | finite t m e positive =>
      have range := finite_place_range canonicalV
      cases t with
      | positive => exact decided_lt (by simp only [place, Sign.apply]; omega)
      | negative => exact decided_gt (by simp only [place, Sign.apply]; omega)
  | finite s m e positive =>
    have range := finite_place_range canonicalU
    cases v with
    | notANumber => cases numberV
    | infinity t =>
      cases t with
      | positive => exact decided_lt (by cases s <;> simp only [place, Sign.apply] <;> omega)
      | negative => exact decided_gt (by cases s <;> simp only [place, Sign.apply] <;> omega)
    | zero t =>
      cases s with
      | positive => exact decided_gt (by simp only [place, Sign.apply]; omega)
      | negative => exact decided_lt (by simp only [place, Sign.apply]; omega)
    | finite t n f positive =>
      have otherRange := finite_place_range canonicalV
      have magnitudes := compare_significands canonicalU canonicalV
      cases s with
      | positive =>
        cases t with
        | positive => exact congrArg some magnitudes
        | negative => exact decided_gt (by simp only [place, Sign.apply]; omega)
      | negative =>
        cases t with
        | positive => exact decided_lt (by simp only [place, Sign.apply]; omega)
        | negative =>
          exact congrArg some ((congrArg Ordering.swap magnitudes).trans (swap_compare ..))

/-- The place of a double among all doubles. That of no number means nothing. -/
def rank (x : Float) : Int := place x.toModel.unpack

theorem canonical_model (x : Float) : Canonical x.toModel.unpack :=
  canonical_unpack x.toModel.toBits.toBitVec

/-- What is no number compares with nothing. -/
private theorem compare_models (x y : Float) : x.toModel.unpack.compare y.toModel.unpack =
    if x.isNaN ∨ y.isNaN then none else some (compare (rank x) (rank y)) := by
  cases nanX : x.isNaN with
  | true =>
    have left : x.toModel.unpack = .notANumber := by
      change x.toModel.unpack.isNaN = true at nanX
      cases shape : x.toModel.unpack <;> simp_all [UnpackedFloat.isNaN]
    simp [left, UnpackedFloat.compare]
  | false =>
    cases nanY : y.isNaN with
    | true =>
      have right : y.toModel.unpack = .notANumber := by
        change y.toModel.unpack.isNaN = true at nanY
        cases shape : y.toModel.unpack <;> simp_all [UnpackedFloat.isNaN]
      cases x.toModel.unpack <;> simp [right, UnpackedFloat.compare]
    | false =>
      rw [compare_places (canonical_model x) (canonical_model y) nanX nanY]
      simp [rank]

theorem le_iff_rank (x y : Float) :
    x ≤ y ↔ x.isNaN = false ∧ y.isNaN = false ∧ rank x ≤ rank y := by
  have meaning : x ≤ y ↔ (x.toModel.unpack.compare y.toModel.unpack).any (·.isLE) = true :=
    decide_eq_true_iff
  rw [meaning, compare_models]
  cases x.isNaN <;> cases y.isNaN <;> simp [Int.isLE_compare]

theorem lt_iff_rank (x y : Float) :
    x < y ↔ x.isNaN = false ∧ y.isNaN = false ∧ rank x < rank y := by
  have meaning : x < y ↔ (x.toModel.unpack.compare y.toModel.unpack == some .lt) = true :=
    decide_eq_true_iff
  rw [meaning, compare_models]
  cases x.isNaN <;> cases y.isNaN <;> simp [Int.compare_eq_lt]

/-- A double is known by its unpacked form. -/
theorem unpack_injective {x y : Float} (same : x.toModel.unpack = y.toModel.unpack) : x = y := by
  have packed (z : Float) :
      UnpackedFloat.pack .binary64 z.toModel.unpack = z.toModel.toBits.toBitVec :=
    pack_unpack z.toModel.valid
  have bits : x.toModel.toBits = y.toModel.toBits :=
    UInt64.eq_of_toBitVec_eq (by rw [← packed x, ← packed y, same])
  obtain ⟨⟨xBits, _⟩⟩ := x
  obtain ⟨⟨yBits, _⟩⟩ := y
  cases bits
  rfl

/-- Only the two zeros share a place. -/
private theorem place_injective {u v : UnpackedFloat} (canonicalU : Canonical u)
    (canonicalV : Canonical v) (same : place u = place v) (occupied : place v ≠ 0) : u = v := by
  cases u with
  | notANumber | zero sign => exact absurd same.symm occupied
  | infinity s =>
    cases v with
    | notANumber | zero t => exact absurd rfl occupied
    | infinity t => cases s <;> cases t <;> first | rfl | simp [place, Sign.apply] at same
    | finite t n f _ =>
      have range := finite_place_range canonicalV
      cases s <;> cases t <;> simp only [place, Sign.apply] at same <;> omega
  | finite s m e positive =>
    have range := finite_place_range canonicalU
    cases v with
    | notANumber | zero t => exact absurd rfl occupied
    | infinity t => cases s <;> cases t <;> simp only [place, Sign.apply] at same <;> omega
    | finite t n f _ =>
      have otherRange := finite_place_range canonicalV
      obtain ⟨narrow, least, most, shape⟩ := canonicalU
      obtain ⟨otherNarrow, otherLeast, otherMost, otherShape⟩ := canonicalV
      have parts : s = t ∧ m = n ∧ e = f := by
        cases s <;> cases t <;> simp only [place, Sign.apply] at same <;>
          refine ⟨?_, ?_, ?_⟩ <;> first | rfl | omega
      obtain ⟨rfl, rfl, rfl⟩ := parts
      rfl

theorem beq_iff_rank (x y : Float) :
    (x == y) = true ↔ x.isNaN = false ∧ y.isNaN = false ∧ rank x = rank y := by
  change (x.toModel.unpack.compare y.toModel.unpack == some .eq) = true ↔ _
  rw [compare_models]
  cases x.isNaN <;> cases y.isNaN <;> simp

/-- Numbers that compare as equal are the same, unless they are zeros. -/
theorem eq_of_beq {x y : Float} (same : (x == y) = true) (occupied : rank y ≠ 0) : x = y :=
  unpack_injective (place_injective (canonical_model x) (canonical_model y)
    ((beq_iff_rank x y).mp same).2.2 occupied)

theorem rank_occupied {x : Float} {sign : Sign} {m : Nat} {e : Int} {positive : 0 < m}
    (unpacked : x.toModel.unpack = .finite sign m e positive) : rank x ≠ 0 := by
  have canonical := canonical_model x
  rw [unpacked] at canonical
  have range := finite_place_range canonical
  rw [rank, unpacked]
  cases sign <;> simp only [place, Sign.apply] <;> omega

/-- Finite doubles lie strictly between the infinities. -/
theorem isFinite_iff_rank (x : Float) : x.isFinite = true ↔
    x.isNaN = false ∧ -(2047 * 2 ^ 52) < rank x ∧ rank x < 2047 * 2 ^ 52 := by
  change x.toModel.unpack.isFinite = true ↔ x.toModel.unpack.isNaN = false ∧
    -(2047 * 2 ^ 52) < place x.toModel.unpack ∧ place x.toModel.unpack < 2047 * 2 ^ 52
  have canonical := canonical_model x
  cases shape : x.toModel.unpack with
  | notANumber => decide
  | infinity sign => cases sign <;> decide
  | zero sign => cases sign <;> decide
  | finite sign m e positive =>
    rw [shape] at canonical
    have range := finite_place_range canonical
    cases sign <;> simp [UnpackedFloat.isFinite, UnpackedFloat.isNaN, place, Sign.apply] <;> omega

private theorem canonical_neg {u : UnpackedFloat} (canonical : Canonical u) : Canonical u.neg := by
  cases u <;> exact canonical

private theorem canonical_abs {u : UnpackedFloat} (canonical : Canonical u) : Canonical u.abs := by
  cases u <;> exact canonical

theorem unpack_neg (x : Float) : (-x).toModel.unpack = x.toModel.unpack.neg :=
  unpack_pack (canonical_neg (canonical_model x))

theorem unpack_abs (x : Float) : x.abs.toModel.unpack = x.toModel.unpack.abs :=
  unpack_pack (canonical_abs (canonical_model x))

theorem isNaN_neg (x : Float) : (-x).isNaN = x.isNaN := by
  change (-x).toModel.unpack.isNaN = x.toModel.unpack.isNaN
  rw [unpack_neg]
  cases x.toModel.unpack <;> rfl

theorem rank_neg (x : Float) : rank (-x) = -rank x := by
  rw [rank, unpack_neg, rank]
  cases x.toModel.unpack with
  | notANumber | zero => rfl
  | infinity sign => cases sign <;> rfl
  | finite sign m e positive =>
    cases sign with
    | positive => rfl
    | negative => exact (Int.neg_neg _).symm

theorem isNaN_abs (x : Float) : x.abs.isNaN = x.isNaN := by
  change x.abs.toModel.unpack.isNaN = x.toModel.unpack.isNaN
  rw [unpack_abs]
  cases x.toModel.unpack <;> rfl

theorem rank_abs (x : Float) : rank x.abs = (rank x).natAbs := by
  have canonical := canonical_model x
  rw [rank, unpack_abs, rank]
  cases shape : x.toModel.unpack with
  | notANumber | zero => rfl
  | infinity sign => cases sign <;> rfl
  | finite sign m e positive =>
    rw [shape] at canonical
    have range := finite_place_range canonical
    cases sign <;> simp only [UnpackedFloat.abs, place, Sign.apply] <;> omega

end DeviceMap.Double
