import DeviceMap.Proofs.Double.Number

/-! Sums of doubles, and the two zeros. A sum overflows only near the end of the doubles, so
that small doubles may be added without a check. What a function makes of the two zeros
is all that a comparison of its arguments leaves open. -/
namespace DeviceMap.Double
open Float.Model Float.Model.UnpackedFloat

/-- A finite double that is two powers of two away from the infinities. -/
def HasRoom (x : Float) : Prop := x.isFinite = true ∧ (rank x).natAbs < 2044 * 2 ^ 52

theorem HasRoom.neg {x : Float} (room : HasRoom x) : HasRoom (-x) := by
  refine ⟨finite_neg room.1, ?_⟩
  rw [rank_neg, Int.natAbs_neg]
  exact room.2

theorem HasRoom.between {low high x : Float} (first : HasRoom low) (second : HasRoom high)
    (above : low ≤ x) (below : x ≤ high) : HasRoom x := by
  obtain ⟨lowFinite, lowRoom⟩ := first
  obtain ⟨highFinite, highRoom⟩ := second
  refine ⟨finite_of_between lowFinite highFinite above below, ?_⟩
  rw [le_iff_rank] at above below
  omega

private theorem isFinite_round {sign : Sign} {m : Nat} {e : Int} (least : -1074 ≤ e)
    (low : e ≤ 970) (small : m.log2 + e ≤ 1022) :
    (UnpackedFloat.unpack .binary64 (UnpackedFloat.pack .binary64
      (UnpackedFloat.round .binary64 sign m e))).isFinite = true := by
  have bottom : -1074 ≤ Format.binary64.targetExponent (totalExponent m e) := by
    have exponent : Format.binary64.minExponent = -1074 := by decide
    rw [Format.targetExponent, exponent]
    exact Int.le_max_right _ _
  unfold UnpackedFloat.round
  dsimp only [decreaseExponent]
  generalize Format.binary64.targetExponent (totalExponent m e) = target at bottom
  have log : (m <<< (e - target).toNat).log2 + (e - (e - target).toNat) ≤ 1022 := by
    rw [Nat.shiftLeft_eq]
    rcases Nat.eq_zero_or_pos m with rfl | positive
    · rw [Nat.zero_mul, Nat.log2_zero]
      omega
    · rw [log_shifted positive]
      omega
  exact isFinite_rounded .exact (by omega) (by omega) log

private theorem isFinite_normalize {m e : Int} {zeroSign : Sign} (least : -1074 ≤ e)
    (low : e ≤ 970) (small : m.natAbs.log2 + e ≤ 1022) :
    (UnpackedFloat.unpack .binary64 (UnpackedFloat.pack .binary64
      (UnpackedFloat.normalize .binary64 m e zeroSign))).isFinite = true := by
  unfold UnpackedFloat.normalize
  split
  · rename_i below
    have same : (-m).toNat = m.natAbs := by
      have := Int.compare_eq_lt.mp below
      omega
    exact isFinite_round least low (same ▸ small)
  · cases zeroSign <;> rfl
  · rename_i above
    have same : m.toNat = m.natAbs := by
      have := Int.compare_eq_gt.mp above
      omega
    exact isFinite_round least low (same ▸ small)

/-- The sizes of both operands with the smaller one of their exponents. -/
private theorem aligned_sum (s t : Sign) {m n : Nat} {e f : Int} (first : m < 2 ^ 53 ∧ e ≤ 969)
    (second : n < 2 ^ 53 ∧ f ≤ 969) :
    (s.apply ((decreaseExponent m e (min e f)).1 : Int) +
      t.apply ((decreaseExponent n f (min e f)).1 : Int)).natAbs.log2 + min e f ≤ 1022 := by
  have size (k : Nat) (g : Int) (narrow : k < 2 ^ 53) (low : g ≤ 969) :
      k <<< (g - min e f).toNat < 2 ^ (53 + (969 - min e f).toNat) := by
    rw [Nat.shiftLeft_eq, pow_add]
    exact Nat.mul_lt_mul_of_lt_of_le narrow
      (Nat.pow_le_pow_right (by decide) (by omega)) (by positivity)
  have left := size m e first.1 first.2
  have right := size n f second.1 second.2
  dsimp only [decreaseExponent]
  generalize m <<< (e - min e f).toNat = p at left
  generalize n <<< (f - min e f).toNat = q at right
  have total : (s.apply (p : Int) + t.apply (q : Int)).natAbs <
      2 ^ (53 + (969 - min e f).toNat + 1) := by
    rw [pow_succ]
    cases s <;> cases t <;> simp only [Sign.apply] <;> omega
  have log := log_le total
  omega

/-- The significand and the exponent of a double with room, unless it is a zero. -/
private theorem room_parts {u : UnpackedFloat} (canonical : Canonical u)
    (finite : u.isFinite = true) (room : (place u).natAbs < 2044 * 2 ^ 52) :
    (∃ sign, u = .zero sign) ∨ ∃ sign m e positive, u = .finite sign m e positive ∧
      m < 2 ^ 53 ∧ -1074 ≤ e ∧ e ≤ 969 := by
  cases u with
  | notANumber | infinity sign => cases finite
  | zero sign => exact .inl ⟨sign, rfl⟩
  | finite sign m e positive =>
    obtain ⟨narrow, least, -, -⟩ := canonical
    refine .inr ⟨sign, m, e, positive, rfl, narrow, least, ?_⟩
    cases sign <;> simp only [place, Sign.apply] at room <;> omega

/-- A sum of doubles with room is finite. -/
theorem isFinite_add {x y : Float} (first : HasRoom x) (second : HasRoom y) :
    (x + y).isFinite = true := by
  obtain ⟨xFinite, xRoom⟩ := first
  obtain ⟨yFinite, yRoom⟩ := second
  have xCanonical := canonical_model x
  have yCanonical := canonical_model y
  change (UnpackedFloat.unpack .binary64 (UnpackedFloat.pack .binary64
    (UnpackedFloat.add .binary64 x.toModel.unpack y.toModel.unpack))).isFinite = true
  change x.toModel.unpack.isFinite = true at xFinite
  change y.toModel.unpack.isFinite = true at yFinite
  rw [rank] at xRoom yRoom
  generalize x.toModel.unpack = u at *
  generalize y.toModel.unpack = v at *
  -- A zero leaves the other operand as it is, and that one was packed before.
  rcases room_parts xCanonical xFinite xRoom with
    ⟨s, rfl⟩ | ⟨s, m, e, positive, rfl, narrow, least, low⟩
  · cases v with
    | notANumber | infinity => cases yFinite
    | zero t => cases s <;> cases t <;> rfl
    | finite t n f _ => exact congrArg UnpackedFloat.isFinite (unpack_pack yCanonical)
  · rcases room_parts yCanonical yFinite yRoom with
      ⟨t, rfl⟩ | ⟨t, n, f, _, rfl, otherNarrow, otherLeast, otherLow⟩
    · exact congrArg UnpackedFloat.isFinite (unpack_pack xCanonical)
    · exact isFinite_normalize (le_min least otherLeast) (by omega)
        (aligned_sum s t ⟨narrow, low⟩ ⟨otherNarrow, otherLow⟩)

private theorem unpack_zero : (0 : Float).toModel.unpack = .zero .positive := rfl

theorem isFinite_zero_sub {x : Float} (finite : x.isFinite = true) : (0 - x).isFinite = true := by
  have canonical := canonical_model x
  change (UnpackedFloat.unpack .binary64 (UnpackedFloat.pack .binary64
    (UnpackedFloat.sub .binary64 (0 : Float).toModel.unpack x.toModel.unpack))).isFinite = true
  change x.toModel.unpack.isFinite = true at finite
  rw [unpack_zero]
  generalize x.toModel.unpack = u at *
  cases u with
  | notANumber | infinity => cases finite
  | zero sign => cases sign <;> rfl
  | finite sign m e positive => exact isFinite_pack (-sign) positive canonical.2.2.1

/-- Nothing but the two zeros has the place of zero. -/
theorem zero_of_rank {x : Float} (number : x.isNaN = false) (zero : rank x = 0) :
    x = 0 ∨ x = -0 := by
  change x.toModel.unpack.isNaN = false at number
  cases shape : x.toModel.unpack with
  | notANumber => simp [shape, UnpackedFloat.isNaN] at number
  | infinity sign =>
    rw [rank, shape] at zero
    cases sign <;> simp [place, Sign.apply] at zero
  | finite sign m e positive => exact absurd zero (rank_occupied shape)
  | zero sign =>
    cases sign with
    | positive => exact .inl (unpack_injective (shape.trans unpack_zero.symm))
    | negative =>
      refine .inr (unpack_injective (shape.trans ?_))
      rw [unpack_neg, unpack_zero]
      rfl

/-- A function that does not see the sign of a zero does not tell apart what compares as
equal. -/
theorem alike_of_beq {β : Type} {f : Float → β} (zeros : f (-0) = f 0) {x y : Float}
    (same : (x == y) = true) : f x = f y := by
  obtain ⟨xNumber, yNumber, ranks⟩ := (beq_iff_rank x y).mp same
  by_cases zero : rank y = 0
  · have unsigned {z : Float} (number : z.isNaN = false) (zero : rank z = 0) : f z = f 0 := by
      rcases zero_of_rank number zero with rfl | rfl
      · rfl
      · exact zeros
    rw [unsigned xNumber (ranks.trans zero), unsigned yNumber zero]
  · rw [eq_of_beq same zero]

end DeviceMap.Double
