import DeviceMap.Decimal.Shortest
import DeviceMap.Proofs.Decimal.Value

/-! The shortest decimal of a double is read as this double. A decimal of the
search has been read on trial; the exact value needs no trial. -/
namespace DeviceMap.Decimal
open Double Shortest
open Float.Model Float.Model.UnpackedFloat

private theorem onGrid_reads_back {tie : Tie} {x : Float} {negative : Bool} {p q : Nat}
    {power : Int} {d : Decimal} (found : onGrid? tie x negative p q power = some d) :
    (d.toFloat == x) = true := by
  unfold onGrid? at found
  grind

private theorem exact_size (negative : Bool) (m : Nat) (e : Int) :
    (exact negative m e).size = m * 2 ^ e := by
  unfold exact
  split
  · rename_i below
    have power : e = -(e.natAbs : Int) := by omega
    have ten : (10 : ℚ) ^ e.natAbs = 2 ^ e.natAbs * 5 ^ e.natAbs := by
      rw [← mul_pow]
      norm_num
    simp only [size, Nat.pow_eq]
    rw [power, zpow_neg, zpow_neg, zpow_natCast, zpow_natCast, Int.natAbs_neg, Int.natAbs_natCast,
      ten]
    push_cast
    field_simp
  · rename_i above
    have power : e = (e.natAbs : Int) := by omega
    simp only [size, Nat.pow_eq]
    rw [power, zpow_natCast, Int.natAbs_natCast]
    simp

private theorem exact_reads_back {x : Float} {sign : Sign} {m : Nat} {e : Int} {positive : 0 < m}
    {negative : Bool} (unpacked : x.toModel.unpack = .finite sign m e positive)
    (minus : negative = true ↔ sign = .negative) : (exact negative m e).toFloat = x := by
  have kept : (exact negative m e).negative = negative := by
    unfold exact
    split <;> rfl
  exact toFloat_exact unpacked (by rwa [kept]) (exact_size negative m e)

private theorem unpack_zero (negative : Bool) :
    (⟨negative, 0, 0⟩ : Decimal).toFloat.toModel.unpack =
      .zero (if negative then .negative else .positive) := by
  have zeros : ∀ negative, (⟨negative, 0, 0⟩ : Decimal).toFloat =
      Float.ofModel (.pack (.zero (if negative then .negative else .positive))) := by
    decide +kernel
  rw [zeros]
  exact unpack_ofModel trivial

private theorem zero_reads_back {x : Float} {sign : Sign} {negative : Bool}
    (unpacked : x.toModel.unpack = .zero sign) (minus : negative = true ↔ sign = .negative) :
    (⟨negative, 0, 0⟩ : Decimal).toFloat = x := by
  apply unpack_injective
  rw [unpacked, unpack_zero]
  cases sign <;> cases negative <;> simp_all

/-- What is read as another double than zero has a digit other than zero. -/
private theorem occupied_of_reads {d : Decimal} {x : Float} {sign : Sign} {m : Nat} {e : Int}
    {positive : 0 < m} (unpacked : x.toModel.unpack = .finite sign m e positive)
    (value : d.toFloat = x) : d.coefficient ≠ 0 := by
  intro zero
  have same : d.toFloat = (⟨d.negative, 0, 0⟩ : Decimal).toFloat :=
    toFloat_of_size rfl ((size_eq_zero.mpr zero).trans (size_eq_zero.mpr rfl).symm)
  have shape := unpack_zero d.negative
  rw [← same, value, unpacked] at shape
  cases shape

/-- Every finite double has a shortest decimal, which is read as this double. A
zero has no power of ten. -/
theorem shortest_reads_back (tie : Tie) {x : Float} (finite : x.isFinite = true) :
    ∃ d, shortest? tie x = some d ∧ d.toFloat = x ∧ (d.coefficient = 0 → d.exponent = 0) := by
  unfold shortest?
  change x.toModel.unpack.isFinite = true at finite
  split
  · rename_i sign unpacked
    exact ⟨_, rfl, zero_reads_back unpacked (by cases sign <;> simp), fun _ => rfl⟩
  · rename_i sign m e positive unpacked
    have tidy {d : Decimal} (value : d.toFloat = x) :
        d.toFloat = x ∧ (d.coefficient = 0 → d.exponent = 0) :=
      ⟨value, fun zero => absurd zero (occupied_of_reads unpacked value)⟩
    refine ⟨_, rfl, ?_⟩
    cases search : (List.range 18).findSome? _ with
    | none => exact tidy (exact_reads_back unpacked (by cases sign <;> simp))
    | some d =>
      obtain ⟨more, -, found⟩ := List.exists_of_findSome?_eq_some search
      exact tidy (eq_of_beq (onGrid_reads_back found) (rank_occupied unpacked))
  · rename_i notZero notFinite
    cases shape : x.toModel.unpack with
    | zero sign => exact absurd shape (notZero sign)
    | finite sign m e positive => exact absurd shape (notFinite sign m e positive)
    | infinity | notANumber => simp [shape, UnpackedFloat.isFinite] at finite

/-- What is not finite has no decimal. -/
theorem shortest_none (tie : Tie) {x : Float} (infinite : x.isFinite = false) :
    shortest? tie x = none := by
  change x.toModel.unpack.isFinite = false at infinite
  unfold shortest?
  cases shape : x.toModel.unpack <;> simp_all [UnpackedFloat.isFinite]

end DeviceMap.Decimal
