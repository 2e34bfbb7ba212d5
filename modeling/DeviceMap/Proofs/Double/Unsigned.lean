import DeviceMap.Proofs.Double.Number

/-! Numbers without a minus sign, which are what lengths are computed from. Squares have
none, and sums and roots of such numbers have none either, however far they overflow;
so none of them turns into no number. A difference is a number as long as both sides
are finite. -/
namespace DeviceMap.Double
open Float.Model Float.Model.UnpackedFloat

/-- A number, infinity included, whose sign is not minus. -/
def Plain (u : UnpackedFloat) : Prop := u.isNaN = false ∧ u.abs = u

/-- The same of a double. -/
def Unsigned (x : Float) : Prop := Plain x.toModel.unpack

theorem Unsigned.number {x : Float} (unsigned : Unsigned x) : x.isNaN = false := unsigned.1

theorem Unsigned.nonneg {x : Float} (unsigned : Unsigned x) : 0 ≤ x := by
  have same : x.abs = x := unpack_injective ((unpack_abs x).trans unsigned.2)
  have zero : rank 0 = 0 := rfl
  rw [← same, le_iff_rank, isNaN_abs, rank_abs, zero]
  exact ⟨number_of_finite zero_finite, unsigned.number, by omega⟩

private theorem plain_pack {u : UnpackedFloat} (plain : Plain u) :
    Plain (UnpackedFloat.unpack .binary64 (UnpackedFloat.pack .binary64 u)) := by
  obtain ⟨number, same⟩ := plain
  refine ⟨(isNaN_pack u).trans number, ?_⟩
  rw [← unpack_pack_abs, same]

private theorem plain_rounded (m : Nat) (e : Int) (accuracy : Accuracy) :
    Plain (roundWithAccuracy .binary64 .positive m e accuracy) := by
  refine ⟨isNaN_rounded .., ?_⟩
  unfold roundWithAccuracy
  dsimp only
  split <;> rfl

private theorem plain_normalize {m : Int} (nonneg : 0 ≤ m) (e : Int) :
    Plain (UnpackedFloat.normalize .binary64 m e .positive) := by
  unfold UnpackedFloat.normalize
  split
  · rename_i below
    have := Int.compare_eq_lt.mp below
    omega
  · exact ⟨rfl, rfl⟩
  · exact plain_rounded ..

theorem unsigned_square {x : Float} (number : x.isNaN = false) : Unsigned (x * x) := by
  change x.toModel.unpack.isNaN = false at number
  apply plain_pack
  generalize x.toModel.unpack = u at number
  cases u with
  | notANumber => cases number
  | infinity sign => cases sign <;> exact ⟨rfl, rfl⟩
  | zero sign => cases sign <;> exact ⟨rfl, rfl⟩
  | finite sign m e positive => cases sign <;> exact plain_rounded ..

/-- What has no minus sign is a zero, a size or infinite. -/
private theorem plain_cases {u : UnpackedFloat} (plain : Plain u) : u = .zero .positive ∨
    u = .infinity .positive ∨ ∃ m e positive, u = .finite .positive m e positive := by
  obtain ⟨number, same⟩ := plain
  cases u with
  | notANumber => cases number
  | infinity sign => exact .inr (.inl same.symm)
  | zero sign => exact .inl same.symm
  | finite sign m e positive => exact .inr (.inr ⟨m, e, positive, same.symm⟩)

theorem Unsigned.add {x y : Float} (first : Unsigned x) (second : Unsigned y) :
    Unsigned (x + y) := by
  apply plain_pack
  unfold Unsigned at first second
  rcases plain_cases first with left | left | ⟨m, e, _, left⟩ <;>
    rcases plain_cases second with right | right | ⟨n, f, _, right⟩ <;>
    rw [left, right]
  case inr.inr.inr.inr =>
    exact plain_normalize (Int.add_nonneg (Int.natCast_nonneg _) (Int.natCast_nonneg _)) _
  all_goals exact ⟨rfl, rfl⟩

theorem Unsigned.sqrt {x : Float} (unsigned : Unsigned x) : Unsigned x.sqrt := by
  apply plain_pack
  rcases plain_cases unsigned with zero | infinite | ⟨m, e, positive, size⟩
  · rw [zero]
    exact ⟨rfl, rfl⟩
  · rw [infinite]
    exact ⟨rfl, rfl⟩
  · rw [size]
    exact plain_rounded ..

theorem isNaN_sub {x y : Float} (xFinite : x.isFinite = true) (yFinite : y.isFinite = true) :
    (x - y).isNaN = false := by
  change (UnpackedFloat.unpack .binary64 (UnpackedFloat.pack .binary64
    (UnpackedFloat.sub .binary64 x.toModel.unpack y.toModel.unpack))).isNaN = false
  change x.toModel.unpack.isFinite = true at xFinite
  change y.toModel.unpack.isFinite = true at yFinite
  rw [isNaN_pack]
  generalize x.toModel.unpack = u at xFinite
  generalize y.toModel.unpack = v at yFinite
  cases u with
  | notANumber | infinity => cases xFinite
  | zero s =>
    cases v with
    | notANumber | infinity => cases yFinite
    | zero t => cases s <;> cases t <;> rfl
    | finite t n f _ => rfl
  | finite s m e _ =>
    cases v with
    | notANumber | infinity => cases yFinite
    | zero t => rfl
    | finite t n f _ =>
      simp only [UnpackedFloat.sub, UnpackedFloat.normalize]
      split
      · exact isNaN_rounded ..
      · rfl
      · exact isNaN_rounded ..

end DeviceMap.Double
