import DeviceMap.Proofs.Double.Rank

/-! The two differences of two doubles. They differ at most in their sign: rounding
treats both signs alike, and what overflows or is no number does so in either order. A
product of a double with itself does not see the sign. -/
namespace DeviceMap.Double
open Float.Model Float.Model.UnpackedFloat

private theorem abs_rounded (s t : Sign) (m : Nat) (e : Int) (accuracy : Accuracy) :
    (roundWithAccuracy .binary64 s m e accuracy).abs =
      (roundWithAccuracy .binary64 t m e accuracy).abs := by
  unfold roundWithAccuracy
  dsimp only
  split <;> rfl

private theorem abs_normalize_neg (m e : Int) (zeroSign : Sign) :
    (UnpackedFloat.normalize .binary64 (-m) e zeroSign).abs =
      (UnpackedFloat.normalize .binary64 m e zeroSign).abs := by
  unfold UnpackedFloat.normalize
  rcases Int.lt_trichotomy m 0 with negative | rfl | positive
  · have before : compare m 0 = .lt := Int.compare_eq_lt.mpr negative
    have after : compare (-m) 0 = .gt := Int.compare_eq_gt.mpr (by omega)
    simp only [before, after]
    exact abs_rounded ..
  · rfl
  · have before : compare m 0 = .gt := Int.compare_eq_gt.mpr positive
    have after : compare (-m) 0 = .lt := Int.compare_eq_lt.mpr (by omega)
    simp only [before, after, Int.neg_neg]
    exact abs_rounded ..

private theorem abs_unpacked_sub_comm (u v : UnpackedFloat) :
    (UnpackedFloat.sub .binary64 u v).abs = (UnpackedFloat.sub .binary64 v u).abs := by
  cases u with
  | notANumber => cases v <;> rfl
  | infinity s =>
    cases v with
    | infinity t => cases s <;> cases t <;> rfl
    | notANumber | zero | finite => rfl
  | zero s =>
    cases v with
    | zero t => cases s <;> cases t <;> rfl
    | notANumber | infinity | finite => rfl
  | finite s m e positive =>
    cases v with
    | notANumber | infinity | zero => rfl
    | finite t n f _ =>
      simp only [UnpackedFloat.sub, Int.min_comm f e]
      rw [← abs_normalize_neg, Int.neg_sub]

theorem abs_sub_comm (x y : Float) : (x - y).abs = (y - x).abs := by
  apply unpack_injective
  rw [unpack_abs, unpack_abs]
  change (UnpackedFloat.unpack .binary64 (UnpackedFloat.pack .binary64 _)).abs =
    (UnpackedFloat.unpack .binary64 (UnpackedFloat.pack .binary64 _)).abs
  rw [← unpack_pack_abs, ← unpack_pack_abs, abs_unpacked_sub_comm]

theorem abs_mul_abs (x : Float) : x.abs * x.abs = x * x := by
  have square (u : UnpackedFloat) :
      UnpackedFloat.mul .binary64 u.abs u.abs = UnpackedFloat.mul .binary64 u u := by
    cases u with
    | notANumber => rfl
    | infinity sign | zero sign | finite sign m e positive => cases sign <;> rfl
  apply unpack_injective
  change UnpackedFloat.unpack .binary64 (UnpackedFloat.pack .binary64
      (UnpackedFloat.mul .binary64 x.abs.toModel.unpack x.abs.toModel.unpack)) =
    UnpackedFloat.unpack .binary64 (UnpackedFloat.pack .binary64
      (UnpackedFloat.mul .binary64 x.toModel.unpack x.toModel.unpack))
  rw [unpack_abs, square]

/-- The order of a difference does not show in its square. -/
theorem sub_square_comm (x y : Float) : (x - y) * (x - y) = (y - x) * (y - x) := by
  rw [← abs_mul_abs, abs_sub_comm, abs_mul_abs]

end DeviceMap.Double
