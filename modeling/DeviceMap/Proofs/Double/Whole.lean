import DeviceMap.Proofs.Double.Number
import DeviceMap.Proofs.Double.Value

/-! Whole numbers among the doubles. Rounding leaves no fraction, and clamping between whole
bounds brings none back. What is not finite counts as zero here and has to be excluded
apart. -/
namespace DeviceMap.Double
open Float.Model Float.Model.UnpackedFloat

/-- The exact value is a whole number. -/
def IsWhole (x : Float) : Prop := ∃ n : ℤ, value x = n

theorem value_ofNat {n : Nat} (short : n < 2 ^ 53) : value (Float.ofNat n) = n := by
  rcases Nat.eq_zero_or_pos n with rfl | positive
  · exact bound_value.1
  · obtain ⟨m, e, occupied, unpacked, -, size⟩ := toFloat_size positive short
    rw [ofNat_short positive short, value, unpacked, size]
    rfl

theorem IsWhole.neg {x : Float} (whole : IsWhole x) : IsWhole (-x) := by
  obtain ⟨n, same⟩ := whole
  exact ⟨-n, by rw [value_neg, same, Int.cast_neg]⟩

theorem round_whole (x : Float) : IsWhole (round x) := by
  have canonical := canonical_model x
  unfold round
  split
  · rename_i sign m e positive unpacked
    rw [unpacked] at canonical
    split
    · have nearest : IsWhole (Float.ofNat ((2 * m + Nat.pow 2 e.natAbs) / (2 * Nat.pow 2 e.natAbs))) :=
        ⟨_, value_ofNat (units_short canonical.1 e.natAbs)⟩
      cases sign with
      | positive => exact nearest
      | negative => exact nearest.neg
    · rename_i upward
      refine ⟨sign.apply m * 2 ^ e.toNat, ?_⟩
      have power : (2 : ℚ) ^ e = 2 ^ e.toNat := by
        rw [← zpow_natCast, Int.toNat_of_nonneg (by omega)]
      rw [value, unpacked]
      push_cast
      rw [← power]
      rfl
  · rename_i other
    refine ⟨0, ?_⟩
    unfold value valueOf
    split
    · rename_i sign m e positive unpacked
      exact absurd unpacked (other sign m e positive)
    · rfl

theorem clamp_whole {low high x : Float} (lowWhole : IsWhole low) (highWhole : IsWhole high)
    (whole : IsWhole x) : IsWhole (Scalar.clamp low high x) := by
  unfold Scalar.clamp
  split
  · exact lowWhole
  · split
    · exact highWhole
    · exact whole

end DeviceMap.Double
