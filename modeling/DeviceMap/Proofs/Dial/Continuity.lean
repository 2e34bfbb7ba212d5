import DeviceMap.Dial
import DeviceMap.Proofs.Exact.Real

/-! Two dials over the exact reals. No part of a dial moves further than the angle it
shows, also where that leaves its range. The exception is the turn of an arc, which
jumps where the angle changes its sign; but then the angle has passed through zero, and
the change is at least as large as both arcs together. -/
namespace DeviceMap
open Exact

namespace Orientation

theorem exact_clampAngle {limit : ℝ} (positive : 0 ≤ limit) (x : ℝ) :
    clampAngle limit x = max (-limit) (min limit x) := by
  have finite : Scalar.isFinite x = true := rfl
  unfold clampAngle Scalar.clamp
  rw [if_pos finite]
  split
  · rename_i below
    rw [max_eq_left ((min_le_right _ _).trans below.le)]
  · rename_i above
    split
    · rename_i beyond
      rw [min_eq_left beyond.le, max_eq_right (by linarith)]
    · rename_i inside
      rw [min_eq_right (not_lt.mp inside), max_eq_right (not_lt.mp above)]

/-- Bringing two angles into a range brings them no further apart. -/
theorem clampAngle_close {limit : ℝ} (positive : 0 ≤ limit) (x y : ℝ) :
    |clampAngle limit x - clampAngle limit y| ≤ |x - y| := by
  rw [exact_clampAngle positive, exact_clampAngle positive]
  have bounded := abs_min_sub_min_le_max limit x limit y
  have moved := abs_max_sub_max_le_max (-limit) (min limit x) (-limit) (min limit y)
  rw [sub_self, abs_zero] at bounded moved
  exact moved.trans (max_le (abs_nonneg _) (bounded.trans (max_le (abs_nonneg _) le_rfl)))

theorem exact_clamped (heading : Orientation ℝ) : heading.clamped =
    ⟨max (-180) (min 180 heading.bearing), max (-90) (min 90 heading.tilt)⟩ := by
  unfold clamped
  rw [exact_clampAngle (by simp), exact_clampAngle (by simp), literal, literal]
  norm_num

/-- The bearings and the tilts of two headings are no further apart than the angles that they
are brought into range from. -/
theorem clamped_close (first second : Orientation ℝ) :
    |first.clamped.bearing - second.clamped.bearing| ≤ |first.bearing - second.bearing| ∧
      |first.clamped.tilt - second.clamped.tilt| ≤ |first.tilt - second.tilt| :=
  ⟨clampAngle_close (by simp) _ _, clampAngle_close (by simp) _ _⟩

end Orientation

section Signs
variable {x y : ℝ}

/-- Zero lies between two angles. -/
def Exact.Opposite (x y : ℝ) : Prop := x ≤ 0 ∧ 0 ≤ y ∨ 0 ≤ x ∧ y ≤ 0

theorem Exact.Opposite.sizes (opposite : Opposite x y) : |x| + |y| = |x - y| := by
  rcases opposite with ⟨below, above⟩ | ⟨above, below⟩
  · rw [abs_of_nonpos below, abs_of_nonneg above, abs_of_nonpos (by linarith)]
    ring
  · rw [abs_of_nonneg above, abs_of_nonpos below, abs_of_nonneg (by linarith)]
    ring

theorem Exact.opposite_or_alike (x y : ℝ) :
    Opposite x y ∨ 0 < x ∧ 0 < y ∨ x < 0 ∧ y < 0 := by
  unfold Opposite
  rcases lt_trichotomy x 0 with below | zero | above
  · rcases lt_or_ge y 0 with alike | across
    · exact .inr (.inr ⟨below, alike⟩)
    · exact .inl (.inl ⟨below.le, across⟩)
  · exact .inl ((le_total 0 y).imp (And.intro zero.le) (And.intro zero.ge))
  · rcases lt_or_ge 0 y with alike | across
    · exact .inr (.inl ⟨above, alike⟩)
    · exact .inl (.inr ⟨above.le, across⟩)

end Signs

namespace Dial

/-- Two dials with the same fixed parts, whose other parts have moved by no more than a bearing
and a tilt. The turns of the two arcs are left out. -/
structure Close (first second : Dial ℝ) (bearing tilt : ℝ) : Prop where
  bearingSweep : |first.bearingArc.sweep - second.bearingArc.sweep| ≤ bearing
  tiltArc : |first.tiltArc.rotateZ - second.tiltArc.rotateZ| ≤ bearing
  depthAxis : |first.depthAxis.rotateZ - second.depthAxis.rotateZ| ≤ bearing
  planarAxis : |first.planarAxis.rotateZ - second.planarAxis.rotateZ| ≤ bearing
  tiltSweep : |first.tiltArc.sweep - second.tiltArc.sweep| ≤ tilt
  depthTip : |first.depthAxis.rotateX - second.depthAxis.rotateX| ≤ tilt
  planarTip : |first.planarAxis.rotateX - second.planarAxis.rotateX| ≤ tilt
  unit : first.unit = second.unit
  bearingArc : first.bearingArc.rotateZ = second.bearingArc.rotateZ
  depthRoll : first.depthAxis.rotateY = second.depthAxis.rotateY
  planarRoll : first.planarAxis.rotateY = second.planarAxis.rotateY

variable (bearing tilt bearing' tilt' : ℝ)

theorem ofAngles_close :
    Close (ofAngles bearing tilt) (ofAngles bearing' tilt') |bearing - bearing'| |tilt - tilt'| := by
  obtain ⟨across, along⟩ := Orientation.clamped_close ⟨bearing, tilt⟩ ⟨bearing', tilt'⟩
  have turned (base u v : ℝ) : |base + u - (base + v)| = |u - v| := by rw [add_sub_add_left_eq_sub]
  have tipped (base u v : ℝ) : |base - u - (base - v)| = |u - v| := by
    rw [sub_sub_sub_cancel_left, abs_sub_comm]
  exact
    { bearingSweep := (abs_abs_sub_abs_le _ _).trans across
      tiltArc := (turned _ _ _).trans_le across
      depthAxis := (turned _ _ _).trans_le across
      planarAxis := (turned _ _ _).trans_le across
      tiltSweep := (abs_abs_sub_abs_le _ _).trans along
      depthTip := (tipped _ _ _).trans_le along
      planarTip := (tipped _ _ _).trans_le along
      unit := rfl
      bearingArc := rfl
      depthRoll := rfl
      planarRoll := rfl }

section Flips
variable {bearing tilt bearing' tilt'}

theorem bearing_flip (flipped : (ofAngles bearing tilt).bearingArc.rotateX ≠
      (ofAngles bearing' tilt').bearingArc.rotateX) :
    (ofAngles bearing tilt).bearingArc.sweep + (ofAngles bearing' tilt').bearingArc.sweep ≤
      |bearing - bearing'| := by
  have close := (Orientation.clamped_close ⟨bearing, tilt⟩ ⟨bearing', tilt'⟩).1
  rcases opposite_or_alike (Orientation.clamped ⟨bearing, tilt⟩).bearing
    (Orientation.clamped ⟨bearing', tilt'⟩).bearing with opposite | ⟨first, second⟩ | ⟨first, second⟩
  · exact opposite.sizes.trans_le close
  · simp [ofAngles, first, second] at flipped
  · simp [ofAngles, first.not_gt, second.not_gt] at flipped

theorem tilt_flip (flipped : (ofAngles bearing tilt).tiltArc.rotateX ≠
      (ofAngles bearing' tilt').tiltArc.rotateX) :
    (ofAngles bearing tilt).tiltArc.sweep + (ofAngles bearing' tilt').tiltArc.sweep ≤
      |tilt - tilt'| := by
  have close := (Orientation.clamped_close ⟨bearing, tilt⟩ ⟨bearing', tilt'⟩).2
  rcases opposite_or_alike (Orientation.clamped ⟨bearing, tilt⟩).tilt
    (Orientation.clamped ⟨bearing', tilt'⟩).tilt with opposite | ⟨first, second⟩ | ⟨first, second⟩
  · exact opposite.sizes.trans_le close
  · simp [ofAngles, first, second] at flipped
  · simp [ofAngles, first, second, first.not_gt, second.not_gt] at flipped

end Flips

/-- Close dials, whose arcs are turned another way only if both, the one that is left and the one
that is drawn, fit together into the change of their angle. So an arc that is longer than the
change stays as it is turned. -/
structure Continues (first second : Dial ℝ) (bearing tilt : ℝ) : Prop
    extends Close first second bearing tilt where
  bearingFlip : first.bearingArc.rotateX ≠ second.bearingArc.rotateX →
    first.bearingArc.sweep + second.bearingArc.sweep ≤ bearing
  tiltFlip : first.tiltArc.rotateX ≠ second.tiltArc.rotateX →
    first.tiltArc.sweep + second.tiltArc.sweep ≤ tilt
  bearingKept : bearing < first.bearingArc.sweep →
    second.bearingArc.rotateX = first.bearingArc.rotateX
  tiltKept : tilt < first.tiltArc.sweep → second.tiltArc.rotateX = first.tiltArc.rotateX

/-- Between any two headings, in range or not, the parts of the dial move by no more than the
bearing and the tilt do, up to flips of arcs that shrink away. -/
theorem continuous_up_to_flips (bearing tilt bearing' tilt' : ℝ) :
    Continues (ofAngles bearing tilt) (ofAngles bearing' tilt')
      |bearing - bearing'| |tilt - tilt'| := by
  -- The arc that would be drawn has a length, so the one that is left has no room to shrink.
  have kept {u v x y change : ℝ} (flips : u ≠ v → x + |y| ≤ change) (short : change < x) :
      v = u := by
    by_contra flipped
    have room : x ≤ x + |y| := le_add_of_nonneg_right (abs_nonneg y)
    exact absurd (room.trans (flips (Ne.symm flipped))) short.not_ge
  exact ⟨ofAngles_close .., bearing_flip, tilt_flip, kept bearing_flip, kept tilt_flip⟩

/-- A bearing that crosses zero turns its own arc over, and no other one. -/
theorem crossing_zero_flips :
    let first : Dial ℝ := ofAngles 1 100
    let second : Dial ℝ := ofAngles (-2) 95
    first.bearingArc.rotateX ≠ second.bearingArc.rotateX ∧
      first.bearingArc.sweep + second.bearingArc.sweep ≤ 3 ∧
      second.tiltArc.rotateX = first.tiltArc.rotateX := by
  intro first second
  have moved : Continues first second _ _ := continuous_up_to_flips 1 100 (-2) 95
  have right : 0 < (Orientation.clamped (⟨1, 100⟩ : Orientation ℝ)).bearing := by
    rw [Orientation.exact_clamped]
    norm_num
  have left : ¬0 < (Orientation.clamped (⟨-2, 95⟩ : Orientation ℝ)).bearing := by
    rw [Orientation.exact_clamped]
    norm_num
  have up : (Orientation.clamped (⟨1, 100⟩ : Orientation ℝ)).tilt = 90 := by
    rw [Orientation.exact_clamped]
    norm_num
  have flipped : first.bearingArc.rotateX ≠ second.bearingArc.rotateX := by
    simp [first, second, ofAngles, right, left]
  have long : |(100 : ℝ) - 95| < first.tiltArc.sweep := by
    change _ < |(Orientation.clamped (⟨1, 100⟩ : Orientation ℝ)).tilt|
    rw [up]
    norm_num
  exact ⟨flipped, (moved.bearingFlip flipped).trans (by norm_num), moved.tiltKept long⟩

end Dial
end DeviceMap
