import DeviceMap.Proofs.Device.Bounds
import DeviceMap.Proofs.Double.Sum
import DeviceMap.Proofs.Double.Value
import DeviceMap.Proofs.Record.Drawing

/-! A dial as a picture of its heading. Whatever the two angles were, all of the dial is
finite, and the arcs with their turns tell the angles that were drawn, up to the sign of a
zero. So dials are equal exactly when they show the same heading. -/
namespace DeviceMap
open Double

section Limit
variable {limit x : Float} (within : Within limit x)
include within

theorem Double.Within.room (room : HasRoom limit) : HasRoom x :=
  room.neg.between room within.2.1 within.2.2

theorem Double.Within.size : 0 ≤ x.abs ∧ x.abs ≤ limit :=
  ⟨Double.abs_nonneg within.1, abs_le_iff.mpr within.2⟩

end Limit

theorem Orientation.clamped_clamped (heading : Orientation Float) :
    heading.clamped.clamped = heading.clamped :=
  clamped_of_within heading.clamped_within.1 heading.clamped_within.2

/-- Headings whose angles compare as equal. -/
def Orientation.Alike (first second : Orientation Float) : Prop :=
  (first.bearing == second.bearing) = true ∧ (first.tilt == second.tilt) = true

theorem Arc.beq_iff (arc other : Arc Float) : (arc == other) = true ↔
    (arc.sweep == other.sweep) = true ∧ (arc.rotateZ == other.rotateZ) = true ∧
      (arc.rotateX == other.rotateX) = true := by
  have parts : (arc == other) = (arc.sweep == other.sweep &&
    (arc.rotateZ == other.rotateZ && arc.rotateX == other.rotateX)) := rfl
  simp only [parts, Bool.and_eq_true]

theorem Arc.beq_self {arc : Arc Float} (finite : arc.isFinite = true) : (arc == arc) = true := by
  simp only [Arc.isFinite, Bool.and_eq_true] at finite
  obtain ⟨⟨sweep, turn⟩, flip⟩ := finite
  exact (Arc.beq_iff arc arc).mpr ⟨Double.beq_self sweep, Double.beq_self turn,
    Double.beq_self flip⟩

theorem Axis.beq_self {axis : Axis Float} (finite : axis.isFinite = true) :
    (axis == axis) = true := by
  obtain ⟨turn, tip, roll⟩ := axis
  have parts : ((⟨turn, tip, roll⟩ : Axis Float) == ⟨turn, tip, roll⟩) =
    (turn == turn && (tip == tip && roll == roll)) := rfl
  simp only [Axis.isFinite, Bool.and_eq_true] at finite
  obtain ⟨⟨turnFinite, tipFinite⟩, rollFinite⟩ := finite
  simp only [parts, Bool.and_eq_true]
  refine ⟨Double.beq_self turnFinite, Double.beq_self tipFinite, ?_⟩
  cases roll with
  | none => rfl
  | some roll => exact Double.beq_self rollFinite

namespace Dial

/-- The bearing that the dial shows: the length of its arc, to the other side if the arc is
turned over. -/
def shownBearing (dial : Dial Float) : ℚ :=
  if dial.bearingArc.rotateX == 0 then value dial.bearingArc.sweep
  else -value dial.bearingArc.sweep

/-- The tilt that the dial shows: the length of its arc, up or down as the arc is turned. -/
def shownTilt (dial : Dial Float) : ℚ :=
  value dial.tiltArc.sweep * SignType.sign (value dial.tiltArc.rotateX)

/-- A dial that can be drawn, and from which a heading can be read. -/
structure Shows (dial : Dial Float) (heading : Orientation Float) : Prop where
  finite : dial.isFinite = true
  known : heading.isFinite = true
  bearingSweep : 0 ≤ dial.bearingArc.sweep ∧ dial.bearingArc.sweep ≤ 180
  tiltSweep : 0 ≤ dial.tiltArc.sweep ∧ dial.tiltArc.sweep ≤ 90
  dashes : ∀ arc ∈ [dial.bearingArc, dial.tiltArc], arc.dash.1 ≤ fullTurn
  bearing : dial.shownBearing = value heading.bearing
  tilt : dial.shownTilt = value heading.tilt

section Angle
variable {angle : Float} (finite : angle.isFinite = true)
include finite

private theorem positive_iff : angle > 0 ↔ 0 < value angle := by
  rw [gt_iff_lt, lt_iff_value zero_finite finite, bound_value.1]

private theorem negative_iff : angle < 0 ↔ value angle < 0 := by
  rw [lt_iff_value finite zero_finite, bound_value.1]

/-- An angle is its size, taken to the other side unless it is positive. -/
private theorem value_turned : value angle =
    if ((if angle > 0 then 0 else 180 : Float) == 0) then value angle.abs
    else -value angle.abs := by
  have flat : ((0 : Float) == 0) = true := by decide +kernel
  have turned : ((180 : Float) == 0) = false := by decide +kernel
  have positive := positive_iff finite
  rw [value_abs]
  by_cases above : angle > 0
  · rw [if_pos above, flat, if_pos rfl, abs_of_pos (positive.mp above)]
  · rw [if_neg above, turned, if_neg Bool.false_ne_true,
      abs_of_nonpos (not_lt.mp (mt positive.mpr above)), neg_neg]

/-- An angle is its size with the sign of the turn. -/
private theorem value_tipped : value angle = value angle.abs * SignType.sign
    (value (if angle > 0 then 90 else if angle < 0 then -90.0 else 0)) := by
  have up : value 90 = 90 := bound_value.2.1
  have down : value (-90.0) = -90 := by decide +kernel
  have positive := positive_iff finite
  have negative := negative_iff finite
  rw [value_abs]
  by_cases above : angle > 0
  · rw [if_pos above, up, abs_of_pos (positive.mp above)]
    simp
  · rw [if_neg above]
    by_cases below : angle < 0
    · rw [if_pos below, down, abs_of_neg (negative.mp below)]
      simp
    · rw [if_neg below, bound_value.1]
      have zero : value angle = 0 :=
        le_antisymm (not_lt.mp (mt positive.mpr above)) (not_lt.mp (mt negative.mpr below))
      simp [zero]

end Angle

variable (bearing tilt : Float)

theorem shownBearing_ofAngles : (ofAngles bearing tilt).shownBearing =
    value (Orientation.clamped ⟨bearing, tilt⟩).bearing :=
  (value_turned (Orientation.clamped_within ⟨bearing, tilt⟩).1.1).symm

theorem shownTilt_ofAngles : (ofAngles bearing tilt).shownTilt =
    value (Orientation.clamped ⟨bearing, tilt⟩).tilt :=
  (value_tipped (Orientation.clamped_within ⟨bearing, tilt⟩).2.1).symm

private theorem bound_room : HasRoom 90 ∧ HasRoom 180 := by
  unfold HasRoom
  decide +kernel

/-- The angles of a dial are sums of a few numbers of degrees, too small to overflow. -/
theorem ofAngles_finite : (ofAngles bearing tilt).isFinite = true := by
  obtain ⟨across, along⟩ := Orientation.clamped_within ⟨bearing, tilt⟩
  obtain ⟨quarter, half⟩ := bound_room
  have unit : (ofAngles bearing tilt).unit.isFinite = true := by
    change (side : Float).isFinite = true
    decide +kernel
  have bearingTurn : (ofAngles bearing tilt).bearingArc.rotateX.isFinite = true := by
    unfold ofAngles
    dsimp only
    split
    · exact zero_finite
    · exact half.1
  have tiltTurn : (ofAngles bearing tilt).tiltArc.rotateX.isFinite = true := by
    unfold ofAngles
    dsimp only
    split
    · exact quarter.1
    · split
      · exact finite_neg quarter.1
      · exact zero_finite
  have arcTurn := isFinite_add quarter (across.room half)
  have axisTurn := isFinite_add half (across.room half)
  have axisTip := isFinite_zero_sub along.1
  simp only [Dial.isFinite, Arc.isFinite, Axis.isFinite, Bool.and_eq_true]
  exact ⟨⟨⟨⟨unit, ⟨finite_abs across.1, quarter.1⟩, bearingTurn⟩,
    ⟨finite_abs along.1, arcTurn⟩, tiltTurn⟩, ⟨axisTurn, axisTip⟩, quarter.1⟩,
    ⟨axisTurn, axisTip⟩, rfl⟩

theorem ofAngles_shows :
    (ofAngles bearing tilt).Shows (Orientation.clamped ⟨bearing, tilt⟩) := by
  obtain ⟨across, along⟩ := Orientation.clamped_within ⟨bearing, tilt⟩
  have half : (180 : Float) ≤ fullTurn := by decide +kernel
  have quarter : (90 : Float) ≤ fullTurn := by decide +kernel
  refine ⟨ofAngles_finite bearing tilt, Bool.and_eq_true_iff.mpr ⟨across.1, along.1⟩, across.size,
    along.size, ?_, shownBearing_ofAngles bearing tilt, shownTilt_ofAngles bearing tilt⟩
  intro arc drawn
  simp only [List.mem_cons, List.not_mem_nil, or_false] at drawn
  rcases drawn with rfl | rfl
  · exact Double.le_trans across.size.2 half
  · exact Double.le_trans along.size.2 quarter

/-- All numbers of a dial are compared. -/
theorem beq_iff (dial other : Dial Float) : (dial == other) = true ↔
    (dial.unit == other.unit) = true ∧ (dial.bearingArc == other.bearingArc) = true ∧
      (dial.tiltArc == other.tiltArc) = true ∧ (dial.depthAxis == other.depthAxis) = true ∧
      (dial.planarAxis == other.planarAxis) = true := by
  have parts : (dial == other) = (dial.unit == other.unit && (dial.bearingArc == other.bearingArc &&
    (dial.tiltArc == other.tiltArc && (dial.depthAxis == other.depthAxis &&
      dial.planarAxis == other.planarAxis)))) := rfl
  simp only [parts, Bool.and_eq_true]

theorem beq_self_of_finite {dial : Dial Float} (finite : dial.isFinite = true) :
    (dial == dial) = true := by
  simp only [Dial.isFinite, Bool.and_eq_true] at finite
  obtain ⟨⟨⟨⟨unit, bearing⟩, tilt⟩, depth⟩, planar⟩ := finite
  exact (beq_iff dial dial).mpr ⟨beq_self unit, Arc.beq_self bearing, Arc.beq_self tilt,
    Axis.beq_self depth, Axis.beq_self planar⟩

/-- Dials that compare as equal show the same angles. -/
theorem shown_of_beq {dial other : Dial Float} (same : (dial == other) = true) :
    dial.shownBearing = other.shownBearing ∧ dial.shownTilt = other.shownTilt := by
  have values {x y : Float} (same : (x == y) = true) : value x = value y :=
    alike_of_beq (by decide +kernel) same
  have flat {x y : Float} (same : (x == y) = true) : (x == 0) = (y == 0) :=
    alike_of_beq (f := (· == 0)) (by decide +kernel) same
  obtain ⟨-, bearing, tilt, -⟩ := (beq_iff dial other).mp same
  obtain ⟨bearingSweep, -, bearingTurn⟩ := (Arc.beq_iff _ _).mp bearing
  obtain ⟨tiltSweep, -, tiltTurn⟩ := (Arc.beq_iff _ _).mp tilt
  unfold shownBearing shownTilt
  rw [values bearingSweep, flat bearingTurn, values tiltSweep, values tiltTurn]
  exact ⟨rfl, rfl⟩

/-- What is drawn of an angle does not depend on the sign of a zero. -/
theorem ofAngles_congr {bearing tilt bearing' tilt' : Float}
    (alike : Orientation.Alike (.clamped ⟨bearing, tilt⟩) (.clamped ⟨bearing', tilt'⟩)) :
    ofAngles bearing tilt = ofAngles bearing' tilt' := by
  obtain ⟨across, along⟩ := alike
  -- Every number of the dial is made from one of the angles, and in the same way of both zeros.
  have bearings := alike_of_beq (f := fun angle => (Scalar.abs angle,
    (if angle > 0 then 0 else 180 : Float), 90 + angle, 180 + angle)) (by decide +kernel) across
  have tilts := alike_of_beq (f := fun angle => (Scalar.abs angle,
    (if angle > 0 then 90 else if angle < 0 then -90.0 else 0 : Float), 0 - angle))
    (by decide +kernel) along
  simp only [Prod.mk.injEq] at bearings tilts
  obtain ⟨sweep, flip, turn, around⟩ := bearings
  obtain ⟨rise, side, tip⟩ := tilts
  unfold ofAngles
  dsimp only
  congr 1
  · exact congr (congrArg₂ Arc.mk sweep rfl) flip
  · exact congr (congrArg₂ Arc.mk rise turn) side
  · exact congrArg₂ (Axis.mk · · (some 90)) around tip
  · exact congrArg₂ (Axis.mk · · none) around tip

theorem clamped_dial :
    (Orientation.clamped ⟨bearing, tilt⟩).dial = ofAngles bearing tilt := by
  have same := Orientation.clamped_clamped ⟨bearing, tilt⟩
  generalize heading : Orientation.clamped (⟨bearing, tilt⟩ : Orientation Float) = clamped at same
  obtain ⟨across, along⟩ := clamped
  unfold Orientation.dial ofAngles
  rw [heading, same]

/-- The dial of any two angles is finite and shows the heading that they are brought into range
to. That heading has the same dial, and so have exactly those angles whose heading
compares as equal. -/
theorem encodes_heading (bearing tilt : Float) :
    (ofAngles bearing tilt).Shows (.clamped ⟨bearing, tilt⟩) ∧
    (Orientation.clamped ⟨bearing, tilt⟩).dial = ofAngles bearing tilt ∧
    ∀ bearing' tilt' : Float,
      [ofAngles bearing tilt = ofAngles bearing' tilt',
        (ofAngles bearing tilt == ofAngles bearing' tilt') = true,
        Orientation.Alike (.clamped ⟨bearing, tilt⟩) (.clamped ⟨bearing', tilt'⟩)].TFAE := by
  refine ⟨ofAngles_shows bearing tilt, clamped_dial bearing tilt, fun bearing' tilt' => ?_⟩
  tfae_have 1 → 2 := fun same => same ▸ beq_self_of_finite (ofAngles_finite bearing tilt)
  tfae_have 2 → 3 := by
    intro same
    obtain ⟨across, along⟩ := shown_of_beq same
    have ⟨bearings, tilts⟩ := Orientation.clamped_within ⟨bearing, tilt⟩
    have ⟨bearings', tilts'⟩ := Orientation.clamped_within ⟨bearing', tilt'⟩
    rw [shownBearing_ofAngles, shownBearing_ofAngles] at across
    rw [shownTilt_ofAngles, shownTilt_ofAngles] at along
    exact ⟨(beq_iff_value bearings.1 bearings'.1).mpr across,
      (beq_iff_value tilts.1 tilts'.1).mpr along⟩
  tfae_have 3 → 1 := ofAngles_congr
  tfae_finish

/-- What is no number is drawn as a zero of either sign. An angle that is too large is not drawn
as one that is infinite. -/
example : (ofAngles (0 / 0 : Float) 200 == ofAngles (-0) 90) = true ∧
    (ofAngles (1 / 0 : Float) 0 == ofAngles 1e300 0) = false := by
  decide +kernel

end Dial
end DeviceMap
