import DeviceMap.Proofs.Dial.Encoding
import DeviceMap.Proofs.Double.Unsigned
import DeviceMap.Proofs.Double.Whole
import DeviceMap.Proofs.Ranging.Measure

/-! The angles of a measurement, whatever is measured. Positions and headings may be no
numbers, infinite or so large that the offset, its size or its horizontal part overflow.
The angles are whole numbers in their ranges all the same. The functions of angles are not
defined in the logic, so they are taken from some library, of which one thing is asked: that
points with coordinates have an angle. -/
namespace DeviceMap
open Double

/-- The functions of angles as a library computes them for doubles. -/
structure Trigonometry where
  sin : Float → Float
  cos : Float → Float
  atan : Float → Float
  atan2 : Float → Float → Float

namespace Trigonometry

/-- The functions that the map runs with. -/
def native : Trigonometry := ⟨Float.sin, Float.cos, Float.atan, Float.atan2⟩

/-- Doubles with the functions of a library. -/
@[reducible] def scalar (library : Trigonometry) : Scalar Float :=
  { (inferInstance : Scalar Float) with
    sin := library.sin
    cos := library.cos
    atan := library.atan
    atan2 := library.atan2 }

/-- A measurement with the functions of a library. -/
def measure (library : Trigonometry) : Device Float → Device Float → Neighbor Float :=
  @Ranging.measure Float library.scalar

theorem native_measure : native.measure = Ranging.measure := rfl

/-- The angle of a point is a number if its coordinates are, infinite ones included. -/
def Total (library : Trigonometry) : Prop :=
  ∀ y x : Float, y.isNaN = false → x.isNaN = false → (library.atan2 y x).isNaN = false

end Trigonometry

namespace Ranging

/-- A whole number of degrees within a limit to both sides. -/
def WholeWithin (limit angle : Float) : Prop := Within limit angle ∧ IsWhole angle

section Angle
variable {limit : Float} (finite : limit.isFinite = true) (sides : -limit ≤ 0 ∧ 0 ≤ limit)
include sides

theorem zero_whole : WholeWithin limit 0 := ⟨zero_within sides, 0, bound_value.1⟩

include finite

/-- An angle that is a number is clamped to a whole one, also if it is too large. -/
theorem rounded_whole (whole : IsWhole limit) {angle : Float} (number : angle.isNaN = false) :
    WholeWithin limit (Scalar.clamp (-limit) limit (Scalar.round (Scalar.degrees angle))) := by
  have rounded : (Scalar.round (Scalar.degrees angle)).isNaN = false :=
    (isNaN_round _).trans ((isNaN_degrees angle).trans number)
  exact ⟨clamp_within finite sides rounded, clamp_whole whole.neg whole (round_whole _)⟩

end Angle

/-- The squared size of two coordinates, if it has not overflowed. -/
theorem squares_unsigned {x y : Float} (xNumber : x.isNaN = false) (yNumber : y.isNaN = false) :
    Unsigned (x * x + y * y) :=
  (unsigned_square xNumber).add (unsigned_square yNumber)

/-- The distance of finite positions is a number, and no less than zero. -/
theorem length_unsigned {start stop : Vec3 Float} (known : start.isFinite = true)
    (given : stop.isFinite = true) : Unsigned (stop - start).length := by
  simp only [Vec3.isFinite, Bool.and_eq_true] at known given
  obtain ⟨⟨startX, startY⟩, startZ⟩ := known
  obtain ⟨⟨stopX, stopY⟩, stopZ⟩ := given
  exact ((squares_unsigned (isNaN_sub stopX startX) (isNaN_sub stopY startY)).add
    (unsigned_square (isNaN_sub stopZ startZ))).sqrt

/-- Where the target is in sight, its direction has coordinates, and so it has angles. -/
theorem measured_angles {library : Trigonometry} (total : library.Total)
    (observer target : Device Float) :
    WholeWithin 180 (library.measure observer target).bearing ∧
      WholeWithin 90 (library.measure observer target).tilt := by
  obtain ⟨half, halfSides⟩ := bound_literal 180 (by simp)
  obtain ⟨quarter, quarterSides⟩ := bound_literal 90 (by simp)
  have halfWhole : IsWhole 180 := ⟨180, bound_value.2.2.1⟩
  have quarterWhole : IsWhole 90 := ⟨90, bound_value.2.1⟩
  let d := @direction Float library.scalar observer target
  let seen := d.isFinite && d.lengthSquared > 0
  change WholeWithin 180 (if seen then Scalar.clamp (-180) 180 (Scalar.round (Scalar.degrees
      (library.atan2 d.x d.z))) else 0) ∧
    WholeWithin 90 (if seen then Scalar.clamp (-90) 90 (Scalar.round (Scalar.degrees
      (library.atan2 d.y (d.x * d.x + d.z * d.z).sqrt))) else 0)
  cases sight : seen with
  | false => exact ⟨zero_whole halfSides, zero_whole quarterSides⟩
  | true =>
    obtain ⟨finite, -⟩ := Bool.and_eq_true_iff.mp sight
    simp only [Vec3.isFinite, Bool.and_eq_true] at finite
    obtain ⟨⟨x, y⟩, z⟩ := finite
    have x := number_of_finite x
    have z := number_of_finite z
    have across := total _ _ x z
    have along := total _ _ (number_of_finite y) (squares_unsigned x z).sqrt.number
    exact ⟨rounded_whole half halfSides halfWhole across,
      rounded_whole quarter quarterSides quarterWhole along⟩

/-- Between any two devices, whatever their positions and headings are, the measured bearing and
tilt are whole numbers of degrees in their ranges. So the dial of the measurement shows these
angles as they are, without bringing them into range. Between finite positions the distance
is a number and not negative, but it may be infinite. -/
theorem measured_whole {library : Trigonometry} (total : library.Total)
    (observer target : Device Float) :
    let measured := library.measure observer target
    WholeWithin 180 measured.bearing ∧ WholeWithin 90 measured.tilt ∧
      (observer.position.isFinite = true → target.position.isFinite = true →
        measured.distance.isNaN = false ∧ 0 ≤ measured.distance) ∧
      Orientation.clamped ⟨measured.bearing, measured.tilt⟩ = ⟨measured.bearing, measured.tilt⟩ ∧
      measured.dial.Shows ⟨measured.bearing, measured.tilt⟩ := by
  intro measured
  obtain ⟨bearing, tilt⟩ : WholeWithin 180 measured.bearing ∧ WholeWithin 90 measured.tilt :=
    measured_angles total observer target
  have kept : Orientation.clamped ⟨measured.bearing, measured.tilt⟩ =
      ⟨measured.bearing, measured.tilt⟩ := Orientation.clamped_of_within bearing.1 tilt.1
  have shows := Dial.ofAngles_shows measured.bearing measured.tilt
  rw [kept] at shows
  refine ⟨bearing, tilt, fun start stop => ?_, kept, shows⟩
  have unsigned : Unsigned measured.distance := length_unsigned start stop
  exact ⟨unsigned.number, unsigned.nonneg⟩

/-- A library that can tell zero, what is straight ahead and what is straight aside. -/
def crude : Trigonometry where
  sin := id
  cos := fun _ => 1
  atan := id
  atan2 := fun y x => if x == 0 && y > 0 then Double.pi / 2 else 0

/-- An offset whose size and horizontal part are both too large for a double. It is seen aside and
level, at no finite distance. -/
theorem overflow_seen_aside :
    let observer : Device Float := ⟨⟨1⟩, .zero, .zero, []⟩
    let target : Device Float := ⟨⟨2⟩, ⟨3e200, 4e200, 0⟩, .zero, []⟩
    let measured := crude.measure observer target
    crude.Total ∧ measured.dial.shownBearing = 90 ∧ measured.dial.shownTilt = 0 ∧
      measured.distance.isFinite = false ∧ 0 ≤ measured.distance := by
  intro observer target measured
  have total : crude.Total := by
    intro y x _ _
    change (if x == 0 && y > 0 then Double.pi / 2 else 0).isNaN = false
    split <;> decide +kernel
  obtain ⟨-, -, distance, -, shows⟩ := measured_whole total observer target
  have bearing : value measured.bearing = 90 := by decide +kernel
  have tilt : value measured.tilt = 0 := by decide +kernel
  exact ⟨total, shows.bearing.trans bearing, shows.tilt.trans tilt, by decide +kernel,
    (distance (by decide +kernel) (by decide +kernel)).2⟩

end Ranging
end DeviceMap
