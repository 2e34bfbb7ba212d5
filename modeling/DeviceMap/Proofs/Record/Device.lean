import DeviceMap.Proofs.Device.Finite
import DeviceMap.Proofs.Record.Lossless
import DeviceMap.Record.Device

/-! Devices and their parts as data. A record follows its fields: each is read
from its own entry, and what is finite is read back as it was. Whatever is read
is finite, as no data is there for anything else. -/
namespace DeviceMap
open Json.Reader Record Datum

section Entries
variable (format : Format)
variable {d x y z mac distance bearing tilt position orientation neighbors : Datum}

private theorem Vec3.decode_entries
    (entries : entries? format ["x", "y", "z"] d = some [.given x, .given y, .given z]) :
    decode format d = (do return ⟨← decode format x, ← decode format y, ← decode format z⟩ :
      Option (Vec3 Float)) := by
  change (entries? format ["x", "y", "z"] d).bind _ = _
  rw [entries]
  rfl

private theorem Orientation.decode_entries
    (entries : entries? format ["bearing", "tilt"] d = some [.given bearing, .given tilt]) :
    decode format d = (do return ⟨← decode format bearing, ← decode format tilt⟩ :
      Option (Orientation Float)) := by
  change (entries? format ["bearing", "tilt"] d).bind _ = _
  rw [entries]
  rfl

private theorem Neighbor.decode_entries
    (entries : entries? format ["mac", "distance", "bearing", "tilt"] d =
      some [.given mac, .given distance, .given bearing, .given tilt]) :
    decode format d = (do return ⟨← decode format mac, ← decode format distance,
      ← decode format bearing, ← decode format tilt⟩ : Option (Neighbor Float)) := by
  change (entries? format ["mac", "distance", "bearing", "tilt"] d).bind _ = _
  rw [entries]
  rfl

private theorem Device.decode_entries
    (entries : entries? format ["mac", "position", "orientation", "neighbor"] d =
      some [.given mac, .given position, .given orientation, .given neighbors]) :
    decode format d = (do return ⟨← decode format mac, ← decode format position,
      ← decode format orientation, ← decode format neighbors⟩ : Option (Device Float)) := by
  change (entries? format ["mac", "position", "orientation", "neighbor"] d).bind _ = _
  rw [entries]
  rfl

end Entries

theorem Vec3.readsBack : ReadsBack (Vec3 Float) Vec3.isFinite 1 where
  decoded format byName p := by
    have entries := entries_shown format byName
      [("x", encode p.x), ("y", encode p.y), ("z", encode p.z)] (by simp) (List.Subset.refl _)
    refine (Vec3.decode_entries format entries).trans ?_
    simp only [Float.readsBack.decoded, Vec3.isFinite]
    by_cases x : p.x.isFinite = true <;> by_cases y : p.y.isFinite = true <;>
      by_cases z : p.z.isFinite = true <;> simp [x, y, z, Scalar.isFinite]
  fits p depth room := ⟨by omega, trivial, trivial, trivial, trivial⟩

theorem Orientation.readsBack : ReadsBack (Orientation Float) Orientation.isFinite 1 where
  decoded format byName o := by
    have entries := entries_shown format byName
      [("bearing", encode o.bearing), ("tilt", encode o.tilt)] (by simp) (List.Subset.refl _)
    refine (Orientation.decode_entries format entries).trans ?_
    simp only [Float.readsBack.decoded, Orientation.isFinite]
    by_cases bearing : o.bearing.isFinite = true <;> by_cases tilt : o.tilt.isFinite = true <;>
      simp [bearing, tilt, Scalar.isFinite]
  fits o depth room := ⟨by omega, trivial, trivial, trivial⟩

theorem Neighbor.readsBack : ReadsBack (Neighbor Float) Neighbor.isFinite 1 where
  decoded format byName n := by
    have entries := entries_shown format byName [("mac", encode n.mac),
      ("distance", encode n.distance), ("bearing", encode n.bearing), ("tilt", encode n.tilt)]
      (by simp) (List.Subset.refl _)
    refine (Neighbor.decode_entries format entries).trans ?_
    simp only [Float.readsBack.decoded, Mac.readsBack.decoded, Neighbor.isFinite]
    by_cases distance : n.distance.isFinite = true <;>
      by_cases bearing : n.bearing.isFinite = true <;>
      by_cases tilt : n.tilt.isFinite = true <;> simp [distance, bearing, tilt, Scalar.isFinite]
  fits n depth room :=
    ⟨by omega, Mac.readsBack.fits n.mac _ (by omega), trivial, trivial, trivial, trivial⟩

theorem Device.readsBack : ReadsBack (Device Float) Device.isFinite 3 where
  decoded format byName device := by
    have entries := entries_shown format byName [("mac", encode device.mac),
      ("position", encode device.position), ("orientation", encode device.orientation),
      ("neighbor", encode device.neighbors)] (by simp) (List.Subset.refl _)
    refine (Device.decode_entries format entries).trans ?_
    simp only [Mac.readsBack.decoded, Vec3.readsBack.decoded, Orientation.readsBack.decoded,
      (List.readsBack Neighbor.readsBack).decoded, Device.isFinite]
    by_cases position : device.position.isFinite = true <;>
      by_cases orientation : device.orientation.isFinite = true <;>
      by_cases neighbors : device.neighbors.all (·.isFinite) = true <;>
      simp [position, orientation, neighbors]
  fits device depth room := by
    have inner := (List.readsBack Neighbor.readsBack).fits device.neighbors (depth + 1) (by omega)
    exact ⟨by omega, Mac.readsBack.fits _ _ (by omega), Vec3.readsBack.fits _ _ (by omega),
      Orientation.readsBack.fits _ _ (by omega), inner, trivial⟩

theorem Vec3.lossless : Lossless (Vec3 Float) Vec3.isFinite 1 := Vec3.readsBack.lossless <| by
  intro format d p data decoded
  obtain ⟨entries, finite, decoded⟩ := entries_of_read data decoded
  split at decoded
  · simp only [Option.bind_eq_bind, Option.bind_eq_some_iff] at decoded
    obtain ⟨x, xRead, y, yRead, z, zRead, decoded⟩ := decoded
    cases decoded
    simp only [List.forall_mem_cons] at finite
    obtain ⟨xData, yData, zData, -⟩ := finite
    simp [Vec3.isFinite, Scalar.isFinite, Float.lossless.orElse xData xRead Double.zero_finite,
      Float.lossless.orElse yData yRead Double.zero_finite,
      Float.lossless.orElse zData zRead Double.zero_finite]
  · cases decoded

theorem Orientation.lossless : Lossless (Orientation Float) Orientation.isFinite 1 :=
  Orientation.readsBack.lossless <| by
  intro format d o data decoded
  obtain ⟨entries, finite, decoded⟩ := entries_of_read data decoded
  split at decoded
  · simp only [Option.bind_eq_bind, Option.bind_eq_some_iff] at decoded
    obtain ⟨bearing, bearingRead, tilt, tiltRead, decoded⟩ := decoded
    cases decoded
    simp only [List.forall_mem_cons] at finite
    obtain ⟨bearingData, tiltData, -⟩ := finite
    simp [Orientation.isFinite, Scalar.isFinite,
      Float.lossless.orElse bearingData bearingRead Double.zero_finite,
      Float.lossless.orElse tiltData tiltRead Double.zero_finite]
  · cases decoded

theorem Neighbor.lossless : Lossless (Neighbor Float) Neighbor.isFinite 1 :=
  Neighbor.readsBack.lossless <| by
  intro format d n data decoded
  obtain ⟨entries, finite, decoded⟩ := entries_of_read data decoded
  split at decoded
  · simp only [Option.bind_eq_bind, Option.bind_eq_some_iff] at decoded
    obtain ⟨mac, -, distance, distanceRead, bearing, bearingRead, tilt, tiltRead, decoded⟩ :=
      decoded
    cases decoded
    simp only [List.forall_mem_cons] at finite
    obtain ⟨-, distanceData, bearingData, tiltData, -⟩ := finite
    simp [Neighbor.isFinite, Scalar.isFinite, Float.lossless.required distanceData distanceRead,
      Float.lossless.required bearingData bearingRead, Float.lossless.required tiltData tiltRead]
  · cases decoded

theorem Device.lossless : Lossless (Device Float) Device.isFinite 3 :=
  Device.readsBack.lossless <| by
  intro format d device data decoded
  obtain ⟨entries, finite, decoded⟩ := entries_of_read data decoded
  split at decoded
  · simp only [Option.bind_eq_bind, Option.bind_eq_some_iff] at decoded
    obtain ⟨mac, -, position, positionRead, orientation, orientationRead, neighbors,
      neighborsRead, decoded⟩ := decoded
    cases decoded
    simp only [List.forall_mem_cons] at finite
    obtain ⟨-, positionData, orientationData, neighborsData, -⟩ := finite
    have zero : (Vec3.zero : Vec3 Float).isFinite = true := by decide +kernel
    have straight : (Orientation.zero : Orientation Float).isFinite = true := by decide +kernel
    simp only [Device.isFinite, Vec3.lossless.orElse positionData positionRead zero,
      Orientation.lossless.orElse orientationData orientationRead straight,
      Neighbor.lossless.list.orElse neighborsData neighborsRead rfl, Bool.and_self]
  · cases decoded

end DeviceMap
