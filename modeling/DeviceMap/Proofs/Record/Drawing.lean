import DeviceMap.Proofs.Record.Lossless
import DeviceMap.Record.Drawing

/-! What is drawn, as data that loses nothing. Two records have an optional part:
a placement writes null for a stem it does not have, and an axis leaves out an
angle it does not have. -/
namespace DeviceMap
open Record Datum

def Affine.isFinite (m : Affine Float) : Bool := m.toList.all Float.isFinite

def Viewport.isFinite (v : Viewport Float) : Bool := v.center.isFinite && v.scale.isFinite

def Arc.isFinite (arc : Arc Float) : Bool :=
  arc.sweep.isFinite && arc.rotateZ.isFinite && arc.rotateX.isFinite

def Axis.isFinite (axis : Axis Float) : Bool :=
  axis.rotateZ.isFinite && axis.rotateX.isFinite && axis.rotateY.all Float.isFinite

/-- All numbers of the dial are finite. -/
def Dial.isFinite (dial : Dial Float) : Bool :=
  dial.unit.isFinite && dial.bearingArc.isFinite && dial.tiltArc.isFinite &&
    dial.depthAxis.isFinite && dial.planarAxis.isFinite

def Marker.Placement.isFinite (p : Marker.Placement Float) : Bool :=
  p.anchor.isFinite && p.stem.all Float.isFinite

theorem Affine.lossless : Lossless (Affine Float) Affine.isFinite 1 := by
  refine Lossless.record (fun m => [("a", encode m.a), ("b", encode m.b), ("c", encode m.c),
    ("d", encode m.d), ("e", encode m.e), ("f", encode m.f)])
    (fun _ => rfl) (fun _ _ => rfl) (fun _ => rfl) (by simp) ?_ ?_ ?_
  · intro m known format byName
    simp only [Affine.isFinite, Affine.toList, List.all_cons, Bool.and_eq_true] at known
    obtain ⟨a, b, c, d, e, f, -⟩ := known
    change (do return ⟨← decode format _, ← decode format _, ← decode format _,
      ← decode format _, ← decode format _, ← decode format _⟩ : Option (Affine Float)) = _
    rw [Float.lossless.kept a, Float.lossless.kept b, Float.lossless.kept c,
      Float.lossless.kept d, Float.lossless.kept e, Float.lossless.kept f]
    rfl
  · intro format entries m finite decoded
    split at decoded
    · simp only [Option.bind_eq_bind, Option.bind_eq_some_iff] at decoded
      obtain ⟨a, aRead, b, bRead, c, cRead, d, dRead, e, eRead, f, fRead, decoded⟩ := decoded
      cases decoded
      simp only [List.forall_mem_cons] at finite
      obtain ⟨aData, bData, cData, dData, eData, fData, -⟩ := finite
      simp [Affine.isFinite, Affine.toList, Float.lossless.required aData aRead,
        Float.lossless.required bData bRead, Float.lossless.required cData cRead,
        Float.lossless.required dData dRead, Float.lossless.required eData eRead,
        Float.lossless.required fData fRead]
    · cases decoded
  · exact fun m depth room => ⟨trivial, trivial, trivial, trivial, trivial, trivial, trivial⟩

theorem Viewport.lossless : Lossless (Viewport Float) Viewport.isFinite 2 := by
  refine Lossless.record (fun v => [("center", encode v.center), ("scale", encode v.scale)])
    (fun _ => rfl) (fun _ _ => rfl) (fun _ => rfl) (by simp) ?_ ?_ ?_
  · intro v known format byName
    simp only [Viewport.isFinite, Bool.and_eq_true] at known
    change (do return ⟨← decode format _, ← decode format _⟩ : Option (Viewport Float)) = _
    rw [Vec2.lossless.kept known.1, Float.lossless.kept known.2]
    rfl
  · intro format entries v finite decoded
    split at decoded
    · simp only [Option.bind_eq_bind, Option.bind_eq_some_iff] at decoded
      obtain ⟨center, centerRead, scale, scaleRead, decoded⟩ := decoded
      cases decoded
      simp only [List.forall_mem_cons] at finite
      obtain ⟨centerData, scaleData, -⟩ := finite
      simp [Viewport.isFinite, Vec2.lossless.required centerData centerRead,
        Float.lossless.required scaleData scaleRead]
    · cases decoded
  · exact fun v depth room => ⟨Vec2.lossless.fits _ _ room, trivial, trivial⟩

theorem Arc.lossless : Lossless (Arc Float) Arc.isFinite 1 := by
  refine Lossless.record (fun arc => [("sweep", encode arc.sweep),
    ("rotate_z", encode arc.rotateZ), ("rotate_x", encode arc.rotateX)])
    (fun _ => rfl) (fun _ _ => rfl) (fun _ => rfl) (by simp) ?_ ?_ ?_
  · intro arc known format byName
    simp only [Arc.isFinite, Bool.and_eq_true] at known
    obtain ⟨⟨sweep, z⟩, x⟩ := known
    change (do return ⟨← decode format _, ← decode format _, ← decode format _⟩ :
      Option (Arc Float)) = _
    rw [Float.lossless.kept sweep, Float.lossless.kept z, Float.lossless.kept x]
    rfl
  · intro format entries arc finite decoded
    split at decoded
    · simp only [Option.bind_eq_bind, Option.bind_eq_some_iff] at decoded
      obtain ⟨sweep, sweepRead, z, zRead, x, xRead, decoded⟩ := decoded
      cases decoded
      simp only [List.forall_mem_cons] at finite
      obtain ⟨sweepData, zData, xData, -⟩ := finite
      simp [Arc.isFinite, Float.lossless.required sweepData sweepRead,
        Float.lossless.required zData zRead, Float.lossless.required xData xRead]
    · cases decoded
  · exact fun arc depth room => ⟨trivial, trivial, trivial, trivial⟩

private theorem optionalFloat : Lossless (Option Float) (·.all Float.isFinite) 0 :=
  Float.lossless.option fun _ => rfl

/-- An angle that is not written is not found, and so it is none again. -/
private theorem Axis.decode_shown {axis : Axis Float} (format : Format) (byName : Bool) :
    decode format ((encode axis).arranged byName).shown =
      (do return ⟨← decode format ((encode axis.rotateZ).arranged byName).shown,
        ← decode format ((encode axis.rotateX).arranged byName).shown,
        ← decode format ((encode axis.rotateY).arranged byName).shown⟩ : Option (Axis Float)) := by
  obtain ⟨z, x, y⟩ := axis
  cases y with
  | none => cases byName <;> rfl
  | some y =>
    have entries := entries_shown format byName [("rotate_z", encode z), ("rotate_x", encode x),
      ("rotate_y", encode y)] (by simp) (List.Subset.refl _)
    exact congrArg (Option.bind · _) entries

theorem Axis.lossless : Lossless (Axis Float) Axis.isFinite 1 where
  kept {axis} known format byName := by
    simp only [Axis.isFinite, Bool.and_eq_true] at known
    obtain ⟨⟨z, x⟩, y⟩ := known
    rw [Axis.decode_shown, Float.lossless.kept z, Float.lossless.kept x, optionalFloat.kept y]
    rfl
  given {format d axis} data decoded := by
    obtain ⟨entries, finite, decoded⟩ := entries_of_read data decoded
    split at decoded
    · simp only [Option.bind_eq_bind, Option.bind_eq_some_iff] at decoded
      obtain ⟨z, zRead, x, xRead, y, yRead, decoded⟩ := decoded
      cases decoded
      simp only [List.forall_mem_cons] at finite
      obtain ⟨zData, xData, yData, -⟩ := finite
      simp [Axis.isFinite, Float.lossless.required zData zRead,
        Float.lossless.required xData xRead, optionalFloat.orElse yData yRead rfl]
    · cases decoded
  fits axis depth room := by
    obtain ⟨z, x, y⟩ := axis
    cases y with
    | none => exact ⟨by omega, trivial, trivial, trivial⟩
    | some y => exact ⟨by omega, trivial, trivial, trivial, trivial⟩

theorem Dial.lossless : Lossless (Dial Float) Dial.isFinite 2 := by
  refine Lossless.record (fun dial => [("unit", encode dial.unit),
    ("bearing_arc", encode dial.bearingArc), ("tilt_arc", encode dial.tiltArc),
    ("depth_axis", encode dial.depthAxis), ("planar_axis", encode dial.planarAxis)])
    (fun _ => rfl) (fun _ _ => rfl) (fun _ => rfl) (by simp) ?_ ?_ ?_
  · intro dial known format byName
    simp only [Dial.isFinite, Bool.and_eq_true] at known
    obtain ⟨⟨⟨⟨unit, bearing⟩, tilt⟩, depth⟩, planar⟩ := known
    change (do return ⟨← decode format _, ← decode format _, ← decode format _,
      ← decode format _, ← decode format _⟩ : Option (Dial Float)) = _
    rw [Float.lossless.kept unit, Arc.lossless.kept bearing, Arc.lossless.kept tilt,
      Axis.lossless.kept depth, Axis.lossless.kept planar]
    rfl
  · intro format entries dial finite decoded
    split at decoded
    · simp only [Option.bind_eq_bind, Option.bind_eq_some_iff] at decoded
      obtain ⟨unit, unitRead, bearing, bearingRead, tilt, tiltRead, depth, depthRead, planar,
        planarRead, decoded⟩ := decoded
      cases decoded
      simp only [List.forall_mem_cons] at finite
      obtain ⟨unitData, bearingData, tiltData, depthData, planarData, -⟩ := finite
      simp [Dial.isFinite, Float.lossless.required unitData unitRead,
        Arc.lossless.required bearingData bearingRead, Arc.lossless.required tiltData tiltRead,
        Axis.lossless.required depthData depthRead, Axis.lossless.required planarData planarRead]
    · cases decoded
  · exact fun dial depth room => ⟨trivial, Arc.lossless.fits _ _ room, Arc.lossless.fits _ _ room,
      Axis.lossless.fits _ _ room, Axis.lossless.fits _ _ room, trivial⟩

theorem Marker.Placement.lossless :
    Lossless (Marker.Placement Float) Marker.Placement.isFinite 2 := by
  refine Lossless.record (fun p => [("mac", encode p.mac), ("anchor", encode p.anchor),
    ("selected", encode p.selected), ("stem_length", encode p.stem)])
    (fun _ => rfl) (fun _ _ => rfl) (fun _ => rfl) (by simp) ?_ ?_ ?_
  · intro p known format byName
    simp only [Marker.Placement.isFinite, Bool.and_eq_true] at known
    obtain ⟨anchor, stem⟩ := known
    have stem := optionalFloat.kept stem format byName
    rw [← nullable_given] at stem
    change (do return ⟨← decode format _, ← decode format _, ← decode format _,
      ← (Entry.given _).nullable? format⟩ : Option (Marker.Placement Float)) = _
    rw [Mac.lossless.kept rfl, Vec2.lossless.kept anchor, Bool.lossless.kept rfl, stem]
    rfl
  · intro format entries p finite decoded
    split at decoded
    · simp only [Option.bind_eq_bind, Option.bind_eq_some_iff] at decoded
      obtain ⟨mac, -, anchor, anchorRead, selected, -, stem, stemRead, decoded⟩ := decoded
      cases decoded
      simp only [List.forall_mem_cons] at finite
      obtain ⟨-, anchorData, -, stemData, -⟩ := finite
      simp [Marker.Placement.isFinite, Vec2.lossless.required anchorData anchorRead,
        Float.lossless.nullable stemData stemRead]
    · cases decoded
  · exact fun p depth room => ⟨Mac.lossless.fits _ _ (by omega), Vec2.lossless.fits _ _ room,
      trivial, optionalFloat.fits _ _ (by omega), trivial⟩

end DeviceMap
