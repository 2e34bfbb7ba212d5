import DeviceMap.Proofs.Device.Listed
import DeviceMap.Proofs.Double.Difference
import DeviceMap.Ranging

/-! Measuring all devices anew. What a device measures depends on addresses,
positions and headings alone, and measuring changes none of them. So it does not
matter what was measured before, nor whether the devices measure each other at once
or one after the other; and another order of the list is another order of the same
measurements. -/
namespace DeviceMap

/-- The device without what it has measured. -/
def Device.bare {α : Type} (device : Device α) : Device α := { device with neighbors := [] }

namespace Ranging
section Survey
variable {α : Type} [Scalar α]

/-- The device with its measurements of a list of others. -/
def survey (others : List (Device α)) (device : Device α) : Device α :=
  { device with neighbors := (others.filter (·.mac ≠ device.mac)).map (measure device) }

theorem survey_of_bare (others : List (Device α)) :
    survey (others.map Device.bare) = survey others := by
  funext device
  simp only [survey, List.filter_map, List.map_map]
  rfl

theorem survey_congr {others others' : List (Device α)}
    (same : others'.map Device.bare = others.map Device.bare) : survey others' = survey others := by
  rw [← survey_of_bare others', same, survey_of_bare]

theorem refresh_bare (devices : List (Device α)) :
    (refresh devices).map Device.bare = devices.map Device.bare := by
  rw [refresh, List.map_map]
  rfl

/-- Measurements that are there already do not count. -/
theorem refresh_congr {devices devices' : List (Device α)}
    (same : devices'.map Device.bare = devices.map Device.bare) :
    refresh devices' = refresh devices := by
  have measured (devices : List (Device α)) :
      refresh devices = (devices.map Device.bare).map (survey devices) := by
    rw [refresh, List.map_map]
    rfl
  rw [measured devices', measured devices, same, survey_congr same]

theorem refresh_place {devices : List (Device α)} {place : Nat} {device : Device α}
    (entry : devices[place]? = some device) :
    (refresh devices)[place]? = some (survey devices device) := by
  rw [refresh, List.getElem?_map, entry]
  rfl

/-- The measurement of an address is that of the first device with it, if it is not the
device's own. -/
theorem survey_neighbor? (others : List (Device α)) (device : Device α) (mac : Mac) :
    (survey others device).neighbor? mac =
      if mac = device.mac then none else (Device.find? others mac).map (measure device) := by
  simp only [survey, Device.neighbor?, Device.find?, List.find?_map, List.find?_filter]
  split
  · rename_i own
    subst own
    rw [List.find?_eq_none.mpr (by simp +contextual [measure])]
    rfl
  · rename_i other
    congr 2
    funext entry
    by_cases same : entry.mac = mac <;> simp [measure, same, other]

theorem survey_length {devices : List (Device α)} (distinct : Device.Distinct devices)
    {device : Device α} (member : device ∈ devices) :
    (survey devices device).neighbors.length + 1 = devices.length := by
  have single : (devices.map Device.mac).count device.mac = 1 :=
    List.count_eq_one_of_mem distinct (List.mem_map_of_mem member)
  have parts := List.length_eq_length_filter_add (l := devices) fun other => other.mac = device.mac
  rw [List.count, List.countP_map, List.countP_eq_length_filter] at single
  have own : (devices.filter fun other => other.mac = device.mac).length = 1 := by
    simpa [Function.comp_def, beq_eq_decide] using single
  rw [survey, List.length_map, parts, own, Nat.add_comm]
  simp

end Survey

section Places
variable {α : Type} [Scalar α] (devices : List (Device α))

/-- The list after the devices before a place have measured all others. -/
def halfway (steps : Nat) : List (Device α) :=
  devices.mapIdx fun place device => if place < steps then survey devices device else device

theorem halfway_zero : halfway devices 0 = devices := by
  apply List.ext_getElem?
  intro place
  rw [halfway, List.getElem?_mapIdx]
  cases devices[place]? <;> rfl

theorem halfway_length : halfway devices devices.length = refresh devices := by
  apply List.ext_getElem?
  intro place
  rw [halfway, List.getElem?_mapIdx]
  cases entry : devices[place]? with
  | none => simpa [refresh] using entry
  | some device =>
    have inside := (List.getElem?_eq_some_iff.mp entry).1
    rw [refresh_place entry]
    simp [inside]

theorem halfway_bare (steps : Nat) :
    (halfway devices steps).map Device.bare = devices.map Device.bare := by
  apply List.ext_getElem?
  intro place
  rw [halfway, List.getElem?_map, List.getElem?_mapIdx, List.getElem?_map]
  cases devices[place]? with
  | none => rfl
  | some device =>
    simp only [Option.map_some]
    split <;> rfl

theorem halfway_succ (steps : Nat) :
    (halfway devices steps).modify steps (survey devices) = halfway devices (steps + 1) := by
  apply List.ext_getElem?
  intro place
  rw [halfway, halfway, List.getElem?_modify, List.getElem?_mapIdx, List.getElem?_mapIdx]
  cases devices[place]? with
  | none => rfl
  | some device =>
    rcases Nat.lt_trichotomy place steps with before | rfl | after
    · simp [before, before.ne', Nat.lt_succ_of_lt before]
    · simp
    · simp [after.ne, after.not_gt, Nat.not_lt.mpr after]

/-- The devices can measure one after the other, from any list that has the same devices. -/
theorem refresh_in_place {read : List (Device α) → List (Device α)}
    (same : ∀ current, current.map Device.bare = devices.map Device.bare →
      (read current).map Device.bare = devices.map Device.bare) :
    (List.range devices.length).foldl
      (fun current place => current.modify place (survey (read current))) devices =
        refresh devices := by
  have run (steps : Nat) : (List.range steps).foldl
      (fun current place => current.modify place (survey (read current))) devices =
        halfway devices steps := by
    induction steps with
    | zero => exact (halfway_zero devices).symm
    | succ steps ih =>
      have others := survey_congr (same _ (halfway_bare devices steps))
      rw [List.range_succ, List.foldl_append, ih, List.foldl_cons, List.foldl_nil, others,
        halfway_succ]
  rw [run, halfway_length]

/-- What the device at one place measures of the one at another: nothing if they share an
address. -/
def noted (place other : Fin devices.length) : Option (Neighbor α) :=
  if devices[other].mac = devices[place].mac then none
  else some (measure devices[place] devices[other])

/-- The list with the devices at other places. -/
def reordered (order : Equiv.Perm (Fin devices.length)) : List (Device α) :=
  List.ofFn fun place => devices[order place]

omit [Scalar α] in
theorem reordered_perm (order : Equiv.Perm (Fin devices.length)) :
    (reordered devices order).Perm devices := by
  have moved := order.ofFn_comp_perm fun place => devices[place]
  have whole : List.ofFn (fun place : Fin devices.length => devices[place]) = devices :=
    List.ofFn_getElem
  rwa [whole] at moved

theorem survey_reordered (order : Equiv.Perm (Fin devices.length)) (place : Fin devices.length) :
    (survey (reordered devices order) devices[order place]).neighbors =
      (List.finRange devices.length).filterMap fun other =>
        noted devices (order place) (order other) := by
  simp only [survey, reordered, List.ofFn_eq_map, ← List.filterMap_eq_filter,
    ← List.filterMap_eq_map, List.filterMap_filterMap]
  congr 1
  funext other
  by_cases same : devices[(order other).val].mac = devices[(order place).val].mac <;>
    simp [noted, Option.guard, same]

theorem survey_place (place : Fin devices.length) : survey devices devices[place] =
    { devices[place] with
      neighbors := (List.finRange devices.length).filterMap (noted devices place) } := by
  have measured := survey_reordered devices (Equiv.refl _) place
  have unmoved : reordered devices (Equiv.refl _) = devices := List.ofFn_getElem
  rw [unmoved] at measured
  exact congrArg (fun neighbors => { devices[place] with neighbors }) measured

theorem noted_eq_some {place other : Fin devices.length} {neighbor : Neighbor α}
    (found : noted devices place other = some neighbor) :
    neighbor = measure devices[place] devices[other] := by
  unfold noted at found
  split at found
  · cases found
  · exact (Option.some.inj found).symm

end Places

/-- Two devices measure the same distance of each other, also where it is infinite or no
number. -/
theorem measure_distance_comm (first second : Device Float) :
    (measure first second).distance = (measure second first).distance := by
  change (second.position - first.position).length = (first.position - second.position).length
  have squares : (second.position - first.position).lengthSquared =
      (first.position - second.position).lengthSquared := by
    change (_ - _) * (_ - _) + (_ - _) * (_ - _) + (_ - _) * (_ - _) = _
    rw [Double.sub_square_comm, Double.sub_square_comm second.position.y,
      Double.sub_square_comm second.position.z]
    rfl
  rw [Vec3.length, squares, Vec3.length]

/-- Devices that measure each other stay what and where they are, and each one ends up with
the measurements of all entries with another address, in the order of the list. Where
addresses differ, these are all the other devices, and each one is found by its address.
Measuring takes no account of earlier measurements, so the devices can do it one after
the other, before or after each other's measurements are written down, and a second time
changes nothing. In another order of the list each device ends up with the same
measurements, and two devices measure the same distance of each other. -/
theorem refresh_complete (devices : List (Device Float)) :
    let after := refresh devices
    after.map Device.bare = devices.map Device.bare ∧
    (∀ place : Fin devices.length, after[place.val]? = some { devices[place] with
      neighbors := (List.finRange devices.length).filterMap (noted devices place) }) ∧
    (Device.Distinct devices → ∀ (place : Fin devices.length) (device : Device Float),
      after[place.val]? = some device → device.neighbors.length + 1 = devices.length ∧
        ∀ other ≠ place, device.neighbor? devices[other].mac =
          some (measure devices[place] devices[other])) ∧
    (∀ devices', devices'.map Device.bare = devices.map Device.bare → refresh devices' = after) ∧
    (List.range devices.length).foldl
      (fun current place => current.modify place (survey devices)) devices = after ∧
    (List.range devices.length).foldl
      (fun current place => current.modify place (survey current)) devices = after ∧
    refresh after = after ∧
    (∀ (order : Equiv.Perm (Fin devices.length)) (place : Fin devices.length),
      ∃ before now, after[(order place).val]? = some before ∧
        (refresh (reordered devices order))[place.val]? = some now ∧
        now.bare = before.bare ∧ now.neighbors.Perm before.neighbors ∧
        now.neighbors = (List.finRange devices.length).filterMap fun other =>
          noted devices (order place) (order other)) ∧
    ∀ (place other : Fin devices.length) (there back : Neighbor Float),
      noted devices place other = some there → noted devices other place = some back →
        there.distance = back.distance := by
  intro after
  have entry (place : Fin devices.length) : after[place.val]? = some (survey devices devices[place]) :=
    refresh_place (by simp)
  refine ⟨refresh_bare devices, fun place => (entry place).trans (congrArg some ?_),
    fun distinct place device found => ?_,
    fun _ => refresh_congr, refresh_in_place devices fun _ _ => rfl,
    refresh_in_place devices fun _ same => same, refresh_congr (refresh_bare devices),
    fun order place => ?_, fun place other there back noticed returned => ?_⟩
  · exact survey_place devices place
  · obtain rfl := Option.some.inj ((entry place).symm.trans found)
    refine ⟨survey_length distinct (List.getElem_mem _), fun other apart => ?_⟩
    have held (place : Fin devices.length) : devices[place.val]? = some devices[place] := by simp
    have foreign : devices[other].mac ≠ devices[place].mac := fun same =>
      apart (Fin.ext (Device.place_unique distinct (held other) (held place) same))
    rw [survey_neighbor?, if_neg foreign, Device.find_entry distinct (held other)]
    rfl
  · have moved : (reordered devices order)[place.val]? = some devices[order place] := by
      simp [reordered]
    exact ⟨_, _, entry (order place), refresh_place moved, rfl,
      ((reordered_perm devices order).filter _).map _, survey_reordered devices order place⟩
  · rw [noted_eq_some devices noticed, noted_eq_some devices returned, measure_distance_comm]

/-- Three devices, one of which still has a measurement of a device that is gone. -/
theorem three_devices_refreshed :
    let devices : List (Device Float) := [⟨⟨1⟩, ⟨0, 0, 0⟩, .zero, []⟩,
      ⟨⟨2⟩, ⟨0, 0, 100⟩, .zero, []⟩, ⟨⟨3⟩, ⟨100, 20, 0⟩, ⟨30, 10⟩, [⟨⟨9⟩, 1, 2, 3⟩]⟩]
    let there := measure devices[0] devices[2]
    let back := measure devices[2] devices[0]
    (Device.Distinct devices ∧ (refresh devices)[0]?.bind (·.neighbor? ⟨3⟩) = some there) ∧
      refresh (devices.map Device.bare) = refresh devices ∧
      (noted devices 0 2 = some there ∧ noted devices 2 0 = some back) ∧
      there.distance = back.distance := by
  intro devices there back
  have distinct : Device.Distinct devices := by decide
  have noticed : noted devices 0 2 = some there := if_neg (by decide)
  have returned : noted devices 2 0 = some back := if_neg (by decide)
  obtain ⟨-, -, found, unread, -, -, -, -, alike⟩ := refresh_complete devices
  have listed := (found distinct 0 (survey devices devices[0]) rfl).2 2 (by decide)
  exact ⟨⟨distinct, listed⟩, unread _ (by rw [List.map_map]; rfl), ⟨noticed, returned⟩,
    alike 0 2 there back noticed returned⟩

end Ranging
end DeviceMap
