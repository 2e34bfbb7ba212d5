import DeviceMap.Loading
import DeviceMap.Proofs.Device.Bounds
import DeviceMap.Proofs.Device.Listed
import DeviceMap.Proofs.Double.Value

/-! Which stored device lists a scene is loaded from, and what becomes of their
devices. A list is refused for the first device that repeats an address or has
a number that is not finite; otherwise every device is kept, with each of its
coordinates and angles at the nearest value in bounds. -/
namespace DeviceMap
open Double

namespace Device
variable {α : Type} [Scalar α]

/-- All addresses are different, and no position or heading fails to be finite. -/
def Admissible (devices : List (Device α)) : Prop :=
  Distinct devices ∧
    ∀ device ∈ devices, device.position.isFinite = true ∧ device.orientation.isFinite = true

/-- What is wrong with a device after the addresses of others: of several faults
the first one counts. -/
inductive Faulty (enrolled : List Mac) (device : Device α) : Fault → Prop where
  | duplicate (held : device.mac ∈ enrolled) : Faulty enrolled device .duplicateAddress
  | position (fresh : device.mac ∉ enrolled) (bad : device.position.isFinite = false) :
      Faulty enrolled device .positionNotFinite
  | orientation (fresh : device.mac ∉ enrolled) (position : device.position.isFinite = true)
      (bad : device.orientation.isFinite = false) : Faulty enrolled device .orientationNotFinite

section Enroll
variable {enrolled : List Mac} {device : Device α}

theorem fault_none_iff : device.fault? enrolled = none ↔ device.mac ∉ enrolled ∧
    device.position.isFinite = true ∧ device.orientation.isFinite = true := by
  unfold fault?
  split
  · simp_all
  · split
    · simp_all
    · split <;> simp_all

theorem faulty_of_fault {fault : Fault} (found : device.fault? enrolled = some fault) :
    Faulty enrolled device fault := by
  unfold fault? at found
  split at found
  · rename_i held
    cases found
    exact .duplicate (List.contains_iff_mem.mp held)
  · rename_i fresh
    rw [List.contains_iff_mem] at fresh
    split at found
    · rename_i bad
      cases found
      exact .position fresh (by simpa using bad)
    · rename_i position
      split at found
      · rename_i bad
        cases found
        exact .orientation fresh (by simpa using position) (by simpa using bad)
      · cases found

/-- The order of the addresses before a device does not matter. -/
theorem Faulty.congr {others : List Mac} {fault : Fault} (faulty : Faulty enrolled device fault)
    (same : device.mac ∈ enrolled ↔ device.mac ∈ others) : Faulty others device fault := by
  cases faulty with
  | duplicate held => exact .duplicate (same.mp held)
  | position fresh bad => exact .position (fresh ∘ same.mpr) bad
  | orientation fresh position bad => exact .orientation (fresh ∘ same.mpr) position bad

/-- One more device in front, with an address of its own. -/
theorem admissible_cons {rest : List (Device α)} : Admissible (device :: rest) ↔
    (device.position.isFinite = true ∧ device.orientation.isFinite = true) ∧
      (∀ other ∈ rest, other.mac ≠ device.mac) ∧ Admissible rest := by
  simp only [Admissible, Distinct, List.map_cons, List.nodup_cons, List.mem_map, not_exists,
    not_and, List.forall_mem_cons]
  tauto

private theorem enroll_cons_ok {first : Device α} {rest admitted : List (Device α)} :
    enroll enrolled (first :: rest) = .ok admitted ↔ first.fault? enrolled = none ∧
      ∃ others, enroll (first.mac :: enrolled) rest = .ok others ∧
        admitted = first.normalized :: others := by
  rw [enroll]
  split
  · rename_i found
    simp [found]
  · rename_i faultless
    simp only [faultless, true_and]
    cases enroll (first.mac :: enrolled) rest with
    | error reason => simp [Except.map]
    | ok others => simp [Except.map, eq_comm]

/-- A list is enrolled exactly if it is admissible and repeats no address that was
enrolled before, and each of its devices is normalized. -/
theorem enroll_ok_iff {devices admitted : List (Device α)} :
    enroll enrolled devices = .ok admitted ↔ (∀ device ∈ devices, device.mac ∉ enrolled) ∧
      Admissible devices ∧ admitted = devices.map normalized := by
  induction devices generalizing enrolled admitted with
  | nil =>
    have empty : Admissible ([] : List (Device α)) := ⟨List.nodup_nil, by simp⟩
    simp [enroll, empty, eq_comm]
  | cons first rest ih =>
    rw [enroll_cons_ok, fault_none_iff, admissible_cons, List.forall_mem_cons, List.map_cons]
    simp only [ih, List.mem_cons, not_or]
    constructor
    · rintro ⟨⟨fresh, finite⟩, others, ⟨apart, admissible, rfl⟩, rfl⟩
      exact ⟨⟨fresh, fun other held => (apart other held).2⟩,
        ⟨finite, fun other held => (apart other held).1, admissible⟩, rfl⟩
    · rintro ⟨⟨fresh, others⟩, ⟨finite, apart, admissible⟩, rfl⟩
      exact ⟨⟨fresh, finite⟩, _,
        ⟨fun other held => ⟨apart other held, others other held⟩, admissible, rfl⟩, rfl⟩

/-- The list is refused for the first device with a fault, and nothing is wrong
with the devices before it. -/
theorem enroll_error {devices : List (Device α)} {mac : Mac} {fault : Fault}
    (refused : enroll enrolled devices = .error (mac, fault)) :
    ∃ earlier device later, devices = earlier ++ device :: later ∧ device.mac = mac ∧
      (∀ other ∈ earlier, other.mac ∉ enrolled) ∧ Admissible earlier ∧
        Faulty (earlier.map Device.mac ++ enrolled) device fault := by
  induction devices generalizing enrolled with
  | nil => cases refused
  | cons first rest ih =>
    rw [enroll] at refused
    split at refused
    · rename_i found
      cases refused
      exact ⟨[], first, rest, rfl, rfl, by simp, by simp [Admissible, Distinct],
        faulty_of_fault found⟩
    · rename_i faultless
      obtain ⟨fresh, finite⟩ := fault_none_iff.mp faultless
      cases tail : enroll (first.mac :: enrolled) rest with
      | ok others =>
        rw [tail] at refused
        cases refused
      | error reason =>
        rw [tail] at refused
        cases refused
        obtain ⟨earlier, device, later, rfl, same, apart, admissible, faulty⟩ := ih tail
        -- Nothing before the fault repeats the first address, as that was enrolled by then.
        simp only [List.mem_cons, not_or] at apart
        refine ⟨first :: earlier, device, later, rfl, same,
          List.forall_mem_cons.mpr ⟨fresh, fun other held => (apart other held).2⟩,
          admissible_cons.mpr ⟨finite, fun other held => (apart other held).1, admissible⟩, ?_⟩
        exact faulty.congr (by simp only [List.map_cons, List.mem_append, List.mem_cons]; tauto)

end Enroll

section Normalized

/-- What admission makes of a stored device. The coordinates and angles are at the
nearest values in bounds, and everything else is as it was stored. -/
structure Normalizes (stored admitted : Device Float) : Prop where
  mac : admitted.mac = stored.mac
  neighbors : admitted.neighbors = stored.neighbors
  x : Nearest (Set.Icc (-560) 560) stored.position.x admitted.position.x
  elevation : Nearest (Set.Ici 0) stored.position.y admitted.position.y
  z : Nearest (Set.Icc (-560) 560) stored.position.z admitted.position.z
  bearing : Nearest (Set.Icc (-180) 180) stored.orientation.bearing admitted.orientation.bearing
  tilt : Nearest (Set.Icc (-90) 90) stored.orientation.tilt admitted.orientation.tilt
  kept : stored.Bounded → admitted = stored
  again : admitted.normalized = admitted

/-- What is in bounds is left as it is. -/
theorem normalized_of_bounded {device : Device Float} (bounded : device.Bounded) :
    device.normalized = device := by
  obtain ⟨inBounds, bearing, tilt⟩ := bounded
  have position : device.normalized.position = device.position := if_pos inBounds
  have orientation := Orientation.clamped_of_within bearing tilt
  calc device.normalized
      = { device with position := device.normalized.position,
                      orientation := device.orientation.clamped } := rfl
    _ = device := by rw [position, orientation]

/-- The limits of coordinates and angles are exact, to both sides of zero. -/
theorem clamp_nearest_bound {limit x : Float} {bound : ℚ}
    (known : limit ∈ [(0 : Float), 90, 180, 560]) (exact : value limit = bound)
    (finite : x.isFinite = true) :
    Nearest (Set.Icc (-bound) bound) x (Scalar.clamp (-limit) limit x) := by
  obtain ⟨limitFinite, low, high⟩ := bound_literal limit known
  rw [← exact]
  exact clamp_nearest_within limitFinite (Double.le_trans low high) finite

theorem clampHorizontal_nearest {x : Float} (finite : x.isFinite = true) :
    Nearest (Set.Icc (-560) 560) x (World.clampHorizontal x) := by
  rw [World.clampHorizontal, World.limit_eq]
  exact clamp_nearest_bound (by simp) bound_value.2.2.2 finite

theorem clampAngle_nearest {limit angle : Float} {bound : ℚ}
    (known : limit ∈ [(0 : Float), 90, 180, 560]) (exact : value limit = bound)
    (finite : angle.isFinite = true) :
    Nearest (Set.Icc (-bound) bound) angle (Orientation.clampAngle limit angle) := by
  have inside : Orientation.clampAngle limit angle = Scalar.clamp (-limit) limit angle :=
    if_pos finite
  rw [inside]
  exact clamp_nearest_bound known exact finite

/-- A position in bounds is left as it is, and with it every one of its coordinates
is the nearest to itself. -/
theorem position_nearest {device : Device Float} (finite : device.position.isFinite = true) :
    Nearest (Set.Icc (-560) 560) device.position.x device.normalized.position.x ∧
      Nearest (Set.Ici 0) device.position.y device.normalized.position.y ∧
      Nearest (Set.Icc (-560) 560) device.position.z device.normalized.position.z := by
  simp only [Vec3.isFinite, Bool.and_eq_true] at finite
  obtain ⟨⟨x, y⟩, z⟩ := finite
  by_cases inBounds : device.isInBounds = true
  · have same : device.normalized.position = device.position := if_pos inBounds
    obtain ⟨⟨⟨-, xSides⟩, -, zSides⟩, -, above⟩ := (isInBounds_iff device).mp inBounds
    have level := value_le zero_finite y above
    have xNearest := clampHorizontal_nearest x
    have zNearest := clampHorizontal_nearest z
    rw [World.clampHorizontal, World.limit_eq] at xNearest zNearest
    rw [clamp_of_between xSides.1 xSides.2] at xNearest
    rw [clamp_of_between zSides.1 zSides.2] at zNearest
    rw [bound_value.1] at level
    rw [same]
    exact ⟨xNearest, .refl y level, zNearest⟩
  · have moved : device.normalized.position = ⟨World.clampHorizontal device.position.x,
        Scalar.greatest device.position.y 0, World.clampHorizontal device.position.z⟩ :=
      if_neg inBounds
    have raised := greatest_nearest zero_finite y
    rw [bound_value.1] at raised
    rw [moved]
    exact ⟨clampHorizontal_nearest x, raised, clampHorizontal_nearest z⟩

theorem normalized_normalizes {device : Device Float}
    (finite : device.position.isFinite = true ∧ device.orientation.isFinite = true) :
    Normalizes device device.normalized := by
  obtain ⟨position, orientation⟩ := finite
  obtain ⟨x, elevation, z⟩ := position_nearest position
  simp only [Orientation.isFinite, Bool.and_eq_true] at orientation
  obtain ⟨bearing, tilt⟩ := orientation
  exact {
    mac := rfl
    neighbors := rfl
    x, elevation, z
    bearing := @clampAngle_nearest 180 _ 180 (by simp) bound_value.2.2.1 bearing
    tilt := @clampAngle_nearest 90 _ 90 (by simp) bound_value.2.1 tilt
    kept := normalized_of_bounded
    again := normalized_of_bounded (normalized_bounded position)
  }

end Normalized
end Device

namespace Scene

theorem parse_of_file {text : String} {file : DeviceFile}
    (stored : DeviceMap.parse DeviceFile text = .ok file) :
    Scene.parse text = ((Device.enroll [] file.devices).map (Scene.start · .identity)).mapError
      fun (mac, fault) => .invalidDevice mac fault := by
  unfold Scene.parse
  rw [stored]
  rfl

/-- A scene is loaded from a stored list exactly if the list is admissible. Then
nothing is selected, and the devices stand in their order, each one normalized.
Otherwise the first device with a fault is named, with the first of its faults. -/
theorem loaded_iff_admissible {text : String} {file : DeviceFile}
    (stored : DeviceMap.parse DeviceFile text = .ok file) :
    ((∃ scene, Scene.parse text = .ok scene) ↔ Device.Admissible file.devices) ∧
      (∀ scene, Scene.parse text = .ok scene → scene.interaction.selected = none ∧
        List.Forall₂ Device.Normalizes file.devices scene.devices) ∧
      ∀ reason, Scene.parse text = .error reason → ∃ earlier device later fault,
        file.devices = earlier ++ device :: later ∧ Device.Admissible earlier ∧
          Device.Faulty (earlier.map Device.mac) device fault ∧
            reason = .invalidDevice device.mac fault := by
  have result := parse_of_file stored
  cases enrolled : Device.enroll [] file.devices with
  | ok admitted =>
    obtain ⟨-, admissible, rfl⟩ := Device.enroll_ok_iff.mp enrolled
    rw [enrolled, Except.map, Except.mapError] at result
    rw [result]
    refine ⟨iff_of_true ⟨_, rfl⟩ admissible, ?_, fun reason refused => by cases refused⟩
    rintro scene ⟨⟩
    have each : List.Forall₂ (fun stored device => Device.Normalizes stored device.normalized)
        file.devices file.devices :=
      List.forall₂_same.mpr fun device held =>
        Device.normalized_normalizes (admissible.2 device held)
    exact ⟨rfl, List.forall₂_map_right_iff.mpr each⟩
  | error reason =>
    obtain ⟨mac, fault⟩ := reason
    obtain ⟨earlier, device, later, split, rfl, -, admissible, faulty⟩ :=
      Device.enroll_error enrolled
    rw [List.append_nil] at faulty
    rw [enrolled, Except.map, Except.mapError] at result
    rw [result]
    refine ⟨iff_of_false ?_ fun whole => ?_, fun scene loaded => (by cases loaded), ?_⟩
    · rintro ⟨scene, ⟨⟩⟩
    · have accepted := Device.enroll_ok_iff.mpr
        ⟨fun device _ => List.not_mem_nil, whole, rfl⟩
      rw [enrolled] at accepted
      cases accepted
    · rintro _ ⟨⟩
      exact ⟨earlier, device, later, fault, split, admissible, faulty, rfl⟩

/-- Two devices, one stored far outside of the world and one turned beyond the range. -/
def farAndTurned : String :=
  "[[device]]\nmac = 1\nposition.x = 900\nposition.y = -3\n" ++
    "[[device]]\nmac = 2\norientation.tilt = 95"

theorem far_and_turned_loaded : ∃ file scene,
    DeviceMap.parse DeviceFile farAndTurned = .ok file ∧ Scene.parse farAndTurned = .ok scene ∧
      file.devices.length = 2 ∧ List.Forall₂ Device.Normalizes file.devices scene.devices := by
  have found : (DeviceMap.parse DeviceFile farAndTurned).toOption.map
      (fun file => decide (Device.Distinct file.devices) && file.devices.length = 2 &&
        file.devices.all fun device => device.position.isFinite && device.orientation.isFinite) =
      some true := by
    decide +kernel
  cases stored : DeviceMap.parse DeviceFile farAndTurned with
  | error reason =>
    rw [stored] at found
    cases found
  | ok file =>
    rw [stored] at found
    simp only [Except.toOption, Option.map_some, Option.some.injEq, Bool.and_eq_true,
      decide_eq_true_eq, List.all_eq_true] at found
    obtain ⟨⟨distinct, length⟩, finite⟩ := found
    obtain ⟨accepted, effect, -⟩ := loaded_iff_admissible stored
    obtain ⟨scene, loaded⟩ := accepted.mpr ⟨distinct, finite⟩
    exact ⟨file, scene, rfl, loaded, length, (effect scene loaded).2⟩

end Scene
end DeviceMap
