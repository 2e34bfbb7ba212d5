import DeviceMap.Device

/-! Lists of devices that are looked up and overwritten by address. Finding and
overwriting stop at the first entry with the address; where addresses differ
from each other, that is the only one. -/
namespace DeviceMap.Device
variable {α : Type}

/-- No two entries of the list have the same address. -/
def Distinct (devices : List (Device α)) : Prop := (devices.map Device.mac).Nodup

instance (devices : List (Device α)) : Decidable (Distinct devices) :=
  inferInstanceAs (Decidable (devices.map Device.mac).Nodup)

/-- Every entry with the address of a device is replaced by it. -/
def overwrite (devices : List (Device α)) (device : Device α) : List (Device α) :=
  devices.map fun entry => if entry.mac = device.mac then device else entry

theorem find_mac {devices : List (Device α)} {mac : Mac} {device : Device α}
    (found : find? devices mac = some device) : device.mac = mac := by
  simpa using List.find?_some found

theorem find_mem {devices : List (Device α)} {mac : Mac} {device : Device α}
    (found : find? devices mac = some device) : device ∈ devices :=
  List.mem_of_find?_eq_some found

/-- An entry is found by its address, whatever its place in the list. -/
theorem find_entry {devices : List (Device α)} (distinct : Distinct devices)
    {place : Nat} {device : Device α} (entry : devices[place]? = some device) :
    find? devices device.mac = some device := by
  induction devices generalizing place with
  | nil => simp at entry
  | cons first rest ih =>
    obtain ⟨fresh, restDistinct⟩ := List.nodup_cons.mp distinct
    cases place with
    | zero =>
      cases entry
      simp [find?]
    | succ place =>
      have later : rest[place]? = some device := by simpa using entry
      have other : first.mac ≠ device.mac := fun same =>
        fresh (same ▸ List.mem_map_of_mem (List.mem_of_getElem? later))
      simpa [find?, other] using ih restDistinct later

/-- The entry at a place is the first one with its address. -/
def FirstAt (devices : List (Device α)) (place : Nat) (device : Device α) : Prop :=
  devices[place]? = some device ∧
    ∀ earlier other, earlier < place → devices[earlier]? = some other → other.mac ≠ device.mac

/-- An entry that is overwritten with its address kept is the first one as before. -/
theorem FirstAt.set {devices : List (Device α)} {place : Nat} {device edited : Device α}
    (first : FirstAt devices place device) (same : edited.mac = device.mac) :
    FirstAt (devices.set place edited) place edited := by
  obtain ⟨held, before⟩ := first
  have inside := (List.getElem?_eq_some_iff.mp held).1
  refine ⟨List.getElem?_set_self inside, fun earlier other below entry => ?_⟩
  rw [List.getElem?_set_ne (by omega)] at entry
  rw [same]
  exact before earlier other below entry

/-- An entry that is found stands somewhere, and is overwritten in its place. -/
theorem find_firstAt {devices : List (Device α)} {mac : Mac} {device : Device α}
    (found : find? devices mac = some device) : ∃ place, FirstAt devices place device ∧
      ∀ edited, edited.mac = mac → edited.put devices = devices.set place edited := by
  induction devices with
  | nil => cases found
  | cons first rest ih =>
    by_cases same : first.mac = mac
    · have here : first = device := by simpa [find?, same] using found
      subst here
      exact ⟨0, ⟨rfl, nofun⟩, fun edited shared => by simp [put, same, shared]⟩
    · have later : find? rest mac = some device := by simpa [find?, same] using found
      obtain ⟨place, ⟨held, before⟩, overwritten⟩ := ih later
      refine ⟨place + 1, ⟨held, ?_⟩, fun edited shared => ?_⟩
      · rintro (_ | earlier) other below entry
        · cases entry
          rwa [find_mac found]
        · exact before earlier other (by omega) entry
      · simp [put, same, shared, overwritten edited shared]

theorem put_macs (device : Device α) (devices : List (Device α)) :
    (device.put devices).map Device.mac = devices.map Device.mac := by
  induction devices with
  | nil => rfl
  | cons first rest ih =>
    unfold put
    split
    · rename_i same
      simp [same]
    · simp [ih]

/-- What is written over a found entry is found in its place. -/
theorem find_put {devices : List (Device α)} {mac : Mac} {device edited : Device α}
    (found : find? devices mac = some device) (same : edited.mac = mac) :
    find? (edited.put devices) mac = some edited := by
  induction devices with
  | nil => cases found
  | cons first rest ih =>
    by_cases here : first.mac = mac
    · simp [put, find?, here, same]
    · have later : find? rest mac = some device := by simpa [find?, here] using found
      simpa [put, find?, here, same] using ih later

/-- Under other addresses nothing else is found than before. -/
theorem find_put_other {edited : Device α} {mac : Mac} (other : edited.mac ≠ mac)
    (devices : List (Device α)) : find? (edited.put devices) mac = find? devices mac := by
  induction devices with
  | nil => rfl
  | cons first rest ih =>
    by_cases here : first.mac = edited.mac
    · simp [put, find?, here, other]
    · have later : List.find? (fun device => device.mac = mac) (edited.put rest) =
          List.find? (fun device => device.mac = mac) rest := ih
      simp only [put, here, ↓reduceIte, find?, List.find?_cons, later]

/-- Of two writes to one address only the second one counts. -/
theorem put_put {first second : Device α} (same : second.mac = first.mac)
    (devices : List (Device α)) : second.put (first.put devices) = second.put devices := by
  induction devices with
  | nil => rfl
  | cons entry rest ih =>
    by_cases here : entry.mac = first.mac
    · simp [put, here, same]
    · simp [put, here, same, ih]

/-- An entry that is found and written over itself changes nothing. -/
theorem put_self {devices : List (Device α)} {device : Device α}
    (found : find? devices device.mac = some device) : device.put devices = devices := by
  induction devices with
  | nil => cases found
  | cons first rest ih =>
    by_cases here : first.mac = device.mac
    · have same : first = device := by simpa [find?, here] using found
      simp [put, same]
    · have later : find? rest device.mac = some device := by simpa [find?, here] using found
      simp [put, here, ih later]

theorem put_distinct {devices : List (Device α)} (distinct : Distinct devices)
    (device : Device α) : Distinct (device.put devices) := by
  unfold Distinct
  rw [put_macs]
  exact distinct

/-- Overwriting brings in nothing but the device itself. -/
theorem mem_put {device entry : Device α} {devices : List (Device α)}
    (member : entry ∈ device.put devices) : entry = device ∨ entry ∈ devices := by
  induction devices with
  | nil => exact Or.inr member
  | cons first rest ih =>
    unfold put at member
    split at member
    · rcases List.mem_cons.mp member with same | later
      · exact Or.inl same
      · exact Or.inr (List.mem_cons_of_mem _ later)
    · rcases List.mem_cons.mp member with same | later
      · exact Or.inr (same ▸ List.mem_cons_self)
      · exact (ih later).imp_right (List.mem_cons_of_mem _)

private theorem overwrite_absent {device : Device α} {devices : List (Device α)}
    (absent : device.mac ∉ devices.map Device.mac) : overwrite devices device = devices := by
  have kept : ∀ entry ∈ devices, (if entry.mac = device.mac then device else entry) = entry := by
    intro entry member
    have other : entry.mac ≠ device.mac := fun same =>
      absent (same ▸ List.mem_map_of_mem member)
    exact if_neg other
  exact (List.map_congr_left kept).trans (List.map_id _)

/-- The first entry with an address is the only one. -/
theorem put_eq_overwrite {devices : List (Device α)} (distinct : Distinct devices)
    (device : Device α) : device.put devices = overwrite devices device := by
  induction devices with
  | nil => rfl
  | cons first rest ih =>
    obtain ⟨fresh, restDistinct⟩ := List.nodup_cons.mp distinct
    unfold put
    split
    · rename_i same
      have absent := overwrite_absent (same ▸ fresh)
      simpa [overwrite, same] using absent.symm
    · rename_i other
      simpa [overwrite, other] using ih restDistinct

/-- The new entry stands in the place of the old one. -/
theorem put_entry {devices : List (Device α)} (distinct : Distinct devices) {place : Nat}
    {device edited : Device α} (entry : devices[place]? = some device)
    (same : edited.mac = device.mac) : (edited.put devices)[place]? = some edited := by
  rw [put_eq_overwrite distinct, overwrite, List.getElem?_map, entry]
  simp [same]

/-- Two places do not hold the same address. -/
theorem place_unique {devices : List (Device α)} (distinct : Distinct devices)
    {place other : Nat} {device twin : Device α} (entry : devices[place]? = some device)
    (found : devices[other]? = some twin) (same : device.mac = twin.mac) : place = other := by
  have inside : place < (devices.map Device.mac).length := by
    rw [List.length_map]
    exact (List.getElem?_eq_some_iff.mp entry).1
  apply (List.getElem?_inj inside distinct).mp
  rw [List.getElem?_map, List.getElem?_map, entry, found]
  exact congrArg some same

/-- All other entries stay where and what they are. -/
theorem put_other {devices : List (Device α)} (distinct : Distinct devices) {place other : Nat}
    {device edited : Device α} (entry : devices[place]? = some device)
    (same : edited.mac = device.mac) (elsewhere : other ≠ place) :
    (edited.put devices)[other]? = devices[other]? := by
  rw [put_eq_overwrite distinct, overwrite, List.getElem?_map]
  cases found : devices[other]? with
  | none => rfl
  | some twin =>
    have apart : twin.mac ≠ edited.mac := fun shared =>
      elsewhere (place_unique distinct found entry (shared.trans same))
    simp [apart]

/-- Writing an entry over itself changes nothing. -/
theorem overwrite_found {devices : List (Device α)} (distinct : Distinct devices)
    {mac : Mac} {device : Device α} (found : find? devices mac = some device) :
    overwrite devices device = devices := by
  have kept : ∀ entry ∈ devices, (if entry.mac = device.mac then device else entry) = entry := by
    intro entry member
    split
    · rename_i same
      obtain ⟨place, held⟩ := List.getElem?_of_mem member
      have unique := find_entry distinct held
      rw [same, find_mac found, found] at unique
      exact Option.some.inj unique
    · rfl
  exact (List.map_congr_left kept).trans (List.map_id _)

end DeviceMap.Device
