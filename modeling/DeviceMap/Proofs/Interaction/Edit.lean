import DeviceMap.Interaction
import DeviceMap.Proofs.Device.Listed

/-! What an accepted move or turn can make of the selected device. The handlers
are inverted once here: whatever they do, they either leave the list alone and
report nothing, or store and report one edit of the device they found. -/
namespace DeviceMap
variable {α : Type}

namespace Interaction

theorem selected_mac {state : Interaction α} {devices : List (Device α)} {device : Device α}
    (found : state.selectedDevice? devices = some device) : state.selected = some device.mac := by
  obtain ⟨mac, chosen, held⟩ := Option.bind_eq_some_iff.mp found
  rw [chosen, Device.find_mac held]

theorem selected_found {state : Interaction α} {devices : List (Device α)} {device : Device α}
    (found : state.selectedDevice? devices = some device) :
    Device.find? devices device.mac = some device := by
  obtain ⟨mac, chosen, held⟩ := Option.bind_eq_some_iff.mp found
  rw [Device.find_mac held, held]

/-- The selected device stays selected when it is overwritten. -/
theorem selected_put {state : Interaction α} {devices : List (Device α)}
    {device edited : Device α} (found : state.selectedDevice? devices = some device)
    (same : edited.mac = device.mac) : state.selectedDevice? (edited.put devices) = some edited := by
  obtain ⟨mac, chosen, held⟩ := Option.bind_eq_some_iff.mp found
  unfold selectedDevice?
  rw [chosen]
  exact Device.find_put held (same.trans (Device.find_mac held))

/-- Where addresses differ, an entry with the selected address is the one found. -/
theorem selected_iff {state : Interaction α} {devices : List (Device α)}
    (distinct : Device.Distinct devices) {device : Device α} :
    state.selectedDevice? devices = some device ↔
      device ∈ devices ∧ state.selected = some device.mac := by
  constructor
  · intro found
    exact ⟨Device.find_mem (selected_found found), selected_mac found⟩
  · rintro ⟨member, chosen⟩
    obtain ⟨place, held⟩ := List.getElem?_of_mem member
    unfold selectedDevice?
    rw [chosen]
    exact Device.find_entry distinct held

/-- A press carries the entry found by its address. -/
theorem press_found {state : Interaction α} {devices : List (Device α)} {target : Target}
    {device : Device α} (carried : (state.press devices target).2.device = some device) :
    Device.find? devices device.mac = some device := by
  unfold press at carried
  split at carried
  · split at carried
    · rename_i found
      cases carried
      exact selected_found found
    · cases carried
  · split at carried
    · rename_i mac _ found
      cases carried
      rw [Device.find_mac found, found]
    · cases carried
  · cases carried

/-- A release carries the selected device, which stays selected. -/
theorem release_selected {state : Interaction α} {devices : List (Device α)} {device : Device α}
    (carried : (state.release devices).2.device? = some device) :
    (state.release devices).1.selectedDevice? devices = some device := by
  change state.selectedDevice? devices = some device
  unfold release at carried
  cases found : state.selectedDevice? devices with
  | none => cases mode : state.mode <;> simp [found, mode, Outcome.device?] at carried
  | some held =>
    cases mode : state.mode <;> simp [found, mode, Outcome.device?] at carried
    all_goals exact congrArg some carried

/-- A release carries the entry found by its address. -/
theorem release_found {state : Interaction α} {devices : List (Device α)} {device : Device α}
    (carried : (state.release devices).2.device? = some device) :
    Device.find? devices device.mac = some device :=
  selected_found (release_selected carried)

end Interaction

variable [Scalar α]

namespace Device

/-- The device at other horizontal coordinates, brought within the limit. -/
def placed (device : Device α) (x z : α) : Device α :=
  { device with position := { device.position with
      x := World.clampHorizontal x, z := World.clampHorizontal z } }

/-- The device at another elevation. -/
def raised (device : Device α) (elevation : α) : Device α :=
  { device with position := { device.position with y := elevation } }

/-- The device with another heading, brought into its ranges. -/
def turned (device : Device α) (orientation : Orientation α) : Device α :=
  { device with orientation := orientation.clamped }

end Device

/-- What an accepted move makes of the selected device, by the mode that it is
made in. Its numbers have passed the checks of the handler. -/
inductive Shifted (device : Device α) : Mode → Device α → Prop where
  | dragged (x z : α) (numbers : Scalar.isNaN x = false ∧ Scalar.isNaN z = false) :
      Shifted device .dragging (device.placed x z)
  | lifted (level : α) (finite : Scalar.isFinite (Scalar.greatest level 0) = true) :
      Shifted device .lifting (device.raised (Scalar.greatest level 0))

/-- The edits of a device. Each changes one part of it: a move in either mode
its position, and a turn to a finite heading its orientation. -/
inductive Edit (device : Device α) : Device α → Prop where
  | shifted {mode : Mode} {edited : Device α} (shifted : Shifted device mode edited) :
      Edit device edited
  | turned (orientation : Orientation α) (finite : orientation.isFinite = true) :
      Edit device (device.turned orientation)

theorem Shifted.position_only {device edited : Device α} {mode : Mode}
    (shifted : Shifted device mode edited) :
    ∃ position, edited = { device with position := position } := by
  cases shifted <;> exact ⟨_, rfl⟩

theorem Edit.mac {device edited : Device α} (edit : Edit device edited) :
    edited.mac = device.mac := by
  cases edit with
  | turned => rfl
  | shifted shifted =>
    obtain ⟨position, rfl⟩ := shifted.position_only
    rfl

theorem Edit.neighbors {device edited : Device α} (edit : Edit device edited) :
    edited.neighbors = device.neighbors := by
  cases edit with
  | turned => rfl
  | shifted shifted =>
    obtain ⟨position, rfl⟩ := shifted.position_only
    rfl

private theorem mapped_ok {ε β γ : Type} {result : Except ε β} {f : β → γ} {value : γ} :
    result.map f = .ok value ↔ ∃ inner, result = .ok inner ∧ f inner = value := by
  cases result <;> simp [Except.map]

namespace Interaction

/-- A drag is accepted exactly for a finite screen point, a selected device
that is present, and coordinates that are numbers. -/
theorem drag_ok_iff {state : Interaction α} {devices : List (Device α)} {screen : Vec2 α}
    {edited : Device α} : state.drag devices screen = .ok edited ↔
      screen.isFinite = true ∧ ∃ device, state.selectedDevice? devices = some device ∧
        let ground := Marker.ground (state.toWorld screen) device.position.y
        (Scalar.isNaN ground.1 = false ∧ Scalar.isNaN ground.2 = false) ∧
          edited = device.placed ground.1 ground.2 := by
  unfold drag
  cases screen.isFinite with
  | false => simp
  | true =>
    cases state.selectedDevice? devices with
    | none => simp
    | some device =>
      simp only [Bool.not_true, Bool.false_eq_true, ↓reduceIte, true_and, Option.some.injEq,
        exists_eq_left']
      split
      · rename_i unmapped
        simp only [reduceCtorEq, false_iff]
        rintro ⟨⟨first, second⟩, -⟩
        simp [first, second] at unmapped
      · rename_i mapped
        simp only [Bool.or_eq_true, not_or, Bool.not_eq_true] at mapped
        simp only [Except.ok.injEq, mapped, true_and, eq_comm (a := edited)]
        exact Iff.rfl

/-- A lift is accepted exactly for a finite movement, a selected device that is
present, and a finite elevation. -/
theorem lift_ok_iff {state : Interaction α} {devices : List (Device α)} {movement : α}
    {edited : Device α} : state.lift devices movement = .ok edited ↔
      Scalar.isFinite movement = true ∧ ∃ device, state.selectedDevice? devices = some device ∧
        let current := device.position.y
        let elevation := Scalar.greatest (current - Scalar.least (movement * 2) current) 0
        Scalar.isFinite elevation = true ∧ edited = device.raised elevation := by
  unfold lift
  cases Scalar.isFinite movement with
  | false => simp
  | true =>
    cases state.selectedDevice? devices with
    | none => simp
    | some device =>
      simp only [Bool.not_true, Bool.false_eq_true, ↓reduceIte, true_and, Option.some.injEq,
        exists_eq_left']
      split
      · rename_i finite
        simp only [Except.ok.injEq, finite, true_and, eq_comm (a := edited)]
        exact Iff.rfl
      · rename_i infinite
        simp [infinite]

/-- A move that is not refused does nothing if no gesture goes on. Otherwise it stores
and reports what the mode makes of the selected device. -/
theorem tryMove_accepted {state : Interaction α} {devices : List (Device α)} {screen : Vec2 α}
    {movement : α} {result : List (Device α) × Outcome α}
    (accepted : state.tryMove devices screen movement = .ok result) :
    state.mode = .idle ∧ result = (devices, .none) ∨
      ∃ device edited, state.selectedDevice? devices = some device ∧
        Shifted device state.mode edited ∧ result = (edited.put devices, .moved edited) := by
  unfold tryMove at accepted
  cases mode : state.mode with
  | idle =>
    rw [mode] at accepted
    cases accepted
    exact Or.inl ⟨rfl, rfl⟩
  | dragging =>
    rw [mode] at accepted
    obtain ⟨edited, dragged, rfl⟩ := mapped_ok.mp accepted
    obtain ⟨-, device, found, numbers, rfl⟩ := drag_ok_iff.mp dragged
    exact Or.inr ⟨device, _, found, .dragged _ _ numbers, rfl⟩
  | lifting =>
    rw [mode] at accepted
    obtain ⟨edited, lifted, rfl⟩ := mapped_ok.mp accepted
    obtain ⟨-, device, found, finite, rfl⟩ := lift_ok_iff.mp lifted
    exact Or.inr ⟨device, _, found, .lifted _ finite, rfl⟩

/-- A move stores and reports one edit of the selected device, or does nothing. -/
theorem move_cases (state : Interaction α) (devices : List (Device α)) (screen : Vec2 α)
    (movement : α) : state.move devices screen movement = (devices, .none) ∨
      ∃ device edited, state.selectedDevice? devices = some device ∧ Edit device edited ∧
        state.move devices screen movement = (edited.put devices, .moved edited) := by
  unfold move
  cases attempt : state.tryMove devices screen movement with
  | error reason => exact Or.inl rfl
  | ok result =>
    rcases tryMove_accepted attempt with ⟨-, ignored⟩ | ⟨device, edited, found, shifted, moved⟩
    · exact Or.inl ignored
    · exact Or.inr ⟨device, edited, found, .shifted shifted, moved⟩

/-- A drag to numbers stores the selected device at the place under the pointer. -/
theorem move_dragging {state : Interaction α} {devices : List (Device α)} {screen : Vec2 α}
    {device : Device α} (dragging : state.mode = .dragging) (finite : screen.isFinite)
    (found : state.selectedDevice? devices = some device) {x z : α}
    (ground : Marker.ground (state.toWorld screen) device.position.y = (x, z))
    (numbers : Scalar.isNaN x = false ∧ Scalar.isNaN z = false) (movement : α) :
    state.move devices screen movement =
      ((device.placed x z).put devices, .moved (device.placed x z)) := by
  have accepted : state.drag devices screen = .ok (device.placed x z) := by
    apply drag_ok_iff.mpr
    refine ⟨finite, device, found, ?_⟩
    rw [ground]
    exact ⟨numbers, rfl⟩
  unfold move tryMove
  rw [dragging, accepted]
  rfl

/-- A turn to a finite heading stores and reports the selected device with it. -/
theorem orient_turned (state : Interaction α) (devices : List (Device α))
    (orientation : Orientation α) : state.orient devices orientation = (devices, .none) ∨
      orientation.isFinite = true ∧ ∃ device, state.selectedDevice? devices = some device ∧
        state.orient devices orientation =
          ((device.turned orientation).put devices, .reoriented (device.turned orientation)) := by
  unfold orient
  split
  · rename_i finite
    cases found : state.selectedDevice? devices with
    | none => exact Or.inl rfl
    | some device => exact Or.inr ⟨finite, device, rfl, rfl⟩
  · exact Or.inl rfl

/-- A turn stores and reports one edit of the selected device, or does nothing. -/
theorem orient_cases (state : Interaction α) (devices : List (Device α))
    (orientation : Orientation α) : state.orient devices orientation = (devices, .none) ∨
      ∃ device edited, state.selectedDevice? devices = some device ∧ Edit device edited ∧
        state.orient devices orientation = (edited.put devices, .reoriented edited) := by
  rcases state.orient_turned devices orientation with ignored | ⟨finite, device, found, turned⟩
  · exact Or.inl ignored
  · exact Or.inr ⟨device, _, found, .turned orientation finite, turned⟩

end Interaction
end DeviceMap
