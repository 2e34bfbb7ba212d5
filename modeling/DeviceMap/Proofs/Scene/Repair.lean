import DeviceMap.Proofs.Device.Bounds
import DeviceMap.Proofs.Interaction.Frame
import DeviceMap.Proofs.Scene.Run

/-! Moves of devices that nobody has checked. A host may list positions that are no numbers,
infinite or far outside, and a scene takes them as they are. A drag that is accepted leaves
the horizontal coordinates within their limit and a lift leaves the elevation above ground,
with no help from what was stored; and no later call undoes what either has repaired. -/
namespace DeviceMap

section Accepted
variable {α : Type} [Scalar α]

/-- The record of an accepted move. -/
def Event.isMove : Event α → Bool
  | .outcome (.moved _) => true
  | _ => false

namespace Scene

/-- A call in a mode reports a device as moved. -/
def Accepts (scene : Scene α) (handler : Handler α) (mode : Mode) (device : Device α) : Prop :=
  scene.interaction.mode = mode ∧ (scene.call handler).2 = some (.outcome (.moved device))

variable {scene : Scene α} {handler : Handler α}

/-- A call that reports a device as moved is a move that is not refused. -/
theorem moved_of_reported {device : Device α}
    (reported : (scene.call handler).2 = some (.outcome (.moved device))) :
    ∃ screen movement, scene.interaction.tryMove scene.devices screen movement =
      .ok ((scene.call handler).1.devices, .moved device) := by
  cases handler with
  | press target => simp [call] at reported
  | view viewport => cases reported
  | release =>
    have silent : (scene.interaction.release scene.devices).2 ≠ .moved device := by
      unfold Interaction.release
      dsimp only
      split <;> simp
    exact absurd (by simpa [call, Scene.release] using reported) silent
  | orient orientation =>
    rcases scene.interaction.orient_turned scene.devices orientation with
      ignored | ⟨-, held, -, turned⟩
    · simp [call, Scene.orient, ignored] at reported
    · simp [call, Scene.orient, turned] at reported
  | move screen movement =>
    refine ⟨screen, movement, ?_⟩
    cases attempt : scene.interaction.tryMove scene.devices screen movement with
    | error reason => simp [call, Scene.move, Interaction.move, attempt] at reported
    | ok result =>
      obtain ⟨devices, done⟩ := result
      simp only [call, Scene.move, Interaction.move, attempt] at reported ⊢
      cases reported
      rfl
  | tryMove screen movement =>
    refine ⟨screen, movement, ?_⟩
    cases attempt : scene.interaction.tryMove scene.devices screen movement with
    | error reason => simp [call, attempt] at reported
    | ok result =>
      obtain ⟨devices, done⟩ := result
      simp only [call, attempt] at reported ⊢
      cases reported
      rfl

theorem Accepts.shifted {mode : Mode} {edited : Device α}
    (accepted : scene.Accepts handler mode edited) : ∃ device,
      scene.selectedDevice? = some device ∧ Shifted device mode edited ∧
        (scene.call handler).1.devices = edited.put scene.devices := by
  obtain ⟨rfl, reported⟩ := accepted
  obtain ⟨screen, movement, moved⟩ := moved_of_reported reported
  rcases Interaction.tryMove_accepted moved with ⟨-, same⟩ | ⟨device, _, found, shifted, same⟩
  · cases (Prod.mk.inj same).2
  · obtain ⟨stored, told⟩ := Prod.mk.inj same
    cases told
    exact ⟨device, found, shifted, stored⟩

/-- What is reported as moved is found by its address from then on. -/
theorem Accepts.found {mode : Mode} {edited : Device α}
    (accepted : scene.Accepts handler mode edited) :
    Device.find? (scene.call handler).1.devices edited.mac = some edited := by
  obtain ⟨device, found, shifted, stored⟩ := accepted.shifted
  have same : edited.mac = device.mac := (Edit.shifted shifted).mac
  rw [stored, same]
  exact Device.find_put (Interaction.selected_found found) same

/-- A call that leaves the devices alone, or stores one edit of the selected device. -/
def Stores (scene : Scene α) (handler : Handler α) : Prop :=
  (scene.call handler).1.devices = scene.devices ∨
    ∃ device edited, scene.selectedDevice? = some device ∧ Edit device edited ∧
      (scene.call handler).1.devices = edited.put scene.devices

theorem move_stores (scene : Scene α) (screen : Vec2 α) (movement : α) :
    scene.Stores (.move screen movement) := by
  rcases scene.interaction.move_cases scene.devices screen movement with
    ignored | ⟨device, edited, found, edit, done⟩
  · exact .inl (congrArg Prod.fst ignored)
  · exact .inr ⟨device, edited, found, edit, congrArg Prod.fst done⟩

theorem call_stores (scene : Scene α) (handler : Handler α) : scene.Stores handler := by
  cases handler with
  | press | release | view => exact .inl rfl
  | move screen movement => exact scene.move_stores screen movement
  | tryMove screen movement =>
    have same : (scene.call (.tryMove screen movement)).1 =
        (scene.call (.move screen movement)).1 := by
      simp only [call, Scene.move, Interaction.move]
      cases scene.interaction.tryMove scene.devices screen movement <;> rfl
    unfold Stores
    rw [same]
    exact scene.move_stores screen movement
  | orient orientation =>
    rcases scene.interaction.orient_cases scene.devices orientation with
      ignored | ⟨device, edited, found, edit, done⟩
    · exact .inl (congrArg Prod.fst ignored)
    · exact .inr ⟨device, edited, found, edit, congrArg Prod.fst done⟩

/-- The first entry with an address has a property. -/
def Lists (scene : Scene α) (mac : Mac) (holds : Device α → Prop) : Prop :=
  ∃ device, Device.find? scene.devices mac = some device ∧ holds device

section Kept
variable {holds : Device α → Prop}
  (kept : ∀ {device edited}, holds device → Edit device edited → holds edited)
include kept

theorem Lists.call {mac : Mac} (listed : scene.Lists mac holds) (handler : Handler α) :
    (scene.call handler).1.Lists mac holds := by
  obtain ⟨entry, held, holding⟩ := listed
  rcases scene.call_stores handler with same | ⟨device, edited, found, edit, stored⟩
  · exact ⟨entry, same ▸ held, holding⟩
  · unfold Lists
    rw [stored]
    by_cases here : edited.mac = mac
    · have same : device = entry := by
        have first := Interaction.selected_found found
        rw [← edit.mac, here, held] at first
        exact (Option.some.inj first).symm
      subst same
      exact ⟨edited, Device.find_put held here, kept holding edit⟩
    · exact ⟨entry, (Device.find_put_other here _).trans held, holding⟩

/-- What every edit of a device keeps holds of its entry after any calls. -/
theorem Lists.callAll {mac : Mac} (listed : scene.Lists mac holds)
    (handlers : List (Handler α)) : (scene.callAll handlers).Lists mac holds := by
  induction handlers generalizing scene with
  | nil => exact listed
  | cons handler rest ih => exact ih (listed.call kept handler)

end Kept

/-- In a run of calls, the one at a step reports a device as moved in a mode. -/
def Moves (scene : Scene α) (handlers : List (Handler α)) (step : Nat) (mode : Mode)
    (device : Device α) : Prop :=
  ∃ handler, handlers[step]? = some handler ∧
    (scene.callAll (handlers.take step)).Accepts handler mode device

section Run
variable {handlers : List (Handler α)} {step : Nat} {mode : Mode} {device : Device α}

theorem Moves.found (moved : scene.Moves handlers step mode device) :
    Device.find? (scene.callAll (handlers.take (step + 1))).devices device.mac = some device := by
  obtain ⟨handler, next, accepted⟩ := moved
  rw [callAll_succ next]
  exact accepted.found

theorem Moves.selects (moved : scene.Moves handlers step mode device) :
    ∃ place, (scene.callAll (handlers.take (step + 1))).Selects place device := by
  obtain ⟨handler, next, -, reported⟩ := moved
  rw [callAll_succ next]
  exact (call_framed _ handler).reported _ _ reported rfl

/-- What a move has brought about, and no edit undoes, holds after every later step. -/
theorem Moves.lists (moved : scene.Moves handlers step mode device) {holds : Device α → Prop}
    (kept : ∀ {device edited}, holds device → Edit device edited → holds edited)
    (start : holds device) {later : Nat} (after : step < later) :
    (scene.callAll (handlers.take later)).Lists device.mac holds := by
  obtain ⟨more, rfl⟩ := Nat.exists_eq_add_of_le after
  have continued : scene.callAll (handlers.take (step + 1 + more)) =
      (scene.callAll (handlers.take (step + 1))).callAll
        ((handlers.drop (step + 1)).take more) := by
    rw [List.take_add, callAll, List.foldl_append]
    rfl
  have listed : (scene.callAll (handlers.take (step + 1))).Lists device.mac holds :=
    ⟨device, moved.found, start⟩
  rw [continued]
  exact listed.callAll kept _

/-- An answer tells whether something was moved. -/
theorem moves_of_answer (next : handlers[step]? = some handler)
    (known : (scene.callAll (handlers.take step)).interaction.mode = mode)
    (answered : ((scene.callAll (handlers.take step)).call handler).2.any Event.isMove = true) :
    ∃ device, scene.Moves handlers step mode device := by
  obtain ⟨event, reported, moved⟩ := (Option.any_eq_true _ _).mp answered
  unfold Event.isMove at moved
  split at moved
  · exact ⟨_, handler, next, known, reported⟩
  · cases moved

end Run

end Scene
end Accepted

section Repaired
variable {device edited : Device Float}

theorem Shifted.inside (shifted : Shifted device .dragging edited) : edited.Inside := by
  cases shifted with
  | dragged x z numbers => exact device.placed_inside numbers

theorem Shifted.above (shifted : Shifted device .lifting edited) : edited.Above := by
  cases shifted with
  | lifted level finite => exact device.raised_above finite

end Repaired

namespace Scene

section Moved
variable {scene : Scene Float} {handlers : List (Handler Float)} {step : Nat}
  {device : Device Float}

theorem Moves.inside (dragged : scene.Moves handlers step .dragging device) : device.Inside := by
  obtain ⟨handler, -, accepted⟩ := dragged
  obtain ⟨old, -, shifted, -⟩ := accepted.shifted
  exact shifted.inside

theorem Moves.above (lifted : scene.Moves handlers step .lifting device) : device.Above := by
  obtain ⟨handler, -, accepted⟩ := lifted
  obtain ⟨old, -, shifted, -⟩ := accepted.shifted
  exact shifted.above

end Moved

/-- On any list of devices, from any interaction and in any run of calls with any numbers: a
device that is reported as dragged has its horizontal coordinates within the limit, and
one that is reported as lifted has a finite elevation not below ground, whatever was
stored before; and it is the entry that is stored now. Once an address has had an accepted
drag and an accepted lift, in either order, its entry is in the bounds of the world after
every later call. -/
theorem accepted_moves_repair (scene : Scene Float) (handlers : List (Handler Float)) :
    let state (step : Nat) := scene.callAll (handlers.take step)
    (∀ step mode device, scene.Moves handlers step mode device →
      (mode = .dragging → device.Inside) ∧ (mode = .lifting → device.Above) ∧
        ∃ place, (state (step + 1)).Selects place device) ∧
    ∀ lift drag lifted dragged, scene.Moves handlers lift .lifting lifted →
      scene.Moves handlers drag .dragging dragged → dragged.mac = lifted.mac →
      (lift < drag → dragged.isInBounds = true) ∧
        ∀ step, lift < step → drag < step →
          (state step).Lists dragged.mac fun entry => entry.isInBounds = true := by
  intro state
  refine ⟨fun step mode device moved => ⟨?_, ?_, moved.selects⟩,
    fun lift drag lifted dragged raised placed same => ?_⟩
  · rintro rfl
    exact moved.inside
  · rintro rfl
    exact moved.above
  · have both (step : Nat) (afterLift : lift < step) (afterDrag : drag < step) :
        (state step).Lists dragged.mac fun entry => entry.isInBounds = true := by
      obtain ⟨entry, found, above⟩ := raised.lists Device.Above.edit raised.above afterLift
      obtain ⟨twin, twinFound, inside⟩ := placed.lists Device.Inside.edit placed.inside afterDrag
      rw [same, found] at twinFound
      cases twinFound
      exact ⟨entry, same ▸ found, entry.isInBounds_iff.mpr ⟨inside, above⟩⟩
    refine ⟨fun before => ?_, both⟩
    obtain ⟨entry, found, inBounds⟩ := both (drag + 1) (by omega) (by omega)
    rw [placed.found] at found
    cases found
    exact inBounds

/-- A device that is nowhere is lifted, taken up again and dragged. -/
theorem lost_device_repaired :
    let device : Device Float := ⟨⟨1⟩, ⟨1.0 / 0.0, 0.0 / 0.0, -9999⟩, .zero, []⟩
    let scene : Scene Float := flat [device] (some ⟨1⟩) .lifting
    let handlers : List (Handler Float) :=
      [.move ⟨0, 0⟩ (-7), .press (.marker ⟨1⟩), .tryMove ⟨30, 40⟩ 0]
    device.isInBounds = false ∧
      (scene.callAll handlers).Lists ⟨1⟩ fun entry => entry.isInBounds = true := by
  intro device scene handlers
  obtain ⟨lifted, raised⟩ : ∃ lifted, scene.Moves handlers 0 .lifting lifted :=
    moves_of_answer rfl rfl (by decide +kernel)
  obtain ⟨dragged, placed⟩ : ∃ dragged, scene.Moves handlers 2 .dragging dragged :=
    moves_of_answer rfl (by decide +kernel) (by decide +kernel)
  have liftedMac : lifted.mac = ⟨1⟩ := by
    have chosen : (scene.callAll (handlers.take 1)).interaction.selected = some ⟨1⟩ := rfl
    obtain ⟨-, moved, -⟩ := raised.selects
    exact Option.some.inj (moved.symm.trans chosen)
  have draggedMac : dragged.mac = ⟨1⟩ := by
    have chosen : (scene.callAll (handlers.take 3)).interaction.selected = some ⟨1⟩ := by
      decide +kernel
    obtain ⟨-, moved, -⟩ := placed.selects
    exact Option.some.inj (moved.symm.trans chosen)
  obtain ⟨-, both⟩ := accepted_moves_repair scene handlers
  obtain ⟨-, repaired⟩ :=
    both 0 2 lifted dragged raised placed (draggedMac.trans liftedMac.symm)
  rw [← draggedMac]
  exact ⟨by decide +kernel, repaired 3 (by decide) (by decide)⟩

end Scene
end DeviceMap
