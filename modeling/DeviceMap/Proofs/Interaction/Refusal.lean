import DeviceMap.Proofs.Scene.Run
import DeviceMap.Scalar.Double

/-! When a move is refused, and that a refused one leaves no trace. The reasons
are told by relations of their own, in the order in which they count. The host
sees its list edited where it stands, so a move is also written as a program that
assigns one coordinate after the other and may stop in between; it does not stop
once it has begun to assign. -/
namespace DeviceMap
variable {α : Type} [Scalar α]

namespace Interaction

/-- Why a drag is refused. The pointer counts before a device that is missing, and
that before coordinates that are no numbers. -/
inductive DragRefused (state : Interaction α) (devices : List (Device α)) (screen : Vec2 α) :
    MoveError α → Prop where
  | pointer (bad : screen.isFinite = false) :
      DragRefused state devices screen (.pointerNotFinite screen.x screen.y)
  | missing (finite : screen.isFinite = true) (absent : state.selectedDevice? devices = none) :
      DragRefused state devices screen .noSelection
  | unmapped {device : Device α} {x z : α} (finite : screen.isFinite = true)
      (found : state.selectedDevice? devices = some device)
      (ground : Marker.ground (state.toWorld screen) device.position.y = (x, z))
      (bad : Scalar.isNaN x = true ∨ Scalar.isNaN z = true) :
      DragRefused state devices screen (.pointerUnmapped screen.x screen.y x z)

/-- How far a movement of the pointer lowers a device: by twice the movement, and
by no more than its elevation. -/
def lowering (current movement : α) : α := Scalar.least (movement * 2) current

/-- The elevation that this leaves. -/
def lowered (current movement : α) : α := Scalar.greatest (current - lowering current movement) 0

/-- Why a lift is refused, in the same order. -/
inductive LiftRefused (state : Interaction α) (devices : List (Device α)) (movement : α) :
    MoveError α → Prop where
  | movement (bad : Scalar.isFinite movement = false) :
      LiftRefused state devices movement (.movementNotFinite movement)
  | missing (finite : Scalar.isFinite movement = true)
      (absent : state.selectedDevice? devices = none) :
      LiftRefused state devices movement .noSelection
  | elevation {device : Device α} (finite : Scalar.isFinite movement = true)
      (found : state.selectedDevice? devices = some device)
      (bad : Scalar.isFinite (lowered device.position.y movement) = false) :
      LiftRefused state devices movement
        (.elevationNotFinite device.position.y (lowering device.position.y movement))

section Reasons
variable {state : Interaction α} {devices : List (Device α)} {screen : Vec2 α} {movement : α}

theorem drag_found {device : Device α} (finite : screen.isFinite = true)
    (found : state.selectedDevice? devices = some device) {x z : α}
    (ground : Marker.ground (state.toWorld screen) device.position.y = (x, z)) :
    state.drag devices screen =
      if Scalar.isNaN x || Scalar.isNaN z then .error (.pointerUnmapped screen.x screen.y x z)
      else .ok (device.placed x z) := by
  simp only [drag, finite, found, ground, Bool.not_true, Bool.false_eq_true, ↓reduceIte]
  rfl

theorem lift_found {device : Device α} (finite : Scalar.isFinite movement = true)
    (found : state.selectedDevice? devices = some device) :
    let current := device.position.y
    state.lift devices movement =
      if Scalar.isFinite (lowered current movement) then
        .ok (device.raised (lowered current movement))
      else .error (.elevationNotFinite current (lowering current movement)) := by
  simp only [lift, finite, found, Bool.not_true, Bool.false_eq_true, ↓reduceIte]
  rfl

theorem drag_error_iff {reason : MoveError α} :
    state.drag devices screen = .error reason ↔ state.DragRefused devices screen reason := by
  constructor
  · intro refused
    cases finite : screen.isFinite with
    | false =>
      simp only [drag, finite, Bool.not_false, ↓reduceIte, Except.error.injEq] at refused
      exact refused ▸ .pointer finite
    | true =>
      cases found : state.selectedDevice? devices with
      | none =>
        simp only [drag, finite, found, Bool.not_true, Bool.false_eq_true, ↓reduceIte,
          Except.error.injEq] at refused
        exact refused ▸ .missing finite found
      | some device =>
        rw [drag_found finite found rfl] at refused
        split at refused
        · rename_i bad
          cases refused
          exact .unmapped finite found rfl (by simpa using bad)
        · cases refused
  · rintro (bad | ⟨finite, absent⟩ | ⟨finite, found, ground, bad⟩)
    · simp [drag, bad]
    · simp [drag, finite, absent]
    · rw [drag_found finite found ground, if_pos (by simpa using bad)]

theorem lift_error_iff {reason : MoveError α} :
    state.lift devices movement = .error reason ↔ state.LiftRefused devices movement reason := by
  constructor
  · intro refused
    cases finite : Scalar.isFinite movement with
    | false =>
      simp only [lift, finite, Bool.not_false, ↓reduceIte, Except.error.injEq] at refused
      exact refused ▸ .movement finite
    | true =>
      cases found : state.selectedDevice? devices with
      | none =>
        simp only [lift, finite, found, Bool.not_true, Bool.false_eq_true, ↓reduceIte,
          Except.error.injEq] at refused
        exact refused ▸ .missing finite found
      | some device =>
        rw [lift_found finite found] at refused
        split at refused
        · cases refused
        · rename_i bad
          cases refused
          exact .elevation finite found (by simpa using bad)
  · rintro (bad | ⟨finite, absent⟩ | ⟨finite, found, bad⟩)
    · simp [lift, bad]
    · simp [lift, finite, absent]
    · rw [lift_found finite found, if_neg (by simp [bad])]

theorem drag_accepted (accepted : ∀ reason, ¬state.DragRefused devices screen reason) :
    ∃ device x z, state.selectedDevice? devices = some device ∧
      Marker.ground (state.toWorld screen) device.position.y = (x, z) ∧
      state.drag devices screen = .ok (device.placed x z) := by
  cases result : state.drag devices screen with
  | error reason => exact absurd (drag_error_iff.mp result) (accepted reason)
  | ok placed =>
    obtain ⟨-, device, found, -, rfl⟩ := drag_ok_iff.mp result
    exact ⟨device, _, _, found, rfl, rfl⟩

theorem lift_accepted (accepted : ∀ reason, ¬state.LiftRefused devices movement reason) :
    ∃ device, state.selectedDevice? devices = some device ∧
      state.lift devices movement = .ok (device.raised (lowered device.position.y movement)) := by
  cases result : state.lift devices movement with
  | error reason => exact absurd (lift_error_iff.mp result) (accepted reason)
  | ok raised =>
    obtain ⟨-, device, found, -, rfl⟩ := lift_ok_iff.mp result
    exact ⟨device, found, rfl⟩

end Reasons
end Interaction

/-- A program that edits a scene where it stands and may be refused. What it has
written by then stays. -/
abbrev InPlace (α : Type) := ExceptT (MoveError α) (StateM (Scene α))

namespace InPlace

/-- The result of a program on a scene, and the scene that it leaves. -/
def on {β : Type} (program : InPlace α β) (scene : Scene α) : Except (MoveError α) β × Scene α :=
  program.run.run scene

/-- Goes on only if a check is passed. -/
def require (passed : Bool) (reason : MoveError α) : InPlace α Unit :=
  if passed then pure () else throw reason

/-- The selected device, without which there is nothing to edit. -/
def selected : InPlace α (Device α) := do
  match (← get).selectedDevice? with
  | some device => return device
  | none => throw .noSelection

def assign (device : Device α) : InPlace α Unit :=
  modify fun scene => { scene with devices := device.put scene.devices }

/-- A drag that assigns the two coordinates one after the other. -/
def drag (screen : Vec2 α) : InPlace α (Outcome α) := do
  require screen.isFinite (.pointerNotFinite screen.x screen.y)
  let device ← selected
  let scene ← get
  let (x, z) := Marker.ground (scene.interaction.toWorld screen) device.position.y
  require (!(Scalar.isNaN x || Scalar.isNaN z)) (.pointerUnmapped screen.x screen.y x z)
  let across := { device with position := { device.position with x := World.clampHorizontal x } }
  assign across
  let placed := { across with position := { across.position with z := World.clampHorizontal z } }
  assign placed
  return .moved placed

def lift (movement : α) : InPlace α (Outcome α) := do
  require (Scalar.isFinite movement) (.movementNotFinite movement)
  let device ← selected
  let current := device.position.y
  let step := Scalar.least (movement * 2) current
  let elevation := Scalar.greatest (current - step) 0
  require (Scalar.isFinite elevation) (.elevationNotFinite current step)
  let raised := { device with position := { device.position with y := elevation } }
  assign raised
  return .moved raised

def move (screen : Vec2 α) (movement : α) : InPlace α (Outcome α) := do
  let scene ← get
  match scene.interaction.mode with
  | .idle => return .none
  | .dragging => drag screen
  | .lifting => lift movement

section Run
variable (scene : Scene α)

omit [Scalar α] in
theorem on_bind {β γ : Type} (program : InPlace α β) (next : β → InPlace α γ) :
    (program >>= next).on scene =
      match program.on scene with
      | (.ok value, after) => (next value).on after
      | (.error reason, after) => (.error reason, after) := by
  unfold on
  simp only [ExceptT.run_bind, StateT.run_bind]
  cases program.run.run scene with
  | mk result after => cases result <;> rfl

omit [Scalar α] in
theorem on_get {β : Type} (next : Scene α → InPlace α β) :
    (get >>= next).on scene = (next scene).on scene := rfl

omit [Scalar α] in
theorem on_require {β : Type} (passed : Bool) (reason : MoveError α) (next : InPlace α β) :
    (require passed reason >>= fun _ => next).on scene =
      if passed then next.on scene else (.error reason, scene) := by
  rw [on_bind]
  cases passed <;> rfl

omit [Scalar α] in
theorem on_selected {β : Type} (next : Device α → InPlace α β) :
    (selected >>= next).on scene =
      match scene.selectedDevice? with
      | some device => (next device).on scene
      | none => (.error .noSelection, scene) := by
  have found : (selected : InPlace α (Device α)).on scene =
      match scene.selectedDevice? with
      | some device => (.ok device, scene)
      | none => (.error .noSelection, scene) := by
    unfold selected
    rw [on_bind]
    change (match scene.selectedDevice? with
      | some device => pure device
      | none => throw .noSelection : InPlace α (Device α)).on scene = _
    cases scene.selectedDevice? <;> rfl
  rw [on_bind, found]
  cases scene.selectedDevice? <;> rfl

/-- A drag is refused before it assigns anything, or assigns both coordinates. -/
theorem drag_on (screen : Vec2 α) : (drag screen).on scene =
    match scene.interaction.drag scene.devices screen with
    | .ok placed => (.ok (.moved placed), { scene with devices := placed.put scene.devices })
    | .error reason => (.error reason, scene) := by
  unfold drag
  rw [on_require, on_selected]
  cases finite : screen.isFinite with
  | false => simp [Interaction.drag, finite]
  | true =>
    cases found : scene.selectedDevice? with
    | none =>
      have absent : scene.interaction.selectedDevice? scene.devices = none := found
      simp [Interaction.drag, finite, absent]
    | some device =>
      simp only [↓reduceIte, on_get]
      cases ground : Marker.ground (scene.interaction.toWorld screen) device.position.y with
      | mk x z =>
        rw [Interaction.drag_found finite found ground, on_require]
        cases Scalar.isNaN x || Scalar.isNaN z with
        | true => rfl
        | false =>
          let across : Device α :=
            { device with position := { device.position with x := World.clampHorizontal x } }
          -- The second assignment goes to the device as the first one left it.
          have same : (device.placed x z).mac = across.mac := rfl
          have both := Device.put_put same scene.devices
          exact congrArg (fun devices => (_, { scene with devices })) both

theorem lift_on (movement : α) : (lift movement).on scene =
    match scene.interaction.lift scene.devices movement with
    | .ok raised => (.ok (.moved raised), { scene with devices := raised.put scene.devices })
    | .error reason => (.error reason, scene) := by
  unfold lift
  rw [on_require, on_selected]
  cases finite : Scalar.isFinite movement with
  | false => simp [Interaction.lift, finite]
  | true =>
    cases found : scene.selectedDevice? with
    | none =>
      have absent : scene.interaction.selectedDevice? scene.devices = none := found
      simp [Interaction.lift, finite, absent]
    | some device =>
      rw [Interaction.lift_found finite found]
      simp only [↓reduceIte, on_require]
      change (if Scalar.isFinite (Interaction.lowered device.position.y movement) = true
        then _ else _) = _
      cases Scalar.isFinite (Interaction.lowered device.position.y movement) <;> rfl

/-- A move leaves what it is said to, and a refused one leaves the scene. -/
theorem move_on (screen : Vec2 α) (movement : α) : (move screen movement).on scene =
    match scene.interaction.tryMove scene.devices screen movement with
    | .ok (devices, outcome) => (.ok outcome, { scene with devices })
    | .error reason => (.error reason, scene) := by
  unfold move Interaction.tryMove
  rw [on_get]
  cases scene.interaction.mode with
  | idle => rfl
  | dragging =>
    simp only [drag_on]
    cases scene.interaction.drag scene.devices screen <;> rfl
  | lifting =>
    simp only [lift_on]
    cases scene.interaction.lift scene.devices movement <;> rfl

end Run
end InPlace

namespace Interaction
variable {state : Interaction α} {devices : List (Device α)} {screen : Vec2 α} {movement : α}
  {reason : MoveError α}

private theorem mapped_error {ε β γ : Type} {result : Except ε β} {f : β → γ} {reason : ε} :
    result.map f = .error reason ↔ result = .error reason := by
  cases result <;> simp [Except.map]

theorem tryMove_dragging (dragging : state.mode = .dragging) :
    state.tryMove devices screen movement =
      (state.drag devices screen).map fun placed => (placed.put devices, .moved placed) := by
  unfold tryMove
  rw [dragging]

theorem tryMove_lifting (lifting : state.mode = .lifting) :
    state.tryMove devices screen movement =
      (state.lift devices movement).map fun raised => (raised.put devices, .moved raised) := by
  unfold tryMove
  rw [lifting]

theorem dragging_error_iff (dragging : state.mode = .dragging) :
    state.tryMove devices screen movement = .error reason ↔
      state.DragRefused devices screen reason := by
  rw [tryMove_dragging dragging, mapped_error, drag_error_iff]

theorem lifting_error_iff (lifting : state.mode = .lifting) :
    state.tryMove devices screen movement = .error reason ↔
      state.LiftRefused devices movement reason := by
  rw [tryMove_lifting lifting, mapped_error, lift_error_iff]

end Interaction

namespace Scene

/-- A move while idle does nothing, with any arguments. While dragging and lifting it
is refused for exactly the reasons told, and otherwise stores and reports the selected
device at its new place; a drag does not depend on the vertical movement, and a lift
not on the screen point. A move that is refused leaves the devices and the interaction
as they are, wherever it is refused; where the reason is not told, that is all there is
to see. -/
theorem moves_refused_exactly (scene : Scene α) (screen : Vec2 α) (movement : α) :
    let state := scene.interaction
    let attempt := state.tryMove scene.devices screen movement
    (state.mode = .idle → attempt = .ok (scene.devices, .none)) ∧
    (state.mode = .dragging →
      (∀ reason, attempt = .error reason ↔ state.DragRefused scene.devices screen reason) ∧
      ((∀ reason, ¬state.DragRefused scene.devices screen reason) → ∃ device x z,
        state.selectedDevice? scene.devices = some device ∧
          Marker.ground (state.toWorld screen) device.position.y = (x, z) ∧
          attempt = .ok ((device.placed x z).put scene.devices, .moved (device.placed x z))) ∧
      ∀ other, state.tryMove scene.devices screen other = attempt) ∧
    (state.mode = .lifting →
      (∀ reason, attempt = .error reason ↔ state.LiftRefused scene.devices movement reason) ∧
      ((∀ reason, ¬state.LiftRefused scene.devices movement reason) → ∃ device,
        state.selectedDevice? scene.devices = some device ∧
          let raised := device.raised (Interaction.lowered device.position.y movement)
          attempt = .ok (raised.put scene.devices, .moved raised)) ∧
      ∀ other, state.tryMove scene.devices other movement = attempt) ∧
    (∀ devices outcome, attempt = .ok (devices, outcome) →
      (InPlace.move screen movement).on scene = (.ok outcome, { scene with devices }) ∧
        scene.move screen movement = ({ scene with devices }, outcome)) ∧
    ∀ reason, attempt = .error reason →
      (InPlace.move screen movement).on scene = (.error reason, scene) ∧
        scene.move screen movement = (scene, .none) := by
  intro state attempt
  have inPlace := InPlace.move_on scene screen movement
  refine ⟨fun idle => ?_, fun dragging => ⟨fun reason => ?_, fun accepted => ?_, fun other => ?_⟩,
    fun lifting => ⟨fun reason => ?_, fun accepted => ?_, fun other => ?_⟩,
    fun devices outcome passed => ?_, fun reason refused => ?_⟩
  · unfold attempt Interaction.tryMove
    rw [idle]
  · exact Interaction.dragging_error_iff dragging
  · obtain ⟨device, x, z, found, ground, placed⟩ := Interaction.drag_accepted accepted
    refine ⟨device, x, z, found, ground, ?_⟩
    exact (Interaction.tryMove_dragging dragging).trans (congrArg _ placed)
  · exact (Interaction.tryMove_dragging dragging).trans (Interaction.tryMove_dragging dragging).symm
  · exact Interaction.lifting_error_iff lifting
  · obtain ⟨device, found, raised⟩ := Interaction.lift_accepted accepted
    refine ⟨device, found, ?_⟩
    exact (Interaction.tryMove_lifting lifting).trans (congrArg _ raised)
  · exact (Interaction.tryMove_lifting lifting).trans (Interaction.tryMove_lifting lifting).symm
  · have known : state.tryMove scene.devices screen movement = .ok (devices, outcome) := passed
    rw [inPlace, known, Scene.move, Interaction.move, known]
    exact ⟨rfl, rfl⟩
  · have known : state.tryMove scene.devices screen movement = .error reason := refused
    rw [inPlace, known, Scene.move, Interaction.move, known]
    exact ⟨rfl, rfl⟩

/-- A drag on a surface without extent, where a finite screen point has no place on the
plane. The device is there, and is looked up before the refusal. -/
theorem drag_without_extent_refused :
    let device : Device Float := ⟨⟨1⟩, ⟨0, 5, 0⟩, .zero, []⟩
    let scene : Scene Float := (flat [device] (some ⟨1⟩) .dragging).withViewport ⟨.zero, 0⟩
    ∃ x z, (InPlace.move ⟨1, 1⟩ 0).on scene = (.error (.pointerUnmapped 1 1 x z), scene) := by
  intro device scene
  obtain ⟨-, dragged, -, -, traceless⟩ := moves_refused_exactly scene ⟨1, 1⟩ 0
  have refused := ((dragged rfl).1 _).mpr
    (.unmapped (by decide +kernel) rfl rfl (Or.inl (by decide +kernel)))
  exact ⟨_, _, (traceless _ refused).1⟩

end Scene
end DeviceMap
