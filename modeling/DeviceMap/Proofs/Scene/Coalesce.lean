import DeviceMap.Proofs.Interaction.Refusal

/-! Moves and turns of one gesture can be coalesced. Whether an edit is accepted, and
what it changes, depends on the elevation of the selected device and on nothing else
of it; a drag and a turn leave the elevation as it is, and each overwrites all that
an earlier one of its kind has written. So of any number of them only the last
accepted one of each kind is left to see. -/
namespace DeviceMap
variable {α : Type}

/-- A move or a turn. The other gestures begin and end what these do. -/
def Gesture.isEdit : Gesture α → Bool
  | .move .. | .orient .. => true
  | .down .. | .up => false

/-- What an event tells of, without the device. -/
inductive Event.Kind where
  | selection
  | none
  | moved
  | ended
  | reoriented
deriving DecidableEq

def Event.kind : Event α → Event.Kind
  | .selection _ => .selection
  | .outcome .none => .none
  | .outcome (.moved _) => .moved
  | .outcome (.ended _) => .ended
  | .outcome (.reoriented _) => .reoriented

/-- The last gesture of a script with an event of a kind. -/
def Gesture.last? (kind : Event.Kind) (script : List (Gesture α)) (events : List (Event α)) :
    Option (Gesture α) :=
  ((script.zip events).filter fun (_, event) => event.kind = kind).getLast?.map Prod.fst

theorem Gesture.last_cons (kind : Event.Kind) (gesture : Gesture α) (event : Event α)
    (script : List (Gesture α)) (events : List (Event α)) :
    Gesture.last? kind (gesture :: script) (event :: events) =
      (Gesture.last? kind script events).or (if event.kind = kind then some gesture else none) := by
  unfold last?
  rw [List.zip_cons_cons, List.filter_cons]
  by_cases answered : event.kind = kind
  · simp only [answered, decide_true, ↓reduceIte, List.getLast?_cons]
    cases ((script.zip events).filter fun (_, event) => event.kind = kind).getLast? <;> rfl
  · simp [answered]

/-- Of the events, only the kinds count. -/
theorem Gesture.last_kinds (kind : Event.Kind) (script : List (Gesture α))
    (events : List (Event α)) : Gesture.last? kind script events =
      ((script.zip (events.map Event.kind)).filter fun (_, told) => told = kind).getLast?.map
        Prod.fst := by
  unfold last?
  rw [List.zip_map_right, List.filter_map, List.getLast?_map, Option.map_map]
  rfl

/-- What an edit changes of a device. -/
inductive Change (α : Type) where
  | place (x z : α)
  | raise (level : α)
  | turn (orientation : Orientation α)

/-- The kind of the event that reports a change. -/
def Change.kind : Change α → Event.Kind
  | .place .. | .raise _ => .moved
  | .turn _ => .reoriented

variable [Scalar α]

def Change.apply : Change α → Device α → Device α
  | .place x z, device => device.placed x z
  | .raise level, device => device.raised level
  | .turn orientation, device => device.turned orientation

/-- Whether a change leaves the elevation as it is. -/
def Change.isLevel : Change α → Bool
  | .place .. | .turn _ => true
  | .raise _ => false

theorem Change.apply_mac (change : Change α) (device : Device α) :
    (change.apply device).mac = device.mac := by
  cases change <;> rfl

theorem Change.level_kept {change : Change α} (level : change.isLevel = true) (device : Device α) :
    (change.apply device).position.y = device.position.y := by
  cases change with
  | place | turn => rfl
  | raise => cases level

/-- What a gesture changes of the selected device, which only counts by its elevation. -/
def Interaction.change? (state : Interaction α) (elevation : α) : Gesture α → Option (Change α)
  | .move x y movement =>
    match state.mode with
    | .idle => none
    | .dragging =>
      let (x', z') := Marker.ground (state.toWorld ⟨x, y⟩) elevation
      if Vec2.isFinite ⟨x, y⟩ && !(Scalar.isNaN x' || Scalar.isNaN z') then some (.place x' z')
      else none
    | .lifting =>
      if Scalar.isFinite movement && Scalar.isFinite (lowered elevation movement) then
        some (.raise (lowered elevation movement))
      else none
  | .orient bearing tilt =>
    if Orientation.isFinite ⟨bearing, tilt⟩ then some (.turn ⟨bearing, tilt⟩) else none
  | .down .. | .up => none

namespace Interaction
variable {state : Interaction α} {devices : List (Device α)}

theorem move_missing (absent : state.selectedDevice? devices = none) (screen : Vec2 α)
    (movement : α) : state.move devices screen movement = (devices, .none) := by
  rcases state.move_cases devices screen movement with ignored | ⟨device, -, found, -⟩
  · exact ignored
  · rw [absent] at found
    cases found

theorem move_change {device : Device α} (found : state.selectedDevice? devices = some device)
    (x y movement : α) : state.move devices ⟨x, y⟩ movement =
      match state.change? device.position.y (.move x y movement) with
      | some change => ((change.apply device).put devices, .moved (change.apply device))
      | none => (devices, .none) := by
  unfold move
  cases mode : state.mode with
  | idle => simp [tryMove, change?, mode]
  | dragging =>
    simp only [tryMove_dragging mode, change?, mode]
    cases finite : Vec2.isFinite ⟨x, y⟩ with
    | false => simp [drag, finite, Except.map]
    | true =>
      cases ground : Marker.ground (state.toWorld ⟨x, y⟩) device.position.y with
      | mk x' z' =>
        rw [drag_found finite found ground]
        simp only [Bool.true_and]
        cases Scalar.isNaN x' || Scalar.isNaN z' <;> rfl
  | lifting =>
    simp only [tryMove_lifting mode, change?, mode]
    cases finite : Scalar.isFinite movement with
    | false => simp [lift, finite, Except.map]
    | true =>
      rw [lift_found finite found]
      cases Scalar.isFinite (lowered device.position.y movement) <;> rfl

theorem orient_missing (absent : state.selectedDevice? devices = none)
    (orientation : Orientation α) : state.orient devices orientation = (devices, .none) := by
  rcases state.orient_turned devices orientation with ignored | ⟨-, device, found, -⟩
  · exact ignored
  · rw [absent] at found
    cases found

theorem orient_change {device : Device α} (found : state.selectedDevice? devices = some device)
    (bearing tilt : α) : state.orient devices ⟨bearing, tilt⟩ =
      match state.change? device.position.y (.orient bearing tilt) with
      | some change => ((change.apply device).put devices, .reoriented (change.apply device))
      | none => (devices, .none) := by
  simp only [orient, change?, found]
  cases Orientation.isFinite ⟨bearing, tilt⟩ <;> rfl

section Changes
variable {elevation x y movement bearing tilt : α} {change : Change α}

theorem change_of_move (changed : state.change? elevation (.move x y movement) = some change) :
    state.mode = .dragging ∧ (∃ x z, change = .place x z) ∨
      state.mode = .lifting ∧ ∃ level, change = .raise level := by
  unfold change? at changed
  cases mode : state.mode with
  | idle => simp [mode] at changed
  | dragging =>
    simp only [mode, Option.ite_none_right_eq_some, Option.some.injEq] at changed
    exact .inl ⟨rfl, _, _, changed.2.symm⟩
  | lifting =>
    simp only [mode, Option.ite_none_right_eq_some, Option.some.injEq] at changed
    exact .inr ⟨rfl, _, changed.2.symm⟩

theorem change_of_orient (changed : state.change? elevation (.orient bearing tilt) = some change) :
    change = .turn ⟨bearing, tilt⟩ := by
  simp only [change?, Option.ite_none_right_eq_some, Option.some.injEq] at changed
  exact changed.2.symm

end Changes
end Interaction

namespace Scene

/-- What a gesture changes of the selected device, if that is present. -/
def change? (scene : Scene α) (gesture : Gesture α) : Option (Change α) :=
  scene.selectedDevice?.bind fun device => scene.interaction.change? device.position.y gesture

/-- The scene after a change of the selected device, if there is one. -/
def amend (scene : Scene α) (change : Option (Change α)) : Scene α :=
  match change, scene.selectedDevice? with
  | some change, some device => { scene with devices := (change.apply device).put scene.devices }
  | _, _ => scene

/-- An edit does to a scene what it changes of the selected device, and reports it. -/
theorem step_amend (scene : Scene α) {gesture : Gesture α} (edit : gesture.isEdit = true) :
    (scene.step gesture).1 = scene.amend (scene.change? gesture) ∧
      (scene.step gesture).2.kind = (scene.change? gesture).elim .none Change.kind := by
  cases gesture with
  | down | up => cases edit
  | move x y movement =>
    cases found : scene.interaction.selectedDevice? scene.devices with
    | none =>
      have ignored := Interaction.move_missing found ⟨x, y⟩ movement
      simp [step, move, ignored, change?, amend, selectedDevice?, found, Event.kind]
    | some device =>
      have moved := Interaction.move_change found x y movement
      simp only [step, move, moved, change?, amend, selectedDevice?, found, Option.bind_some]
      cases changed : scene.interaction.change? device.position.y (.move x y movement) with
      | none => exact ⟨rfl, rfl⟩
      | some change =>
        refine ⟨rfl, ?_⟩
        rcases Interaction.change_of_move changed with ⟨-, _, _, rfl⟩ | ⟨-, _, rfl⟩ <;> rfl
  | orient bearing tilt =>
    cases found : scene.interaction.selectedDevice? scene.devices with
    | none =>
      have ignored := Interaction.orient_missing found ⟨bearing, tilt⟩
      simp [step, orient, ignored, change?, amend, selectedDevice?, found, Event.kind]
    | some device =>
      have turned := Interaction.orient_change found bearing tilt
      simp only [step, orient, turned, change?, amend, selectedDevice?, found, Option.bind_some]
      cases changed : scene.interaction.change? device.position.y (.orient bearing tilt) with
      | none => exact ⟨rfl, rfl⟩
      | some change =>
        obtain rfl := Interaction.change_of_orient changed
        exact ⟨rfl, rfl⟩

section Amend
variable (scene : Scene α)

theorem amend_none : scene.amend none = scene := rfl

theorem amend_interaction (change : Option (Change α)) :
    (scene.amend change).interaction = scene.interaction := by
  unfold amend
  split <;> rfl

theorem amend_selected (change : Change α) :
    (scene.amend (some change)).selectedDevice? = scene.selectedDevice?.map change.apply := by
  unfold amend
  cases found : scene.selectedDevice? with
  | none => exact found
  | some device => exact Interaction.selected_put found (change.apply_mac device)

theorem amend_amend (first second : Change α) :
    (scene.amend (some first)).amend (some second) =
      match scene.selectedDevice? with
      | some device =>
        { scene with devices := (second.apply (first.apply device)).put scene.devices }
      | none => scene := by
  have selected := scene.amend_selected first
  cases found : scene.selectedDevice? with
  | none =>
    rw [found] at selected
    simp [amend, found]
  | some device =>
    rw [found] at selected
    have stored : scene.amend (some first) =
        { scene with devices := (first.apply device).put scene.devices } := by
      simp [amend, found]
    rw [stored] at selected ⊢
    have twice := Device.put_put (second.apply_mac (first.apply device)) scene.devices
    simp only [amend, selected, Option.map_some, twice]

variable {scene} {first second change : Change α}

/-- A change that overwrites all of another one is left alone. -/
theorem amend_absorb
    (covers : ∀ device : Device α, second.apply (first.apply device) = second.apply device) :
    (scene.amend (some first)).amend (some second) = scene.amend (some second) := by
  rw [amend_amend]
  simp only [covers, amend]
  cases scene.selectedDevice? <;> rfl

theorem amend_comm (apart : ∀ device : Device α,
      second.apply (first.apply device) = first.apply (second.apply device)) :
    (scene.amend (some first)).amend (some second) =
      (scene.amend (some second)).amend (some first) := by
  rw [amend_amend, amend_amend]
  simp only [apart]

/-- What later gestures change does not depend on a change that keeps the elevation. -/
theorem change_amend (level : change.isLevel = true) :
    (scene.amend (some change)).change? = scene.change? := by
  funext gesture
  simp only [change?, amend_selected, amend_interaction]
  cases scene.selectedDevice? with
  | none => rfl
  | some device => simp [Change.level_kept level]

/-- What a turn changes does not depend on anything before it. -/
theorem orient_amend (change : Option (Change α)) (bearing tilt : α) :
    (scene.amend change).change? (.orient bearing tilt) = scene.change? (.orient bearing tilt) := by
  cases change with
  | none => rfl
  | some change =>
    simp only [change?, amend_selected, amend_interaction]
    cases scene.selectedDevice? <;> rfl

end Amend

/-- A move changes the place or the elevation, and a turn commutes with both. -/
theorem amend_move_orient (scene : Scene α) (x y movement bearing tilt : α) :
    (scene.amend (scene.change? (.move x y movement))).amend
        (scene.change? (.orient bearing tilt)) =
      (scene.amend (scene.change? (.orient bearing tilt))).amend
        (scene.change? (.move x y movement)) := by
  cases turned : scene.change? (.orient bearing tilt) with
  | none => rfl
  | some turn =>
    cases moved : scene.change? (.move x y movement) with
    | none => rfl
    | some change =>
      obtain ⟨device, -, turned⟩ := Option.bind_eq_some_iff.mp turned
      obtain ⟨device, -, moved⟩ := Option.bind_eq_some_iff.mp moved
      obtain rfl := Interaction.change_of_orient turned
      rcases Interaction.change_of_move moved with ⟨-, _, _, rfl⟩ | ⟨-, _, rfl⟩
      · exact amend_comm fun _ => rfl
      · exact amend_comm fun _ => rfl

theorem change_after_orient (scene : Scene α) (bearing tilt : α) :
    (scene.amend (scene.change? (.orient bearing tilt))).change? = scene.change? := by
  cases turned : scene.change? (.orient bearing tilt) with
  | none => rfl
  | some turn =>
    obtain ⟨device, -, turned⟩ := Option.bind_eq_some_iff.mp turned
    obtain rfl := Interaction.change_of_orient turned
    exact change_amend rfl

section Dragging
variable {scene : Scene α} (dragging : scene.interaction.mode = .dragging)
include dragging

theorem dragging_change {gesture : Gesture α} {change : Change α}
    (changed : scene.change? gesture = some change) :
    (∃ x z, change = .place x z) ∨ ∃ orientation, change = .turn orientation := by
  obtain ⟨device, -, changed⟩ := Option.bind_eq_some_iff.mp changed
  cases gesture with
  | move x y movement =>
    rcases Interaction.change_of_move changed with ⟨-, place⟩ | ⟨lifting, -⟩
    · exact .inl place
    · rw [dragging] at lifting
      cases lifting
  | orient bearing tilt => exact .inr ⟨_, Interaction.change_of_orient changed⟩
  | down | up => cases changed

/-- An edit of a drag has no influence on what other gestures change. -/
theorem dragging_step {gesture : Gesture α} (edit : gesture.isEdit = true) :
    (scene.step gesture).1.interaction = scene.interaction ∧
      (scene.step gesture).1.change? = scene.change? := by
  rw [(scene.step_amend edit).1]
  refine ⟨scene.amend_interaction _, ?_⟩
  cases changed : scene.change? gesture with
  | none => rfl
  | some change =>
    rcases dragging_change dragging changed with ⟨x, z, rfl⟩ | ⟨orientation, rfl⟩
    · exact change_amend rfl
    · exact change_amend rfl

/-- The last gesture of a script that was answered by some kind of report changes what it
would have changed at first. -/
theorem last_change {script : List (Gesture α)} (edits : ∀ gesture ∈ script, gesture.isEdit = true)
    {kind : Event.Kind} {gesture : Gesture α}
    (last : Gesture.last? kind script (scene.replay script).2 = some gesture)
    (report : kind ≠ .none) :
    gesture ∈ script ∧ ∃ change, scene.change? gesture = some change ∧ change.kind = kind := by
  induction script generalizing scene with
  | nil => cases last
  | cons first rest ih =>
    obtain ⟨edit, others⟩ := List.forall_mem_cons.mp edits
    obtain ⟨kept, same⟩ := dragging_step dragging edit
    rw [replay, Gesture.last_cons, Option.or_eq_some_iff] at last
    rcases last with later | ⟨-, here⟩
    · obtain ⟨member, answered⟩ := ih (kept ▸ dragging) others later
      rw [same] at answered
      exact ⟨List.mem_cons_of_mem first member, answered⟩
    · rw [Option.ite_none_right_eq_some, Option.some.injEq] at here
      obtain ⟨answered, rfl⟩ := here
      refine ⟨List.mem_cons_self, ?_⟩
      rw [(scene.step_amend edit).2] at answered
      cases changed : scene.change? first with
      | none =>
        rw [changed] at answered
        exact absurd answered.symm report
      | some change =>
        rw [changed] at answered
        exact ⟨change, rfl, answered⟩

/-- While dragging, the last gesture that was reported as a move is a change of place. -/
theorem last_moved {script : List (Gesture α)} (edits : ∀ gesture ∈ script, gesture.isEdit = true)
    {gesture : Gesture α}
    (last : Gesture.last? .moved script (scene.replay script).2 = some gesture) :
    ∃ x z, scene.change? gesture = some (.place x z) := by
  obtain ⟨-, change, changed, kind⟩ := last_change dragging edits last nofun
  rcases dragging_change dragging changed with ⟨x, z, rfl⟩ | ⟨orientation, rfl⟩
  · exact ⟨x, z, changed⟩
  · cases kind

theorem last_turned {script : List (Gesture α)} (edits : ∀ gesture ∈ script, gesture.isEdit = true)
    {gesture : Gesture α}
    (last : Gesture.last? .reoriented script (scene.replay script).2 = some gesture) :
    ∃ orientation, scene.change? gesture = some (.turn orientation) := by
  obtain ⟨-, change, changed, kind⟩ := last_change dragging edits last nofun
  rcases dragging_change dragging changed with ⟨x, z, rfl⟩ | ⟨orientation, rfl⟩
  · cases kind
  · exact ⟨orientation, changed⟩

/-- A drag leaves the scene with the change of the last accepted move, and then that of the
last accepted turn. -/
theorem replay_settled {script : List (Gesture α)}
    (edits : ∀ gesture ∈ script, gesture.isEdit = true) :
    let events := (scene.replay script).2
    (scene.replay script).1 =
      (scene.amend ((Gesture.last? .moved script events).bind scene.change?)).amend
        ((Gesture.last? .reoriented script events).bind scene.change?) := by
  -- The first gesture is overwritten by a later one of its kind, if there is one.
  induction script generalizing scene with
  | nil => rfl
  | cons gesture rest ih =>
    obtain ⟨edit, others⟩ := List.forall_mem_cons.mp edits
    obtain ⟨kept, same⟩ := dragging_step dragging edit
    obtain ⟨stored, answered⟩ := scene.step_amend edit
    have onward : (scene.step gesture).1.interaction.mode = .dragging := kept ▸ dragging
    have settled := ih onward others
    have moved (later : Gesture α) := @last_moved _ _ _ onward _ others later
    have turned (later : Gesture α) := @last_turned _ _ _ onward _ others later
    -- What the rest changes is the same as seen from the first scene.
    simp only [same] at settled moved turned
    simp only [replay, Gesture.last_cons, answered]
    rw [settled]
    generalize Gesture.last? .moved rest ((scene.step gesture).1.replay rest).2 = lastMove
      at moved ⊢
    generalize Gesture.last? .reoriented rest ((scene.step gesture).1.replay rest).2 = lastTurn
      at turned ⊢
    rw [stored]
    cases changed : scene.change? gesture with
    | none => simp [amend_none]
    | some change =>
      rcases dragging_change dragging changed with ⟨x, z, rfl⟩ | ⟨orientation, rfl⟩
      · simp only [Option.elim, Change.kind, ↓reduceIte, reduceCtorEq, Option.or_none]
        cases lastMove with
        | none => simp [amend_none, changed]
        | some later =>
          obtain ⟨x', z', place⟩ := moved later rfl
          simp only [Option.bind_some, Option.some_or, place]
          rw [amend_absorb fun _ => rfl]
      · simp only [Option.elim, Change.kind, ↓reduceIte, reduceCtorEq, Option.or_none]
        -- The turn goes past the last move to where a later turn overwrites it.
        have past : (scene.amend (some (.turn orientation))).amend (lastMove.bind scene.change?) =
            (scene.amend (lastMove.bind scene.change?)).amend (some (.turn orientation)) := by
          cases lastMove with
          | none => rfl
          | some later =>
            obtain ⟨x', z', place⟩ := moved later rfl
            simp only [Option.bind_some, place]
            exact amend_comm fun _ => rfl
        rw [past]
        cases lastTurn with
        | none => simp [amend_none, changed]
        | some later =>
          obtain ⟨orientation', turn⟩ := turned later rfl
          simp only [Option.bind_some, Option.some_or, turn]
          rw [amend_absorb fun _ => rfl]

/-- The last accepted move and the last accepted turn have their changes in either order. -/
theorem settled_comm {script : List (Gesture α)}
    (edits : ∀ gesture ∈ script, gesture.isEdit = true) :
    let events := (scene.replay script).2
    (scene.amend ((Gesture.last? .reoriented script events).bind scene.change?)).amend
        ((Gesture.last? .moved script events).bind scene.change?) =
      (scene.amend ((Gesture.last? .moved script events).bind scene.change?)).amend
        ((Gesture.last? .reoriented script events).bind scene.change?) := by
  intro events
  cases turned : Gesture.last? .reoriented script events with
  | none => rfl
  | some lastTurn =>
    cases moved : Gesture.last? .moved script events with
    | none => rfl
    | some lastMove =>
      obtain ⟨x, z, place⟩ := last_moved dragging edits moved
      obtain ⟨orientation, turn⟩ := last_turned dragging edits turned
      simp only [Option.bind_some, place, turn]
      exact amend_comm fun _ => rfl

/-- Two gestures, each of which may be missing, change what they would change alone. -/
theorem replay_two {first second : Option (Gesture α)}
    (edits : ∀ gesture ∈ first.toList ++ second.toList, gesture.isEdit = true) :
    (scene.replay (first.toList ++ second.toList)).1 =
      (scene.amend (first.bind scene.change?)).amend (second.bind scene.change?) := by
  have single {scene : Scene α} {gesture : Gesture α} (edit : gesture.isEdit = true) :
      (scene.replay [gesture]).1 = scene.amend (scene.change? gesture) := (step_amend scene edit).1
  cases first with
  | none =>
    cases second with
    | none => rfl
    | some gesture => exact single (edits gesture (by simp))
  | some earlier =>
    have edit := edits earlier (by simp)
    obtain ⟨-, same⟩ := dragging_step dragging edit
    have stored := (scene.step_amend edit).1
    cases second with
    | none => exact single edit
    | some gesture =>
      have next : (scene.replay [earlier, gesture]).1 =
          (scene.step earlier).1.amend ((scene.step earlier).1.change? gesture) :=
        single (edits gesture (by simp))
      rw [same, stored] at next
      exact next

end Dragging

/-- Any number of moves and turns of a drag, accepted or not, leaves the scene as the last
accepted move and the last accepted turn alone do, in either order. In every mode a move
and a turn leave the same in either order, and neither has an influence on whether the
other is accepted. -/
theorem edits_coalesce (scene : Scene α) :
    (scene.interaction.mode = .dragging → ∀ script : List (Gesture α),
      (∀ gesture ∈ script, gesture.isEdit = true) →
        let replayed := scene.replay script
        let lastMove := Gesture.last? .moved script replayed.2
        let lastTurn := Gesture.last? .reoriented script replayed.2
        (scene.replay (lastMove.toList ++ lastTurn.toList)).1 = replayed.1 ∧
          (scene.replay (lastTurn.toList ++ lastMove.toList)).1 = replayed.1) ∧
    ∀ x y movement bearing tilt,
      let moved := scene.step (.move x y movement)
      let turned := scene.step (.orient bearing tilt)
      let turnedAfter := moved.1.step (.orient bearing tilt)
      let movedAfter := turned.1.step (.move x y movement)
      turnedAfter.1 = movedAfter.1 ∧ turnedAfter.2.kind = turned.2.kind ∧
        movedAfter.2.kind = moved.2.kind := by
  refine ⟨fun dragging script edits => ?_, fun x y movement bearing tilt => ?_⟩
  · intro replayed lastMove lastTurn
    have edit {kind : Event.Kind} (report : kind ≠ .none) :
        ∀ gesture ∈ (Gesture.last? kind script replayed.2).toList, gesture.isEdit = true :=
      fun gesture last =>
        edits gesture (last_change dragging edits (Option.mem_toList.mp last) report).1
    have moveEdit : ∀ gesture ∈ lastMove.toList, gesture.isEdit = true := edit nofun
    have turnEdit : ∀ gesture ∈ lastTurn.toList, gesture.isEdit = true := edit nofun
    have settled : replayed.1 = (scene.amend (lastMove.bind scene.change?)).amend
        (lastTurn.bind scene.change?) := replay_settled dragging edits
    rw [settled, replay_two dragging (List.forall_mem_append.mpr ⟨moveEdit, turnEdit⟩),
      replay_two dragging (List.forall_mem_append.mpr ⟨turnEdit, moveEdit⟩)]
    exact ⟨rfl, settled_comm dragging edits⟩
  · intro moved turned turnedAfter movedAfter
    have isMove : (Gesture.move x y movement).isEdit = true := rfl
    have isTurn : (Gesture.orient bearing tilt).isEdit = true := rfl
    obtain ⟨movedScene, movedKind⟩ := scene.step_amend isMove
    obtain ⟨turnedScene, turnedKind⟩ := scene.step_amend isTurn
    obtain ⟨turnedAfterScene, turnedAfterKind⟩ := moved.1.step_amend isTurn
    obtain ⟨movedAfterScene, movedAfterKind⟩ := turned.1.step_amend isMove
    have sameTurn : moved.1.change? (.orient bearing tilt) = scene.change? (.orient bearing tilt) :=
      movedScene ▸ orient_amend _ bearing tilt
    have sameMove : turned.1.change? (.move x y movement) = scene.change? (.move x y movement) :=
      turnedScene ▸ congrFun (change_after_orient scene bearing tilt) _
    rw [sameTurn] at turnedAfterScene turnedAfterKind
    rw [sameMove] at movedAfterScene movedAfterKind
    refine ⟨?_, turnedAfterKind.trans turnedKind.symm, movedAfterKind.trans movedKind.symm⟩
    rw [turnedAfterScene, movedAfterScene, movedScene, turnedScene]
    exact scene.amend_move_orient x y movement bearing tilt

/-- A drag and a turn, each repeated, with refused ones in between: the pointer is no point
of the screen, and the heading is no heading. -/
theorem repeated_edits_coalesce :
    let device : Device Float := ⟨⟨1⟩, ⟨0, 5, 0⟩, .zero, []⟩
    let scene : Scene Float := flat [device] (some ⟨1⟩) .dragging
    let script : List (Gesture Float) := [.move 10 20 0, .orient 30 0, .move 40 50 0,
      .orient 60 10, .move (1.0 / 0.0) 0 0, .orient (0.0 / 0.0) 0]
    (scene.replay [.orient 60 10, .move 40 50 0]).1 = (scene.replay script).1 := by
  intro device scene script
  have kinds : (scene.replay script).2.map Event.kind =
      [.moved, .reoriented, .moved, .reoriented, .none, .none] := by decide +kernel
  have lastMove : Gesture.last? .moved script (scene.replay script).2 = some (.move 40 50 0) := by
    rw [Gesture.last_kinds, kinds]
    rfl
  have lastTurn : Gesture.last? .reoriented script (scene.replay script).2 =
      some (.orient 60 10) := by
    rw [Gesture.last_kinds, kinds]
    rfl
  have coalesced := ((edits_coalesce scene).1 rfl script (by decide)).2
  rw [lastMove, lastTurn] at coalesced
  exact coalesced

end Scene
end DeviceMap
