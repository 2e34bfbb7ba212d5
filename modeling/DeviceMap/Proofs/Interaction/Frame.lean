import DeviceMap.Proofs.Interaction.Edit
import DeviceMap.Scalar.Double
import DeviceMap.Scene

/-! What the handlers of an interaction leave alone. A handler either edits the
list of devices or the interaction, never both, and an edit reaches one part of
one entry: the first one with the selected address, also where addresses repeat.
Over whole runs every other entry is at the end what it was at the start. -/
namespace DeviceMap
variable {α : Type}

/-- The handlers of an interaction with what they are called with. -/
inductive Handler (α : Type) where
  | press (target : Target)
  | move (screen : Vec2 α) (movement : α)
  /-- A move that gives a reason if it is not possible. -/
  | tryMove (screen : Vec2 α) (movement : α)
  | release
  | orient (orientation : Orientation α)
  | view (viewport : Viewport α)

/-- What a move may make of the selected entry in a mode. -/
inductive Moved (device : Device α) : Mode → Device α → Prop where
  | across (x z : α) :
      Moved device .dragging { device with position := { device.position with x, z } }
  | level (y : α) :
      Moved device .lifting { device with position := { device.position with y } }

namespace Handler

/-- Whether a handler is there to edit devices. The others change the interaction. -/
def edits : Handler α → Bool
  | .move .. | .tryMove .. | .orient _ => true
  | .press _ | .release | .view _ => false

/-- What a handler may make of the selected entry in a mode. -/
def Changes (handler : Handler α) (mode : Mode) (device edited : Device α) : Prop :=
  match handler with
  | .move .. | .tryMove .. => Moved device mode edited
  | .orient _ => ∃ orientation, edited = { device with orientation }
  | .press _ | .release | .view _ => False

theorem not_changes {handler : Handler α} {mode : Mode} {device edited : Device α}
    (still : handler.edits = false) : ¬handler.Changes mode device edited := by
  cases handler with
  | press | release | view => exact id
  | move | tryMove | orient => cases still

theorem Changes.same {handler : Handler α} {mode : Mode} {device edited : Device α}
    (changes : handler.Changes mode device edited) :
    edited.mac = device.mac ∧ edited.neighbors = device.neighbors := by
  cases handler with
  | move | tryMove => cases changes <;> exact ⟨rfl, rfl⟩
  | orient =>
    obtain ⟨orientation, rfl⟩ := changes
    exact ⟨rfl, rfl⟩
  | press | release | view => cases changes

end Handler

namespace Scene

/-- The entry at a place is the first one with the selected address. -/
def Selects (scene : Scene α) (place : Nat) (device : Device α) : Prop :=
  scene.interaction.selected = some device.mac ∧ Device.FirstAt scene.devices place device

theorem selects_of_found {scene : Scene α} {device : Device α}
    (found : scene.selectedDevice? = some device) : ∃ place, scene.Selects place device ∧
      ∀ edited, edited.mac = device.mac →
        edited.put scene.devices = scene.devices.set place edited := by
  obtain ⟨place, first, overwritten⟩ := Device.find_firstAt (Interaction.selected_found found)
  exact ⟨place, ⟨Interaction.selected_mac found, first⟩, overwritten⟩

end Scene

variable [Scalar α]

theorem Shifted.moved {device edited : Device α} {mode : Mode}
    (shifted : Shifted device mode edited) : Moved device mode edited := by
  cases shifted with
  | dragged x z numbers => exact .across _ _
  | lifted level finite => exact .level _

/-- A move is refused, does nothing while idle, or stores and reports the selected
device with the coordinates changed that belong to the mode. -/
theorem Interaction.tryMove_cases (state : Interaction α) (devices : List (Device α))
    (screen : Vec2 α) (movement : α) :
    (∃ reason, state.tryMove devices screen movement = .error reason) ∨
      state.tryMove devices screen movement = .ok (devices, .none) ∨
      ∃ device edited, state.selectedDevice? devices = some device ∧
        Moved device state.mode edited ∧
          state.tryMove devices screen movement = .ok (edited.put devices, .moved edited) := by
  cases attempt : state.tryMove devices screen movement with
  | error reason => exact .inl ⟨reason, rfl⟩
  | ok result =>
    rcases tryMove_accepted attempt with ⟨-, rfl⟩ | ⟨device, edited, found, shifted, rfl⟩
    · exact .inr (.inl rfl)
    · exact .inr (.inr ⟨device, edited, found, shifted.moved, rfl⟩)

namespace Scene

/-- A handler called with the devices of a scene, and what it answers. A new
viewport has no answer, and a reason is none. -/
def call (scene : Scene α) : Handler α → Scene α × Option (Event α)
  | .press target =>
    let (interaction, selection) := scene.interaction.press scene.devices target
    ({ scene with interaction }, some (.selection selection))
  | .move screen movement => (scene.move screen movement).map id fun done => some (.outcome done)
  | .tryMove screen movement =>
    match scene.interaction.tryMove scene.devices screen movement with
    | .ok (devices, done) => ({ scene with devices }, some (.outcome done))
    | .error _ => (scene, none)
  | .release => scene.release.map id fun done => some (.outcome done)
  | .orient orientation => (scene.orient orientation).map id fun done => some (.outcome done)
  | .view viewport => (scene.withViewport viewport, none)

/-- A sequence of calls. -/
def callAll (scene : Scene α) (handlers : List (Handler α)) : Scene α :=
  handlers.foldl (fun scene handler => (scene.call handler).1) scene

/-- A call that leaves the devices alone, and the interaction too if its handler is
there to edit devices. What it reports is selected. -/
def Unedited (scene : Scene α) (handler : Handler α) : Prop :=
  (scene.call handler).1.devices = scene.devices ∧
    (handler.edits = true → (scene.call handler).1.interaction = scene.interaction) ∧
    ∀ done device, (scene.call handler).2 = some (.outcome done) → done.device? = some device →
      (scene.call handler).1.selectedDevice? = some device

/-- A call that overwrites the first entry with the selected address, reports what is
stored there now, and leaves the interaction alone. -/
def Edited (scene : Scene α) (handler : Handler α) (place : Nat) (device edited : Device α) :
    Prop :=
  scene.Selects place device ∧ handler.Changes scene.interaction.mode device edited ∧
    ∃ done, done.device? = some edited ∧ scene.call handler =
      ({ scene with devices := scene.devices.set place edited }, some (.outcome done))

theorem unedited_of_call {scene : Scene α} {handler : Handler α} {answer : Option (Event α)}
    (called : scene.call handler = (scene, answer))
    (nothing : answer = none ∨ answer = some (.outcome .none)) : scene.Unedited handler := by
  rw [Unedited, called]
  refine ⟨rfl, fun _ => rfl, fun done device reported carried => ?_⟩
  rcases nothing with rfl | rfl
  · cases reported
  · cases reported
    cases carried

theorem edited_of_call {scene : Scene α} {handler : Handler α} {device edited : Device α}
    {done : Outcome α} (found : scene.selectedDevice? = some device)
    (changes : handler.Changes scene.interaction.mode device edited)
    (carried : done.device? = some edited)
    (called : scene.call handler =
      ({ scene with devices := edited.put scene.devices }, some (.outcome done))) :
    ∃ place device edited, scene.Edited handler place device edited := by
  obtain ⟨place, selects, overwritten⟩ := selects_of_found found
  rw [overwritten edited changes.same.1] at called
  exact ⟨place, device, edited, selects, changes, done, carried, called⟩

/-- Every call is one of the two, so that what calls keep is told by two cases. -/
theorem call_cases (scene : Scene α) (handler : Handler α) :
    scene.Unedited handler ∨ ∃ place device edited, scene.Edited handler place device edited := by
  cases handler with
  | press target => exact .inl ⟨rfl, nofun, nofun⟩
  | view viewport => exact .inl ⟨rfl, nofun, nofun⟩
  | release =>
    refine .inl ⟨rfl, nofun, fun done device reported carried => ?_⟩
    cases reported
    exact Interaction.release_selected carried
  | move screen movement =>
    rcases scene.interaction.tryMove_cases scene.devices screen movement with
      ⟨reason, refused⟩ | ignored | ⟨device, edited, found, moved, accepted⟩
    · have called : scene.call (.move screen movement) = (scene, some (.outcome .none)) := by
        simp [call, Scene.move, Interaction.move, refused]
      exact .inl (unedited_of_call called (.inr rfl))
    · have called : scene.call (.move screen movement) = (scene, some (.outcome .none)) := by
        simp [call, Scene.move, Interaction.move, ignored]
      exact .inl (unedited_of_call called (.inr rfl))
    · have carried : (Outcome.moved edited).device? = some edited := rfl
      refine .inr (edited_of_call found moved carried ?_)
      simp [call, Scene.move, Interaction.move, accepted]
  | tryMove screen movement =>
    rcases scene.interaction.tryMove_cases scene.devices screen movement with
      ⟨reason, refused⟩ | ignored | ⟨device, edited, found, moved, accepted⟩
    · have called : scene.call (.tryMove screen movement) = (scene, none) := by
        simp [call, refused]
      exact .inl (unedited_of_call called (.inl rfl))
    · have called : scene.call (.tryMove screen movement) = (scene, some (.outcome .none)) := by
        simp [call, ignored]
      exact .inl (unedited_of_call called (.inr rfl))
    · have carried : (Outcome.moved edited).device? = some edited := rfl
      refine .inr (edited_of_call found moved carried ?_)
      simp [call, accepted]
  | orient orientation =>
    rcases scene.interaction.orient_turned scene.devices orientation with
      ignored | ⟨-, device, found, turned⟩
    · have called : scene.call (.orient orientation) = (scene, some (.outcome .none)) := by
        simp [call, Scene.orient, ignored]
      exact .inl (unedited_of_call called (.inr rfl))
    · have changes : (Handler.orient orientation).Changes scene.interaction.mode device
          (device.turned orientation) := ⟨_, rfl⟩
      have carried : (Outcome.reoriented (device.turned orientation)).device? =
          some (device.turned orientation) := rfl
      refine .inr (edited_of_call found changes carried ?_)
      simp [call, Scene.orient, turned]

/-- What one call leaves alone. -/
structure Framed (before : Scene α) (handler : Handler α) (after : Scene α)
    (answer : Option (Event α)) : Prop where
  /-- The length of the list, the order of its entries, their addresses and what
  they have measured stay. -/
  identities : after.devices.map (fun device => (device.mac, device.neighbors)) =
    before.devices.map fun device => (device.mac, device.neighbors)
  devices : handler.edits = false → after.devices = before.devices
  interaction : handler.edits = true → after.interaction = before.interaction
  single : ∃ place : Nat, ∀ other, other ≠ place → after.devices[other]? = before.devices[other]?
  entries : ∀ place : Nat, after.devices[place]? = before.devices[place]? ∨
    ∃ device edited, before.Selects place device ∧ after.devices[place]? = some edited ∧
      handler.Changes before.interaction.mode device edited
  reported : ∀ done device, answer = some (.outcome done) → done.device? = some device →
    ∃ place, after.Selects place device

theorem call_framed (scene : Scene α) (handler : Handler α) :
    Framed scene handler (scene.call handler).1 (scene.call handler).2 := by
  rcases scene.call_cases handler with ⟨kept, left, reported⟩ | ⟨place, device, edited, edit⟩
  · exact {
      identities := by rw [kept]
      devices := fun _ => kept
      interaction := left
      single := ⟨0, fun _ _ => by rw [kept]⟩
      entries := fun _ => .inl (by rw [kept])
      reported := fun done device answered carried =>
        (selects_of_found (reported done device answered carried)).imp fun _ found => found.1
    }
  · obtain ⟨selects, changes, done, carried, called⟩ := edit
    obtain ⟨sameMac, sameNeighbors⟩ := changes.same
    have ⟨chosen, first⟩ := selects
    have inside := (List.getElem?_eq_some_iff.mp first.1).1
    rw [called]
    exact {
      identities := by
        refine List.ext_getElem? fun other => ?_
        rw [List.getElem?_map, List.getElem?_map]
        by_cases here : other = place
        · rw [here, List.getElem?_set_self inside, first.1]
          simp [sameMac, sameNeighbors]
        · rw [List.getElem?_set_ne (Ne.symm here)]
      devices := fun still => absurd changes (Handler.not_changes still)
      interaction := fun _ => rfl
      single := ⟨place, fun other elsewhere => List.getElem?_set_ne elsewhere.symm⟩
      entries := fun other => by
        by_cases here : other = place
        · rw [here]
          exact .inr ⟨device, edited, selects, List.getElem?_set_self inside, changes⟩
        · exact .inl (List.getElem?_set_ne (Ne.symm here))
      reported := by
        rintro _ reported ⟨⟩ shown
        rw [carried] at shown
        cases shown
        exact ⟨place, by rw [sameMac]; exact chosen, first.set sameMac⟩
    }

section Run
variable {scene : Scene α} {handlers : List (Handler α)}

theorem callAll_succ {step : Nat} {handler : Handler α} (next : handlers[step]? = some handler) :
    scene.callAll (handlers.take (step + 1)) =
      ((scene.callAll (handlers.take step)).call handler).1 := by
  simp [callAll, List.take_add_one, next]

theorem callAll_identities :
    (scene.callAll handlers).devices.map (fun device => (device.mac, device.neighbors)) =
      scene.devices.map fun device => (device.mac, device.neighbors) := by
  induction handlers generalizing scene with
  | nil => rfl
  | cons handler rest ih => exact ih.trans (scene.call_framed handler).identities

/-- An entry that no call finds selected is the same at the end. -/
theorem callAll_untouched {place : Nat} (never : ∀ step, step < handlers.length →
      ∀ device, ¬(scene.callAll (handlers.take step)).Selects place device) :
    (scene.callAll handlers).devices[place]? = scene.devices[place]? := by
  -- Each call is the start of the rest of the run, with the places of calls shifted by one.
  induction handlers generalizing scene with
  | nil => rfl
  | cons handler rest ih =>
    have first : (scene.call handler).1.devices[place]? = scene.devices[place]? := by
      rcases (scene.call_framed handler).entries place with same | ⟨device, -, selected, -⟩
      · exact same
      · exact absurd selected (never 0 (by simp) device)
    have later : ∀ step, step < rest.length → ∀ device,
        ¬((scene.call handler).1.callAll (rest.take step)).Selects place device :=
      fun step below => never (step + 1) (by simpa using below)
    exact (ih later).trans first

end Run

/-- In every run of handlers, on any list of devices and from any interaction: each
call keeps to its frame, so that the list stays in its order, with its addresses and
measurements; and an entry that was never the first one with the selected address is
at the end what it was at the start. -/
theorem calls_framed (scene : Scene α) (handlers : List (Handler α)) :
    let state (step : Nat) := scene.callAll (handlers.take step)
    (∀ step handler, handlers[step]? = some handler → ∃ answer,
      (state step).call handler = (state (step + 1), answer) ∧
        Framed (state step) handler (state (step + 1)) answer) ∧
    (∀ step, (state step).devices.map (fun device => (device.mac, device.neighbors)) =
      scene.devices.map fun device => (device.mac, device.neighbors)) ∧
    ∀ place, (∀ step, step < handlers.length → ∀ device, ¬(state step).Selects place device) →
      (scene.callAll handlers).devices[place]? = scene.devices[place]? := by
  intro state
  refine ⟨fun step handler next => ?_, fun step => callAll_identities,
    fun place => callAll_untouched⟩
  have stepped : state (step + 1) = ((state step).call handler).1 := callAll_succ next
  rw [stepped]
  exact ⟨_, rfl, (state step).call_framed handler⟩

/-- Of two devices with one address the first one is turned. -/
example :
    let twin : Device Float := ⟨⟨1⟩, .zero, .zero, []⟩
    ((start [twin, twin] .identity).callAll
      [.press (.marker ⟨1⟩), .orient ⟨30, 0⟩, .release]).devices.map
        (·.orientation.bearing == 30) = [true, false] := by
  decide +kernel

end Scene
end DeviceMap
