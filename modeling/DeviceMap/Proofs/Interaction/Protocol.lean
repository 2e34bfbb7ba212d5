import DeviceMap.Proofs.Interaction.Edit
import DeviceMap.Scalar.Double
import DeviceMap.Scene

/-! The order of presses, moves and releases. A host may ask for anything at any
time, and may hand over another list of devices with every call. The state then
remembers no more than the address of the last press that found a device, and
whether a release has come since; all that moves and releases report follows
from these two. -/
namespace DeviceMap
variable {α : Type}

/-- What a host can ask of an interaction. -/
inductive Request (α : Type) where
  | press (target : Target)
  | move (screen : Vec2 α) (movement : α)
  | release
  | orient (orientation : Orientation α)
  | view (viewport : Viewport α)

/-- A request with the list of devices that is handed over with it. The next
call brings a list of its own, which may be the edited one or any other. -/
structure Call (α : Type) where
  devices : List (Device α)
  request : Request α

/-- Neither a press nor a release: a gesture goes on as it was. -/
def Request.continues : Request α → Bool
  | .press _ | .release => false
  | .move _ _ | .orient _ | .view _ => true

def Request.isPress : Request α → Bool
  | .press _ => true
  | _ => false

/-- A press that found a device. -/
def Event.isGrab : Event α → Bool
  | .selection left => left.device.isSome
  | .outcome _ => false

/-- A release that ended a gesture on a device. -/
def Event.isEnd : Event α → Bool
  | .outcome (.ended _) => true
  | _ => false

namespace Interaction

/-- An earlier press reported a device with the address, and no press and no
release stands between it and a place. -/
def Held (calls : List (Call α)) (answers : List (Option (Event α))) (mac : Mac)
    (place : Nat) : Prop :=
  ∃ earlier devices target device, earlier < place ∧
    calls[earlier]? = some ⟨devices, .press target⟩ ∧
    answers[earlier]? = some (some (.selection ⟨some device⟩)) ∧ device.mac = mac ∧
    ∀ between call, earlier < between → between < place → calls[between]? = some call →
      call.request.continues

/-- A gesture on the device with an address is going on. -/
def Engaged (state : Interaction α) (mac : Mac) : Prop :=
  state.mode ≠ .idle ∧ state.selected = some mac

/-- A gesture is only ever going on with something selected. -/
def Anchored (state : Interaction α) : Prop :=
  state.mode ≠ .idle → ∃ mac, state.selected = some mac

theorem press_engages (state : Interaction α) (devices : List (Device α)) (target : Target)
    (mac : Mac) : (state.press devices target).1.Engaged mac ↔
      ∃ device, (state.press devices target).2 = ⟨some device⟩ ∧ device.mac = mac := by
  unfold press
  split
  · split
    · rename_i device found
      have chosen := selected_mac found
      simp [Engaged, chosen]
    · simp [Engaged, cleared]
  · split
    · simp [Engaged]
    · simp [Engaged, cleared]
  · simp [Engaged, cleared]

theorem press_anchored (state : Interaction α) (devices : List (Device α)) (target : Target) :
    (state.press devices target).1.Anchored := by
  unfold press Anchored
  split
  · split
    · rename_i device found
      exact fun _ => ⟨_, selected_mac found⟩
    · exact fun active => absurd rfl active
  · split
    · exact fun _ => ⟨_, rfl⟩
    · exact fun active => absurd rfl active
  · exact fun active => absurd rfl active

/-- A release ends a gesture exactly if one is going on and its device is in the
list. -/
theorem release_ended_iff {state : Interaction α} {devices : List (Device α)}
    {device : Device α} : (state.release devices).2 = .ended device ↔
      state.Engaged device.mac ∧ Device.find? devices device.mac = some device := by
  have meaning : (state.release devices).2 = .ended device ↔
      state.mode ≠ .idle ∧ state.selectedDevice? devices = some device := by
    unfold release
    cases state.mode <;> cases state.selectedDevice? devices <;> simp
  rw [meaning]
  constructor
  · rintro ⟨active, found⟩
    exact ⟨⟨active, selected_mac found⟩, selected_found found⟩
  · rintro ⟨⟨active, chosen⟩, found⟩
    refine ⟨active, ?_⟩
    unfold selectedDevice?
    rw [chosen]
    exact found

theorem release_cases (state : Interaction α) (devices : List (Device α)) :
    (state.release devices).2 = .none ∨ ∃ device, (state.release devices).2 = .ended device := by
  unfold release
  cases state.mode <;> cases state.selectedDevice? devices <;> simp

/-- A release during a gesture reports the device of the gesture as it is listed. -/
theorem release_engaged {state : Interaction α} {mac : Mac} (engaged : state.Engaged mac)
    {devices : List (Device α)} {device : Device α} :
    (state.release devices).2 = .ended device ↔ Device.find? devices mac = some device := by
  rw [release_ended_iff]
  constructor
  · rintro ⟨⟨-, chosen⟩, found⟩
    obtain rfl : mac = device.mac := Option.some.inj (engaged.2.symm.trans chosen)
    exact found
  · intro found
    obtain rfl := Device.find_mac found
    exact ⟨engaged, found⟩

theorem release_none_iff {state : Interaction α} {devices : List (Device α)} :
    (state.release devices).2 = .none ↔
      ∀ mac, state.Engaged mac → Device.find? devices mac = none := by
  constructor
  · intro nothing mac engaged
    cases found : Device.find? devices mac with
    | none => rfl
    | some device =>
      rw [(release_engaged engaged).mpr found] at nothing
      cases nothing
  · intro missing
    rcases state.release_cases devices with nothing | ⟨device, ended⟩
    · exact nothing
    · obtain ⟨engaged, found⟩ := release_ended_iff.mp ended
      rw [missing device.mac engaged] at found
      cases found

/-- What an ongoing gesture counts for: a press that no release has used up. -/
def pending (state : Interaction α) : Nat := if state.mode = .idle then 0 else 1

theorem pending_le (state : Interaction α) : state.pending ≤ 1 := by
  unfold pending
  split <;> omega

theorem press_pending (state : Interaction α) (devices : List (Device α)) (target : Target)
    (nothing : (state.press devices target).2.device = none) :
    (state.press devices target).1.pending = 0 := by
  unfold pending
  split
  · rfl
  · rename_i active
    obtain ⟨mac, chosen⟩ := state.press_anchored devices target active
    obtain ⟨device, found, -⟩ := (state.press_engages devices target mac).mp ⟨active, chosen⟩
    rw [found] at nothing
    cases nothing

/-- A device is held after a call if the call is the press that found it, or
lets it be held on. -/
theorem held_succ {calls : List (Call α)} {answers : List (Option (Event α))} {place : Nat}
    {call : Call α} {mac : Mac} (next : calls[place]? = some call) :
    Held calls answers mac (place + 1) ↔
      (∃ target device, call.request = .press target ∧
        answers[place]? = some (some (.selection ⟨some device⟩)) ∧ device.mac = mac) ∨
      call.request.continues ∧ Held calls answers mac place := by
  constructor
  · rintro ⟨earlier, devices, target, device, before, pressed, answered, same, undisturbed⟩
    rcases Nat.lt_succ_iff_lt_or_eq.mp before with older | rfl
    · refine Or.inr ⟨undisturbed place call older (Nat.lt_succ_self place) next, ?_⟩
      exact ⟨earlier, devices, target, device, older, pressed, answered, same,
        fun between other later ahead => undisturbed between other later (by omega)⟩
    · rw [next] at pressed
      cases pressed
      exact Or.inl ⟨target, device, rfl, answered, same⟩
  · rintro (⟨target, device, press, answered, same⟩ |
      ⟨goesOn, earlier, devices, target, device, before, pressed, answered, same, undisturbed⟩)
    · obtain ⟨devices, request⟩ := call
      obtain rfl : request = .press target := press
      exact ⟨place, devices, target, device, Nat.lt_succ_self place, next, answered, same,
        fun between other later ahead => by omega⟩
    · refine ⟨earlier, devices, target, device, by omega, pressed, answered, same, ?_⟩
      intro between other later ahead found
      rcases Nat.lt_succ_iff_lt_or_eq.mp ahead with inside | rfl
      · exact undisturbed between other later inside found
      · rw [next] at found
        cases found
        exact goesOn

variable [Scalar α]

/-- One call, with the event that it answers. A new viewport has none. -/
def handle (state : Interaction α) (call : Call α) : Interaction α × Option (Event α) :=
  match call.request with
  | .press target => (state.press call.devices target).map id fun left => some (.selection left)
  | .move screen movement =>
    (state, some (.outcome (state.move call.devices screen movement).2))
  | .release => (state.release call.devices).map id fun result => some (.outcome result)
  | .orient orientation => (state, some (.outcome (state.orient call.devices orientation).2))
  | .view viewport => ({ state with viewport }, none)

/-- Any number of calls, with the answer to each of them. -/
def run (state : Interaction α) : List (Call α) → Interaction α × List (Option (Event α))
  | [] => (state, [])
  | call :: rest =>
    let (next, answer) := state.handle call
    let (last, answers) := next.run rest
    (last, answer :: answers)

/-- A gesture is going on after a call if the call is a press that found the
device, or lets a gesture on the device go on. -/
theorem handle_engages (state : Interaction α) (call : Call α) (mac : Mac) :
    (state.handle call).1.Engaged mac ↔
      (∃ target device, call.request = .press target ∧
        (state.handle call).2 = some (.selection ⟨some device⟩) ∧ device.mac = mac) ∨
      call.request.continues ∧ state.Engaged mac := by
  obtain ⟨devices, request⟩ := call
  cases request with
  | press target =>
    have pressed := state.press_engages devices target mac
    simpa [handle, Request.continues] using pressed
  | release => simp [handle, release, Engaged, Request.continues]
  | move screen movement => simp [handle, Request.continues]
  | orient orientation => simp [handle, Request.continues]
  | view viewport => simp [handle, Engaged, Request.continues]

theorem handle_anchored {state : Interaction α} (anchored : state.Anchored) (call : Call α) :
    (state.handle call).1.Anchored := by
  obtain ⟨devices, request⟩ := call
  cases request with
  | press target => exact state.press_anchored devices target
  | release => exact fun active => absurd rfl active
  | move screen movement => exact anchored
  | orient orientation => exact anchored
  | view viewport => exact anchored

/-- Only a press changes what is selected. -/
theorem handle_selected {state : Interaction α} {call : Call α}
    (other : call.request.isPress = false) : (state.handle call).1.selected = state.selected := by
  obtain ⟨devices, request⟩ := call
  cases request with
  | press target => cases other
  | release => rfl
  | move screen movement => rfl
  | orient orientation => rfl
  | view viewport => rfl

/-- What moved or ended belongs to a gesture that is going on. -/
theorem handle_active {state : Interaction α} {call : Call α} {device : Device α}
    (reported : (state.handle call).2 = some (.outcome (.moved device)) ∨
      (state.handle call).2 = some (.outcome (.ended device))) : state.Engaged device.mac := by
  obtain ⟨devices, request⟩ := call
  cases request with
  | press target => simp [handle] at reported
  | view viewport => simp [handle] at reported
  | release =>
    have ended : (state.release devices).2 = .ended device := by
      rcases state.release_cases devices with nothing | ⟨held, ended⟩
      · simp [handle, nothing] at reported
      · simpa [handle, ended] using reported
    exact (release_ended_iff.mp ended).1
  | orient orientation =>
    rcases state.orient_cases devices orientation with nothing | ⟨-, edited, -, -, turned⟩
    · simp [handle, nothing] at reported
    · simp [handle, turned] at reported
  | move screen movement =>
    rcases state.move_cases devices screen movement with
      nothing | ⟨held, edited, found, edit, moved⟩
    · simp [handle, nothing] at reported
    · obtain rfl : edited = device := by simpa [handle, moved] using reported
      refine ⟨fun idle => ?_, edit.mac ▸ selected_mac found⟩
      have still : state.move devices screen movement = (devices, .none) := by
        unfold move tryMove
        rw [idle]
      have silent := congrArg Prod.snd (moved.symm.trans still)
      cases silent

section Run
variable (state : Interaction α) {calls : List (Call α)} {place : Nat} {call : Call α}

/-- A further call acts on what the calls before it left. -/
theorem run_succ (next : calls[place]? = some call) :
    (state.run (calls.take (place + 1))).1 =
        ((state.run (calls.take place)).1.handle call).1 ∧
      (state.run calls).2[place]? = some ((state.run (calls.take place)).1.handle call).2 := by
  induction calls generalizing state place with
  | nil => simp at next
  | cons first rest ih =>
    cases place with
    | zero =>
      cases next
      exact ⟨rfl, rfl⟩
    | succ place =>
      have later : rest[place]? = some call := by simpa using next
      exact ih (state.handle first).1 later

theorem run_length (calls : List (Call α)) : (state.run calls).2.length = calls.length := by
  induction calls generalizing state with
  | nil => rfl
  | cons first rest ih => simp [run, ih]

theorem run_anchored {state : Interaction α} (anchored : state.Anchored)
    (calls : List (Call α)) : (state.run calls).1.Anchored := by
  induction calls generalizing state with
  | nil => exact anchored
  | cons first rest ih => exact ih (handle_anchored anchored first)

/-- What a run has left held is what its state is engaged with. -/
theorem held_iff_engaged {state : Interaction α} (idle : state.mode = .idle) {mac : Mac}
    (within : place ≤ calls.length) : Held calls (state.run calls).2 mac place ↔
      (state.run (calls.take place)).1.Engaged mac := by
  induction place with
  | zero =>
    constructor
    · rintro ⟨earlier, -, -, -, before, -⟩
      omega
    · rintro ⟨active, -⟩
      exact absurd idle active
  | succ place ih =>
    have next : calls[place]? = some calls[place] := List.getElem?_eq_getElem (by omega)
    obtain ⟨stepped, answered⟩ := state.run_succ next
    rw [held_succ next, stepped, handle_engages, answered, ih (by omega)]
    simp only [Option.some.injEq]

/-- One call ends a gesture only if one was going on, and leaves one going on
only if it was before or was begun by a press that found a device. -/
theorem handle_balance (call : Call α) :
    (if (state.handle call).2.any Event.isEnd then 1 else 0) + (state.handle call).1.pending ≤
      (if (state.handle call).2.any Event.isGrab then 1 else 0) + state.pending := by
  obtain ⟨devices, request⟩ := call
  cases request with
  | press target =>
    cases found : (state.press devices target).2.device with
    | none =>
      have idle := state.press_pending devices target found
      simp [handle, Event.isEnd, idle]
    | some device =>
      have one := (state.press devices target).1.pending_le
      simp only [handle, Prod.map_snd, Prod.map_fst, id, Option.any_some, Event.isEnd,
        Event.isGrab, found, Option.isSome_some, ↓reduceIte, Bool.false_eq_true]
      omega
  | release =>
    have idle : (state.release devices).1.pending = 0 := rfl
    rcases state.release_cases devices with nothing | ⟨device, ended⟩
    · simp [handle, nothing, Event.isEnd, idle]
    · have active : state.pending = 1 := if_neg (release_ended_iff.mp ended).1.1
      simp [handle, ended, Event.isEnd, idle, active]
  | move screen movement =>
    rcases state.move_cases devices screen movement with
      nothing | ⟨-, edited, -, -, moved⟩
    · simp [handle, nothing, Event.isEnd]
    · simp [handle, moved, Event.isEnd]
  | orient orientation =>
    rcases state.orient_cases devices orientation with nothing | ⟨-, edited, -, -, turned⟩
    · simp [handle, nothing, Event.isEnd]
    · simp [handle, turned, Event.isEnd]
  | view viewport =>
    have same : ({ state with viewport } : Interaction α).pending = state.pending := rfl
    simp [handle, same]

/-- Ended gestures and the ongoing one are covered by presses that found a
device and by what was going on before. -/
theorem run_balance (calls : List (Call α)) :
    (state.run calls).2.countP (·.any Event.isEnd) + (state.run calls).1.pending ≤
      (state.run calls).2.countP (·.any Event.isGrab) + state.pending := by
  induction calls generalizing state with
  | nil => simp [run]
  | cons first rest ih =>
    have balance := state.handle_balance first
    have others := ih (state.handle first).1
    simp only [run, List.countP_cons]
    omega

end Run

/-- In every run from the initial state, with any list of devices at every call:
a gesture is only going on with something selected; what moved or ended was held
by an earlier press, with no press and no release in between; a release reports
the held device if it is in the list, and nothing otherwise, so that no more
gestures end than presses have found a device; and only presses change what is
selected. -/
theorem calls_follow_presses (viewport : Viewport α) (calls : List (Call α)) :
    let state (place : Nat) := ((Interaction.start viewport).run (calls.take place)).1
    let answers := ((Interaction.start viewport).run calls).2
    (∀ place, (state place).mode ≠ .idle → ∃ mac, (state place).selected = some mac) ∧
    (∀ place device, answers[place]? = some (some (.outcome (.moved device))) ∨
        answers[place]? = some (some (.outcome (.ended device))) →
      Held calls answers device.mac place) ∧
    (∀ place devices, calls[place]? = some ⟨devices, .release⟩ →
      (∀ mac, Held calls answers mac place → ∀ device,
        answers[place]? = some (some (.outcome (.ended device))) ↔
          Device.find? devices mac = some device) ∧
      (answers[place]? = some (some (.outcome .none)) ↔
        ∀ mac, Held calls answers mac place → Device.find? devices mac = none)) ∧
    answers.countP (·.any Event.isEnd) ≤ answers.countP (·.any Event.isGrab) ∧
    (∀ place call, calls[place]? = some call → call.request.isPress = false →
      (state (place + 1)).selected = (state place).selected) := by
  intro state answers
  have answered {place : Nat} {call : Call α} (next : calls[place]? = some call) :
      answers[place]? = some ((state place).handle call).2 :=
    ((start viewport).run_succ next).2
  have held {place : Nat} {call : Call α} (next : calls[place]? = some call) {mac : Mac} :
      Held calls answers mac place ↔ (state place).Engaged mac :=
    held_iff_engaged rfl (Nat.le_of_lt (List.getElem?_eq_some_iff.mp next).1)
  refine ⟨fun place => ?_, fun place device reported => ?_, fun place devices next => ?_, ?_,
    fun place call next other => ?_⟩
  · exact run_anchored (fun active => absurd rfl active) (calls.take place)
  · have inside : place < answers.length := by
      rcases reported with moved | ended
      · exact (List.getElem?_eq_some_iff.mp moved).1
      · exact (List.getElem?_eq_some_iff.mp ended).1
    rw [run_length] at inside
    have next : calls[place]? = some calls[place] := List.getElem?_eq_getElem inside
    rw [answered next, Option.some.injEq, Option.some.injEq] at reported
    exact (held next).mpr (handle_active reported)
  · have reply : answers[place]? = some (some (.outcome ((state place).release devices).2)) :=
      answered next
    simp only [reply, held next, Option.some.injEq, Event.outcome.injEq]
    exact ⟨fun mac engaged device => release_engaged engaged, release_none_iff⟩
  · have balance : answers.countP (·.any Event.isEnd) + _ ≤
        answers.countP (·.any Event.isGrab) + 0 := (start viewport).run_balance calls
    omega
  · have stepped : state (place + 1) = ((state place).handle call).1 :=
      ((start viewport).run_succ next).1
    rw [stepped]
    exact handle_selected other

/-- A device is missing from the list for a while during one gesture, and when the
next one is released. -/
theorem missing_device_keeps_gesture :
    let device : Device Float := ⟨⟨1⟩, ⟨0, 5, 0⟩, .zero, []⟩
    let calls : List (Call Float) := [⟨[device], .press (.marker ⟨1⟩)⟩, ⟨[], .move ⟨0, 0⟩ 1⟩,
      ⟨[], .orient .zero⟩, ⟨[device], .release⟩, ⟨[device], .press .handle⟩, ⟨[], .release⟩,
      ⟨[device], .release⟩]
    let answers := ((Interaction.start .identity).run calls).2
    Held calls answers ⟨1⟩ 3 ∧ answers[5]? = some (some (.outcome .none)) ∧
      answers.countP (·.any Event.isEnd) ≤ 2 := by
  intro device calls answers
  obtain ⟨-, reports, releases, count, -⟩ := calls_follow_presses Viewport.identity calls
  have ended : answers[3]? = some (some (.outcome (.ended device))) := rfl
  have held : Held calls answers ⟨1⟩ 3 := reports 3 device (Or.inr ended)
  have grabs : answers.countP (·.any Event.isGrab) = 2 := by decide +kernel
  exact ⟨held, ((releases 5 [] rfl).2).mpr fun _ _ => rfl, grabs ▸ count⟩

end Interaction
end DeviceMap
