import DeviceMap.Proofs.Record.Device
import DeviceMap.Record.Event

/-! Events as data. An event carries no mark of what it is, and a selection asks
for no field that other events lack, so what is read is always a selection. -/
namespace DeviceMap
open Json.Reader Record Datum

private theorem Selection.decode_entry (format : Format) {d : Datum} {entry : Entry}
    (entries : entries? format ["device"] d = some [entry]) :
    decode format d = (do return ⟨← entry.nullable? format⟩ : Option (Selection Float)) := by
  change (entries? format ["device"] d).bind _ = _
  rw [entries]
  rfl

/-- A null is no device, so what is one stands for itself. -/
private theorem nullable_device {format : Format} {value : Datum} {device : Device Float}
    (decoded : decode format value = some device) :
    ((Entry.given value).nullable? format : Option (Option (Device Float))) =
      some (some device) := by
  rw [nullable_given]
  exact decode_option (fun _ => rfl) decoded

private theorem device_entry (byName : Bool) {e : Event Float}
    (finite : ∀ device ∈ e.device?, device.isFinite = true) :
    ∃ entry, entries? .kept ["device"] ((encode e).arranged byName).shown = some [entry] ∧
      entry.nullable? .kept = some e.device? := by
  have given (fields : List (String × Datum)) {device : Device Float}
      (distinct : (fields.map Prod.fst).Nodup) (held : ("device", encode device) ∈ fields)
      (known : device.isFinite = true) :
      ∃ entry, entries? .kept ["device"] ((Datum.record fields).arranged byName).shown =
        some [entry] ∧ entry.nullable? .kept = some (some device) := by
    have decoded := Device.readsBack.decoded .kept byName device
    rw [if_pos known] at decoded
    have inside : [("device", encode device)] ⊆ fields := by simpa using held
    exact ⟨_, entries_shown .kept byName fields distinct inside, nullable_device decoded⟩
  cases e with
  | selection chosen =>
    obtain ⟨device⟩ := chosen
    cases device with
    | none =>
      refine ⟨.given .null, ?_, rfl⟩
      cases byName <;> rfl
    | some device => exact given [("device", encode device)] (by simp) (by simp) (finite device rfl)
  | outcome result =>
    cases result with
    | none =>
      refine ⟨.omitted, ?_, rfl⟩
      cases byName <;> rfl
    | moved device =>
      exact given [("kind", .text "moved"), ("device", encode device)] (by simp) (by simp)
        (finite device rfl)
    | ended device =>
      exact given [("kind", .text "ended"), ("device", encode device)] (by simp) (by simp)
        (finite device rfl)
    | reoriented device =>
      exact given [("kind", .text "reoriented"), ("device", encode device)] (by simp) (by simp)
        (finite device rfl)

/-- Whatever an event says of a device is read as the selection of this device. -/
theorem Event.decode_shown (format : Format) (byName : Bool) {e : Event Float}
    (finite : ∀ device ∈ e.device?, device.isFinite = true) :
    decode format ((encode e).arranged byName).shown =
      some (.selection ⟨e.device?⟩ : Event Float) := by
  obtain ⟨entry, entries, device⟩ := device_entry byName finite
  have selection := Selection.decode_entry .kept entries
  rw [device] at selection
  change (if _ then _ else _) = _
  rw [if_pos (shown_readable _), selection]
  rfl

theorem Event.fits (e : Event Float) {depth : Nat} (room : depth + 4 ≤ nestingLimit) :
    (encode e).Fits depth := by
  have shallow : depth < nestingLimit := by omega
  have inner (device : Device Float) : (encode device).Fits (depth + 1) :=
    Device.readsBack.fits device (depth + 1) (by omega)
  cases e with
  | selection chosen =>
    obtain ⟨device⟩ := chosen
    cases device with
    | none => exact ⟨shallow, trivial, trivial⟩
    | some device => exact ⟨shallow, inner device, trivial⟩
  | outcome result =>
    cases result with
    | none => exact ⟨shallow, trivial, trivial⟩
    | moved device | ended device | reoriented device =>
      exact ⟨shallow, trivial, inner device, trivial⟩

private theorem Event.read_text {e : Event Float}
    (finite : ∀ device ∈ e.device?, device.isFinite = true) {text : String}
    (written : text ∈ texts e) : ofText? text = some (.selection ⟨e.device?⟩ : Event Float) := by
  have fits : (encode e).Fits 0 := e.fits (by decide)
  obtain ⟨byName, shown⟩ := read_of_texts fits written
  rw [ofText?, shown]
  exact Event.decode_shown .json byName finite

/-- Of the events with finite numbers, the selections are read back, and every
other event is read as the selection of its device. -/
theorem event_read_back_iff_selection {e : Event Float}
    (finite : ∀ device ∈ e.device?, device.isFinite = true) {text : String}
    (written : text ∈ texts e) :
    ofText? text = some (.selection ⟨e.device?⟩ : Event Float) ∧
      (ofText? text = some e ↔ ∃ chosen, e = .selection chosen) ∧
      ∀ other : Event Float, (∀ device ∈ other.device?, device.isFinite = true) →
        ∀ otherText ∈ texts other,
          ((ofText? otherText : Option (Event Float)) = ofText? text ↔
            other.device? = e.device?) := by
  have reread := Event.read_text finite written
  refine ⟨reread, ?_, fun other otherFinite otherText otherWritten => ?_⟩
  · rw [reread]
    constructor
    · intro same
      exact ⟨_, (Option.some.inj same).symm⟩
    · rintro ⟨⟨device⟩, rfl⟩
      rfl
  · rw [reread, Event.read_text otherFinite otherWritten]
    simp

/-- A moved device with one measurement, written with its fields sorted. -/
theorem moved_read_as_selection : ∃ device : Device Float,
    device.isFinite = true ∧ device.neighbors.length = 1 ∧
      ofText? (Json.layout (encode (.outcome (.moved device) : Event Float)).sorted) =
        some (.selection ⟨some device⟩ : Event Float) := by
  have finite :
      (⟨⟨1⟩, ⟨1.5, 0, -2⟩, .zero, [⟨⟨2⟩, 300, 45, 0⟩]⟩ : Device Float).isFinite = true := by
    decide +kernel
  refine ⟨_, finite, rfl, ?_⟩
  refine (event_read_back_iff_selection (e := .outcome (.moved _)) ?_ ?_).1
  · rintro _ ⟨⟩
    exact finite
  · simp [texts]

/-- The event of a gesture without effect comes back as a selection of nothing. -/
theorem none_read_as_selection :
    ofText? (Json.text (encode (.outcome .none : Event Float))) =
        some (.selection ⟨none⟩ : Event Float) ∧
      ofText? (Json.text (encode (.outcome .none : Event Float))) ≠
        some (.outcome .none : Event Float) := by
  have reread := Event.read_text (e := .outcome .none) nofun (List.mem_cons_self ..)
  exact ⟨reread, by simp [reread, Event.device?, Outcome.device?]⟩

end DeviceMap
