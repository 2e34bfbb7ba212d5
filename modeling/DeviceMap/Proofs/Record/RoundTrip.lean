import DeviceMap.Proofs.Record.Device
import DeviceMap.Proofs.Record.Drawing
import DeviceMap.Proofs.Record.Gesture
import DeviceMap.Proofs.Record.Settings

/-! Records through the text of JSON and back. Whatever has finite numbers is read
back from its text, and whatever is read from a text has finite numbers, so that
writing and reading it once more gives the same. That printed numbers are read back
rests on what the reader assumes of decimals. -/
namespace DeviceMap
open Record Datum

/-- What is finite is read back from every text it is written as. What is read from
any text is read again from every text it is then written as. -/
structure RoundTrips (α : Type) [Codec α] (finite : α → Bool) : Prop where
  written (x : α) (known : finite x = true) : ∀ text ∈ texts x, ofText? text = some x
  reread (text : String) (x : α) (accepted : ofText? text = some x) :
    finite x = true ∧ ∀ again ∈ texts x, ofText? again = some x

theorem Lossless.roundTrips {α : Type} [Codec α] {finite : α → Bool} {levels : Nat}
    (lossless : Lossless α finite levels) (room : levels ≤ Json.Reader.nestingLimit) :
    RoundTrips α finite := by
  have written (x : α) (known : finite x = true) : ∀ text ∈ texts x, ofText? text = some x := by
    intro text member
    obtain ⟨byName, read⟩ := read_of_texts (lossless.fits x 0 (by omega)) member
    rw [ofText?, read]
    exact lossless.kept known .json byName
  refine ⟨written, fun text x accepted => ?_⟩
  obtain ⟨d, read, decoded⟩ := Option.bind_eq_some_iff.mp accepted
  have known := lossless.given (Json.read_finite read) decoded
  exact ⟨known, written x known⟩

/-- All records other than events come back from JSON. -/
theorem records_round_trip :
    RoundTrips Mac (fun _ => true) ∧
      RoundTrips (Vec3 Float) Vec3.isFinite ∧
      RoundTrips (Orientation Float) Orientation.isFinite ∧
      RoundTrips (Neighbor Float) Neighbor.isFinite ∧
      RoundTrips (Device Float) Device.isFinite ∧
      RoundTrips Mode (fun _ => true) ∧
      RoundTrips Target (fun _ => true) ∧
      RoundTrips (Selection Float) Selection.isFinite ∧
      RoundTrips (Outcome Float) Outcome.isFinite ∧
      RoundTrips (Gesture Float) Gesture.isFinite ∧
      RoundTrips Script Script.isFinite ∧
      RoundTrips DeviceFile DeviceFile.isFinite ∧
      RoundTrips (Marker.Placement Float) Marker.Placement.isFinite ∧
      RoundTrips (Affine Float) Affine.isFinite ∧
      RoundTrips (Viewport Float) Viewport.isFinite ∧
      RoundTrips (Arc Float) Arc.isFinite ∧
      RoundTrips (Axis Float) Axis.isFinite ∧
      RoundTrips (Dial Float) Dial.isFinite ∧
      RoundTrips Settings Settings.isFinite :=
  ⟨Mac.lossless.roundTrips (by decide), Vec3.lossless.roundTrips (by decide),
    Orientation.lossless.roundTrips (by decide), Neighbor.lossless.roundTrips (by decide),
    Device.lossless.roundTrips (by decide), Mode.lossless.roundTrips (by decide),
    Target.lossless.roundTrips (by decide), Selection.lossless.roundTrips (by decide),
    Outcome.lossless.roundTrips (by decide), Gesture.lossless.roundTrips (by decide),
    Script.lossless.roundTrips (by decide), DeviceFile.lossless.roundTrips (by decide),
    Marker.Placement.lossless.roundTrips (by decide), Affine.lossless.roundTrips (by decide),
    Viewport.lossless.roundTrips (by decide), Arc.lossless.roundTrips (by decide),
    Axis.lossless.roundTrips (by decide), Dial.lossless.roundTrips (by decide),
    Settings.lossless.roundTrips (by decide)⟩

/-- A device that has measured two others, and one of which a text gives the address alone.
What the text leaves out is there when the device is written again. -/
theorem measured_and_bare_devices_round_trip :
    let measured : Device Float := ⟨⟨0x10000⟩, ⟨-12.5, 40, 0.1⟩, ⟨-45, 10⟩,
      [⟨⟨2⟩, 300.25, 45, 0⟩, ⟨⟨3⟩, 1e-7, -180, 90⟩]⟩
    let bare : Device Float := ⟨⟨4⟩, .zero, .zero, []⟩
    measured.isFinite = true ∧ (∀ text ∈ texts measured, ofText? text = some measured) ∧
      ofText? "\x7b\"mac\":4\x7d" = some bare ∧
        bare.isFinite = true ∧ ∀ again ∈ texts bare, ofText? again = some bare := by
  intro measured bare
  obtain ⟨-, -, -, -, devices, -⟩ := records_round_trip
  have finite : measured.isFinite = true := by decide +kernel
  have accepted : ofText? "\x7b\"mac\":4\x7d" = some bare := by
    have read : Json.read "\x7b\"mac\":4\x7d" = some (.record [("mac", .int 4)]) := by cbv
    rw [ofText?, read]
    rfl
  obtain ⟨known, rewritten⟩ := devices.reread _ bare accepted
  exact ⟨finite, devices.written measured finite, accepted, known, rewritten⟩

end DeviceMap
