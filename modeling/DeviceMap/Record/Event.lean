import DeviceMap.Record.Device
import DeviceMap.Scene

/-! Gestures and what they bring about, as data. Gestures and outcomes name
their kind in a field, or as the first item of a list. An event carries no mark
of what it is: it is kept whole, read as a selection if it can be, and as an
outcome otherwise. -/
namespace DeviceMap
open Record

instance : Codec Mode where
  encode
    | .idle => .text "idle"
    | .dragging => .text "dragging"
    | .lifting => .text "adjusting_tilt"
  decode format d := do
    match ← variant? format d with
    | "idle" => some .idle
    | "dragging" => some .dragging
    | "adjusting_tilt" => some .lifting
    | _ => none

instance : Codec Target where
  encode
    | .handle => .text "elevation_handle"
    | .marker mac => .record [("marker", encode mac)]
    | .background => .text "background"
  decode
    | format, .record [("marker", mac)] => (decode format mac).map .marker
    | format, d => do
      match ← variant? format d with
      | "elevation_handle" => some .handle
      | "background" => some .background
      | _ => none

instance : Codec (Selection Float) where
  encode selection := .record [("device", encode selection.device)]
  decode format d := do
    let [device] ← entries? format ["device"] d | none
    return ⟨← device.nullable? format⟩

/-- The outcome of a kind, with the entry for its device. -/
def Outcome.ofKind? (format : Format) (kind : String) (device : Entry) : Option (Outcome Float) :=
  match kind with
  | "none" =>
    match device with
    | .omitted | .given .null => some .none
    | _ => Option.none
  | "moved" => (device.required? format).map .moved
  | "ended" => (device.required? format).map .ended
  | "reoriented" => (device.required? format).map .reoriented
  | _ => Option.none

/-- The kinds of outcomes in their order. -/
def Outcome.kinds : List String := ["none", "moved", "ended", "reoriented"]

/-- The kind that opens a list. It is given by its name; where the list was kept
whole, also by its place among the kinds, from zero. -/
def Outcome.opening? (format : Format) : Datum → Option String
  | .text kind => some kind
  | .int (.ofNat place) => if format = .kept then kinds[place]? else Option.none
  | _ => Option.none

/-- Whether one name stands before another one. -/
def Record.precedes (first second : String) (fields : List (String × Datum)) : Bool :=
  (fields.find? fun (name, _) => name = first || name = second).any (·.1 = first)

/-- The kind and the device may stand in either order. A device that is met
before the kind is known is kept whole, so it has to be readable in all parts. -/
instance : Codec (Outcome Float) where
  encode
    | .none => .record [("kind", .text "none")]
    | .moved device => .record [("kind", .text "moved"), ("device", encode device)]
    | .ended device => .record [("kind", .text "ended"), ("device", encode device)]
    | .reoriented device => .record [("kind", .text "reoriented"), ("device", encode device)]
  decode
    | format, .record fields => do
      let .given kind ← named? fields "kind" | Option.none
      let device ← named? fields "device"
      let kind ← variant? format kind
      match device, precedes "device" "kind" fields with
      | .given value, true =>
        if value.isReadable then Outcome.ofKind? .kept kind device else Option.none
      | _, _ => Outcome.ofKind? format kind device
    | format, .list [kind, device] => do
      Outcome.ofKind? format (← Outcome.opening? format kind) (.given device)
    | _, _ => Option.none

/-- The gesture of a kind, from the rest of its data. -/
def Gesture.ofKind? (kind : String) (rest : Datum) : Option (Gesture Float) :=
  match kind with
  | "down" => do
    let [x, y] ← entries? .kept ["x", "y"] rest | none
    return .down (← x.required? .kept) (← y.required? .kept)
  | "move" => do
    let [x, y, movement] ← entries? .kept ["x", "y", "movement_y"] rest | none
    return .move (← x.required? .kept) (← y.required? .kept) (← movement.orElse? .kept 0)
  | "up" => do
    let [] ← entries? .kept [] rest | none
    return .up
  | "orient" => do
    let [bearing, tilt] ← entries? .kept ["bearing", "tilt"] rest | none
    return .orient (← bearing.required? .kept) (← tilt.required? .kept)
  | _ => none

/-- A gesture is kept whole until its kind is known, so all of it has to be
readable, and its fields are treated alike wherever it comes from. -/
instance : Codec (Gesture Float) where
  encode
    | .down x y => .record [("kind", .text "down"), ("x", encode x), ("y", encode y)]
    | .move x y movement => .record [("kind", .text "move"), ("x", encode x), ("y", encode y),
        ("movement_y", encode movement)]
    | .up => .record [("kind", .text "up")]
    | .orient bearing tilt =>
      .record [("kind", .text "orient"), ("bearing", encode bearing), ("tilt", encode tilt)]
  decode _ d :=
    if d.isReadable then
      match d with
      | .record fields => do
        let .given (.text kind) ← named? fields "kind" | none
        Gesture.ofKind? kind (.record (fields.filter (·.1 ≠ "kind")))
      | .list (.text kind :: rest) => Gesture.ofKind? kind (.list rest)
      | _ => none
    else none

instance : Codec (Event Float) where
  encode
    | .selection left => encode left
    | .outcome result => encode result
  decode _ d :=
    if d.isReadable then
      ((decode .kept d).map .selection).or ((decode .kept d).map .outcome)
    else none

/-- A list of devices as a document of its own. -/
structure DeviceFile where
  devices : List (Device Float)

instance : Codec DeviceFile where
  encode file := .record [("device", encode file.devices)]
  decode format d := do
    let [devices] ← entries? format ["device"] d | none
    return ⟨← devices.orElse? format []⟩

/-- A list of gestures as a document of its own. -/
structure Script where
  gestures : List (Gesture Float)

instance : Codec Script where
  encode script := .record [("event", encode script.gestures)]
  decode format d := do
    let [gestures] ← entries? format ["event"] d | none
    return ⟨← gestures.orElse? format []⟩

end DeviceMap
