import DeviceMap.Drawing
import DeviceMap.Json.Printer
import DeviceMap.Record.Drawing
import DeviceMap.Record.Event
import DeviceMap.Settings

/-! What the command line prints, as text for people or as JSON. Reports that
put several things together have their fields in alphabetical order, also inside
of these things; a plain list of devices keeps the order of its records. -/
namespace DeviceMap.Report
open Decimal

/-- Lines with their ends. -/
def ofLines (lines : List String) : String := String.join (lines.map (· ++ "\n"))

/-- A device on one line. -/
def device (d : Device Float) : String :=
  let p := d.position
  let o := d.orientation
  s!"{d.mac.text} at ({plain p.x}, {plain p.y}, {plain p.z}) " ++
    s!"bearing {plain o.bearing} tilt {plain o.tilt}"

/-- A measurement on one line, the distance with one place. -/
def neighbor (n : Neighbor Float) : String :=
  s!"    {n.mac.text} distance {fixed 1 n.distance} bearing {plain n.bearing} tilt {plain n.tilt}"

/-- Each device on a line, followed by its measurements. -/
def deviceLines (devices : List (Device Float)) : List String :=
  devices.flatMap fun d => device d :: d.neighbors.map neighbor

/-- What a gesture does. -/
def gesture : Gesture Float → String
  | .down x y => s!"down ({plain x}, {plain y})"
  | .move x y movement => s!"move ({plain x}, {plain y}) dy={plain movement}"
  | .up => "up"
  | .orient bearing tilt => s!"orient {plain bearing}/{plain tilt}"

/-- What came of a gesture. -/
def event : Event Float → String
  | .selection ⟨some d⟩ => s!"select {device d}"
  | .selection ⟨none⟩ => "select none"
  | .outcome .none => "none"
  | .outcome (.moved d) => s!"moved {device d}"
  | .outcome (.ended d) => s!"ended {device d}"
  | .outcome (.reoriented d) => s!"reoriented {device d}"

/-- A text filled up with blanks to some width, and never cut. -/
def padded (width : Nat) (text : String) : String :=
  text ++ String.ofList (List.replicate (width - text.length) ' ')

/-- A gesture and what came of it, on one line. -/
def step (g : Gesture Float) (e : Event Float) : String := s!"{padded 32 (gesture g)} -> {event e}"

/-- A report in JSON. -/
def json (fields : List (String × Datum)) : String := ofLines [Json.layout (Datum.record fields).sorted]

/-- The projection. -/
def projection (format : OutputFormat) (p : Projection Float) : String :=
  let m := p.forward
  match format with
  | .json => json [("matrix", encode m), ("inverse", encode p.inverse), ("svg", .text m.svg),
      ("css", .text p.css)]
  | .pretty => ofLines [s!"a = {plain m.a}", s!"b = {plain m.b}", s!"c = {plain m.c}",
      s!"d = {plain m.d}", s!"e = {plain m.e}", s!"f = {plain m.f}", s!"svg:     {m.svg}",
      s!"inverse: {p.inverse.svg}", s!"css:     {p.css}"]

/-- The dash pattern and the transform of an arc. -/
def arc (a : Arc Float) : String := s!"dash {plain a.dash.1} {plain a.dash.2}, {a.css}"

/-- A dial. -/
def dial (format : OutputFormat) (d : Dial Float) : String :=
  match format with
  | .json => json [("dial", encode d), ("radius", encode d.radius),
      ("stroke_width", encode d.strokeWidth), ("view_box", encode d.viewBox),
      ("reference_axes", encode (Dial.referenceAxes (α := Float)))]
  | .pretty =>
    let box := " ".intercalate (d.viewBox.map plain)
    ofLines [s!"view box:     {box}", s!"radius:       {plain d.radius}",
      s!"stroke width: {plain d.strokeWidth}", s!"bearing arc:  {arc d.bearingArc}",
      s!"tilt arc:     {arc d.tiltArc}", s!"depth axis:   {d.depthAxis.css}",
      s!"planar axis:  {d.planarAxis.css}"]

/-- A list of devices. -/
def devices (format : OutputFormat) (ds : List (Device Float)) : String :=
  match format with
  | .json => ofLines [Json.layout (encode ds)]
  | .pretty => ofLines (deviceLines ds)

/-- A replayed script: its steps, and the devices after the last one. -/
def replay (format : OutputFormat) (gestures : List (Gesture Float)) (events : List (Event Float))
    (ds : List (Device Float)) : String :=
  match format with
  | .json => json [("events", encode events), ("devices", encode ds)]
  | .pretty => ofLines (List.zipWith step gestures events ++ "" :: deviceLines ds)

end DeviceMap.Report
