import DeviceMap.Record
import DeviceMap.Viewport

/-! The settings of the command line: how results are printed, and the box of
the host's screen in which gestures were recorded. Everything has a default. -/
namespace DeviceMap
open Record

/-- How results are printed. -/
inductive OutputFormat where
  | pretty
  | json
deriving DecidableEq

/-- A box of the host's screen in pixels. -/
structure Box where
  left : Float
  top : Float
  width : Float
  height : Float

/-- The settings. -/
structure Settings where
  format : OutputFormat
  box : Box

namespace Settings

def default : Settings := ⟨.pretty, ⟨0, 0, 1200, 1200⟩⟩

/-- The viewport that the box gives. -/
def viewport (settings : Settings) : Viewport Float :=
  .fit settings.box.left settings.box.top settings.box.width settings.box.height

end Settings

instance : Codec OutputFormat where
  encode
    | .pretty => .text "pretty"
    | .json => .text "json"
  decode format d := do
    match ← variant? format d with
    | "pretty" => some .pretty
    | "json" => some .json
    | _ => none

instance : Codec Box where
  encode box := .record [("left", encode box.left), ("top", encode box.top),
    ("width", encode box.width), ("height", encode box.height)]
  decode format d := do
    let [left, top, width, height] ← entries? format ["left", "top", "width", "height"] d | none
    return ⟨← left.orElse? format 0, ← top.orElse? format 0, ← width.orElse? format 1200,
      ← height.orElse? format 1200⟩

/-- The part of the settings that says how results are printed. -/
structure OutputSection where
  format : OutputFormat

instance : Codec OutputSection where
  encode part := .record [("format", encode part.format)]
  decode format d := do
    let [output] ← entries? format ["format"] d | none
    return ⟨← output.orElse? format .pretty⟩

instance : Codec Settings where
  encode settings := .record [("output", encode (OutputSection.mk settings.format)),
    ("viewport", encode settings.box)]
  decode format d := do
    let [output, box] ← entries? format ["output", "viewport"] d | none
    let output ← output.orElse? format (OutputSection.mk .pretty)
    return ⟨output.format, ← box.orElse? format Settings.default.box⟩

end DeviceMap
