import DeviceMap.CommandLine.Arguments
import DeviceMap.Ranging
import DeviceMap.Report
import DeviceMap.Loading

/-! What the program does with its arguments and its files. It prints nothing
before everything has been loaded. -/
namespace DeviceMap.CommandLine

/-- What was being loaded when the program failed, with the name of the file. -/
inductive Failure where
  | readSettings (path : String)
  | parseSettings (path : String)
  | loadScene (path : String)
  | loadGestures (path : String)
deriving DecidableEq

/-- The wording of a failure. -/
def Failure.message : Failure → String
  | .readSettings path => s!"Failed to read {path}"
  | .parseSettings path => s!"Failed to parse {path}"
  | .loadScene path => s!"Failed to load scene {path}"
  | .loadGestures path => s!"Failed to load gestures {path}"

/-- How the program ends. -/
inductive Ending where
  | printed (text : String)
  | failed (failure : Failure)
  /-- The arguments are wrong. -/
  | refused

namespace Ending

/-- The code that the program exits with. -/
def exitCode : Ending → UInt8
  | .printed _ => 0
  | .failed _ => 1
  | .refused => 2

/-- What the program prints. -/
def output : Ending → String
  | .printed text => text
  | _ => ""

end Ending

/-- The settings from a file. -/
def loadSettings (path : String) (content : FileContent) : Except Failure Settings :=
  (Settings.load content).mapError fun
    | .notRead => .readSettings path
    | _ => .parseSettings path

/-- The report of a command. -/
def report (files : String → FileContent) (settings : Settings) (command : Command) :
    Except Failure String :=
  let scene (path : String) := (Scene.load (files path)).mapError fun _ => Failure.loadScene path
  match command with
  | .projection => .ok (Report.projection settings.format .isometric)
  | .dial bearing tilt => .ok (Report.dial settings.format (.ofAngles bearing tilt))
  | .replay scenePath gesturePath => do
    let scene ← scene scenePath
    let script ← (Script.load (files gesturePath)).mapError fun _ => .loadGestures gesturePath
    let (last, events) := (scene.withViewport settings.viewport).replay script.gestures
    return Report.replay settings.format script.gestures events last.devices
  | .ranging path => do
    let scene ← scene path
    return Report.devices settings.format (Ranging.refresh scene.devices)

/-- Loads the settings and reports. -/
def perform (files : String → FileContent) (request : Request) : Except Failure String := do
  let settings ← loadSettings request.settings (files request.settings)
  report files settings request.command

/-- The name and version of the program. -/
def versionText : String := "isomap 0.1.0\n"

/-- How the program ends for its arguments and the files it finds. Help is left
out: to ask for it ends as wrong arguments do, and not with a text and code zero. -/
def run (files : String → FileContent) (args : List String) : Ending :=
  match Arguments.ofList? args with
  | none => .refused
  | some .version => .printed versionText
  | some (.request request) =>
    match perform files request with
    | .ok text => .printed text
    | .error failure => .failed failure

end DeviceMap.CommandLine
