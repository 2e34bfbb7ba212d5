import DeviceMap.CommandLine.Run

/-! The command line program. The files that a request names are looked up
first; everything else is decided without input and output. -/
namespace DeviceMap

/-- The files that a request may need. -/
def CommandLine.Request.paths (request : CommandLine.Request) : List String :=
  request.settings ::
    match request.command with
    | .replay scene gestures => [scene, gestures]
    | .ranging scene => [scene]
    | _ => []

/-- What is found under the name of a file. Nothing is there if the name cannot be
followed to anything, also where it leads through what is no directory or may not be
searched. -/
def lookUp (path : String) : IO FileContent := do
  try discard (IO.FS.realPath path)
  catch _ => return .missing
  try return .bytes (← IO.FS.readBinFile path)
  catch _ => return .unreadable

end DeviceMap

open DeviceMap CommandLine in
def main (args : List String) : IO UInt32 := do
  let paths := match Arguments.ofList? args with
    | some (.request request) => request.paths
    | _ => []
  let found ← paths.mapM fun path => return (path, ← lookUp path)
  let files (path : String) : FileContent :=
    ((found.find? (·.1 = path)).map (·.2)).getD .missing
  let ending := run files args
  (← IO.getStdout).putStr ending.output
  match ending with
  | .failed failure => IO.eprintln s!"Error: {failure.message}"
  | .refused => IO.eprintln "error: the arguments are not right"
  | .printed _ => pure ()
  return ending.exitCode.toUInt32
