import DeviceMap.Record.Event
import DeviceMap.Scene.Admission
import DeviceMap.Settings
import DeviceMap.Toml.Document

/-! Scenes, gestures and settings as they are kept in files. A file may be
missing, may not be readable, or may hold bytes that are no text. -/
namespace DeviceMap

/-- What is found under the name of a file. -/
inductive FileContent where
  /-- The name leads to nothing. -/
  | missing
  /-- Something is there, but nothing can be read from it. -/
  | unreadable
  | bytes (content : ByteArray)

/-- The text of a file, if there is one. -/
def FileContent.text? : FileContent → Option String
  | .bytes content => String.fromUTF8? content
  | _ => none

/-- Why something could not be loaded. -/
inductive LoadError where
  | notRead
  | notParsed
  | invalidDevice (mac : Mac) (fault : Fault)

/-- A value of some type from the text of a document. -/
def parse (α : Type) [Codec α] (text : String) : Except LoadError α :=
  match (Toml.read text).bind (decode .toml) with
  | some value => .ok value
  | none => .error .notParsed

/-- The text of a file, which has to have one. -/
def FileContent.text (content : FileContent) : Except LoadError String :=
  match content.text? with
  | some text => .ok text
  | none => .error .notRead

/-- A scene from the text of a document. -/
def Scene.parse (text : String) : Except LoadError (Scene Float) := do
  let file ← DeviceMap.parse DeviceFile text
  (Scene.ofDevices file.devices).mapError fun (mac, fault) => .invalidDevice mac fault

/-- A script of gestures from the text of a document. -/
def Script.parse (text : String) : Except LoadError Script := DeviceMap.parse Script text

/-- A scene from a file. -/
def Scene.load (content : FileContent) : Except LoadError (Scene Float) :=
  content.text >>= Scene.parse

/-- A script of gestures from a file. -/
def Script.load (content : FileContent) : Except LoadError Script := content.text >>= Script.parse

/-- The settings from a file. A missing file stands for the defaults. -/
def Settings.load (content : FileContent) : Except LoadError Settings :=
  match content with
  | .missing => .ok .default
  | content => content.text >>= DeviceMap.parse Settings

end DeviceMap
