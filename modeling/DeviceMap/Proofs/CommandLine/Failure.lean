import DeviceMap.CommandLine.Run
import DeviceMap.Proofs.Scene.Admission

/-! How the command line fails. It loads the settings, the scene and the gestures in this
order, as far as the command needs them, and stops at the first that is not in its file.
What a file holds is told here by what its text reads as; the loaders are then exactly as
strict as that. And the program is also written as one that prints as it goes, because only
such a program could have printed something before it fails. -/
namespace DeviceMap

namespace FileContent
variable {β : Type} [Codec β]

/-- A file holds a value that its text, if it has one, reads as. -/
def Holds (content : FileContent) (value : β) : Prop :=
  ∃ text, content.text? = some text ∧ (Toml.read text).bind (decode .toml) = some value

/-- The settings that a file stands for. No file stands for the default ones. -/
def Settles (content : FileContent) (settings : Settings) : Prop :=
  content = .missing ∧ settings = .default ∨ content.Holds settings

/-- A file holds devices that a scene can start from. -/
def HoldsScene (content : FileContent) : Prop :=
  ∃ file : DeviceFile, content.Holds file ∧ Device.Admissible file.devices

def HoldsScript (content : FileContent) : Prop := ∃ script : Script, content.Holds script

variable {content : FileContent}

theorem text_eq : content.text =
    match content.text? with
    | some text => .ok text
    | none => .error .notRead := rfl

theorem loaded_iff {value : β} :
    (content.text >>= DeviceMap.parse β) = .ok value ↔ content.Holds value := by
  unfold Holds DeviceMap.parse
  rw [text_eq]
  cases content.text? with
  | none => simp [bind, Except.bind]
  | some text =>
    simp only [bind, Except.bind, Option.some.injEq, exists_eq_left']
    cases (Toml.read text).bind (decode .toml : Datum → Option β) <;> simp

end FileContent
open FileContent

theorem Settings.load_ok_iff {content : FileContent} {settings : Settings} :
    Settings.load content = .ok settings ↔ content.Settles settings := by
  unfold Settings.load Settles
  cases content with
  | missing =>
    have nothing : ¬FileContent.missing.Holds settings := by
      rintro ⟨text, ⟨⟩, -⟩
    simp [nothing, eq_comm]
  | unreadable | bytes => simp [loaded_iff]

theorem Settings.load_present {content : FileContent} (present : content ≠ .missing) :
    Settings.load content = content.text >>= DeviceMap.parse Settings := by
  cases content with
  | missing => exact absurd rfl present
  | unreadable | bytes => rfl

theorem Settings.load_unread {content : FileContent} (present : content ≠ .missing)
    (unread : content.text? = none) : Settings.load content = .error .notRead := by
  rw [load_present present, text_eq, unread]
  rfl

theorem Settings.load_unparsed {content : FileContent} {text : String}
    (read : content.text? = some text) (broken : ∀ settings : Settings, ¬content.Holds settings) :
    Settings.load content = .error .notParsed := by
  have present : content ≠ .missing := by
    rintro rfl
    cases read
  have nothing : (Toml.read text).bind (decode .toml : Datum → Option Settings) = none :=
    Option.eq_none_iff_forall_ne_some.mpr fun settings holds => broken settings ⟨text, read, holds⟩
  rw [load_present present, text_eq, read]
  change DeviceMap.parse Settings text = _
  unfold DeviceMap.parse
  rw [nothing]

theorem Scene.ofDevices_ok_iff {α : Type} [Scalar α] {devices : List (Device α)} :
    (∃ scene, Scene.ofDevices devices = .ok scene) ↔ Device.Admissible devices := by
  unfold Scene.ofDevices
  constructor
  · rintro ⟨scene, started⟩
    cases enrolled : Device.enroll [] devices with
    | error reason =>
      rw [enrolled] at started
      cases started
    | ok admitted => exact (Device.enroll_ok_iff.mp enrolled).2.1
  · intro admissible
    have enrolled := Device.enroll_ok_iff.mpr ⟨fun _ _ => List.not_mem_nil, admissible, rfl⟩
    rw [enrolled]
    exact ⟨_, rfl⟩

theorem Scene.load_ok_iff {content : FileContent} :
    (∃ scene, Scene.load content = .ok scene) ↔ content.HoldsScene := by
  -- Being read as devices and starting from them are two checks, one after the other.
  have split : Scene.load content = (content.text >>= DeviceMap.parse DeviceFile) >>= fun file =>
      (Scene.ofDevices file.devices).mapError fun reason => .invalidDevice reason.1 reason.2 :=
    (bind_assoc _ _ _).symm
  unfold HoldsScene
  simp only [split, ← loaded_iff, ← Scene.ofDevices_ok_iff]
  cases content.text >>= DeviceMap.parse DeviceFile with
  | error reason => simp [bind, Except.bind]
  | ok file =>
    cases started : Scene.ofDevices file.devices <;>
      simp [bind, Except.bind, Except.mapError, started]

theorem Script.load_ok_iff {content : FileContent} :
    (∃ script, Script.load content = .ok script) ↔ content.HoldsScript :=
  exists_congr fun _ => loaded_iff

private theorem error_of_no_value {ε β : Type} {result : Except ε β}
    (none : ¬∃ value, result = .ok value) : ∃ reason, result = .error reason := by
  cases result with
  | error reason => exact ⟨reason, rfl⟩
  | ok value => exact absurd ⟨value, rfl⟩ none

theorem Scene.load_error {content : FileContent} (broken : ¬content.HoldsScene) :
    ∃ reason, Scene.load content = .error reason :=
  error_of_no_value (mt Scene.load_ok_iff.mp broken)

theorem Script.load_error {content : FileContent} (broken : ¬content.HoldsScript) :
    ∃ reason, Script.load content = .error reason :=
  error_of_no_value (mt Script.load_ok_iff.mp broken)

namespace CommandLine

/-- The file with the scene of a command. -/
def Command.scene? : Command → Option String
  | .projection | .dial .. => none
  | .replay scene _ | .ranging scene => some scene

/-- The file with the gestures of a command. -/
def Command.gestures? : Command → Option String
  | .projection | .dial .. | .ranging _ => none
  | .replay _ gestures => some gestures

/-- A command finds the same in two assignments of files. -/
def Command.SameFiles (command : Command) (files files' : String → FileContent) : Prop :=
  (∀ path, command.scene? = some path → files' path = files path) ∧
    ∀ path, command.gestures? = some path → files' path = files path

section Stages
variable (files : String → FileContent) (request : Request) (command : Command)

/-- The settings are in their file, or there is no file. -/
def SettingsLoad : Prop := ∃ settings, (files request.settings).Settles settings

/-- The scene is in its file, or the command needs none. -/
def SceneLoads : Prop := ∀ path, command.scene? = some path → (files path).HoldsScene

def GesturesLoad : Prop := ∀ path, command.gestures? = some path → (files path).HoldsScript

/-- What a request that stops is answered with. A stage only counts if all before it are
passed. -/
inductive Stopped : String → Prop where
  | unread (present : files request.settings ≠ .missing)
      (silent : (files request.settings).text? = none) :
      Stopped s!"Failed to read {request.settings}"
  | unparsed {text : String} (read : (files request.settings).text? = some text)
      (broken : ¬SettingsLoad files request) : Stopped s!"Failed to parse {request.settings}"
  | scene {path : String} (settled : SettingsLoad files request)
      (needed : request.command.scene? = some path) (broken : ¬(files path).HoldsScene) :
      Stopped s!"Failed to load scene {path}"
  | gestures {path : String} (settled : SettingsLoad files request)
      (staged : SceneLoads files request.command) (needed : request.command.gestures? = some path)
      (broken : ¬(files path).HoldsScript) : Stopped s!"Failed to load gestures {path}"

end Stages

section Perform
variable {files : String → FileContent} {request : Request} {settings : Settings}

theorem loadSettings_ok_iff {path : String} {content : FileContent} :
    loadSettings path content = .ok settings ↔ content.Settles settings := by
  unfold loadSettings
  rw [← Settings.load_ok_iff]
  cases Settings.load content <;> simp [Except.mapError]

theorem perform_settled (settled : (files request.settings).Settles settings) :
    perform files request = report files settings request.command := by
  unfold perform
  rw [loadSettings_ok_iff.mpr settled]
  rfl

theorem perform_unsettled (broken : ¬SettingsLoad files request) :
    ∃ failure, perform files request = .error failure ∧
      Stopped files request failure.message := by
  cases loaded : loadSettings request.settings (files request.settings) with
  | ok settings => exact absurd ⟨settings, loadSettings_ok_iff.mp loaded⟩ broken
  | error failure =>
    refine ⟨failure, by simp [perform, loaded, bind, Except.bind], ?_⟩
    have present : files request.settings ≠ .missing := fun missing =>
      broken ⟨_, .inl ⟨missing, rfl⟩⟩
    unfold loadSettings at loaded
    -- Which of the two failures it is depends on whether the file has a text.
    cases read : (files request.settings).text? with
    | none =>
      rw [Settings.load_unread present read] at loaded
      cases loaded
      exact .unread present read
    | some text =>
      rw [Settings.load_unparsed read fun settings holds => broken ⟨settings, .inr holds⟩] at loaded
      cases loaded
      exact .unparsed read broken

section Report
variable {command : Command} {path : String}

theorem report_unstaged (needed : command.scene? = some path)
    (broken : ¬(files path).HoldsScene) :
    report files settings command = .error (.loadScene path) := by
  obtain ⟨reason, refused⟩ := Scene.load_error broken
  cases command with
  | projection | dial => cases needed
  | replay | ranging =>
    cases needed
    simp [report, refused, Except.mapError, bind, Except.bind]

theorem report_unscripted (staged : SceneLoads files command)
    (needed : command.gestures? = some path) (broken : ¬(files path).HoldsScript) :
    report files settings command = .error (.loadGestures path) := by
  obtain ⟨reason, refused⟩ := Script.load_error broken
  cases command with
  | projection | dial | ranging => cases needed
  | replay =>
    cases needed
    obtain ⟨scene, loaded⟩ := Scene.load_ok_iff.mpr (staged _ rfl)
    simp [report, loaded, refused, Except.mapError, bind, Except.bind]

theorem report_loaded (staged : SceneLoads files command) (scripted : GesturesLoad files command) :
    ∃ text, report files settings command = .ok text := by
  cases command with
  | projection | dial => exact ⟨_, rfl⟩
  | ranging =>
    obtain ⟨scene, loaded⟩ := Scene.load_ok_iff.mpr (staged _ rfl)
    simp [report, loaded, Except.mapError, bind, Except.bind, pure, Except.pure]
  | replay =>
    obtain ⟨scene, loaded⟩ := Scene.load_ok_iff.mpr (staged _ rfl)
    obtain ⟨script, opened⟩ := Script.load_ok_iff.mpr (scripted _ rfl)
    simp [report, loaded, opened, Except.mapError, bind, Except.bind, pure, Except.pure]

/-- A report is made from what the command finds in its files. -/
theorem report_same {files' : String → FileContent} (same : command.SameFiles files files') :
    report files' settings command = report files settings command := by
  cases command with
  | projection | dial => rfl
  | ranging path => simp [report, same.1 path rfl]
  | replay scenePath path => simp [report, same.1 scenePath rfl, same.2 path rfl]

/-- Only a replay looks at the box of the settings. -/
theorem report_format {settings' : Settings} (still : command.gestures? = none)
    (format : settings'.format = settings.format) :
    report files settings' command = report files settings command := by
  cases command with
  | projection | dial | ranging => simp [report, format]
  | replay => cases still

end Report

variable (files request) in
/-- A request is answered by a report if everything it needs is there, and else stops. -/
theorem perform_staged :
    (∃ failure, perform files request = .error failure ∧
      (¬SettingsLoad files request ∨ ¬SceneLoads files request.command ∨
        ¬GesturesLoad files request.command) ∧ Stopped files request failure.message) ∨
    (∃ text, perform files request = .ok text) ∧ SettingsLoad files request ∧
      SceneLoads files request.command ∧ GesturesLoad files request.command := by
  by_cases settled : SettingsLoad files request
  · have ⟨settings, settles⟩ := settled
    rw [perform_settled settles]
    by_cases staged : SceneLoads files request.command
    · by_cases scripted : GesturesLoad files request.command
      · exact .inr ⟨report_loaded staged scripted, settled, staged, scripted⟩
      · have broken := scripted
        simp only [GesturesLoad, not_forall, exists_prop] at broken
        obtain ⟨path, needed, broken⟩ := broken
        exact .inl ⟨_, report_unscripted staged needed broken, .inr (.inr scripted),
          .gestures settled staged needed broken⟩
    · have broken := staged
      simp only [SceneLoads, not_forall, exists_prop] at broken
      obtain ⟨path, needed, broken⟩ := broken
      exact .inl ⟨_, report_unstaged needed broken, .inr (.inl staged),
        .scene settled needed broken⟩
  · obtain ⟨failure, failed, stopped⟩ := perform_unsettled settled
    exact .inl ⟨failure, failed, .inl settled, stopped⟩

end Perform

section Run
variable {files : String → FileContent} {args : List String} {request : Request}

theorem exitCode_one_iff {ending : Ending} :
    ending.exitCode = 1 ↔ ∃ failure, ending = .failed failure := by
  cases ending <;> simp [Ending.exitCode]

theorem accepted_of_failed {failure : Failure} (failed : run files args = .failed failure) :
    ∃ request, Arguments.ofList? args = some (.request request) := by
  unfold run at failed
  split at failed
  · cases failed
  · cases failed
  · rename_i request accepted
    exact ⟨request, accepted⟩

theorem run_accepted (accepted : Arguments.ofList? args = some (.request request)) :
    run files args =
      match perform files request with
      | .ok text => .printed text
      | .error failure => .failed failure := by
  unfold run
  cases result : perform files request <;> simp [accepted, result]

theorem run_settled {settings : Settings}
    (accepted : Arguments.ofList? args = some (.request request))
    (settled : (files request.settings).Settles settings) :
    run files args =
      match report files settings request.command with
      | .ok text => .printed text
      | .error failure => .failed failure := by
  rw [run_accepted accepted, perform_settled settled]

theorem run_failed_iff (accepted : Arguments.ofList? args = some (.request request)) :
    (∃ failure, run files args = .failed failure) ↔
      ¬SettingsLoad files request ∨ ¬SceneLoads files request.command ∨
        ¬GesturesLoad files request.command := by
  rw [run_accepted accepted]
  rcases perform_staged files request with
    ⟨failure, failed, broken, -⟩ | ⟨⟨text, made⟩, settled, staged, scripted⟩
  · simp [failed, broken]
  · simp [made, settled, staged, scripted]

theorem perform_of_failed {failure : Failure}
    (accepted : Arguments.ofList? args = some (.request request))
    (failed : run files args = .failed failure) : perform files request = .error failure := by
  rw [run_accepted accepted] at failed
  cases result : perform files request with
  | ok text =>
    rw [result] at failed
    cases failed
  | error first =>
    rw [result] at failed
    cases failed
    rfl

theorem stopped_of_failed {failure : Failure}
    (accepted : Arguments.ofList? args = some (.request request))
    (failed : run files args = .failed failure) : Stopped files request failure.message := by
  have result := perform_of_failed accepted failed
  rcases perform_staged files request with ⟨first, stopped, -, told⟩ | ⟨⟨text, made⟩, -⟩
  · rw [result] at stopped
    cases stopped
    exact told
  · rw [result] at made
    cases made

end Run

/-- A program that prints as it goes, and may fail. What it has printed by then stays. -/
abbrev Printing := ExceptT Failure (StateM String)

namespace Printing

/-- The result of a program after some text was printed, and the text that stands then. -/
def on {β : Type} (program : Printing β) (printed : String) : Except Failure β × String :=
  program.run.run printed

def load {β : Type} : Except Failure β → Printing β
  | .ok value => pure value
  | .error failure => throw failure

def print (text : String) : Printing Unit := modify (· ++ text)

/-- Loads one thing after the other, and prints when it has what the command needs. -/
def perform (files : String → FileContent) (request : Request) : Printing Unit := do
  let settings ← load (loadSettings request.settings (files request.settings))
  let scene (path : String) := load ((Scene.load (files path)).mapError fun _ => .loadScene path)
  match request.command with
  | .projection => print (Report.projection settings.format .isometric)
  | .dial bearing tilt => print (Report.dial settings.format (.ofAngles bearing tilt))
  | .replay scenePath path =>
    let scene := (← scene scenePath).withViewport settings.viewport
    let script ← load ((Script.load (files path)).mapError fun _ => .loadGestures path)
    let (last, events) := scene.replay script.gestures
    print (Report.replay settings.format script.gestures events last.devices)
  | .ranging path =>
    print (Report.devices settings.format (Ranging.refresh (← scene path).devices))

variable (printed : String)

theorem on_load {β γ : Type} (loaded : Except Failure β) (next : β → Printing γ) :
    (load loaded >>= next).on printed =
      match loaded with
      | .ok value => (next value).on printed
      | .error failure => (.error failure, printed) := by
  cases loaded <;> rfl

/-- A program that fails has printed nothing by then. -/
theorem perform_on (files : String → FileContent) (request : Request) :
    (perform files request).on printed =
      match CommandLine.perform files request with
      | .ok text => (.ok (), printed ++ text)
      | .error failure => (.error failure, printed) := by
  unfold perform CommandLine.perform report
  rw [on_load]
  cases loadSettings request.settings (files request.settings) with
  | error failure => rfl
  | ok settings =>
    cases request.command with
    | projection | dial => rfl
    | ranging path =>
      simp only [on_load]
      cases Scene.load (files path) <;> rfl
    | replay scenePath path =>
      simp only [on_load]
      cases Scene.load (files scenePath) with
      | error reason => rfl
      | ok scene => cases Script.load (files path) <;> rfl

end Printing

/-- An empty file stands for the default settings, as no file does. -/
theorem empty_settles : (FileContent.bytes .empty).Settles .default := .inr ⟨"", rfl, rfl⟩

/-- The program exits with a failure exactly if its arguments are accepted and the settings,
the scene or the gestures that the command needs are not in their files. It then prints
nothing, and tells of the first of these that is missing. Runs of one command that find
the same scene and gestures end in the same way if one of them has no settings file and
the other an empty one; and also, unless the command is a replay, if their settings agree
on the format. -/
theorem failures_staged (files : String → FileContent) (args : List String) :
    let ending := run files args
    (ending.exitCode = 1 ↔ ∃ request, Arguments.ofList? args = some (.request request) ∧
      (¬SettingsLoad files request ∨ ¬SceneLoads files request.command ∨
        ¬GesturesLoad files request.command)) ∧
    (ending.exitCode = 1 → ending.output = "" ∧ ∃ request failure,
      Arguments.ofList? args = some (.request request) ∧ ending = .failed failure ∧
        Stopped files request failure.message ∧
          ∀ printed, (Printing.perform files request).on printed = (.error failure, printed)) ∧
    ∀ files' args' request request', Arguments.ofList? args = some (.request request) →
      Arguments.ofList? args' = some (.request request') →
      request'.command = request.command → request.command.SameFiles files files' →
        (files request.settings = .missing → files' request'.settings = .bytes .empty →
          run files' args' = ending) ∧
        (request.command.gestures? = none → ∀ settings settings',
          (files request.settings).Settles settings →
          (files' request'.settings).Settles settings' → settings'.format = settings.format →
            run files' args' = ending) := by
  intro ending
  refine ⟨?_, fun failing => ?_, ?_⟩
  · rw [exitCode_one_iff]
    constructor
    · rintro ⟨failure, failed⟩
      obtain ⟨request, accepted⟩ := accepted_of_failed failed
      exact ⟨request, accepted, (run_failed_iff accepted).mp ⟨failure, failed⟩⟩
    · rintro ⟨request, accepted, broken⟩
      exact (run_failed_iff accepted).mpr broken
  · obtain ⟨failure, failed⟩ := exitCode_one_iff.mp failing
    obtain ⟨request, accepted⟩ := accepted_of_failed failed
    refine ⟨by rw [failed]; rfl, request, failure, accepted, failed,
      stopped_of_failed accepted failed, fun printed => ?_⟩
    rw [Printing.perform_on, perform_of_failed accepted failed]
  · intro files' args' request request' accepted accepted' command same
    refine ⟨fun missing empty => ?_, fun still settings settings' settled settled' format => ?_⟩
    · have settled : (files request.settings).Settles .default := .inl ⟨missing, rfl⟩
      have settled' : (files' request'.settings).Settles .default := empty ▸ empty_settles
      unfold ending
      rw [run_settled accepted settled, run_settled accepted' settled', command, report_same same]
    · unfold ending
      rw [run_settled accepted settled, run_settled accepted' settled', command, report_same same,
        report_format still format]

/-- A replay for which there is nothing at all stops at the settings, which are there but
cannot be read. -/
theorem unreadable_settings_stop_replay :
    let files : String → FileContent := fun path =>
      if path = "isomap.toml" then .unreadable else .missing
    let args := ["replay", "scene.toml", "gestures.toml"]
    (run files args).exitCode = 1 ∧ ∃ failure, run files args = .failed failure ∧
      failure.message = "Failed to read isomap.toml" := by
  intro files args
  let request : Request := ⟨"isomap.toml", "info", .replay "scene.toml" "gestures.toml"⟩
  have accepted : Arguments.ofList? args = some (.request request) := rfl
  have unread : (files request.settings).text? = none := rfl
  have broken : ¬SettingsLoad files request := by
    rintro ⟨settings, ⟨⟨⟩, -⟩ | ⟨text, read, -⟩⟩
    rw [unread] at read
    cases read
  obtain ⟨exits, tells, -⟩ := failures_staged files args
  have failing := exits.mpr ⟨request, accepted, .inl broken⟩
  obtain ⟨-, other, failure, same, failed, stopped, -⟩ := tells failing
  obtain rfl : request = other := by
    rw [accepted] at same
    cases same
    rfl
  refine ⟨failing, failure, failed, ?_⟩
  generalize failure.message = message at stopped
  cases stopped with
  | unread => rfl
  | unparsed read => cases unread.symm.trans read
  | scene settled | gestures settled => exact absurd settled broken

end CommandLine
end DeviceMap
