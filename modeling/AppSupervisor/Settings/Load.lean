import AppSupervisor.Document.Build
import AppSupervisor.Machine
import AppSupervisor.Numeral.Integer
import AppSupervisor.Numeral.Real
import AppSupervisor.Settings
import AppSupervisor.Text.Utf8

/-!
Loading settings from a file and from environment variables.

A variable counts more than the file, and the file more than the default. The file holds the
settings in a section, or at the top if it has no such section.
-/

namespace AppSupervisor.Settings

open AppSupervisor.Text AppSupervisor.Numeral

def variableNames : List (String × String) :=
  [("working_directories_root", "APPDECK_WORKING_DIRECTORIES_ROOT"),
    ("delete_files_on_exit", "APPDECK_DELETE_FILES_ON_EXIT"),
    ("env_vars_to_inherit", "APPDECK_ENV_VARS_TO_INHERIT"),
    ("launcher_cmd", "APPDECK_LAUNCHER_CMD"),
    ("shutdown_timeout", "APPDECK_SHUTDOWN_TIMEOUT"),
    ("health_check_timeout", "APPDECK_HEALTH_CHECK_TIMEOUT"),
    ("host", "APPDECK_HOST")]

def sectionName : String := "deployer"

def variableValue (name value : String) : Except String Value :=
  if name == "shutdown_timeout" then
    ((parseInteger value).mapError IntegerFault.message).map .int
  else if name == "health_check_timeout" then
    ((parseReal value).mapError RealFault.message).map .float
  else if name == "delete_files_on_exit" then
    .ok (.bool (["true", "1", "yes", "on"].contains (value.map Char.toLower)))
  else .ok (.text value)

def overrides (environment : List (String × String)) : Except Fault Entries :=
  let present := variableNames.filter fun entry => (environment.lookup entry.2).isSome
  present.mapM fun (name, variable_) =>
    match variableValue name ((environment.lookup variable_).getD "") with
    | .ok value => .ok (name, value)
    | .error message => .error (.config name (.invalidVariable variable_ message))

def sectionOf (path : String) (document : Value) : Except Fault (List (Value × Value)) :=
  let isSection : Value × Value → Bool
    | (.text key, _) => key == sectionName
    | _ => false
  match document with
  | .null => .ok []
  | .map entries =>
    match entries.find? isSection with
    | none => .ok entries
    | some (_, .null) => .ok []
    | some (_, .map inner) => .ok inner
    | some (_, value) => .error (.config sectionName (.noSection value.kind))
  | value => .error (.config "config_path" (.noMapping path value.kind))

def documentOf (path : String) (bytes : List UInt8) : Except Fault Value :=
  match decodeUtf8 bytes with
  | .error fault => .error (.accident (.undecodable fault))
  | .ok cs =>
    let text := unifyNewlines cs
    match Document.parse text with
    | .ok value => .ok value
    | .error (.complaint found) =>
      .error (.config "config_path" (.invalidDocument path text (.complaint found)))
    | .error (.unprintable code position) =>
      .error (.config "config_path" (.invalidDocument path text (.unprintable code position)))
    | .error fault => .error (.accident (.document fault))

/-- The entries of two maps, those of the second counting more. An entry of both keeps its place. -/
def merged (first second : Entries) : Entries :=
  (first.map fun entry => (entry.1, (second.lookup entry.1).getD entry.2)) ++
    second.filter fun entry => (first.lookup entry.1).isNone

def combine (host : HostDefaults) (file : List (Value × Value)) (overrides : Entries) :
    Except Fault Settings :=
  match Value.entries? file with
  | none =>
    if file.all (·.1.isText) then .error (.config "deployer" (.invalidFields [⟨[], .brokenText⟩]))
    else .error (.accident .keyNotText)
  | some file => match Settings.ofEntries host (merged file overrides) with
    | .ok settings => .ok settings
    | .error faults => .error (.config "deployer" (.invalidFields faults))

end AppSupervisor.Settings

namespace AppSupervisor.Act

open AppSupervisor.Files AppSupervisor.Settings

variable {σ : Type} [Machine σ]

def readFile (path : Path) : Act σ (List UInt8) := do
  let file ← tryMachine (Machine.openFile path)
  askMachine (Machine.readFrom file 0)

def readSettingsFile (path : Path) : Act σ (List (Value × Value)) := do
  match ← attempt (readFile path) with
  | .ok bytes =>
    let document ← ofExcept (documentOf path.toString bytes)
    ofExcept (sectionOf path.toString document)
  | .error (.os fault) => throw (.config "config_path" (.unreadable path.toString fault))
  | .error fault => throw fault

def settingsEntries : Option String → Act σ (List (Value × Value))
  | none => return []
  | some given => do
    let entries ← readSettingsFile (.ofString given)
    log .debug s!"Loaded deployer configuration from {given}"
    return entries

def quotedList (names : List String) : String :=
  "[" ++ ", ".intercalate (names.map Text.quote) ++ "]"

def loadSettings (host : HostDefaults) (path? : Option String)
    (environment : List (String × String)) : Act σ Settings := do
  let file ← settingsEntries path?
  let given ← ofExcept (overrides environment)
  if !given.isEmpty then
    let names := (given.map (·.1)).mergeSort fun a b => !decide (b < a)
    log .debug s!"Applying environment overrides: {quotedList names}"
  ofExcept (combine host file given)

end AppSupervisor.Act
