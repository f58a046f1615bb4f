import AppSupervisor.Field
import AppSupervisor.Files.Path
import AppSupervisor.Text.Blank

/-!
Settings of the deployer.

Every setting has a default. The record remembers which settings were given.
-/

namespace AppSupervisor

open AppSupervisor.Files AppSupervisor.Text

structure HostDefaults where
  temporary : String
  launcher : String

def defaultPatterns : List String :=
  ["TMP", "TEMP", "TMPDIR", "LANG", "LANGUAGE", "LC_.*", "PATH", "SYSTEMROOT", "PYTHON.*"]

def defaultGroup : String := "default"

/-- The settings, with the names of those that were given. A shutdown timeout that is not positive
means that apps are killed without being asked to stop. -/
structure Settings where
  root : Path
  deleteFilesOnExit : Bool := true
  patterns : List String := defaultPatterns
  launcher : String
  shutdownTimeout : Int := 30
  probeTimeout : Float := 2.0
  host : String := "127.0.0.1"
  given : List String := []

/-- The pieces of a text between commas, without blanks around them and without blank pieces. -/
def splitList (s : String) : List String :=
  ((pieces ',' s).map trim).filter (· != "")

def readPatterns (v : Value) : Checked (List String) :=
  match v with
  | .text s => .ok (splitList s)
  | v => readList readText v

def Settings.names : List String :=
  ["working_directories_root", "delete_files_on_exit", "env_vars_to_inherit", "launcher_cmd",
    "shutdown_timeout", "health_check_timeout", "host"]

def Settings.default (host : HostDefaults) : Settings where
  root := .ofString host.temporary
  launcher := host.launcher

def Settings.ofEntries (host : HostDefaults) (entries : Entries) : Checked Settings := do
  let base := Settings.default host
  let fields :=
    both (readField entries "working_directories_root" (some base.root)
      fun v => Path.ofString <$> readPath v) <|
    both (readField entries "delete_files_on_exit" (some base.deleteFilesOnExit) readBool) <|
    both (readField entries "env_vars_to_inherit" (some base.patterns) readPatterns) <|
    both (readField entries "launcher_cmd" (some base.launcher) readNonEmpty) <|
    both (readField entries "shutdown_timeout" (some base.shutdownTimeout) readInteger) <|
    both (readField entries "health_check_timeout" (some base.probeTimeout) readPositive)
      (readField entries "host" (some base.host) readNonEmpty)
  let ((root, deleteFilesOnExit, patterns, launcher, shutdownTimeout, probeTimeout, host), _) ←
    both fields (refuseExtra entries Settings.names)
  let given := Settings.names.filter fun name => (entries.lookup name).isSome
  return { root, deleteFilesOnExit, patterns, launcher, shutdownTimeout, probeTimeout, host, given }

def Settings.read (host : HostDefaults) : Value → Checked Settings :=
  readRecord "LocalDeployerProperties" (Settings.ofEntries host)

end AppSupervisor
