import AppSupervisor.Request
import AppSupervisor.Settings

/-!
The command line of an instance.

The launcher comes first with its options, then the artifact or the module to run, and the arguments
of the app last.
-/

namespace AppSupervisor.Command

open AppSupervisor.Files AppSupervisor.Text

def launcherOptionsProperty : String := "appdeck.deployer.launcher-opts"

def target (properties : List (String × String)) (artifact : Path) : Except Fault (List String) :=
  match properties.lookup moduleProperty with
  | none => .ok [artifact.toString]
  | some value =>
    let name := trim value
    if name.isEmpty then .error (.badRequest .blankModule) else .ok ["-m", name]

def build (settings : Settings) (request : Request) (artifact : Path) :
    Except Fault (List String) := do
  let options := splitList ((request.deploymentProperties.lookup launcherOptionsProperty).getD "")
  let target ← target request.deploymentProperties artifact
  return settings.launcher :: options ++ target ++ request.arguments

end AppSupervisor.Command
