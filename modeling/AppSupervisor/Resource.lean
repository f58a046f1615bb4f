import AppSupervisor.Fault
import AppSupervisor.Files.Path

/-!
Artifacts to deploy.

An artifact is a file on the local host, or something that a provider turns into one on request.
-/

namespace AppSupervisor

open AppSupervisor.Files

/-- An artifact: a file, or a named provider with the outcome of asking it for a file. -/
inductive Resource
  | file (path : Path)
  | provided (provider : String) (outcome : Except Fault String)

def Resource.description : Resource → String
  | .file path => path.toString
  | .provided provider _ => provider

def Resource.label : Resource → String
  | .file path => s!"FileSystemResource({path})"
  | .provided provider _ => s!"{provider}({provider})"

end AppSupervisor
