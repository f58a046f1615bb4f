import AppSupervisor.Machine
import AppSupervisor.Request

/-!
Working directories of deployments.

All working directories of a deployer lie below one root, which is made when the first one is
needed. A deployment gets the directory named like its id below the directory of its group
deployment. Where that directory is there already, it gets a new one whose name begins with the id.
-/

namespace AppSupervisor

open AppSupervisor.Files

def workRootStart : String := "appdeck-"

def isDirectoryName (name : String) : Bool :=
  name != "." && name != ".." && name.toList.all fun c => c != '/' && c != '\\' && c != '\x00'

def checkDirectoryName (name what : String) : Except Fault Unit :=
  if isDirectoryName name then .ok ()
  else .error (.badRequest (.badDirectoryName what name))

namespace Act

variable {σ α : Type}

/-- An action in which refusals by the operating system count as faults in the files of a
deployment. -/
def accessing (cause : String → AccessCause) (act : Act σ α) : Act σ α := do
  match ← attempt act with
  | .ok a => return a
  | .error fault => throw (if fault.isSystem then .noAccess (cause fault.message) else fault)

variable [Machine σ]

def workRoot (settings : Settings) : Act σ Path := do
  match (← get).root with
  | some root => return root
  | none =>
    makeDirectories settings.root
    let root ← makeTemporary workRootStart settings.root
    modify fun world => { world with root := some root }
    return root

/-- The name of the directory of a group deployment. A request that names none starts a new one. -/
def groupDirectoryName (request : Request) : Act σ String := do
  match request.deploymentProperties.lookup groupDeploymentProperty with
  | some name => if name.isEmpty then startGroup else return name
  | none => startGroup
where
  startGroup : Act σ String := do
    let stamp ← onMachine Machine.stamp
    return s!"{request.group}-{stamp}"

def makeWorkDirectory (settings : Settings) (groupName deploymentId : String) : Act σ Path := do
  let groupDirectory := (← workRoot settings).child groupName
  makeDirectory true groupDirectory
  let workDir := groupDirectory.child deploymentId
  match ← attempt (makeDirectory false workDir) with
  | .ok _ => return workDir
  | .error (.os (.file .alreadyExists _)) => makeTemporary (deploymentId ++ "-") groupDirectory
  | .error fault => throw fault

def workDirectoryFor (settings : Settings) (deploymentId : String) (request : Request) :
    Act σ Path := do
  let groupName ← groupDirectoryName request
  ofExcept (checkDirectoryName groupName groupDeploymentProperty)
  ofExcept (checkDirectoryName deploymentId "deployment id")
  accessing (.workDirectory deploymentId) (makeWorkDirectory settings groupName deploymentId)

end Act

end AppSupervisor
