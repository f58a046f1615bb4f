import AppSupervisor.Command.Build
import AppSupervisor.Command.Environment
import AppSupervisor.Deployer.WorkDirectory
import AppSupervisor.Ports

/-!
Launching the instances of a deployment.

What all instances have in common is settled first: the artifact, the command line, the environment
and the working directory. Then the instances are launched one after another, each with its own
port. If one of them cannot be launched, those before it are killed.
-/

namespace AppSupervisor

open AppSupervisor.Files

structure Plan where
  deploymentId : String
  request : Request
  host : String
  command : List String
  environment : Command.Variables
  workDir : Path

def logPaths (workDir : Path) (index : Int) : Path × Path :=
  (workDir.child s!"stdout_{index}.log", workDir.child s!"stderr_{index}.log")

def Instance.id (i : Instance) : String :=
  s!"{i.deploymentId}-{i.index}"

def Instance.attributes (i : Instance) : List (String × String) :=
  [("working.dir", i.workDir.toString), ("stdout", i.stdout.toString),
    ("stderr", i.stderr.toString), ("url", i.baseUrl), ("port", toString i.port),
    ("pid", toString i.pid)]

def Plan.order (plan : Plan) (port : Int) (index : Nat) : LaunchOrder where
  command := plan.command
  environment := Command.environmentOf plan.environment
    (isIndexed plan.request.deploymentProperties) port index
  workDir := plan.workDir
  index := index

def Plan.instanceOf (plan : Plan) (port : Int) (index pid : Nat) : Instance where
  deploymentId := plan.deploymentId
  index := index
  pid := pid
  workDir := plan.workDir
  stdout := (logPaths plan.workDir index).1
  stderr := (logPaths plan.workDir index).2
  port := port
  baseUrl := s!"http://{plan.host}:{port}"

/-- The fault of the launch with an index. A failed launch names the deployment and the index; any
other fault is passed on. -/
def Plan.reported (plan : Plan) (index : Nat) : Fault → Fault
  | .launchFailed cause _ _ => .launchFailed cause (some plan.deploymentId) (some index)
  | fault => fault

namespace Act

variable {σ : Type} [Machine σ]

/-- The file of an artifact. A file on the local host is given by its path without links, and it has
to be a regular one. -/
def artifactFile : Resource → Act σ Path
  | .file path => do
    let resolved ← tryAskMachine (Machine.resolve path)
    if ← tryAskMachine (Machine.isFile resolved) then return resolved
    else raise (.os (.missingArtifact resolved.toString))
  | .provided _ outcome => Path.ofString <$> ofExcept outcome

def planFor (settings : Settings) (environment : Command.Variables) (deploymentId : String)
    (request : Request) : Act σ Plan := do
  let artifact ← accessing (.artifact request.resource.description) (artifactFile request.resource)
  let command ← ofExcept (Command.build settings request artifact)
  let shared ← ofExcept (Command.environmentFor settings environment deploymentId request)
  let workDir ← workDirectoryFor settings deploymentId request
  return { deploymentId, request, host := settings.host, command, environment := shared, workDir }

def launch (order : LaunchOrder) : Act σ Nat := do
  match ← onMachine (Machine.launch order) with
  | .ok pid =>
    note (.launched order pid)
    return pid
  | .error fault =>
    note (.refusedLaunch order fault)
    raise fault

def launchInstance (plan : Plan) (index : Nat) (allocated : List Int) :
    Act σ (Instance × List Int) := do
  let (port, allocated) ← allocatePort plan.host allocated plan.request.definition.properties
    plan.request.arguments
  match ← attempt (launch (plan.order port index)) with
  | .ok pid =>
    log .info (s!"Deploying app {plan.deploymentId} instance {index}, " ++
      s!"logs will be in {plan.workDir}")
    return (plan.instanceOf port index pid, allocated)
  | .error fault => throw (plan.reported index fault)

def killStarted (deploymentId : String) : List Instance → Act σ Unit
  | [] => return ()
  | i :: rest => do
    log .warning s!"Killing instance {i.index} of {deploymentId} after failed deployment"
    kill i.pid
    killStarted deploymentId rest

def launchMore (plan : Plan) : Nat → List Instance → List Int → Act σ (List Instance)
  | 0, started, _ => return started
  | count + 1, started, allocated => do
    match ← attempt (launchInstance plan started.length allocated) with
    | .ok (i, allocated) => launchMore plan count (started ++ [i]) allocated
    | .error fault =>
      killStarted plan.deploymentId started
      throw fault

end Act

end AppSupervisor
