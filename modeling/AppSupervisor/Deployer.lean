import AppSupervisor.Deployer.Launch
import AppSupervisor.Deployer.LogStream
import AppSupervisor.Health
import AppSupervisor.Numeral.Double
import AppSupervisor.RuntimeInfo

/-!
Deploying apps as processes of the local host.

A deployment becomes visible once all its instances run; if one of them cannot be launched, none is
left running. To undeploy is to stop the instances within one budget of time, to kill what is left
of them and to forget the deployment, whatever happens on the way. A shutdown undeploys all there
is, deletes the working directories and closes the network sessions.
-/

namespace AppSupervisor

open AppSupervisor.Files

structure Deployer where
  settings : Settings
  environment : Command.Variables

def localPlatform : String := "local"

def checkPlatform (platform : String) : Except Fault Unit :=
  if platform.map Char.toLower == localPlatform then .ok ()
  else .error (.operation "deploy" (.unsupportedPlatform platform))

def version : String := "0.1.0"

def Deployer.info (deployer : Deployer) (versions : HostVersions) : RuntimeInfo where
  implementation := "LocalAppDeployer"
  version := version
  platform := "Local"
  versions := versions
  details := [("launcher_cmd", deployer.settings.launcher),
    ("working_directories_root", deployer.settings.root.toString)]

def stopBudget (seconds : Int) : Except Fault Rat :=
  if seconds ≤ 0 then .ok 0
  else match Numeral.nearestDouble? seconds with
    | some seconds => .ok seconds
    | none => .error (.accident .integerTooLarge)

namespace Act

variable {σ : Type}

def reserve (id : String) : Act σ Unit := do
  let world ← get
  let registry ← ofExcept (world.registry.reserve id)
  set { world with registry }
  log .debug (Registry.reservedNotice id)

def publish (id : String) (instances : List Instance) : Act σ Unit := do
  modify fun world => { world with registry := world.registry.publish id instances }
  log .debug (Registry.publishedNotice id instances.length)

def release (id : String) : Act σ Unit :=
  modify fun world => { world with registry := world.registry.release id }

def forget (id : String) : Act σ Unit :=
  modify fun world => { world with registry := world.registry.remove id }

def instancesOf (id : String) : Act σ (List Instance) := do
  match (← get).registry.get? id with
  | some instances => return instances
  | none => raise (.notDeployed id)

variable [Machine σ]

def launchAll (deployer : Deployer) (id : String) (request : Request) : Act σ (List Instance) := do
  let count ← ofExcept (instanceCount request.deploymentProperties)
  let plan ← planFor deployer.settings deployer.environment id request
  launchMore plan count [] []

def deploy (deployer : Deployer) (request? : Option Request) : Act σ String := do
  let some request := request? | raise (.badRequest .noRequest)
  let id := request.deploymentId
  reserve id
  match ← attempt (launchAll deployer id request) with
  | .ok instances =>
    publish id instances
    log .info s!"Deployed {id} with {instances.length} instance(s)"
    return id
  | .error fault =>
    release id
    throw fault

def livingTargets : List Instance → Act σ (List (Nat × String))
  | [] => return []
  | i :: rest => do
    let alive ← isAlive i.pid
    let others ← livingTargets rest
    return if alive then (i.pid, i.baseUrl) :: others else others

def killLiving : List Instance → Act σ Unit
  | [] => return ()
  | i :: rest => do
    if ← isAlive i.pid then kill i.pid
    killLiving rest

def stopInstances (deployer : Deployer) (instances : List Instance) : Act σ Unit := do
  let targets ← livingTargets instances
  let budget ← ofExcept (stopBudget deployer.settings.shutdownTimeout)
  let _ ← stopAll mainThread targets budget

def undeploy (deployer : Deployer) (id : String) : Act σ Unit := do
  let instances ← instancesOf id
  log .info s!"Undeploying {id}"
  let _ ← ensuring (stopInstances deployer instances) do
    killLiving instances
    forget id

def instanceStatuses : List Instance → Act σ (List InstanceStatus)
  | [] => return []
  | i :: rest => do
    let state ← probe mainThread i.pid i.baseUrl
    let others ← instanceStatuses rest
    return { id := i.id, index := i.index, state, attributes := i.attributes } :: others

def status (id : String) : Act σ AppStatus := do
  match (← get).registry.get? id with
  | none => return { deploymentId := id }
  | some instances => return { deploymentId := id, instances := ← instanceStatuses instances }

/-- The states of several deployments. An id that is given twice is asked for twice; it keeps its
first place and has its last state. -/
def states : List String → Act σ (List (String × State))
  | ids => ids.foldlM
    (fun found id => do
      let status ← status id
      let state := status.state
      return if found.any (·.1 == id) then
          found.map fun entry => if entry.1 == id then (id, state) else entry
        else found ++ [(id, state)])
    []

def streamLogs (id : String) : Act σ LogStream := do
  return .ofInstances (← instancesOf id)

/-- Undeploys several deployments. Those that are not deployed any more are passed over. -/
def undeployAll (deployer : Deployer) : List String → Act σ Unit
  | [] => return ()
  | id :: rest => do
    match ← attempt (undeploy deployer id) with
    | .ok _ | .error (.notDeployed _) => undeployAll deployer rest
    | .error fault => throw fault

def deleteWorkRoot (deployer : Deployer) : Act σ Unit := do
  if deployer.settings.deleteFilesOnExit then
    match (← get).root with
    | none => return ()
    | some root =>
      removeTree root
      log .debug s!"Deleted working directories under {root}"
      modify fun world => { world with root := none }

def shutdown (deployer : Deployer) : Act σ Unit := do
  undeployAll deployer (← get).registry.ids
  deleteWorkRoot deployer
  closeSessions

end Act

end AppSupervisor
