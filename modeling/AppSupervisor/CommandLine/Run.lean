import AppSupervisor.CommandLine.Display
import AppSupervisor.CommandLine.KeyValues
import AppSupervisor.CommandLine.RunOptions
import AppSupervisor.Deployer
import AppSupervisor.Logging
import AppSupervisor.Settings.Load

/-!
Running an app from the command line.

The app is deployed and given some time to start; then it is supervised until nothing is left of it
or the user interrupts. In the end it is undeployed and the deployer is shut down, also when
something fails on the way. Failures are reported in words and by the exit code.
-/

namespace AppSupervisor

structure DeployerHandle (σ : Type) where
  deploy : Request → Act σ String
  status : String → Act σ AppStatus
  undeploy : String → Act σ Unit
  shutdown : Act σ Unit

def Deployer.handle {σ : Type} [Machine σ] (deployer : Deployer) : DeployerHandle σ where
  deploy request := Act.deploy deployer (some request)
  status := Act.status
  undeploy := Act.undeploy deployer
  shutdown := Act.shutdown deployer

def Deployer.connect {σ : Type} [Machine σ] (deployer : Deployer) : Act σ (DeployerHandle σ) := do
  modify fun world => { world with prober := { timeout := deployer.settings.probeTimeout } }
  return deployer.handle

namespace CommandLine

/-- What a run depends on: the host, the environment of the supervisor, how a deployer is found for
some settings, and after how many looks at a deployment a run is given up. -/
structure RunContext (σ : Type) where
  host : HostDefaults
  environment : Command.Variables
  connect : Settings → Act σ (DeployerHandle σ)
  horizon : Nat

def pollInterval : Rat := 1

def isBefore (start : Rat) (timeout : Numeral.Double) (moment : Rat) : Bool :=
  match timeout with
  | .finite seconds => moment < start + seconds
  | .infinity negative => !negative
  | .undefined => false

def requestOf (options : RunOptions) (properties deploymentProperties : List (String × String)) :
    Request where
  definition := {
    name := if options.name.isEmpty then options.artifact.stem else options.name
    properties := properties }
  resource := .file options.artifact
  deploymentProperties :=
    let counted := Command.put deploymentProperties countProperty (toString options.count)
    if options.group.isEmpty then counted else Command.put counted groupProperty options.group
  arguments := options.arguments

def refusedCode : Nat := 2

def failedCode : Nat := 3

structure Report where
  logged : String
  title : String
  detail : Option String
  code : Nat

def Report.ofFault (fault : Fault) : Report :=
  match fault with
  | .config _ _ =>
    ⟨s!"Configuration error: {fault.message}", "Configuration error", fault.reason, refusedCode⟩
  | .invalidRequest _ _ | .illegalState _ _ | .alreadyDeployed _ | .notDeployed _ =>
    ⟨s!"Invalid request: {fault.message}", "Invalid request", fault.reason, refusedCode⟩
  | .operation name _ | .unusable name _ =>
    ⟨s!"Deployment error: {fault.message}", s!"{name} failed", fault.reason, failedCode⟩
  | .launchFailed _ _ _ =>
    ⟨s!"Deployment error: {fault.message}", "deploy failed", fault.reason, failedCode⟩
  | _ => ⟨s!"Unexpected error: {fault.message}", fault.message, none, failedCode⟩

end CommandLine

namespace Act

open AppSupervisor.CommandLine

variable {σ : Type} [Machine σ]

def progress (quiet : Bool) (text : String) : Act σ Unit :=
  if quiet then pure () else echo text

def waitLonger (handle : DeployerHandle σ) (id : String) (isEarly : Rat → Bool)
    (status : AppStatus) : Nat → Act σ AppStatus
  | 0 => raise .horizonReached
  | looks + 1 => do
    if status.state == .deploying && isEarly (← now) then
      sleep pollInterval
      waitLonger handle id isEarly (← handle.status id) looks
    else return status

def waitUntilStarted (handle : DeployerHandle σ) (id : String) (timeout : Float) (horizon : Nat) :
    Act σ AppStatus := do
  let start ← now
  waitLonger handle id (isBefore start (.ofFloat timeout)) (← handle.status id) horizon

def watch (handle : DeployerHandle σ) (id : String) (last : State) : Nat → Act σ AppStatus
  | 0 => raise .horizonReached
  | looks + 1 => do
    sleep pollInterval
    let status ← handle.status id
    let state := status.state
    if state != last then log .info s!"{id} changed from {last.label} to {state.label}"
    if state.isTerminal then return status else watch handle id state looks

def supervise (handle : DeployerHandle σ) (id : String) (last : State) (horizon : Nat) :
    Act σ (Option AppStatus) := do
  match ← attempt (watch handle id last horizon) with
  | .ok status => return some status
  | .error .interrupted => return none
  | .error fault => throw fault

/-- Deploys an app, watches over it and undeploys it, and tells its last status if it ended by
itself. -/
def operate (context : RunContext σ) (handle : DeployerHandle σ) (options : RunOptions)
    (request : Request) : Act σ (Option AppStatus) := do
  let quiet := options.quiet
  let id ← handle.deploy request
  progress quiet s!"Deployed {id}, waiting for instances..."
  let status ← waitUntilStarted handle id options.waitTimeout context.horizon
  display quiet status
  let final? ← if !options.supervise || status.state.isTerminal then pure (some status) else do
    progress quiet "Supervising, press Ctrl-C to stop"
    let final? ← supervise handle id status.state context.horizon
    final?.forM (display quiet)
    pure final?
  progress quiet s!"Undeploying {id}..."
  handle.undeploy id
  return final?

/-- Runs an app as the options say. An app that failed is a failure of the run. -/
def runApp (context : RunContext σ) (options : RunOptions)
    (properties deploymentProperties : List (String × String)) : Act σ Unit := do
  let settings ← loadSettings context.host (options.config.map toString) context.environment
  let request := requestOf options properties deploymentProperties
  let handle ← context.connect settings
  let (final?, _) ← ensuring (operate context handle options request) handle.shutdown
  match final? with
  | none => return ()
  | some status =>
    if status.state == .failed || status.state == .error then
      raise (.operation "run" (.ended status.deploymentId status.state.label))

def report (fault : Fault) : Act σ Nat := do
  let report := Report.ofFault fault
  log .error report.logged
  echoError (styled (some .red) false ("Error: " ++ report.title))
  report.detail.forM fun detail => echoError ("  " ++ detail)
  return report.code

/-- Runs an app as the options say, and tells the exit code. Interrupts are not reported here. -/
def runWith (context : RunContext σ) (options : RunOptions) : Act σ Nat := do
  note (.choseLevel (LogSetup.choose options.verbose options.quiet).level)
  let readMap (place : String) (values : List String) : Act σ (List (String × String)) :=
    ofExcept ((readKeyValues place values).mapError .usage)
  let properties ← readMap "--property" options.properties
  let deploymentProperties ← readMap "--deployment-property" options.deploymentProperties
  match ← attempt (runApp context options properties deploymentProperties) with
  | .ok _ => return 0
  | .error fault => if fault.isFailure then report fault else throw fault

end Act

end AppSupervisor
