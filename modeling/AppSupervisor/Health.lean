import AppSupervisor.Machine
import AppSupervisor.Status

/-!
Asking instances how they are and stopping them.

An exited process needs no question: its exit code tells its state. A living one is deployed once
its page answers at all. Several instances are stopped within one budget of time: those that agree
to stop get what is left of the budget, and all that are alive behind it are killed, also when the
wait is interrupted.
-/

namespace AppSupervisor

def shutdownPath : String := "/shutdown"

def stopPollInterval : Rat := 1

def stopPage (baseUrl : String) : String :=
  String.ofList (baseUrl.toList.reverse.dropWhile (· == '/')).reverse ++ shutdownPath

def mainThread : String := ""

namespace Act

variable {σ : Type}

/-- The network session of a thread; a new one if the thread has none yet and none is shared. -/
def sessionOf (thread : String) : Act σ Nat := do
  let world ← get
  match world.prober.shared.or (world.prober.byThread.lookup thread) with
  | some session => return session
  | none =>
    let session := world.sessionCount + 1
    set { world with
      sessionCount := session
      prober := { world.prober with
        byThread := (thread, session) :: world.prober.byThread
        toClose := world.prober.toClose ++ [session] } }
    note (.openedSession session)
    return session

def closeSessions : Act σ Unit := do
  let prober := (← get).prober
  modify fun world => { world with prober := { world.prober with toClose := [] } }
  (prober.shared.toList ++ prober.toClose).forM fun session => note (.closedSession session)

variable [Machine σ]

def probePage (thread baseUrl : String) : Act σ State := do
  let session ← sessionOf thread
  let timeout := (← get).prober.timeout
  note (.askedPage session baseUrl timeout)
  match ← attempt (request (Machine.httpGet baseUrl timeout)) with
  | .ok _ =>
    note .closedResponse
    return .deployed
  | .error (.http kind message) =>
    log .debug s!"Probe of {baseUrl} failed: {(Fault.http kind message).message}"
    return .deploying
  | .error fault => throw fault

def probe (thread : String) (pid : Nat) (baseUrl : String) : Act σ State := do
  match ← attempt (exitCode pid) with
  | .ok (some code) => return if code == 0 then .undeployed else .failed
  | .ok none => probePage thread baseUrl
  | .error fault =>
    if fault.isSystem then
      log .warning s!"Cannot query process {pid}: {fault.message}"
      return .error
    else throw fault

def isAccepted (status : Int) : Bool := 200 ≤ status && status < 300

def requestStop (thread baseUrl : String) (timeout : Rat) : Act σ Bool := do
  let page := stopPage baseUrl
  let session ← sessionOf thread
  note (.posted session page timeout)
  match ← attempt (request (Machine.httpPost page timeout)) with
  | .ok status =>
    if isAccepted status then return true
    else
      log .debug s!"Shutdown request to {page} returned {status}"
      return false
  | .error (.http kind message) =>
    log .debug s!"No shutdown endpoint at {page}: {(Fault.http kind message).message}"
    return false
  | .error fault => throw fault

def requestStops (thread : String) (deadline : Rat) : List (Nat × String) → Act σ (List Nat)
  | [] => return []
  | (pid, baseUrl) :: rest => do
    let remaining := deadline - (← now)
    if remaining ≤ 0 then return []
    let agreed ← if ← isAlive pid then requestStop thread baseUrl remaining else pure false
    let others ← requestStops thread deadline rest
    return if agreed then pid :: others else others

def anyAlive : List Nat → Act σ Bool
  | [] => return false
  | pid :: rest => do
    if ← isAlive pid then return true else anyAlive rest

def awaitExits (pids : List Nat) (deadline : Rat) : Nat → Act σ Unit
  | 0 => raise .horizonReached
  | looks + 1 => do
    if ← anyAlive pids then
      let remaining := deadline - (← now)
      if 0 < remaining then
        sleep (min stopPollInterval remaining)
        awaitExits pids deadline looks

def killAlive : List Nat → Act σ (List Bool)
  | [] => return []
  | pid :: rest => do
    let alive ← isAlive pid
    if alive then
      log .debug s!"Killing process {pid}"
      kill pid
    let others ← killAlive rest
    return (!alive) :: others

def looksWithin (seconds : Rat) : Nat :=
  seconds.ceil.toNat + 1

def stopGracefully (thread : String) (targets : List (Nat × String)) (deadline : Rat) :
    Act σ Unit := do
  let agreed ← requestStops thread deadline targets
  let remaining := deadline - (← now)
  let patience := (← get).patience
  awaitExits agreed deadline (looksWithin remaining + patience)

/-- Stops instances within one budget of time, and tells which of them exited on their own. -/
def stopAll (thread : String) (targets : List (Nat × String)) (timeout : Rat) :
    Act σ (List Bool) := do
  let deadline := (← now) + (if 0 < timeout then timeout else 0)
  let (_, stopped) ← ensuring
    (if 0 < timeout then stopGracefully thread targets deadline else pure ())
    (killAlive (targets.map (·.1)))
  return stopped

end Act

end AppSupervisor
