import AppSupervisor.Registry
import AppSupervisor.Request
import AppSupervisor.Settings

/-!
The machine that apps run on, and what is done there.

A machine offers a clock, processes, network requests, ports and files, each as an operation on its
state that may fail; nothing more is known of it. An action runs on a machine together with what the
supervisor remembers. Every action that others can notice is noted in a journal, and so is every
fault where it arises. A failed action keeps what happened before the failure.
-/

namespace AppSupervisor

open AppSupervisor.Files

structure LaunchOrder where
  command : List String
  environment : List (String × String)
  workDir : Path
  index : Int
  deriving DecidableEq, Repr

/-- The outcome of a network request: a status code or a fault, and the ids of deployments that were
forgotten by others in the meantime. -/
structure HttpOutcome where
  result : Except Fault Int
  forgotten : List String := []

inductive FileKind
  | regular
  | directory
  | other
  deriving DecidableEq, Repr

/-- The operations of a machine. Times are in seconds. Killing a process takes effect without being
confirmed and reports nothing. -/
class Machine (σ : Type) where
  now : σ → Rat
  sleep : Rat → σ → Except Fault Unit × σ
  /-- A number that differs from call to call. -/
  stamp : σ → Nat × σ
  draw : Int → Int → σ → Int × σ
  isPortFree : Int → String → σ → Except Fault Bool × σ
  exitCode : Nat → σ → Except Fault (Option Int) × σ
  kill : Nat → σ → σ
  httpGet : String → Float → σ → HttpOutcome × σ
  httpPost : String → Rat → σ → HttpOutcome × σ
  launch : LaunchOrder → σ → Except Fault Nat × σ
  /-- What stands at the path that a text writes. A slash at the end asks for a directory. -/
  look : String → σ → Except Fault FileKind
  mayRead : String → σ → Bool
  resolve : Path → σ → Except Fault Path
  isFile : Path → σ → Except Fault Bool
  /-- Makes a directory and its parents; one that is there already is fine. -/
  makeDirectories : Path → σ → Except Fault Unit × σ
  /-- Makes a directory; one that is there already is fine if the flag says so. -/
  makeDirectory : Bool → Path → σ → Except Fault Unit × σ
  /-- Makes a directory with a new name that begins with some text. -/
  makeTemporary : String → Path → σ → Except Fault Path × σ
  /-- Deletes a directory with all it holds, as far as possible. -/
  removeTree : Path → σ → σ
  openFile : Path → σ → Except Fault Nat × σ
  /-- The bytes of an open file from an offset on. -/
  readFrom : Nat → Nat → σ → List UInt8

inductive LogLevel
  | debug
  | info
  | warning
  | error
  deriving DecidableEq, Repr

inductive Event
  | slept (seconds : Rat)
  | killed (pid : Nat)
  | askedPage (session : Nat) (url : String) (timeout : Float)
  | posted (session : Nat) (url : String) (timeout : Rat)
  | closedResponse
  | openedSession (session : Nat)
  | closedSession (session : Nat)
  | triedPort (host : String) (port : Int) (isFree : Bool)
  | drew (low high value : Int)
  | launched (order : LaunchOrder) (pid : Nat)
  | refusedLaunch (order : LaunchOrder) (fault : Fault)
  | sawExit (pid : Nat) (code : Int)
  | preparedDirectory (path : Path)
  | madeDirectory (path : Path)
  | removedTree (path : Path)
  | choseLevel (level : LogLevel)
  | logged (level : LogLevel) (message : String)
  | printed (toErrors : Bool) (text : String)
  | choseSettings (settings : Settings)
  | askedDeploy (request : Request)
  | askedStatus (deploymentId : String)
  | askedUndeploy (deploymentId : String)
  | askedShutdown
  | lost (deploymentId : String)
  | raised (fault : Fault)

structure Instance where
  deploymentId : String
  index : Nat
  pid : Nat
  workDir : Path
  stdout : Path
  stderr : Path
  port : Int
  baseUrl : String
  deriving DecidableEq, Repr

structure Prober where
  timeout : Float := 2.0
  shared : Option Nat := none
  byThread : List (String × Nat) := []
  toClose : List Nat := []

/-- A machine together with what the supervisor remembers: the registry, the journal with the latest
event first, the number of sessions opened so far, the root of the working directories once it is
made, and the sessions of its prober. A wait for exits takes as many looks as there is time for; the
patience is the number of further ones on a machine whose clock lags behind its waits. -/
structure World (σ : Type) where
  machine : σ
  registry : Registry (List Instance) := {}
  journal : List Event := []
  sessionCount : Nat := 0
  root : Option Path := none
  prober : Prober := {}
  patience : Nat := 0

abbrev Act (σ : Type) := ExceptT Fault (StateM (World σ))

namespace Act

variable {σ : Type} {α β : Type}

def perform (act : Act σ α) (world : World σ) : Except Fault α × World σ :=
  act.run world

/-- An action followed by a cleanup, which is done also when the action fails. A fault of the
cleanup counts more than that of the action. -/
def ensuring (act : Act σ α) (cleanup : Act σ β) : Act σ (α × β) := fun world =>
  let (outcome, world) := act.run world
  match cleanup.run world with
  | (.error fault, world) => (.error fault, world)
  | (.ok b, world) => (outcome.map (·, b), world)

def attempt (act : Act σ α) : Act σ (Except Fault α) := fun world =>
  let (outcome, world) := act.run world
  (.ok outcome, world)

def note (event : Event) : Act σ Unit :=
  modify fun world => { world with journal := event :: world.journal }

def log (level : LogLevel) (message : String) : Act σ Unit :=
  note (.logged level message)

def onMachine (op : σ → α × σ) : Act σ α := do
  let world ← get
  let (a, machine) := op world.machine
  set { world with machine }
  return a

def raise (fault : Fault) : Act σ α := do
  note (.raised fault)
  throw fault

def ofExcept : Except Fault α → Act σ α
  | .ok a => return a
  | .error fault => raise fault

def tryMachine (op : σ → Except Fault α × σ) : Act σ α := do
  ofExcept (← onMachine op)

def askMachine (question : σ → α) : Act σ α :=
  return question (← get).machine

def tryAskMachine (question : σ → Except Fault α) : Act σ α := do
  ofExcept (question (← get).machine)

variable [Machine σ]

def now : Act σ Rat :=
  askMachine Machine.now

/-- Waits. The wait is noted when it begins. -/
def sleep (seconds : Rat) : Act σ Unit := do
  note (.slept seconds)
  tryMachine (Machine.sleep seconds)

def exitCode (pid : Nat) : Act σ (Option Int) := do
  let code? ← tryMachine (Machine.exitCode pid)
  match code? with
  | some code => note (.sawExit pid code)
  | none => pure ()
  return code?

def isAlive (pid : Nat) : Act σ Bool :=
  return (← exitCode pid).isNone

def kill (pid : Nat) : Act σ Unit := do
  note (.killed pid)
  onMachine fun machine => ((), Machine.kill pid machine)

def lose (deploymentId : String) : Act σ Unit := do
  modify fun world => { world with registry := world.registry.remove deploymentId }
  note (.lost deploymentId)

/-- A network request. Deployments that others forgot in the meantime leave the registry. -/
def request (op : σ → HttpOutcome × σ) : Act σ Int := do
  let outcome ← onMachine op
  outcome.forgotten.forM lose
  ofExcept outcome.result

def makeDirectories (path : Path) : Act σ Unit := do
  tryMachine (Machine.makeDirectories path)
  note (.preparedDirectory path)

def makeDirectory (mayExist : Bool) (path : Path) : Act σ Unit := do
  tryMachine (Machine.makeDirectory mayExist path)
  note (.madeDirectory path)

def makeTemporary (start : String) (above : Path) : Act σ Path := do
  let path ← tryMachine (Machine.makeTemporary start above)
  note (.madeDirectory path)
  return path

def removeTree (path : Path) : Act σ Unit := do
  onMachine fun machine => ((), Machine.removeTree path machine)
  note (.removedTree path)

end Act

end AppSupervisor
