import AppSupervisor.Command.Environment
import AppSupervisor.Deployer.Launch

/-!
Launching instances as child processes.

The output of an instance goes to two files of its own. They are made anew, so that an instance
never writes over the output of another: where one of them is there already, nothing is started.
-/

namespace AppSupervisor

open AppSupervisor.Files

structure ChildOrder where
  command : List String
  environment : Command.Variables
  workDir : Path
  stdout : Path
  stderr : Path
  deriving DecidableEq, Repr

class ChildHost (σ : Type) where
  /-- Makes an empty file where there is nothing yet. -/
  createNew : Path → σ → Except Fault Unit × σ
  start : ChildOrder → σ → Except Fault Nat × σ
  poll : Nat → σ → Option Int × σ
  sendKill : Nat → σ → Except Fault Unit × σ

namespace Launcher

abbrev Step (σ : Type) := ExceptT Fault (StateM σ)

def label (pid : Nat) : String :=
  s!"SubprocessHandle(pid={pid})"

def childOrder (order : LaunchOrder) : ChildOrder where
  command := order.command
  environment := Command.put order.environment Command.indexVariable (toString order.index)
  workDir := order.workDir
  stdout := (logPaths order.workDir order.index).1
  stderr := (logPaths order.workDir order.index).2

variable {σ : Type} [ChildHost σ]

def startWithLogs (order : ChildOrder) : Step σ Nat := do
  ExceptT.mk (ChildHost.createNew order.stdout)
  ExceptT.mk (ChildHost.createNew order.stderr)
  ExceptT.mk (ChildHost.start order)

def launch (order : LaunchOrder) : Step σ Nat := fun host =>
  match (startWithLogs (childOrder order)).run host with
  | (.error (.os fault), host) =>
    (.error (.launchFailed (.notStarted order.index fault.message) none (some order.index)), host)
  | outcome => outcome

def exitCode (pid : Nat) : Step σ (Option Int) := fun host =>
  let (code?, host) := ChildHost.poll pid host
  (.ok code?, host)

def isAlive (pid : Nat) : Step σ Bool :=
  return (← exitCode pid).isNone

def isGone : Fault → Bool
  | .os (.stated kind _) => kind == "ProcessLookupError"
  | _ => false

/-- Ends a process that has not exited. It does not matter if it exits in the meantime. -/
def kill (pid : Nat) : Step σ Unit := do
  if ← isAlive pid then
    match ← (fun host =>
        let (outcome, host) := ChildHost.sendKill pid host
        (.ok outcome, host) : Step σ (Except Fault Unit)) with
    | .ok _ => return ()
    | .error fault => if isGone fault then return () else throw fault

end Launcher

end AppSupervisor
