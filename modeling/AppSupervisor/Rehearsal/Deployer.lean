import AppSupervisor.CommandLine.Run
import AppSupervisor.Rehearsal.Machine

/-!
A scripted deployer.

It tells the statuses of the script, one after another, the last one again and again, and notes what
it is asked to do.
-/

namespace AppSupervisor.Rehearsal

def statusOf (deploymentId : String) (states : List State) (attributes : List (String × String)) :
    AppStatus where
  deploymentId := deploymentId
  instances := states.zipIdx.map fun (state, index) =>
    { id := s!"{deploymentId}-{index}", index, state, attributes }

def takeStates (r : Rehearsal) : Except Fault (List State) × Rehearsal :=
  match r.statuses with
  | [] => (.ok [.deployed], r)
  | [last] => (last, r)
  | next :: rest => (next, { r with statuses := rest })

def failIf (fault? : Option Fault) : Act Rehearsal Unit :=
  match fault? with
  | some fault => Act.raise fault
  | none => pure ()

def deployer : DeployerHandle Rehearsal where
  deploy request := do
    failIf (← get).machine.deployFault
    Act.note (.askedDeploy request)
    return request.deploymentId
  status id := do
    let states ← Act.tryMachine takeStates
    return statusOf id states (← get).machine.attributes
  undeploy id := do
    Act.note (.askedUndeploy id)
    failIf (← get).machine.undeployFault
  shutdown := Act.note .askedShutdown

def connect (settings : Settings) : Act Rehearsal (DeployerHandle Rehearsal) := do
  Act.note (.choseSettings settings)
  return deployer

end AppSupervisor.Rehearsal
