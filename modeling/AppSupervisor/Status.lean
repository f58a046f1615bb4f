import AppSupervisor.Field

/-!
States of instances and of deployments.

The state of a deployment is drawn from the states of its instances: agreement gives the common
state, and otherwise the first of error, deploying, partial and failed that applies.
-/

namespace AppSupervisor

/-- The health of an instance or of a whole deployment. Only deployments are partial or unknown. -/
inductive State
  | deploying
  | deployed
  | undeployed
  | partially
  | failed
  | error
  | unknown
  deriving DecidableEq, Repr

def State.label : State → String
  | .deploying => "deploying"
  | .deployed => "deployed"
  | .undeployed => "undeployed"
  | .partially => "partial"
  | .failed => "failed"
  | .error => "error"
  | .unknown => "unknown"

def State.all : List State :=
  [.deploying, .deployed, .undeployed, .partially, .failed, .error, .unknown]

def State.ofLabel? (word : String) : Option State :=
  State.all.find? fun state => state.label == word

def State.isTerminal (state : State) : Bool :=
  state == .failed || state == .error || state == .undeployed

def aggregate : List State → State
  | [] => .unknown
  | state :: rest =>
    let states := state :: rest
    if rest.all (· == state) then state
    else if states.contains .error then .error
    else if states.contains .deploying then .deploying
    else if states.contains .deployed || states.contains .partially then .partially
    else if states.contains .failed then .failed
    else .partially

structure InstanceStatus where
  id : String
  index : Nat
  state : State
  attributes : List (String × String) := []
  deriving DecidableEq, Repr

structure AppStatus where
  deploymentId : String
  instances : List InstanceStatus := []
  deriving DecidableEq, Repr

def AppStatus.states (status : AppStatus) : List State :=
  status.instances.map (·.state)

def AppStatus.state (status : AppStatus) : State :=
  aggregate status.states

instance : ToString AppStatus := ⟨fun status => status.state.label⟩

def readState : Value → Checked State
  | .text word => match State.ofLabel? word with
    | some state => .ok state
    | none => refuse .notState
  | _ => refuse .notState

def InstanceStatus.read : Value → Checked InstanceStatus :=
  readRecord "AppInstanceStatus" fun entries => do
    let fields :=
      both (readField entries "id" none readText) <|
      both (readField entries "index" none readOrdinal) <|
      both (readField entries "state" none readState)
        (readField entries "attributes" (some []) readTexts)
    let ((id, index, state, attributes), _) ←
      both fields (refuseExtra entries ["id", "index", "state", "attributes"])
    return { id, index, state, attributes }

def AppStatus.read : Value → Checked AppStatus :=
  readRecord "AppStatus" fun entries => do
    let fields :=
      both (readField entries "deployment_id" none readText)
        (readField entries "instances" (some []) (readList InstanceStatus.read))
    let ((deploymentId, instances), _) ←
      both fields (refuseExtra entries ["deployment_id", "instances"])
    return { deploymentId, instances }

end AppSupervisor
