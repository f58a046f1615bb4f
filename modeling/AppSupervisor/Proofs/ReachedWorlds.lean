import AppSupervisor.Deployer

/-!
The worlds that a deployer reaches by the calls that it gets, one after another.
-/

namespace AppSupervisor

variable {σ : Type}

/-- What a deployer is asked for. Reading goes on with a stream that was opened at any time. -/
inductive Operation
  | deploy (request? : Option Request)
  | undeploy (id : String)
  | status (id : String)
  | states (ids : List String)
  | streamLogs (id : String)
  | readLogs (lines : Nat) (stream : LogStream)
  | shutdown

def Operation.act [Machine σ] (deployer : Deployer) : Operation → Act σ Unit
  | .deploy request? => do let _ ← Act.deploy deployer request?
  | .undeploy id => Act.undeploy deployer id
  | .status id => do let _ ← Act.status id
  | .states ids => do let _ ← Act.states ids
  | .streamLogs id => do let _ ← Act.streamLogs id
  | .readLogs lines stream => do let _ ← Act.takeLines lines stream
  | .shutdown => Act.shutdown deployer

/-- The worlds that a deployer may find behind a call, be it that the call fails. It starts with
nothing done yet, and between two calls the machine changes in any way. -/
inductive Reached [Machine σ] (deployer : Deployer) : World σ → Prop
  | start (world : World σ) (hjournal : world.journal = []) : Reached deployer world
  | call (world : World σ) (operation : Operation) (hreached : Reached deployer world) :
      Reached deployer ((operation.act deployer).perform world).2
  | pass (world : World σ) (machine : σ) (hreached : Reached deployer world) :
      Reached deployer { world with machine }

/-- The worlds that a deployer comes to from one of them by calls of some kinds. Between two calls
the machine changes in one of some ways. -/
inductive Operated [Machine σ] (deployer : Deployer) (allows : Operation → Prop)
    (keeps : World σ → σ → Prop) (start : World σ) : World σ → Prop
  | start : Operated deployer allows keeps start start
  | call {world : World σ} (operation : Operation) (hallows : allows operation)
      (hrun : Operated deployer allows keeps start world) :
      Operated deployer allows keeps start ((operation.act deployer).perform world).2
  | pass {world : World σ} (machine : σ) (hkeeps : keeps world machine)
      (hrun : Operated deployer allows keeps start world) :
      Operated deployer allows keeps start { world with machine }

abbrev OperatedFreely [Machine σ] (deployer : Deployer) (start : World σ) : World σ → Prop :=
  Operated deployer (fun _ => True) (fun _ _ => True) start

end AppSupervisor
