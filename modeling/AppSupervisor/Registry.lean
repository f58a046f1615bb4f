import AppSupervisor.Fault

/-!
The registry of running deployments.

A deployment id is reserved before its instances are launched, so that the same id is not deployed
twice at a time; it becomes visible when all its instances are published together. Visible ids keep
the order in which they became visible.
-/

namespace AppSupervisor

structure Registry (α : Type) where
  published : List (String × α) := []
  reserved : List String := []
  deriving Repr

namespace Registry

variable {α : Type}

def get? (r : Registry α) (id : String) : Option α :=
  r.published.lookup id

def ids (r : Registry α) : List String :=
  r.published.map (·.1)

def contains (r : Registry α) (id : String) : Bool :=
  (r.get? id).isSome

def size (r : Registry α) : Nat :=
  r.published.length

def isReserved (r : Registry α) (id : String) : Bool :=
  r.reserved.contains id

def reserve (r : Registry α) (id : String) : Except Fault (Registry α) :=
  if r.contains id || r.isReserved id then .error (.alreadyDeployed id)
  else .ok { r with reserved := id :: r.reserved }

def release (r : Registry α) (id : String) : Registry α :=
  { r with reserved := r.reserved.filter (· != id) }

/-- Makes a deployment visible and drops its reservation. A visible id keeps its place. -/
def publish (r : Registry α) (id : String) (value : α) : Registry α :=
  let published := if r.contains id then
      r.published.map fun entry => if entry.1 == id then (id, value) else entry
    else r.published ++ [(id, value)]
  { r.release id with published }

/-- Forgets a visible deployment. Reservations stay. -/
def remove (r : Registry α) (id : String) : Registry α :=
  { r with published := r.published.filter (·.1 != id) }

def reservedNotice (id : String) : String :=
  s!"Reserved deployment id {id}"

def publishedNotice (id : String) (count : Nat) : String :=
  s!"Published deployment {id} with {count} instance(s)"

theorem ids_remove (r : Registry α) (id : String) :
    (r.remove id).ids = r.ids.filter (· != id) := by
  simp [remove, ids, List.filter_map, Function.comp_def]

end Registry

end AppSupervisor
