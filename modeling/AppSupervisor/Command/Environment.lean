import AppSupervisor.Fault
import AppSupervisor.Pattern.Match
import AppSupervisor.Request

/-!
The environment of an instance.

An app inherits the variables whose whole names match a pattern. Its own properties go over them,
and what the supervisor has to tell goes over both.
-/

namespace AppSupervisor.Command

open AppSupervisor.Text

/-- A list of named values; a name occurs once, in the place where it was put first. -/
abbrev Variables := List (String × String)

def put (known : Variables) (name value : String) : Variables :=
  if known.any (·.1 == name) then
    known.map fun entry => if entry.1 == name then (name, value) else entry
  else known ++ [(name, value)]

def putAll (known : Variables) (more : List (String × String)) : Variables :=
  more.foldl (fun acc entry => put acc entry.1 entry.2) known

def compile (text : String) : Except Fault Pattern.Compiled :=
  match Pattern.parse text with
  | .ok pattern => .ok pattern
  | .error (.malformed cause position) =>
    .error (.badRequest (.badPattern text (.malformed cause position)))
  | .error fault => .error (.accident (.pattern fault))

def inherited (environment : Variables) (patterns : List String) : Except Fault Variables := do
  let compiled ← patterns.mapM compile
  return environment.filter fun entry => compiled.any (·.matchesWhole entry.1)

def patternsProperty : String := "appdeck.deployer.env-vars-to-inherit"

def indexVariable : String := "INSTANCE_INDEX"

def indexProperty : String := "appdeck.application.index"

def patternsFor (settings : Settings) (request : Request) : List String :=
  settings.patterns ++
    splitList ((request.deploymentProperties.lookup patternsProperty).getD "")

def deploymentVariables (deploymentId : String) : Variables :=
  [("management.namespace", deploymentId), ("endpoints.shutdown.enabled", "true"),
    ("endpoints.management.unique-names", "true")]

def environmentFor (settings : Settings) (environment : Variables) (deploymentId : String)
    (request : Request) : Except Fault Variables := do
  let kept ← inherited environment (patternsFor settings request)
  return putAll (putAll kept request.definition.properties) (deploymentVariables deploymentId)

def environmentOf (shared : Variables) (isIndexed : Bool) (port : Int) (index : Nat) : Variables :=
  putAll shared ([("server.port", toString port), (indexVariable, toString index)] ++
    if isIndexed then [(indexProperty, toString index)] else [])

end AppSupervisor.Command
