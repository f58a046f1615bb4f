import AppSupervisor.Fault
import AppSupervisor.Numeral.Integer
import AppSupervisor.Resource
import AppSupervisor.Settings

/-!
Requests to deploy an app.

A request says what to run and, in its deployment properties, how many instances, in which group and
with which launcher options. The app itself sees its own properties and arguments only.
-/

namespace AppSupervisor

open AppSupervisor.Numeral AppSupervisor.Text

structure Definition where
  name : String
  properties : List (String × String) := []
  deriving DecidableEq, Repr

structure Request where
  definition : Definition
  resource : Resource
  deploymentProperties : List (String × String) := []
  arguments : List String := []

def Definition.read : Value → Checked Definition :=
  readRecord "AppDefinition" fun entries => do
    let fields :=
      both (readField entries "name" none readNonEmpty)
        (readField entries "properties" (some []) readTexts)
    let ((name, properties), _) ← both fields (refuseExtra entries ["name", "properties"])
    return { name, properties }

/-- Reads a request from entries. An artifact that has been made already is given beside its entry.
-/
def Request.ofEntries (resource? : Option Resource) (entries : Entries) : Checked Request := do
  let readResource (_ : Value) : Checked Resource :=
    match resource? with
    | some resource => .ok resource
    | none => refuse .notResource
  let fields :=
    both (readField entries "definition" none Definition.read) <|
    both (readField entries "resource" none readResource) <|
    both (readField entries "deployment_properties" (some []) readTexts)
      (readField entries "commandline_arguments" (some []) (readList readText))
  let ((definition, resource, deploymentProperties, arguments), _) ←
    both fields (refuseExtra entries
      ["definition", "resource", "deployment_properties", "commandline_arguments"])
  return { definition, resource, deploymentProperties, arguments }

def isMissing (entries : Entries) (name : String) : Bool :=
  match entries.lookup name with
  | none | some .null => true
  | some _ => false

/-- Reads a request. A request needs a definition and an artifact; null stands for the default of
its other fields. -/
def Request.read (resource? : Option Resource) (v : Value) : Except Fault Request :=
  let checked (c : Checked Request) : Except Fault Request := c.mapError .invalidFields
  match v with
  | .map entries => match Value.entries? entries with
    | none => checked (refuse (.notRecord "AppDeploymentRequest"))
    | some entries =>
      if isMissing entries "definition" then .error (.badRequest .noDefinition)
      else if isMissing entries "resource" && resource?.isNone then .error (.badRequest .noResource)
      else
        let isDefault (entry : String × Value) : Bool :=
          ["deployment_properties", "commandline_arguments"].contains entry.1 &&
            isMissing entries entry.1
        checked (Request.ofEntries resource? (entries.filter fun entry => !isDefault entry))
  | _ => checked (refuse (.notRecord "AppDeploymentRequest"))

def groupProperty : String := "appdeck.deployer.group"

def indexedProperty : String := "appdeck.deployer.indexed"

def groupDeploymentProperty : String := "appdeck.group-deployment-id"

/-- The group of a request; an empty name means the default group. -/
def Request.group (request : Request) : String :=
  match request.deploymentProperties.lookup groupProperty with
  | some group => if group.isEmpty then defaultGroup else group
  | none => defaultGroup

def Request.deploymentId (request : Request) : String :=
  s!"{request.group}.{request.definition.name}"

/-- The number of instances that deployment properties ask for; one if they do not say. -/
def instanceCount (properties : List (String × String)) : Except Fault Nat :=
  match properties.lookup countProperty with
  | none => .ok 1
  | some value =>
    if isBlankText value then .ok 1
    else match parseInteger (trim value) with
      | .error _ => .error (.badRequest (.countNotInteger value))
      | .ok count =>
        if count < 1 then .error (.badRequest (.countTooSmall count)) else .ok count.toNat

def isIndexed (properties : List (String × String)) : Bool :=
  (trim ((properties.lookup indexedProperty).getD "")).map Char.toLower == "true"

end AppSupervisor
