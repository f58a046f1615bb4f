import AppSupervisor.CommandLine.Option
import AppSupervisor.Machine
import AppSupervisor.Numeral.Integer
import AppSupervisor.Numeral.Real

/-!
The options of the command that runs an app.

Values are read in the order in which the options were given first, and the artifact after them; the
first value that cannot be read is the one that is reported. Of several values of an option that has
only one, the last counts.
-/

namespace AppSupervisor.CommandLine

open AppSupervisor.Files AppSupervisor.Numeral AppSupervisor.Text

inductive RunOption
  | name
  | group
  | count
  | property
  | deploymentProperty
  | argument
  | config
  | waitTimeout
  | noSupervise
  | verbose
  | quiet
  | help
  deriving DecidableEq, Repr

def runForms : List (OptionForm RunOption) :=
  [⟨.name, ["--name"], true⟩, ⟨.group, ["--group"], true⟩, ⟨.count, ["--count"], true⟩,
    ⟨.property, ["--property", "-p"], true⟩,
    ⟨.deploymentProperty, ["--deployment-property", "-D"], true⟩, ⟨.argument, ["--arg"], true⟩,
    ⟨.config, ["--config"], true⟩, ⟨.waitTimeout, ["--wait-timeout"], true⟩,
    ⟨.noSupervise, ["--no-supervise"], false⟩, ⟨.verbose, ["--verbose", "-v"], false⟩,
    ⟨.quiet, ["--quiet", "-q"], false⟩, ⟨.help, ["--help"], false⟩]

/-- What the command is asked to do. An empty name stands for that of the artifact, an empty group
for none. -/
structure RunOptions where
  artifact : Path := .ofString ""
  name : String := ""
  group : String := ""
  count : Int := 1
  properties : List String := []
  deploymentProperties : List String := []
  arguments : List String := []
  config : Option Path := none
  waitTimeout : Float := 60.0
  supervise : Bool := true
  verbose : Bool := false
  quiet : Bool := false

def readCount (text : String) : Except ValueCause Int :=
  match parseInteger text with
  | .error _ => .error (.notInteger text)
  | .ok count => if count < 1 then .error (.countTooSmall count) else .ok count

def readTime (text : String) : Except ValueCause Float :=
  (parseReal text).mapError fun _ => .notReal text

def keysOf (options : List (Given RunOption)) : List RunOption :=
  let collect (keys : List RunOption) (given : Given RunOption) : List RunOption :=
    if keys.contains given.1 then keys else given.1 :: keys
  (options.foldl collect []).reverse

end AppSupervisor.CommandLine

namespace AppSupervisor.Act

open AppSupervisor.CommandLine AppSupervisor.Files

variable {σ α : Type}

def valueAt (place : String) (value : Except ValueCause α) : Act σ α :=
  ofExcept (value.mapError fun cause => .usage (.badValue (Text.quote place) cause))

variable [Machine σ]

def readableFile (place text : String) : Act σ Path := do
  if ← askMachine (Machine.mayRead text) then return .ofString text
  else valueAt place (.error (.unreadableFile text))

/-- The path of a file, which has to be there, to be no directory and to be readable. -/
def filePath (place text : String) : Act σ Path := do
  match ← attempt (tryAskMachine (Machine.look text)) with
  | .ok .directory => valueAt place (.error (.directory text))
  | .ok _ => readableFile place text
  | .error (.os _) => valueAt place (.error (.missingFile text))
  | .error fault => throw fault

def setOption (options : RunOptions) (values : List String) : RunOption → Act σ RunOptions
  | .name => return { options with name := values.getLastD "" }
  | .group => return { options with group := values.getLastD "" }
  | .count => return { options with
      count := ← valueAt "--count" (readCount (values.getLastD "")) }
  | .property => return { options with properties := values }
  | .deploymentProperty => return { options with deploymentProperties := values }
  | .argument => return { options with arguments := values }
  | .config => return { options with config := some (← filePath "--config" (values.getLastD "")) }
  | .waitTimeout => return { options with
      waitTimeout := ← valueAt "--wait-timeout" (readTime (values.getLastD "")) }
  | .noSupervise => return { options with supervise := false }
  | .verbose => return { options with verbose := true }
  | .quiet => return { options with quiet := true }
  | .help => return options

def runOptions (line : Parsed RunOption) : Act σ RunOptions := do
  let options ← (keysOf line.options).foldlM
    (fun options key => setOption options (valuesOf key line.options) key) {}
  match line.arguments with
  | [] => raise (.usage (.noArgument "ARTIFACT"))
  | artifact :: extra =>
    let path ← filePath "ARTIFACT" artifact
    if extra.isEmpty then return { options with artifact := path }
    else raise (.usage (.extraArguments extra))

end AppSupervisor.Act
