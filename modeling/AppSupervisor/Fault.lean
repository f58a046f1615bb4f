import AppSupervisor.CommandLine.Usage
import AppSupervisor.Document.Mark
import AppSupervisor.Field
import AppSupervisor.Pattern.Fault

/-!
What can go wrong.

A fault says what kind of failure it is and carries its cause; the words are made from the cause by
one function. Faults that a collaborator reports in its own words keep these words.
-/

namespace AppSupervisor

open AppSupervisor.Text (quote Utf8Fault)

inductive FileCause
  | noEntry
  | notDirectory
  | isDirectory
  | alreadyExists
  | linkLoop
  | nameTooLong
  | notPermitted
  | notExecutable
  deriving DecidableEq, Repr

def FileCause.describe : FileCause → Nat × String
  | .noEntry => (2, "No such file or directory")
  | .notDirectory => (20, "Not a directory")
  | .isDirectory => (21, "Is a directory")
  | .alreadyExists => (17, "File exists")
  | .linkLoop => (40, "Too many levels of symbolic links")
  | .nameTooLong => (36, "File name too long")
  | .notPermitted => (13, "Permission denied")
  | .notExecutable => (8, "Exec format error")

inductive OsFault
  | file (cause : FileCause) (path : String)
  | missingArtifact (path : String)
  | stated (kind message : String)
  deriving DecidableEq, Repr

def OsFault.message : OsFault → String
  | .file cause path => s!"[Errno {cause.describe.1}] {cause.describe.2}: {quote path}"
  | .missingArtifact path => "Artifact file does not exist: " ++ path
  | .stated _ message => message

inductive ConfigCause
  | invalidVariable (name message : String)
  | unreadable (path : String) (fault : OsFault)
  | invalidDocument (path : String) (text : List Char) (fault : Document.Fault)
  | noMapping (path kind : String)
  | noSection (kind : String)
  | invalidFields (faults : List FieldFault)
  | stated (message : String)
  deriving Repr

def ConfigCause.message : ConfigCause → String
  | .invalidVariable name message => s!"Invalid value in {name}: {message}"
  | .unreadable path fault => s!"Cannot read deployer configuration {path}: {fault.message}"
  | .invalidDocument path text fault => s!"Invalid YAML in {path}: {fault.message text}"
  | .noMapping path kind => s!"Expected a mapping in {path}, got {kind}"
  | .noSection kind => s!"Expected a mapping, got {kind}"
  | .invalidFields faults => faultsMessage faults
  | .stated message => message

inductive RequestCause
  | noRequest
  | noDefinition
  | noResource
  | portNotInteger (source value : String)
  | portOutOfRange (source : String) (port : Int)
  | countNotInteger (value : String)
  | countTooSmall (count : Int)
  | blankModule
  | badPattern (pattern : String) (fault : Pattern.Fault)
  | badDirectoryName (what name : String)
  | stated (message : String)
  deriving DecidableEq, Repr

def countProperty : String := "appdeck.deployer.count"

def moduleProperty : String := "appdeck.deployer.module"

def maxPort : Nat := 65535

def RequestCause.message : RequestCause → String
  | .noRequest => "request must not be None"
  | .noDefinition => "definition must not be None"
  | .noResource => "resource must not be None"
  | .portNotInteger source value => s!"{source} must be an integer, got '{value}'"
  | .portOutOfRange source port => s!"{source} must be between 1 and {maxPort}, got {port}"
  | .countNotInteger value => s!"{countProperty} must be a positive integer, got '{value}'"
  | .countTooSmall count => s!"{countProperty} must be a positive integer, got {count}"
  | .blankModule => s!"{moduleProperty} must not be blank"
  | .badPattern pattern fault =>
    s!"Invalid environment variable pattern '{pattern}': {fault.message pattern}"
  | .badDirectoryName what name => s!"{what} '{name}' cannot be used as a directory name"
  | .stated message => message

inductive AccessCause
  | artifact (description message : String)
  | workDirectory (deploymentId message : String)
  | stated (message : String)
  deriving DecidableEq, Repr

def AccessCause.message : AccessCause → String
  | .artifact description message => s!"Cannot access artifact {description}: {message}"
  | .workDirectory id message => s!"Cannot create working directory for {id}: {message}"
  | .stated message => message

inductive LaunchCause
  | noPort (low high : Int)
  | notStarted (index : Int) (message : String)
  | stated (message : String)
  deriving DecidableEq, Repr

def LaunchCause.message : LaunchCause → String
  | .noPort low high => s!"Could not find an available TCP port in the range [{low}, {high}]"
  | .notStarted index message => s!"Failed to start instance {index}: {message}"
  | .stated message => message

inductive OperationCause
  | unsupportedPlatform (platform : String)
  | ended (deploymentId state : String)
  | stated (message : String)
  deriving DecidableEq, Repr

def OperationCause.message : OperationCause → String
  | .unsupportedPlatform platform =>
    s!"Unsupported deployer platform: {platform}. Local processes are the only supported platform."
  | .ended id state => s!"{id} is {state}"
  | .stated message => message

inductive Accident
  | nulInPath
  | unknownHome
  | linkLoop (path : String)
  | keyNotText
  | integerTooLarge
  | noPortNumber
  | undecodable (fault : Utf8Fault)
  | document (fault : Document.Fault)
  | pattern (fault : Pattern.Fault)
  | emptyCommand
  | badVariableName
  deriving DecidableEq, Repr

def Accident.message : Accident → String
  | .nulInPath => "embedded null byte"
  | .unknownHome => "Could not determine home directory."
  | .linkLoop path => "Symlink loop from " ++ quote path
  | .keyNotText => "keywords must be strings"
  | .integerTooLarge => "int too large to convert to float"
  | .noPortNumber => "bind(): port must be 0-65535."
  | .undecodable fault => fault.message
  | .document fault => fault.message []
  | .pattern fault => fault.message ""
  | .emptyCommand => "list index out of range"
  | .badVariableName => "illegal environment variable name"

inductive Fault
  | plain (message : String)
  | config (field : String) (cause : ConfigCause)
  | operation (operation : String) (cause : OperationCause)
  | invalidRequest (operation : String) (cause : RequestCause)
  | illegalState (operation message : String)
  | alreadyDeployed (deploymentId : String)
  | notDeployed (deploymentId : String)
  | unusable (operation : String) (cause : AccessCause)
  | launchFailed (cause : LaunchCause) (deploymentId : Option String) (index : Option Int)
  | invalidFields (faults : List FieldFault)
  | usage (cause : CommandLine.UsageCause)
  | os (fault : OsFault)
  | http (kind message : String)
  | accident (accident : Accident)
  | foreign (kind message : String)
  | interrupted
  | horizonReached
  deriving Repr

def Fault.operation? : Fault → Option String
  | .operation name _ | .invalidRequest name _ => some name
  | .illegalState name _ | .unusable name _ => some name
  | .alreadyDeployed _ | .launchFailed _ _ _ => some "deploy"
  | .notDeployed _ => some "undeploy"
  | _ => none

def Fault.reason : Fault → String
  | .plain message => message
  | .config _ cause => cause.message
  | .operation _ cause => cause.message
  | .invalidRequest _ cause => cause.message
  | .illegalState _ message => message
  | .alreadyDeployed id => s!"App for '{id}' is already running"
  | .notDeployed id => s!"App for '{id}' is not deployed"
  | .unusable _ cause => cause.message
  | .launchFailed cause _ _ => cause.message
  | .invalidFields faults => faultsMessage faults
  | .usage cause => cause.message
  | .os fault => fault.message
  | .http _ message => message
  | .accident cause => cause.message
  | .foreign _ message => message
  | .interrupted => ""
  | .horizonReached => ""

def Fault.message (fault : Fault) : String :=
  match fault, fault.operation? with
  | .config field _, _ => s!"Configuration error in '{field}': {fault.reason}"
  | _, some name => s!"{name} failed: {fault.reason}"
  | _, none => fault.reason

def Fault.isSystem : Fault → Bool
  | .os _ | .http _ _ => true
  | _ => false

/-- Whether a fault is a failure that may be reported and passed over. An interrupt is none, and
neither is the end of the horizon. -/
def Fault.isFailure : Fault → Bool
  | .interrupted | .horizonReached => false
  | _ => true

def Fault.badRequest (cause : RequestCause) : Fault :=
  .invalidRequest "deploy" cause

def Fault.noAccess (cause : AccessCause) : Fault :=
  .unusable "deploy" cause

end AppSupervisor
