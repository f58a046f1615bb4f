import AppSupervisor.CommandLine.Help
import AppSupervisor.CommandLine.Run

/-!
The program behind the command line.

The first argument that is no option names a command. A command line that cannot be understood is
answered by the usage of the command that it fails in.
-/

namespace AppSupervisor

namespace CommandLine

inductive ProgramOption
  | version
  | help
  deriving DecidableEq, Repr

def programForms : List (OptionForm ProgramOption) :=
  [⟨.version, ["--version"], false⟩, ⟨.help, ["--help"], false⟩]

def interruptedCode : Nat := 1

end CommandLine

namespace Act

open AppSupervisor.CommandLine

variable {σ : Type} [Machine σ]

def explaining (usage command : String) (act : Act σ Nat) : Act σ Nat := do
  match ← attempt act with
  | .error (.usage cause) =>
    echoError usage
    echoError s!"Try '{command} --help' for help.\n"
    echoError ("Error: " ++ cause.message)
    return refusedCode
  | outcome => MonadExcept.ofExcept outcome

def runCommand (context : RunContext σ) (arguments : List String) : Act σ Nat :=
  explaining runUsage s!"{programName} {runName}" do
    let line ← ofExcept ((readLine runForms true arguments).mapError .usage)
    if line.options.any (·.1 == .help) then
      echo runHelp
      return 0
    else runWith context (← runOptions line)

def dispatch (context : RunContext σ) : List String → Act σ Nat
  | [] => raise (.usage .noCommand)
  | name :: rest => do
    if name == runName then runCommand context rest
    else
      let _ ← ofExcept ((readLine programForms false (name :: rest)).mapError Fault.usage)
      raise (.usage (.noSuchCommand name (Text.suggestions name [runName])))

def commands (context : RunContext σ) (arguments : List String) : Act σ Nat := do
  if arguments.isEmpty then
    echoError programHelp
    return refusedCode
  else explaining programUsage programName do
    let line ← ofExcept ((readLine programForms false arguments).mapError .usage)
    match line.options with
    | (.version, _) :: _ =>
      echo s!"{programName}, version {version}"
      return 0
    | (.help, _) :: _ =>
      echo programHelp
      return 0
    | [] => dispatch context line.arguments

def program (context : RunContext σ) (arguments : List String) : Act σ Nat := do
  match ← attempt (commands context arguments) with
  | .error .interrupted =>
    echoError ""
    echoError "Aborted!"
    return interruptedCode
  | outcome => MonadExcept.ofExcept outcome

end Act

end AppSupervisor
