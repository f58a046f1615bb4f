import AppSupervisor.CommandLine.Program
import AppSupervisor.Document.Json
import AppSupervisor.Rehearsal.Reading

/-!
The program on a scripted machine.

The arguments are those of the command line. The standard input describes the machine in a JSON
document: its files, what its processes are going to do, the replies to network requests, and under
`environment` the environment of the supervisor. A fault is a map with its kind and its message. An
empty input describes a machine without files.
-/

namespace AppSupervisor.Main

open AppSupervisor.Files

def currentDirectory : Path := .ofString "/home/supervisor"

def hostDefaults : HostDefaults := ⟨"/tmp", "launcher"⟩

def horizon : Nat := 1000000

def networkFault (v : Value) : Fault :=
  .http (v.field "kind").asText (v.field "message").asText

def otherFault (v : Value) : Fault :=
  .os (.stated (v.field "kind").asText (v.field "message").asText)

/-- Runs the program on the machine that a document describes, and tells the exit code and the texts
that are printed, the second as error output. -/
def rehearse (document : Value) (arguments : List String) : Nat × String × String :=
  let environment := (document.field "environment").entries.map fun e => (e.1, e.2.asText)
  let machine := Rehearsal.ofValue currentDirectory ((environment.lookup "HOME").getD "/root")
    networkFault otherFault document
  let context : CommandLine.RunContext Rehearsal := {
    host := hostDefaults
    environment
    connect := fun settings => Deployer.connect { settings, environment }
    horizon }
  let (code, world) := (Act.program context arguments).perform { machine }
  let text (toErrors : Bool) := CommandLine.printedText false toErrors world.journal
  match code with
  | .ok code => (code, text false, text true)
  | .error fault => (1, text false, text true ++ fault.message ++ "\n")

partial def readAll (stream : IO.FS.Stream) (found : String) : IO String := do
  let line ← stream.getLine
  if line.isEmpty then return found else readAll stream (found ++ line)

end AppSupervisor.Main

def main (arguments : List String) : IO UInt32 := do
  let text ← AppSupervisor.Main.readAll (← IO.getStdin) ""
  let document? := if text.trimAscii.isEmpty then some (AppSupervisor.Value.map [])
    else AppSupervisor.Json.parse? text.toList
  match document? with
  | none =>
    IO.eprintln "The description of the machine is no JSON document."
    return 2
  | some document =>
    let (code, out, err) := AppSupervisor.Main.rehearse document arguments
    IO.print out
    IO.eprint err
    return code.toUInt32
