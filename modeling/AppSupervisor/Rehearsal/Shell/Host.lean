import AppSupervisor.Launcher
import AppSupervisor.Rehearsal.Shell.Run

/-!
A host that runs small programs on a file tree.

A child process runs at once and to its end, unless it is to be found running: then it stays at its
first wait until it is killed.
-/

namespace AppSupervisor.Rehearsal.Shell

open AppSupervisor.Files

structure Host where
  tree : Tree
  current : Path
  stops : Bool := false
  codes : List (Option Int) := []

namespace Host

def firstPid : Nat := 1000

/-- The exit code that an ending gives a process: the negative number of the signal that ended it.
-/
def exitCode : Ending → Int
  | .killed signal => -(signal : Int)
  | ending => (ending.code : Nat)

def createNew (p : Path) (h : Host) : Except Fault Unit × Host :=
  if p.parts.any fun part => part.toList.contains '\x00' then (.error (.accident .nulInPath), h)
  else match h.tree.create (h.current.join p) (.file []) with
    | .ok tree => (.ok (), { h with tree })
    | .error cause => (.error (.os (.file cause p.toString)), h)

def refusal? (order : ChildOrder) : Option Accident :=
  let texts := order.command ++ order.environment.flatMap fun entry => [entry.1, entry.2]
  if order.command.isEmpty then some .emptyCommand
  else if order.environment.any fun entry => entry.1.toList.contains '=' then some .badVariableName
  else if texts.any fun text => text.toList.contains '\x00' then some .nulInPath
  else none

/-- Runs a program, whose output goes to the files that the order names, as far as these are still
there in the end. -/
def run (order : ChildOrder) (program name : String) (arguments : List String) (h : Host) : Host :=
  let shell : Session := {
    name
    pid := firstPid + h.codes.length
    stops := h.stops
    values := order.environment
    exported := order.environment.map Prod.fst
    tree := h.tree
    current := h.current.join order.workDir }
  let (ending, after) := runProgram stepLimit shell program name arguments
  let collect (s : Session) (toErrors : Bool) (p : Path) : Session :=
    let name := (h.current.join p).toString
    if (s.look name).isSome then s.write true name (s.told toErrors) else s
  let after := collect (collect after false order.stdout) true order.stderr
  let code? := if after.stopped then none else some (exitCode ending)
  { h with tree := after.tree, codes := h.codes ++ [code?] }

def start (order : ChildOrder) (h : Host) : Except Fault Nat × Host :=
  match refusal? order, order.command with
  | some accident, _ => (.error (.accident accident), h)
  | none, [] => (.error (.accident .emptyCommand), h)
  | none, name :: arguments =>
    match searchProgram h.tree (h.current.join order.workDir) order.environment name with
    | .error cause => (.error (.os (.file cause name)), h)
    | .ok program => (.ok (firstPid + h.codes.length), h.run order program name arguments)

end Host

instance : ChildHost Host where
  createNew := Host.createNew
  start := Host.start
  poll pid h := ((h.codes[pid - Host.firstPid]?).join, h)
  sendKill pid h := (.ok (), { h with codes := h.codes.modify (pid - Host.firstPid) fun
    | none => some (Host.exitCode (.killed 9))
    | code => code })

end AppSupervisor.Rehearsal.Shell
