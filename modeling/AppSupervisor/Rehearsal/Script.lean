import AppSupervisor.Files.Tree
import AppSupervisor.Machine
import AppSupervisor.Status

/-!
Scripted machines.

A rehearsal is a machine without a clock, processes, a network or files of its own: all of these
follow a script. Time passes only when something waits. A process exits when the script says so or
when it is killed. Requests get the replies that the script has for them, one after another, the
last one again and again.
-/

namespace AppSupervisor

open AppSupervisor.Files

namespace Rehearsal

structure ProcessScript where
  exited : Option Int := none
  exits : List (Rat × Int) := []
  isHidden : Bool := false
  isStubborn : Bool := false

/-- A process: its exit code once it is settled, the times at which it is to exit with a code,
whether it cannot be asked, whether it cannot be killed, and how often somebody tried to. -/
structure Process where
  code : Option Int := none
  due : List (Rat × Int) := []
  isHidden : Bool := false
  isStubborn : Bool := false
  kills : Nat := 0
  deriving Inhabited

def ProcessScript.start (script : ProcessScript) (now : Rat) : Process where
  code := script.exited
  due := script.exits.map fun entry => (now + entry.1, entry.2)
  isHidden := script.isHidden
  isStubborn := script.isStubborn

def earliest : List (Rat × Int) → Option (Rat × Int)
  | [] => none
  | entry :: rest => match earliest rest with
    | none => some entry
    | some other => if other.1 < entry.1 then some other else some entry

def Process.settle (p : Process) (now : Rat) : Process :=
  match p.code with
  | some _ => p
  | none => { p with code := (earliest (p.due.filter fun entry => entry.1 ≤ now)).map (·.2) }

def Process.killed (p : Process) (now : Rat) : Process :=
  let p := p.settle now
  { p with
    kills := p.kills + 1
    code := if p.code.isNone && !p.isStubborn then some (-9) else p.code }

structure Reply where
  result : Except Fault Int
  delay : Rat := 0
  exits : List (Nat × Int × Rat) := []
  forgotten : List String := []

structure Rule where
  isPost : Bool
  url : String
  replies : List Reply

end Rehearsal

open Rehearsal

structure Rehearsal where
  clock : Rat := 0
  sleeps : Nat := 0
  interruptFrom : Option Nat := none
  stamps : Nat := 0
  temporaries : Nat := 0
  busyPorts : List Int := []
  draws : List Int := []
  drawCount : Nat := 0
  scripts : List ProcessScript := []
  processes : Array Process := #[]
  rules : List Rule := []
  launchCount : Nat := 0
  launchFaults : List (Nat × Fault) := []
  statuses : List (Except Fault (List State)) := []
  attributes : List (String × String) := []
  deployFault : Option Fault := none
  undeployFault : Option Fault := none
  tree : Tree := .empty
  current : Path := ⟨1, []⟩
  home : String := "/"

namespace Rehearsal

def firstPid : Nat := 40000

def firstStamp : Nat := 1000

/-! ### Processes -/

def startProcess (r : Rehearsal) : Nat × Rehearsal :=
  let n := r.processes.size
  let script := r.scripts.getD n {}
  (firstPid + n, { r with processes := r.processes.push (script.start r.clock) })

def modifyProcess (r : Rehearsal) (pid : Nat) (f : Process → Process) : Rehearsal :=
  { r with processes := r.processes.modify (pid - firstPid) f }

def settleAll (r : Rehearsal) : Rehearsal :=
  { r with processes := r.processes.map (·.settle r.clock) }

def exitCode (r : Rehearsal) (pid : Nat) : Except Fault (Option Int) × Rehearsal :=
  match r.processes[pid - firstPid]? with
  | none => (.ok none, r)
  | some p =>
    if p.isHidden then (.error (.os (.stated "OSError" "cannot query")), r)
    else
      let p := p.settle r.clock
      (.ok p.code, r.modifyProcess pid fun _ => p)

/-! ### Requests -/

def takeReply (isPost : Bool) (url : String) : List Rule → Option Reply × List Rule
  | [] => (none, [])
  | rule :: rest =>
    if rule.isPost == isPost && rule.url == url then
      match rule.replies with
      | reply :: next :: more => (some reply, { rule with replies := next :: more } :: rest)
      | replies => (replies.head?, rule :: rest)
    else
      let (reply, rest) := takeReply isPost url rest
      (reply, rule :: rest)

def exceeds (delay : Rat) : Numeral.Double → Bool
  | .finite timeout => timeout < delay
  | .infinity negative => negative
  | .undefined => false

/-- The answer to a request. A request that takes too long ends when its time is over. -/
def request (isPost : Bool) (url : String) (timeout : Numeral.Double) (r : Rehearsal) :
    HttpOutcome × Rehearsal :=
  let (reply?, rules) := takeReply isPost url r.rules
  let r := { r with rules }
  match reply? with
  | none => (⟨.error (.http "ConnectionError" "refused"), []⟩, r)
  | some reply =>
    if exceeds reply.delay timeout then
      let passed := match timeout with
        | .finite seconds => seconds
        | _ => 0
      (⟨.error (.http "ReadTimeout" "timed out"), []⟩, { r with clock := r.clock + passed })
    else
      let r := { r with clock := r.clock + reply.delay }
      let r := reply.exits.foldl (fun r (index, code, later) =>
        r.modifyProcess (firstPid + index) fun p =>
          { p with due := p.due ++ [(r.clock + later, code)] }) r
      (⟨reply.result, reply.forgotten⟩, r)

end Rehearsal

end AppSupervisor
