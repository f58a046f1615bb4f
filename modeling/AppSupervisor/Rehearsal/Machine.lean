import AppSupervisor.Deployer.Launch
import AppSupervisor.Numeral.Double
import AppSupervisor.Rehearsal.Script

/-!
A scripted machine as a machine.

Files live in a tree of their own. A launched instance writes one line to its output.
-/

namespace AppSupervisor.Rehearsal

open AppSupervisor.Files

/-! ### Files -/

def absolute (r : Rehearsal) (p : Path) : Path :=
  r.current.join p

def hasNul (p : Path) : Bool :=
  p.parts.any fun part => part.toList.contains '\x00'

def withTree {α : Type} (r : Rehearsal) (p : Path)
    (op : Tree → Path → Except (FileCause × Path) α) : Except Fault α :=
  if hasNul p then .error (.accident .nulInPath)
  else match op r.tree (r.absolute p) with
    | .ok a => .ok a
    | .error (cause, at_) => .error (.os (.file cause at_.toString))

def onTree (r : Rehearsal) (p : Path) (op : Tree → Path → Except FileCause Tree) :
    Except Fault Unit × Rehearsal :=
  match r.withTree p fun t full => (op t full).mapError (·, p) with
  | .ok tree => (.ok (), { r with tree })
  | .error fault => (.error fault, r)

def accounts : List (String × String) := [("root", "/root")]

def expandHome (r : Rehearsal) (p : Path) : Except Fault Path :=
  match p.isAbsolute, p.parts with
  | false, first :: rest =>
    if !first.startsWith "~" then .ok p
    else
      let name := (first.drop 1).toString
      let home? := if name.isEmpty then some r.home else accounts.lookup name
      let trimmed (home : String) : String :=
        String.ofList (home.toList.reverse.dropWhile (· == '/')).reverse
      match home?.map trimmed with
      | none => .error (.accident .unknownHome)
      | some home =>
        if home.startsWith "~" then .error (.accident .unknownHome)
        else
          let base := Path.ofString (if home.isEmpty then "/" else home)
          .ok { base with parts := base.parts ++ rest }
  | _, _ => .ok p

/-- The absolute path of a file without links; a path whose links lead in a circle has none. -/
def resolve (r : Rehearsal) (p : Path) : Except Fault Path := do
  let p ← r.expandHome p
  if hasNul p then throw (.accident .nulInPath)
  let found := r.tree.resolve r.current p
  match r.tree.find true found with
  | .error .linkLoop => throw (.accident (.linkLoop found.toString))
  | _ => return found

def isFile (r : Rehearsal) (p : Path) : Except Fault Bool :=
  if hasNul p then .ok false
  else match r.tree.find true (r.absolute p) with
    | .ok place => match r.tree.entries.getD place.id .device with
      | .file _ => .ok true
      | _ => .ok false
    | .error .noEntry | .error .notDirectory | .error .linkLoop => .ok false
    | .error cause => .error (.os (.file cause p.toString))

def look (s : String) (r : Rehearsal) : Except Fault FileKind :=
  if s.toList.contains '\x00' then .error (.accident .nulInPath)
  else match r.tree.findText r.current s with
    | .error cause => .error (.os (.file cause s))
    | .ok place => match r.tree.entries.getD place.id .device with
      | .file _ => .ok .regular
      | .directory _ => .ok .directory
      | _ => .ok .other

/-- Makes a directory and its parents. Faults name the path as it was given. -/
def makeDirectories (r : Rehearsal) (p : Path) : Except Fault Unit × Rehearsal :=
  let given (full : Path) : Path :=
    if p.isAbsolute then full else { p with parts := full.parts.drop r.current.parts.length }
  match r.withTree p fun t full =>
      (t.makeDirectories full.slashes full.parts.reverse).mapError fun (cause, at_) =>
        (cause, given at_) with
  | .ok tree => (.ok (), { r with tree })
  | .error fault => (.error fault, r)

def fourDigits (n : Nat) : String :=
  let digits := toString n
  String.ofList (List.replicate (4 - digits.length) '0') ++ digits

def makeTemporaryFrom (start : String) (above : Path) :
    Nat → Rehearsal → Except Fault Path × Rehearsal
  | 0, r => (.error (.os (.file .alreadyExists above.toString)), r)
  | tries + 1, r =>
    let count := r.temporaries + 1
    let r := { r with temporaries := count }
    let path := above.child (start ++ fourDigits count)
    match r.onTree path Tree.makeDirectory with
    | (.ok _, r) => (.ok path, r)
    | (.error (.os (.file .alreadyExists _)), r) => makeTemporaryFrom start above tries r
    | (.error fault, r) => (.error fault, r)

def makeTemporary (start : String) (above : Path) (r : Rehearsal) :
    Except Fault Path × Rehearsal :=
  let full := r.absolute above
  makeTemporaryFrom start { full with parts := Tree.collapse full.parts }
    (r.tree.entries.size + 1) r

/-- Deletes a directory with all it holds. Links and files stay. -/
def removeTree (p : Path) (r : Rehearsal) : Rehearsal :=
  match r.tree.find false (r.absolute p) with
  | .ok place =>
    if r.tree.isDirectory place.id then (r.onTree p Tree.remove).2 else r
  | .error _ => r

def openFile (p : Path) (r : Rehearsal) : Except Fault Nat × Rehearsal :=
  (r.withTree p fun t full => match t.find true full with
    | .ok place => if t.isDirectory place.id then .error (.isDirectory, p) else .ok place.id
    | .error cause => .error (cause, p), r)

def writeFile (p : Path) (bytes : List UInt8) (r : Rehearsal) : Except Fault Unit × Rehearsal :=
  r.onTree p fun t full => t.writeFile full bytes

def touchFile (p : Path) (r : Rehearsal) : Except Fault Unit × Rehearsal :=
  r.onTree p fun t full => match t.find true full with
    | .ok _ => .ok t
    | .error .noEntry => t.create full (.file [])
    | .error cause => .error cause

/-! ### Launching -/

def launch (order : LaunchOrder) (r : Rehearsal) : Except Fault Nat × Rehearsal :=
  let call := r.launchCount
  let r := { r with launchCount := call + 1 }
  match r.launchFaults.lookup call with
  | some fault => (.error fault, r)
  | none =>
    let (stdout, stderr) := logPaths order.workDir order.index
    match writeFile stdout s!"instance {order.index} started\n".toUTF8.toList r with
    | (.error fault, r) => (.error fault, r)
    | (.ok _, r) => match touchFile stderr r with
      | (.error fault, r) => (.error fault, r)
      | (.ok _, r) =>
        let (pid, r) := r.startProcess
        (.ok pid, r)

instance : Machine Rehearsal where
  now := Rehearsal.clock
  sleep seconds r :=
    let r := { r with sleeps := r.sleeps + 1 }
    if r.interruptFrom.any (· ≤ r.sleeps) then (.error .interrupted, r)
    else (.ok (), { r with clock := r.clock + seconds })
  stamp r := (firstStamp + r.stamps, { r with stamps := r.stamps + 1 })
  draw low high r :=
    let d := r.draws.getD r.drawCount r.drawCount
    (low + d % (high - low + 1), { r with drawCount := r.drawCount + 1 })
  isPortFree port _ r := (.ok (!r.busyPorts.contains port), r)
  exitCode pid r := r.exitCode pid
  kill pid r := r.modifyProcess pid fun p => p.killed r.clock
  httpGet url timeout := request false url (.ofFloat timeout)
  httpPost url timeout := request true url (.finite timeout)
  launch := launch
  look := look
  mayRead text r := (look text r).isOk
  resolve p r := r.resolve p
  isFile p r := r.isFile p
  makeDirectories p r := r.makeDirectories p
  makeDirectory mayExist p r := r.onTree p fun t full => t.makeDirectoryAt mayExist full
  makeTemporary := makeTemporary
  removeTree := removeTree
  openFile := openFile
  readFrom file offset r := (r.tree.bytes file).drop offset

end AppSupervisor.Rehearsal
