import AppSupervisor.Rehearsal.Shell.Form
import AppSupervisor.Rehearsal.Shell.Programs
import AppSupervisor.Rehearsal.Shell.Script
import AppSupervisor.Rehearsal.Shell.Signal

/-!
Sessions of a small shell.

A session has variables, a current directory in a file tree and the three usual streams. A part of a
script that runs on its own leaves only its output and its exit code behind.
-/

namespace AppSupervisor.Rehearsal.Shell

open AppSupervisor.Files

/-- How a program or a command ends: with an exit code, with an exit code of the whole shell, by a
signal, by leaving the function around it, or by leaving a number of the loops around it or going on
with the next round of the last of these. -/
inductive Ending
  | finished (code : Nat)
  | left (code : Nat)
  | killed (signal : Nat)
  | returned (code : Nat)
  | loopLeft (levels : Nat)
  | roundLeft (levels : Nat)
  deriving DecidableEq, Repr

def Ending.code : Ending → Nat
  | .finished code | .left code | .returned code => code % 256
  | .killed signal => 128 + signal
  | .loopLeft _ | .roundLeft _ => 0

def Ending.resume : Ending → Ending
  | .left code | .returned code => .finished code
  | .loopLeft _ | .roundLeft _ => .finished 0
  | ending => ending

structure Written where
  toErrors : Bool
  text : String
  deriving DecidableEq, Repr

inductive Sink
  | out
  | err
  | process (toErrors : Bool)
  | nowhere
  | file (name : String)
  deriving DecidableEq, Repr

/-- A shell. With `stops`, the first wait ends it. A trap is a script that runs when a signal comes,
or at the end for the number 0; an empty one makes the shell deaf to the signal. With `failsFast`, a
command that fails ends the shell unless it is `tested`. The last piece of output stands first. -/
structure Session where
  name : String
  pid : Nat
  stops : Bool := false
  stopped : Bool := false
  values : List (String × String) := []
  exported : List String := []
  functions : List (String × Command) := []
  hidden : List (String × Option String) := []
  traps : List (Nat × String) := []
  arguments : List String := []
  status : Nat := 0
  line : Nat := 1
  job : Nat := 0
  jobStops : Bool := false
  outputCode : Nat := 0
  loops : Nat := 0
  failsFast : Bool := false
  isStrict : Bool := false
  tested : Bool := false
  fault? : Option String := none
  tree : Tree
  current : Path
  input : String := ""
  outTo : Sink := .out
  errTo : Sink := .err
  channels : List (Nat × Sink) := []
  written : List Written := []

def shellSearch : String := "/usr/local/sbin:/usr/local/bin:/usr/sbin:/usr/bin:/sbin:/bin"

namespace Session

def value? (s : Session) (name : String) : Option String :=
  if name == "?" then some (toString s.status)
  else if name == "$" then some (toString s.pid)
  else if name == "!" then some (toString (s.pid + 1))
  else if name == "-" then some (if s.failsFast then "e" else "")
  else if name == "#" then some (toString s.arguments.length)
  else if name == "@" || name == "*" then
    if s.arguments.isEmpty then none else some (" ".intercalate s.arguments)
  else match name.toNat? with
    | some 0 => some s.name
    | some n => s.arguments[n - 1]?
    | none => s.values.lookup name

def set (s : Session) (name value : String) : Session :=
  { s with values := (name, value) :: s.values.filter (·.1 != name) }

def unset (s : Session) (name : String) : Session :=
  { s with
    values := s.values.filter (·.1 != name)
    exported := s.exported.filter (· != name) }

def share (s : Session) (name value : String) : Session :=
  let changed := s.set name value
  { changed with exported := name :: s.exported }

def hide (s : Session) (name : String) (value? : Option String) : Session :=
  let s := { s with hidden := (name, s.values.lookup name) :: s.hidden }
  match value? with
  | some value => s.set name value
  | none => s

def reveal (s : Session) : Session :=
  s.hidden.foldl (fun s (name, value?) => match value? with
    | some value => s.set name value
    | none => s.unset name) s

def enter (s : Session) (current : Path) : Session :=
  let old := (s.values.lookup "PWD").getD s.current.toString
  let changed := (s.set "OLDPWD" old).set "PWD" current.toString
  { changed with current }

def environment (s : Session) : List (String × String) :=
  s.values.filter fun entry => s.exported.contains entry.1

def look (s : Session) (name : String) : Option Entry :=
  match s.tree.findText s.current name with
  | .ok place => s.tree.entries[place.id]?
  | .error _ => none

def write (s : Session) (appending : Bool) (name text : String) : Session :=
  let old := match s.look name with
    | some (.file bytes) => if appending then bytes else []
    | _ => []
  match s.tree.writeFile (s.current.join (.ofString name)) (old ++ text.toUTF8.toList) with
  | .ok tree => { s with tree }
  | .error _ => s

def push (s : Session) (text : String) : Sink → Session
  | .out | .process false => { s with written := ⟨false, text⟩ :: s.written }
  | .err | .process true => { s with written := ⟨true, text⟩ :: s.written }
  | .nowhere => s
  | .file name => s.write true name text

def tell (s : Session) (toErrors : Bool) (text : String) : Session :=
  if text.isEmpty then s else s.push text (if toErrors then s.errTo else s.outTo)

def resolve (s : Session) : Sink → Sink
  | .out => match s.outTo with
    | .out => .process false
    | sink => sink
  | .err => match s.errTo with
    | .err => .process true
    | sink => sink
  | sink => sink

def deliver (s : Session) (text : String) (sink : Sink) : Session :=
  if text.isEmpty then s else s.push text (s.resolve sink)

def told (s : Session) (toErrors : Bool) : String :=
  String.join ((s.written.reverse.filter (·.toErrors == toErrors)).map (·.text))

def after (s : Session) (f : Finished) : Ending × Session :=
  (.finished f.code, (s.tell false f.out).tell true f.err)

def complain (s : Session) (text : String) : Session :=
  s.tell true s!"{s.name}: {s.line}: {text}\n"

def fail (s : Session) (text : String) : Ending × Session :=
  (.finished 2, s.complain text)

def abandon (s : Session) (text : String) : Ending × Session :=
  (.left 2, s.complain text)

def inheritedTraps (s : Session) : List (Nat × String) :=
  s.traps.filter (·.2.isEmpty)

def begin (s : Session) (name : String) (arguments : List String) : Session :=
  let known : List (String × String) := s.environment.filter fun e => isName e.1
  let fresh : Session := {
    name
    pid := s.pid
    stops := s.stops
    stopped := s.stopped
    arguments
    values := known
    exported := known.map Prod.fst
    traps := s.inheritedTraps
    tree := s.tree
    current := s.current
    input := s.input
    outTo := s.outTo
    errTo := s.errTo
    channels := s.channels
    written := s.written }
  let fresh := if (fresh.values.lookup "PATH").isSome then fresh else fresh.set "PATH" shellSearch
  fresh.share "PWD" s.current.toString

def allNamesAt (s : Session) (directory : String) : List String :=
  let names : List String := match s.tree.findText s.current directory with
    | .ok place => (s.tree.names place.id).map Prod.fst
    | .error _ => []
  names.mergeSort fun a b => !decide (b < a)

def namesAt (s : Session) (directory : String) : List String :=
  (s.allNamesAt directory).filter fun name => !name.startsWith "."

/-- The names in the current directory that have a form, in order; a text itself if there are none.
-/
def matching (s : Session) (form : Form) (text : String) : List String :=
  let found := (s.namesAt ".").filter fun name => fits form name.toList
  if found.isEmpty then [text] else found

def list (s : Session) (arguments : List String) : Ending × Session :=
  let name := (arguments.filter fun word => !word.startsWith "-").headD "."
  let names := if arguments.contains "-a" then [".", ".."] ++ s.allNamesAt name else s.namesAt name
  match s.look name with
  | some (.directory _) => s.after { out := String.join (names.map (· ++ "\n")) }
  | some _ => s.after { out := name ++ "\n" }
  | none => s.after {
      code := 2
      err := s!"ls: cannot access '{name}': No such file or directory\n" }

def makeDirectories (s : Session) (arguments : List String) : Ending × Session :=
  let mayExist := arguments.contains "-p"
  let names := arguments.filter fun word => !word.startsWith "-"
  let parts (name : String) : List String := pieces '/' name
  let wanted := if mayExist then names.flatMap fun name =>
      (List.range (parts name).length).map fun n => "/".intercalate ((parts name).take (n + 1))
    else names
  (wanted.filter (· != "")).foldl (fun (ending, s) name =>
    match s.tree.makeDirectory (s.current.join (.ofString name)) with
    | .ok tree => (ending, { s with tree })
    | .error cause =>
      if mayExist && cause == .alreadyExists then (ending, s)
      else s.after {
        code := 1
        err := s!"mkdir: cannot create directory '{name}': {cause.describe.2}\n" })
    (.finished 0, s)

def removeAll (s : Session) (arguments : List String) : Ending × Session :=
  let options := (String.join (arguments.filter (·.startsWith "-"))).toList
  (arguments.filter fun word => !word.startsWith "-").foldl (fun (ending, s) name =>
    let refuse (cause : FileCause) : Ending × Session := s.after {
      code := 1
      err := s!"rm: cannot remove '{name}': {cause.describe.2}\n" }
    match s.look name, s.tree.remove (s.current.join (.ofString name)) with
    | _, .error cause => if options.contains 'f' then (ending, s) else refuse cause
    | some (.directory _), .ok tree =>
      if options.contains 'r' then (ending, { s with tree }) else refuse .isDirectory
    | _, .ok tree => (ending, { s with tree }))
    (.finished 0, s)

def resume (s inner : Session) : Session :=
  { s with tree := inner.tree, written := inner.written, stopped := inner.stopped }

def giveUp (s : Session) : Ending × Session :=
  if s.stops then (.killed 9, { s with stopped := true }) else (.left 1, s)

def trap (s : Session) (action? : Option String) : List String → Except String Session
  | [] => .ok s
  | word :: rest => match signal? 0 word with
    | none => .error word
    | some signal =>
      let others := s.traps.filter (·.1 != signal)
      let added := if untrappedSignals.contains signal then none else action?
      { s with traps := (added.map ((signal, ·))).toList ++ others }.trap action? rest

def quoted (text : String) : String :=
  "'" ++ String.join (text.toList.map fun c => if c == '\'' then "'\"'\"'" else String.singleton c)
    ++ "'"

def listTraps (s : Session) : Ending × Session :=
  let inOrder := s.traps.mergeSort fun a b => a.1 ≤ b.1
  s.after { out := String.join (inOrder.map fun (signal, action) =>
    s!"trap -- {quoted action} {signalName signal}\n") }

def configure (s : Session) : List String → Session
  | [] => s
  | "--" :: rest => { s with arguments := rest }
  | word :: rest => match word.toList with
    | '-' :: letter :: letters =>
      let on (c : Char) : Bool := (letter :: letters).contains c
      { s with failsFast := s.failsFast || on 'e', isStrict := s.isStrict || on 'u' }.configure rest
    | '+' :: letters =>
      let off (c : Char) : Bool := letters.contains c
      { s with
        failsFast := s.failsFast && !off 'e'
        isStrict := s.isStrict && !off 'u' }.configure rest
    | _ => { s with arguments := word :: rest }

def readInput (s : Session) (names : List String) : Ending × Session :=
  let names := names.filter (· != "-r")
  let line := s.input.toList.takeWhile (· != '\n')
  let rest := s.input.toList.drop line.length
  let s := { s with input := String.ofList (rest.drop 1) }
  let text := (String.ofList line).trimAscii.toString
  let s := match names with
    | [] => s
    | [name] => s.set name text
    | name :: others =>
      let words := (text.splitOn " ").filter (· != "")
      (others.zipIdx.foldl (fun s (other, i) =>
        if i + 1 == others.length then s.set other (" ".intercalate (words.drop (i + 1)))
        else s.set other (words.getD (i + 1) "")) s).set name (words.headD "")
  (.finished (if rest.isEmpty then 1 else 0), s)

def sendSignal (s : Session) (signal : Nat) : Nat → List String → Ending × Session
  | code, [] => (.finished code, s)
  | code, target :: rest =>
    let digits := if target.startsWith "-" then (target.drop 1).toString else target
    if target.startsWith "%" then s.fail s!"kill: No such job: {target}"
    else if digits.isEmpty || !digits.toList.all Char.isDigit then
      s.fail s!"kill: Illegal number: {digits}"
    else if target == toString s.pid then
      if harmlessSignals.contains signal then s.sendSignal signal code rest else (.killed signal, s)
    else if target == toString (s.pid + 1) then s.sendSignal signal code rest
    else (s.complain "kill: No such process\n").sendSignal signal 1 rest

def kill (s : Session) (arguments : List String) : Ending × Session :=
  let usage :=
    "kill: Usage: kill [-s sigspec | -signum | -sigspec] [pid | job]... or\nkill -l [exitstatus]"
  match arguments with
  | [] => s.fail usage
  | option :: targets => match option.toList, targets with
    | '-' :: letters, targets =>
      match signal? 1 (String.ofList letters), letters, targets with
      | some _, _, [] => s.fail usage
      | some signal, _, targets => s.sendSignal signal 0 targets
      | none, ['s'], [] => s.fail "kill: No arg for -s option"
      | none, ['s'], name :: targets => match signal? 1 name, targets with
        | none, _ => s.fail s!"kill: invalid signal number or name: {name}"
        | _, [] => s.fail usage
        | some signal, targets => s.sendSignal signal 0 targets
      | none, ['l'], number :: _ => match number.toNat? with
        | none => s.fail s!"kill: Illegal number: {number}"
        | some n => s.after { out := signalName (if n < 128 then n else n - 128) ++ "\n" }
      | none, c :: _, _ => s.fail s!"kill: Illegal option -{String.singleton c}"
      | none, [], targets => s.sendSignal 15 0 targets
    | _, _ => s.sendSignal 15 0 arguments

end Session

end AppSupervisor.Rehearsal.Shell
