import AppSupervisor.Rehearsal.Shell.Condition
import AppSupervisor.Rehearsal.Shell.Search
import AppSupervisor.Rehearsal.Shell.Session

/-!
Commands that a shell runs by itself and that run no other command.
-/

namespace AppSupervisor.Rehearsal.Shell

open AppSupervisor.Files

namespace Session

def changeDirectory (s : Session) (names : List String) : Ending × Session :=
  let home := (s.values.lookup "HOME").getD ""
  let name := match names with
    | "-" :: _ => (s.values.lookup "OLDPWD").getD home
    | name :: _ => name
    | [] => home
  if name.isEmpty then (.finished 0, s)
  else match s.tree.findText s.current name with
    | .ok place =>
      if s.tree.isDirectory place.id then
        let parts := Tree.collapse (s.current.join (.ofString name)).parts
        let s := s.enter { s.current with parts }
        let path := s.current.toString ++ "\n"
        (.finished 0, if names.head? == some "-" then s.tell false path else s)
      else s.fail s!"cd: can't cd to {name}"
    | .error _ => s.fail s!"cd: can't cd to {name}"

def exportAll (s : Session) (words : List String) : Session :=
  words.foldl (fun s word => match word.toList.span (· != '=') with
    | (key, _ :: value) => s.share (String.ofList key) (String.ofList value)
    | _ => { s with exported := word :: s.exported }) s

def unsetAll (s : Session) : List String → Session
  | "-f" :: names => { s with functions := s.functions.filter fun f => !names.contains f.1 }
  | "-v" :: names => names.foldl unset s
  | names => names.foldl unset s

def counted (s : Session) (command word : String) : Except (Ending × Session) Nat :=
  match (if word.toList.all Char.isDigit then word.toNat? else none) with
  | some n => .ok n
  | none => .error (s.abandon s!"{command}: Illegal number: {word}")

def levels (s : Session) (command : String) (words : List String) :
    Except (Ending × Session) Nat :=
  match words with
  | [] => .ok (if s.loops == 0 then 0 else 1)
  | word :: _ => match s.counted command word with
    | .ok 0 => .error (s.abandon s!"{command}: Illegal number: {word}")
    | result => result.map fun n => if s.loops < n then s.loops else n

def judge (s : Session) (command : String) : Except String Bool → Ending × Session
  | .ok holds => (.finished (if holds then 0 else 1), s)
  | .error complaint => s.fail s!"{command}: {complaint}"

def print (s : Session) (arguments : List String) : Ending × Session :=
  match arguments with
  | first :: _ =>
    if first.startsWith "-" && first != "-" && first != "--" then
      s.fail s!"printf: Illegal option -{(first.drop 1).take 1}"
    else report
  | [] => report
where
  report : Ending × Session :=
    let (out, faults) := printForm arguments
    let s := faults.foldl (fun s fault => s.complain s!"printf: {fault.message}") (s.tell false out)
    (.finished (if faults.any PrintFault.isEnd then 2 else if faults.isEmpty then 0 else 1), s)

def nature (s : Session) (isShort : Bool) (name : String) : Ending × Session :=
  let kind? : Option (String × String) :=
    if keywords.contains name then some (name, s!"{name} is a shell keyword")
    else if (s.functions.lookup name).isSome then some (name, s!"{name} is a shell function")
    else if specialBuiltins.contains name then some (name, s!"{name} is a special shell builtin")
    else if builtins.contains name then some (name, s!"{name} is a shell builtin")
    else match searchProgram s.tree s.current s.values name with
      | .ok program =>
        let path := if name.toList.contains '/' then name else s!"/usr/bin/{program}"
        some (path, s!"{name} is {path}")
      | .error _ => none
  match kind?, isShort with
  | some (short, _), true => s.after { out := short ++ "\n" }
  | some (_, long), false => s.after { out := long ++ "\n" }
  | none, true => (.finished 127, s)
  | none, false => s.after { code := 127, out := s!"{name}: not found\n" }
where
  keywords : List String :=
    ["!", "case", "do", "done", "elif", "else", "esac", "fi", "for", "if", "in", "then", "until",
      "while", "\x7b", "\x7d"]

def special? (s : Session) (words : List String) : Option (Ending × Session) :=
  let settle (result : Except (Ending × Session) (Ending × Session)) : Ending × Session :=
    match result with
    | .ok result | .error result => result
  match words with
  | ["exit"] => some (.left s.status, s)
  | "exit" :: word :: _ => some (settle ((s.counted "exit" word).map fun n => (.left n, s)))
  | ["return"] => some (.returned s.status, s)
  | "return" :: word :: _ => some (settle ((s.counted "return" word).map fun n => (.returned n, s)))
  | "break" :: rest => some (settle ((s.levels "break" rest).map fun n =>
    (if n == 0 then .finished 0 else .loopLeft n, s)))
  | "continue" :: rest => some (settle ((s.levels "continue" rest).map fun n =>
    (if n == 0 then .finished 0 else .roundLeft n, s)))
  | ":" :: _ | "times" :: _ => some (.finished 0, s)
  | "export" :: words => some (.finished 0, s.exportAll words)
  | "readonly" :: words =>
    let after := s.exportAll words
    some (.finished 0, { after with exported := s.exported })
  | "unset" :: words => some (.finished 0, s.unsetAll words)
  | "set" :: words => some (.finished 0, s.configure words)
  | "shift" :: words => some (settle ((s.counted "shift" (words.headD "1")).map fun n =>
    if s.arguments.length < n then s.abandon "shift: can't shift that many"
    else (.finished 0, { s with arguments := s.arguments.drop n })))
  | ["trap"] => some s.listTraps
  | "trap" :: words =>
    let (action?, names) := match words with
      | [name] => (none, [name])
      | "-" :: names => (none, names)
      | action :: names => (some action, names)
      | [] => (none, [])
    some (match s.trap action? names with
      | .ok s => (.finished 0, s)
      | .error name => s.after { code := 1, err := s!"trap: {name}: bad trap\n" })
  | _ => none

def builtin? (s : Session) (words : List String) : Option (Ending × Session) :=
  match words with
  | "true" :: _ => some (.finished 0, s)
  | "false" :: _ => some (.finished 1, s)
  | "echo" :: words => some (s.after (echo words))
  | "printf" :: words => some (s.print words)
  | "pwd" :: _ => some (s.after { out := s.current.toString ++ "\n" })
  | "test" :: words => some (s.judge "test" (condition s.look words))
  | "[" :: words => some (s.judge "[" (
    if words.getLast? == some "]" then condition s.look words.dropLast else .error "missing ]"))
  | ["read"] => some (s.fail "read: arg count")
  | "read" :: names => some (s.readInput names)
  | "cd" :: names => some (s.changeDirectory names)
  | "umask" :: words => some (s.after { out := if words.isEmpty then "0022\n" else "" })
  | "alias" :: _ | "hash" :: _ | "jobs" :: _ | "ulimit" :: _ => some (.finished 0, s)
  | "wait" :: words =>
    if s.jobStops then some (.killed 9, { s with stopped := true })
    else some (.finished (if words.isEmpty then 0 else s.job), s)
  | "local" :: words => some (.finished 0, words.foldl (fun s word =>
    match word.toList.span (· != '=') with
    | (key, _ :: value) => s.hide (String.ofList key) (some (String.ofList value))
    | _ => s.hide word none) s)
  | ["command", "-v", name] => some (s.nature true name)
  | "type" :: name :: _ => some (s.nature false name)
  | _ => none

end Session

end AppSupervisor.Rehearsal.Shell
