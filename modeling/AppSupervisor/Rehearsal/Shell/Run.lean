import AppSupervisor.Rehearsal.Shell.Builtin
import AppSupervisor.Rehearsal.Shell.Expansion
import AppSupervisor.Rehearsal.Shell.Grammar

/-!
Running programs and scripts.

A script runs in a session of a shell. Words are replaced by the fields they stand for when a
command is run. The number of steps bounds the depth of calls.
-/

namespace AppSupervisor.Rehearsal.Shell

open AppSupervisor.Files

def writeFault? (s : Session) (name : String) : Option String :=
  match s.tree.writeFile (s.current.join (.ofString name)) [] with
  | .ok _ => none
  | .error cause => some (match cause with
    | .noEntry => s!"cannot create {name}: Directory nonexistent"
    | cause => s!"cannot create {name}: {cause.describe.2}")

def redirect (s : Session) (sinks : List (Nat × Sink)) (r : Redirection) (name : String) :
    Except String (List (Nat × Sink) × Session) :=
  let others := sinks.filter (·.1 != r.descriptor)
  let known (n : Nat) : Sink := (sinks.lookup n).getD .nowhere
  match r.stream, name with
  | .same, "-" => .ok ((r.descriptor, .nowhere) :: others, s)
  | .same, name => match name.toNat?.bind fun n => (sinks.lookup n).map fun sink => (n, sink) with
    | some (_, sink) => .ok ((r.descriptor, sink) :: others, s)
    | none =>
      if name == "0" then .ok (sinks, s) else .error s!"{name}: Bad file descriptor"
  | .from_, "/dev/stdin" => .ok (sinks, s)
  | .from_, name => match s.look name with
    | some (.file bytes) => .ok (sinks, { s with input := textOf bytes })
    | some _ => .ok (sinks, { s with input := "" })
    | none => .error s!"cannot open {name}: No such file"
  | _, "/dev/null" => .ok ((r.descriptor, .nowhere) :: others, s)
  | _, "/dev/stdout" => .ok ((r.descriptor, known 1) :: others, s)
  | _, "/dev/stderr" => .ok ((r.descriptor, known 2) :: others, s)
  | stream, name => match writeFault? s name with
    | some complaint => .error complaint
    | none =>
      let path := (s.current.join (.ofString name)).toString
      .ok ((r.descriptor, .file path) :: others, s.write (stream == .append) path "")

/-- The number of steps that are kept back for replacing the words of a command: a shell that has no
more left gives up before it runs a command of which it knows only a part. -/
def stepReserve : Nat := 10000

def Session.restore (s before : Session) (names : List String) : Session :=
  let restored := names.foldl (fun s name => match before.values.lookup name with
    | some value => s.set name value
    | none => s.unset name) s
  { restored with exported := before.exported }

def settled (result : Ending × Session) : Ending × Session :=
  let s := { result.2 with status := result.1.code }
  match result.1 with
  | .finished code =>
    if s.failsFast && !s.tested && code % 256 != 0 then (.left code, s) else (.finished code, s)
  | ending => (ending, s)

def Session.inside (s : Session) : Session :=
  { s with written := [], outTo := .out, traps := s.inheritedTraps }

/-- Whether redirections of a command are there to stay: it is no more than a request for that. -/
def keepsStreams : Command → Bool
  | .simple _ [] [word] => plainText? word == some "exec"
  | _ => false

def plainProgram? (s : Session) (program name : String) (arguments : List String) :
    Option (Ending × Session) :=
  let judge (words : List String) : Ending × Session := match condition s.look words with
    | .ok holds => (.finished (if holds then 0 else 1), s)
    | .error complaint => s.after { code := 2, err := s!"{name}: {complaint}\n" }
  match program with
  | "true" => some (.finished 0, s)
  | "false" => some (.finished 1, s)
  | "printf" =>
    let (out, faults) := printForm arguments
    let err := String.join (faults.map (PrintFault.programMessage name))
    some (s.after { code := if faults.isEmpty then 0 else 1, out, err })
  | "echo" => some (s.after (writeArguments arguments))
  | "sleep" => some (match waitFault? name arguments with
    | some fault => s.after fault
    | none => if s.stops then (.killed 9, { s with stopped := true }) else (.finished 0, s))
  | "cat" => some (s.after (concatenate "cat" s.look s.input arguments))
  | "seq" => some (s.after (countUp arguments))
  | "sort" =>
    let options := arguments.filter (·.startsWith "-")
    let names := arguments.filter fun word => !word.startsWith "-"
    let found := concatenate "sort" s.look s.input names
    some (s.after (if found.code == 0 then sortLines found.out (String.join options).toList
      else { found with code := 2 }))
  | "pwd" => some (s.after { out := s.current.toString ++ "\n" })
  | "test" => some (judge arguments)
  | "[" => some (if arguments.getLast? == some "]" then judge arguments.dropLast
    else s.after { code := 2, err := s!"{name}: missing ']'\n" })
  | "touch" => some (.finished 0, arguments.foldl (fun s name => s.write true name "") s)
  | "ls" => some (s.list arguments)
  | "wc" => some (s.after (measure s.look s.input arguments))
  | "head" => some (s.after (firstPart s.look s.input arguments))
  | "tail" => some (s.after (lastPart s.look s.input arguments))
  | "tr" => some (s.after (translate s.input arguments))
  | "mkdir" => some (s.makeDirectories arguments)
  | "rm" => some (s.removeAll arguments)
  | "kill" => some (s.kill arguments)
  | _ => none

mutual

def expand (steps : Nat) (s : Session) (word : Word) (fields : Fields) : Fields × Session :=
  match steps, word with
  | 0, _ => (fields, s)
  | _, [] => (fields, s)
  | steps + 1, (piece, quoted) :: rest =>
    let add (text : String) : Fields := if quoted then fields.add text else fields.addSplit text
    match piece with
    | .literal text => expand steps s rest (fields.add text)
    | .parameter name use emptyCounts other =>
      if name == "@" && quoted && use == .value then
        expand steps s rest (fields.addEach s.arguments)
      else
        let (text, s) := expandParameter steps s quoted name use emptyCounts other
        expand steps s rest (add text)
    | .arithmetic expression =>
      let (inner, s) := expand steps s (innerWord true expression) {}
      let value (name : String) : String := (s.value? name).getD ""
      match evaluate value inner.text with
      | .ok (n, known) =>
        let s := known.reverse.foldl (fun s (name, n) => s.set name (toString n)) s
        expand steps s rest (add (toString n))
      | .error fault => (fields, s.refuse (fault.message inner.text))
    | .output script =>
      let (ending, inner) := runScript steps "" s.inside script
      let errors := inner.written.filter (·.toErrors)
      let s := { s with
        tree := inner.tree
        stopped := inner.stopped
        written := errors ++ s.written
        outputCode := ending.code }
      expand steps s rest (add (withoutLineEnds (inner.told false)))
    | .unclosed _ => expand steps s rest fields

def expandParameter (steps : Nat) (s : Session) (quoted : Bool) (name : String) (use : Use)
    (emptyCounts : Bool) (other : String) : String × Session :=
  match steps with
  | 0 => ("", s)
  | steps + 1 =>
    let value? := s.value? name
    let strict (s : Session) : Session :=
      if s.isStrict && value?.isNone && name != "@" && name != "*" then
        s.refuse s!"{name}: parameter not set"
      else s
    let text := value?.getD ""
    let isThere := value?.isSome && !(emptyCounts && text.isEmpty)
    let otherText (s : Session) : String × Session :=
      let (inner, s) := expand steps s (innerWord quoted other) {}
      (inner.text, s)
    match use with
    | .value => (text, strict s)
    | .length => (toString text.length, strict s)
    | .otherwise => if isThere then (text, s) else otherText s
    | .assigned =>
      if isThere then (text, s)
      else
        let (text, s) := otherText s
        (text, s.set name text)
    | .instead => if isThere then otherText s else ("", s)
    | .demanded =>
      if isThere then (text, s)
      else
        let (complaint, s) := otherText s
        let usual := "parameter not set" ++ if emptyCounts then " or null" else ""
        ("", s.refuse s!"{name}: {if complaint.isEmpty then usual else complaint}")
    | .cut atEnd longest =>
      let cs := other.toList
      let (form, s) := expandForm steps s (looseWord cs.length cs)
      (String.ofList (cutForm form atEnd longest text.toList), strict s)
    | .senseless => ("", s.refuse "Bad substitution")

def expandForm (steps : Nat) (s : Session) (word : Word) : Form × Session :=
  match steps, word with
  | 0, _ => ([], s)
  | _, [] => ([], s)
  | steps + 1, word =>
    let (marked, s) := expandMarks steps s word
    (Form.ofChars marked, s)

def expandMarks (steps : Nat) (s : Session) (word : Word) : List (Char × Bool) × Session :=
  match steps, word with
  | 0, _ => ([], s)
  | _, [] => ([], s)
  | steps + 1, (piece, quoted) :: rest =>
    let (fields, s) := expand steps s [(piece, true)] {}
    let (marked, s) := expandMarks steps s rest
    (fields.text.toList.map (fun c => (c, quoted)) ++ marked, s)

def expandAll (steps : Nat) (s : Session) (words : List Word) : List String × Session :=
  match steps, words with
  | 0, _ => ([], s)
  | _, [] => ([], s)
  | steps + 1, word :: rest =>
    let (fields, s) := match formOf? word with
      | some (form, text) => (s.matching form text, s)
      | none =>
        if isAllArguments word then (s.arguments, s)
        else
          let (fields, s) := expand steps s word {}
          (fields.all, s)
    let (others, s) := expandAll steps s rest
    (fields ++ others, s)

def setAll (steps : Nat) (s : Session) (settings : List (String × Word)) : Session :=
  match steps, settings with
  | 0, _ => s
  | _, [] => s
  | steps + 1, (name, word) :: rest =>
    let (fields, s) := expand steps s (allQuoted word) {}
    setAll steps (s.set name fields.text) rest

def runScript (steps : Nat) (context : String) (s : Session) (script : String) :
    Ending × Session :=
  match steps with
  | 0 => s.giveUp
  | steps + 1 => run steps context s (.ofScript script)

def leave (steps : Nat) (result : Ending × Session) : Ending × Session :=
  match steps, result.1.resume, result.2.traps.lookup 0 with
  | steps + 1, .finished code, some action =>
    match runScript steps "" { result.2 with status := code % 256, traps := [] } action with
    | (.finished _, s) => (.finished code, s)
    | (ending, s) => (ending.resume, s)
  | _, ending, _ => (ending, result.2)

def runProgram (steps : Nat) (s : Session) (program name : String) (arguments : List String) :
    Ending × Session :=
  match steps, plainProgram? s program name arguments with
  | 0, _ => s.giveUp
  | _, some result => result
  | steps + 1, none =>
    if program == "env" then runEnv steps s arguments
    else
      let (ending, inner) := match arguments with
        | "-c" :: script :: rest =>
          leave steps (runScript steps "" (s.begin (rest.headD name) (rest.drop 1)) script)
        | "-c" :: _ => s.begin name [] |>.fail "-c requires an argument"
        | file :: rest => match s.look file with
          | some (.file bytes) =>
            leave steps (runScript steps "" (s.begin file rest) (textOf bytes))
          | _ => { s with name, line := 0 }.fail s!"cannot open {file}: No such file"
        | [] => leave steps (runScript steps "" (s.begin name []) s.input)
      (ending, s.resume inner)

def runEnv (steps : Nat) (s : Session) (arguments : List String) : Ending × Session :=
  match steps, arguments with
  | 0, _ => s.giveUp
  | _, [] => s.after { out := String.join (s.environment.map fun e => s!"{e.1}={e.2}\n") }
  | steps + 1, "-i" :: rest | steps + 1, "-" :: rest => runEnv steps { s with exported := [] } rest
  | steps + 1, "-u" :: name :: rest => runEnv steps (s.unset name) rest
  | steps + 1, first :: rest => match first.toList.span (· != '=') with
    | (key, _ :: value) => runEnv steps (s.share (String.ofList key) (String.ofList value)) rest
    | _ => match searchProgram s.tree s.current s.environment first with
      | .ok program => runProgram steps s program first rest
      | .error cause =>
        let code := if cause == .noEntry then 127 else 126
        s.after { code, err := s!"env: '{first}': {cause.describe.2}\n" }

def runChild (steps : Nat) (s : Session) (program name : String) (arguments : List String) :
    Ending × Session :=
  match steps with
  | 0 => s.giveUp
  | steps + 1 =>
    let (ending, after) := runProgram steps { s with pid := s.pid + 1 } program name arguments
    let own := { after with
      pid := s.pid
      values := s.values
      exported := s.exported }
    match ending with
    | .killed signal =>
      if own.stopped then (.killed signal, own)
      else
        let text := signalText signal
        (.finished (128 + signal), own.tell true (if text.isEmpty then "" else text ++ "\n"))
    | ending => (ending.resume, own)

def runFound (steps : Nat) (s : Session) (context name : String) (arguments : List String)
    (isChild : Bool) : Ending × Session :=
  match steps, searchProgram s.tree s.current s.values name with
  | 0, _ => s.giveUp
  | steps + 1, .ok program =>
    if isChild then runChild steps s program name arguments
    else runProgram steps s program name arguments
  | _, .error .notPermitted =>
    (.finished 126, s.complain s!"{context}{name}: Permission denied")
  | _, .error _ => (.finished 127, s.complain s!"{context}{name}: not found")

def runWords (steps : Nat) (s : Session) (words : List String) : Ending × Session :=
  match steps, words, s.special? words with
  | 0, _, _ => s.giveUp
  | _, [], _ => (.finished 0, s)
  | _, _, some result => result
  | steps + 1, "eval" :: rest, _ => runScript steps "eval: " s (" ".intercalate rest)
  | steps + 1, "." :: file :: _, _ =>
    if !file.toList.contains '/' then s.abandon s!".: {file}: not found"
    else match s.look file with
      | some (.file bytes) => match runScript steps "" s (textOf bytes) with
        | (.returned code, s) => (.finished code, s)
        | other => other
      | _ => s.abandon s!".: cannot open {file}: No such file"
  | steps + 1, "exec" :: rest, _ => match rest with
    | [] => (.finished 0, s)
    | name :: arguments =>
      let (ending, s) := runFound steps { s with traps := s.inheritedTraps } "exec: " name
        arguments false
      (match ending with
        | .finished code => .left code
        | other => other, s)
  | steps + 1, name :: rest, none => match s.functions.lookup name with
    | some body =>
      let (ending, after) := run steps "" { s with
        arguments := rest
        loops := 0
        hidden := [] } body
      (match ending with
        | .returned code => .finished code
        | ending => ending, { after.reveal with
        arguments := s.arguments
        loops := s.loops
        hidden := s.hidden })
    | none => runOwn steps s name rest

def runOwn (steps : Nat) (s : Session) (name : String) (arguments : List String) :
    Ending × Session :=
  match steps, name, s.builtin? (name :: arguments) with
  | 0, _, _ => s.giveUp
  | _, _, some result => result
  | steps + 1, "command", none => match arguments with
    | [] => (.finished 0, s)
    | name :: rest => match s.special? arguments with
      | some result => result
      | none => runOwn steps s name rest
  | steps + 1, "kill", none => match s.kill arguments with
    | (.killed signal, s) => match s.traps.lookup signal with
      | none => (.killed signal, s)
      | some action => match runScript steps "" s action with
        | (.finished _, s) => (.finished 0, s)
        | other => other
    | other => other
  | steps + 1, name, none => runFound steps s "" name arguments true

def redirectAll (steps : Nat) (s : Session) (sinks : List (Nat × Sink))
    (redirections : List Redirection) : Except String (List (Nat × Sink)) × Session :=
  match steps, redirections with
  | 0, _ => (.ok sinks, s)
  | _, [] => (.ok sinks, s)
  | steps + 1, r :: rest =>
    let (fields, s) := expand steps s (allQuoted r.target) {}
    match redirect s sinks r fields.text with
    | .ok (sinks, s) => redirectAll steps s sinks rest
    | .error complaint => (.error complaint, s)

def runRedirected (steps : Nat) (s : Session) (body : Command) (redirections : List Redirection) :
    Ending × Session :=
  match steps with
  | 0 => s.giveUp
  | steps + 1 =>
    match redirectAll steps s ([(1, .out), (2, .err)] ++ s.channels) redirections with
    | (.error complaint, s) => settled (s.fail complaint)
    | (.ok sinks, opened) =>
      let sink (n : Nat) (usual : Sink) : Sink := (sinks.lookup n).getD usual
      let channels := sinks.filter (2 < ·.1)
      if keepsStreams body then
        (.finished 0, { opened with
          status := 0
          outTo := opened.resolve (sink 1 .out)
          errTo := opened.resolve (sink 2 .err)
          channels := channels.map fun (n, sink) => (n, opened.resolve sink) })
      else
        let (ending, inner) := run steps "" { opened with
          written := []
          outTo := .out
          errTo := .err
          channels } body
        let outer := { inner with
          written := opened.written
          outTo := opened.outTo
          errTo := opened.errTo
          channels := opened.channels
          input := if redirections.any (·.descriptor == 0) then s.input else inner.input }
        (ending, inner.written.reverse.foldl (fun s piece =>
          s.deliver piece.text (if piece.toErrors then sink 2 .err else sink 1 .out)) outer)

def run (steps : Nat) (context : String) (s : Session) (command : Command) : Ending × Session :=
  match steps with
  | 0 => s.giveUp
  | steps + 1 =>
    if steps < stepReserve then s.giveUp else
    let test (s : Session) (condition : Command) : Ending × Session :=
      let (ending, after) := run steps "" { s with tested := true } condition
      (ending, { after with tested := s.tested })
    match command with
    | .nothing => (.finished s.status, s)
    | .refused line complaint => { s with line }.abandon (context ++ complaint)
    | .define name body =>
      (.finished 0, { s with
        status := 0
        functions := (name, body) :: s.functions.filter (·.1 != name) })
    | .simple line settings words =>
      let (fields, s) := expandAll steps { s with line, outputCode := 0 } words
      let own := setAll steps s settings
      match own.fault?, fields with
      | some complaint, _ => { own with fault? := none }.abandon complaint
      | none, [] => settled (.finished own.outputCode, own)
      | none, first :: _ =>
        let names := settings.map Prod.fst
        let inner := { own with exported := names ++ own.exported }
        let (ending, after) := runWords steps (if settings.isEmpty then s else inner) fields
        settled (ending, if settings.isEmpty then after
          else if specialBuiltins.contains first then { after with exported := s.exported }
          else after.restore s names)
    | .redirected body redirections => runRedirected steps s body redirections
    | .pipe left right =>
      let (_, first) := leave steps (run steps "" s.inside left)
      let errors := first.written.filter (·.toErrors)
      let (ending, second) := leave steps (run steps "" { s with
        input := first.told false
        written := errors ++ s.written
        traps := s.inheritedTraps
        tree := first.tree } right)
      settled (ending, s.resume second)
    | .conjunction left right =>
      match test s left with
      | (.finished 0, s) => run steps "" s right
      | other => other
    | .disjunction left right =>
      match test s left with
      | (.finished 0, s) => (.finished 0, s)
      | (.finished _, s) => run steps "" s right
      | other => other
    | .negation body =>
      match test s body with
      | (.finished code, s) =>
        let code := if code == 0 then 1 else 0
        (.finished code, { s with status := code })
      | other => other
    | .sequence left right =>
      match run steps context s left with
      | (.finished _, s) => run steps context s right
      | other => other
    | .choice condition yes no =>
      match test s condition with
      | (.finished 0, s) => run steps "" s yes
      | (.finished _, s) => run steps "" { s with status := 0 } no
      | other => other
    | .loop untilTrue condition body =>
      runLoop steps { s with loops := s.loops + 1 } untilTrue condition body 0
    | .each name words body =>
      let (fields, s) := expandAll steps s words
      match s.fault? with
      | some complaint => { s with fault? := none }.abandon complaint
      | none => runEach steps { s with loops := s.loops + 1, status := 0 } name fields body
    | .select word branches =>
      let (fields, s) := expand steps s (allQuoted word) {}
      match s.fault? with
      | some complaint => { s with fault? := none }.abandon complaint
      | none => runBranches steps { s with status := 0 } fields.text branches
    | .branch _ body others => run steps "" s (.sequence body others)
    | .background body =>
      let (ending, inner) := leave steps (run steps "" { s with traps := s.inheritedTraps } body)
      let s := { s.resume inner with
        status := 0
        job := ending.code
        jobStops := inner.stopped
        stopped := s.stopped }
      (.finished 0, s)
    | .inner body =>
      let (ending, inner) := leave steps (run steps "" { s with traps := s.inheritedTraps } body)
      match ending with
      | .killed signal => match s.traps.lookup signal with
        | some action => match runScript steps "" (s.resume inner) action with
          | (.finished _, s) => settled (.finished 0, s)
          | other => other
        | none => (.killed signal, s.resume inner)
      | ending => settled (ending, s.resume inner)

def runLoop (steps : Nat) (s : Session) (untilTrue : Bool) (condition body : Command)
    (code : Nat) : Ending × Session :=
  let out (code : Nat) (s : Session) : Ending × Session :=
    (.finished code, { s with status := code, loops := s.loops - 1 })
  match steps with
  | 0 => s.giveUp
  | steps + 1 =>
    let (ending, after) := run steps "" { s with tested := true } condition
    let after := { after with tested := s.tested }
    match ending with
    | .finished tested =>
      if (tested == 0) == untilTrue then out code after
      else match run steps "" after body with
        | (.finished code, s) => runLoop steps s untilTrue condition body code
        | (.roundLeft n, s) =>
          if n ≤ 1 then runLoop steps s untilTrue condition body 0
          else (.roundLeft (n - 1), { s with loops := s.loops - 1 })
        | (.loopLeft n, s) =>
          if n ≤ 1 then out 0 s else (.loopLeft (n - 1), { s with loops := s.loops - 1 })
        | other => other
    | .roundLeft n =>
      if n ≤ 1 then runLoop steps after untilTrue condition body 0
      else (.roundLeft (n - 1), { after with loops := after.loops - 1 })
    | .loopLeft n =>
      if n ≤ 1 then out 0 after else (.loopLeft (n - 1), { after with loops := after.loops - 1 })
    | ending => (ending, after)

def runEach (steps : Nat) (s : Session) (name : String) (fields : List String) (body : Command) :
    Ending × Session :=
  match steps, fields with
  | 0, _ => s.giveUp
  | _, [] => (.finished s.status, { s with loops := s.loops - 1 })
  | steps + 1, field :: rest =>
    match run steps "" (s.set name field) body with
    | (.finished _, s) => runEach steps s name rest body
    | (.roundLeft n, s) =>
      if n ≤ 1 then runEach steps { s with status := 0 } name rest body
      else (.roundLeft (n - 1), { s with loops := s.loops - 1 })
    | (.loopLeft n, s) =>
      let s := { s with loops := s.loops - 1 }
      if n ≤ 1 then (.finished 0, { s with status := 0 }) else (.loopLeft (n - 1), s)
    | other => other

def runBranches (steps : Nat) (s : Session) (text : String) (branches : Command) :
    Ending × Session :=
  match steps, branches with
  | 0, _ => s.giveUp
  | steps + 1, .branch forms body others =>
    let (fitting, s) := fitsAny steps s text forms
    if fitting then run steps "" s body else runBranches steps s text others
  | _, _ => (.finished s.status, s)

def fitsAny (steps : Nat) (s : Session) (text : String) (forms : List Word) : Bool × Session :=
  match steps, forms with
  | 0, _ => (false, s)
  | _, [] => (false, s)
  | steps + 1, word :: rest =>
    let (form, s) := expandForm steps s word
    if fits form text.toList then (true, s) else fitsAny steps s text rest

end

def stepLimit : Nat := 200000

end AppSupervisor.Rehearsal.Shell
