import AppSupervisor.Files.Tree
import AppSupervisor.Numeral.Integer
import AppSupervisor.Rehearsal.Shell.Print

/-!
Small programs of a host, each as a function from its arguments and input to its output.
-/

namespace AppSupervisor.Rehearsal.Shell

open AppSupervisor.Files

def linesWithEnds (text : String) : List String :=
  let lines := pieces '\n' text
  (lines.dropLast.map (· ++ "\n")) ++ (if lines.getLastD "" == "" then [] else [lines.getLastD ""])

def inOrder (text : String) : List String :=
  (linesWithEnds text).mergeSort fun a b => !decide (b < a)

def leadingNumber (line : String) : Int :=
  match dropBlanks line.toList with
  | '-' :: rest => -(digits rest : Int)
  | rest => digits rest
where
  digits (cs : List Char) : Nat :=
    (cs.takeWhile Char.isDigit).foldl (fun n c => 10 * n + (c.toNat - '0'.toNat)) 0

def sortLines (input : String) (options : List Char) : Finished :=
  let whole := if input.isEmpty || input.endsWith "\n" then input else input ++ "\n"
  let sorted := inOrder whole
  let sorted :=
    if options.contains 'n' then sorted.mergeSort fun a b => leadingNumber a ≤ leadingNumber b
    else sorted
  let sorted := if options.contains 'u' then sorted.eraseDups else sorted
  { out := String.join (if options.contains 'r' then sorted.reverse else sorted) }

def textOf (bytes : List UInt8) : String :=
  (String.fromUTF8? ⟨bytes.toArray⟩).getD ""

def inputNames : List String := ["-", "/dev/stdin"]

def readComplaint (program name : String) : String :=
  let problem := "No such file or directory"
  match program with
  | "cat" | "wc" => s!"{program}: {name}: {problem}\n"
  | _ => s!"{program}: cannot open '{name}' for reading: {problem}\n"

def concatenate (program : String) (look : String → Option Entry) (input : String) :
    List String → Finished
  | [] => { out := input }
  | names => names.foldl (fun found name =>
      if inputNames.contains name then { found with out := found.out ++ input }
      else match look name with
      | some (.file bytes) => { found with out := found.out ++ textOf bytes }
      | some (.directory _) =>
        { found with code := 1, err := found.err ++ s!"{program}: {name}: Is a directory\n" }
      | some _ => found
      | none =>
        { found with code := 1, err := found.err ++ readComplaint program name }) {}

def countWords (text : String) : Nat :=
  let isBlank (c : Char) : Bool := c == ' ' || c == '\t' || c == '\n'
  let (n, _) := text.toList.foldl (fun (n, inWord) c =>
    if isBlank c then (n, false) else (if inWord then n else n + 1, true)) (0, false)
  n

def measure (look : String → Option Entry) (input : String) (arguments : List String) : Finished :=
  let names := arguments.filter fun word => !word.startsWith "-"
  let letters := (String.join (arguments.filter fun word => word.startsWith "-")).toList
  let found := concatenate "wc" look input names
  let lines := (found.out.toList.filter (· == '\n')).length
  let counts : List (Char × Nat) :=
    [('l', lines), ('w', countWords found.out), ('c', found.out.utf8ByteSize)]
  let asked := counts.filter fun (letter, _) => letters.isEmpty || letters.contains letter
  let texts := asked.map fun (_, n) =>
    let text := toString n
    if asked.length == 1 then text else String.ofList (List.replicate (7 - text.length) ' ') ++ text
  { found with out := " ".intercalate texts ++ String.join (names.map (" " ++ ·)) ++ "\n" }

/-- A program that writes a part of its input: how many lines, or characters with the flag, and the
files that it reads. -/
def partOptions : List String → Bool × String × List String
  | "-c" :: count :: names => (true, count, names)
  | "-n" :: count :: names => (false, count, names)
  | option :: names => match option.toList with
    | '-' :: 'c' :: count => (true, String.ofList count, names)
    | '-' :: 'n' :: count => (false, String.ofList count, names)
    | '-' :: c :: count => (false, String.ofList (c :: count), names)
    | '+' :: c :: count => (false, String.ofList ('+' :: c :: count), names)
    | _ => (false, "10", option :: names)
  | [] => (false, "10", [])

def firstPart (look : String → Option Entry) (input : String) (arguments : List String) :
    Finished :=
  let (inChars, count, names) := partOptions arguments
  let n := count.toNat?.getD 0
  if inChars && names == ["/dev/zero"] then { out := String.ofList (List.replicate n '\x00') }
  else
    let found := concatenate "head" look input names
    let out :=
      if inChars then String.ofList (found.out.toList.take n)
      else String.join ((linesWithEnds found.out).take n)
    { found with out }

def lastPart (look : String → Option Entry) (input : String) (arguments : List String) : Finished :=
  let (inChars, count, names) := partOptions arguments
  let found := concatenate "tail" look input names
  let skipped (size : Nat) : Nat := match count.toList with
    | '+' :: digits => ((String.ofList digits).toNat?.getD 0) - 1
    | digits => size - (String.ofList digits).toNat?.getD 0
  let lines := linesWithEnds found.out
  let out :=
    if inChars then String.ofList (found.out.toList.drop (skipped found.out.length))
    else String.join (lines.drop (skipped lines.length))
  { found with out }

def countUp (arguments : List String) : Finished :=
  match arguments.map String.toInt? with
  | [some last] => { out := lines 1 1 last }
  | [some first, some last] => { out := lines first 1 last }
  | [some first, some step, some last] => { out := lines first step last }
  | _ => { code := 1, err := "seq: missing operand\nTry 'seq --help' for more information.\n" }
where
  lines (first step last : Int) : String :=
    let count := if step == 0 then 0 else (Int.fdiv (last - first) step + 1).toNat
    String.join ((List.range count).map fun (i : Nat) => toString (first + step * i) ++ "\n")

def setOf : Nat → List Char → List Char
  | 0, _ => []
  | _, [] => []
  | steps + 1, '\\' :: rest => match escape? rest with
    | some (c, rest) => c :: setOf steps rest
    | none => setOf steps rest
  | steps + 1, first :: '-' :: last :: rest =>
    ((List.range (last.toNat - first.toNat + 1)).map fun (i : Nat) => Char.ofNat (first.toNat + i))
      ++ setOf steps rest
  | steps + 1, c :: rest => c :: setOf steps rest

def translate (input : String) (arguments : List String) : Finished :=
  let chars (text : String) : List Char := setOf text.length text.toList
  match arguments with
  | ["-d", set] =>
    let set := chars set
    { out := String.ofList (input.toList.filter fun c => !set.contains c) }
  | [old, new] =>
    let new := chars new
    let last := new.getLastD ' '
    let pairs := (chars old).zipIdx.map fun (c, i) => (c, new.getD i last)
    { out := String.ofList (input.toList.map fun c => (pairs.lookup c).getD c) }
  | _ => { code := 1, err := "tr: missing operand\nTry 'tr --help' for more information.\n" }

def isDuration (text : String) : Bool :=
  let cs := text.toList
  let digits := cs.takeWhile Char.isDigit
  let rest := cs.dropWhile Char.isDigit
  let (places, rest) := match rest with
    | '.' :: rest => (rest.takeWhile Char.isDigit, rest.dropWhile Char.isDigit)
    | rest => ([], rest)
  text == "infinity" || text == "inf" ||
    ((!digits.isEmpty || !places.isEmpty) &&
      (rest.isEmpty || (rest.length == 1 && rest.all ['s', 'm', 'h', 'd'].contains)))

def waitFault? (program : String) (arguments : List String) : Option Finished :=
  let hint := s!"Try '{program} --help' for more information.\n"
  let bad := arguments.filter fun word => !isDuration word
  match arguments, arguments.find? (·.startsWith "-") with
  | [], _ => some { code := 1, err := s!"{program}: missing operand\n{hint}" }
  | _, some option =>
    let letter := String.singleton (option.toList.getD 1 '-')
    some { code := 1, err := s!"{program}: invalid option -- '{letter}'\n{hint}" }
  | _, none =>
    if bad.isEmpty then none
    else
      let complaints := bad.map fun word => s!"{program}: invalid time interval '{word}'\n"
      some { code := 1, err := String.join complaints ++ hint }

end AppSupervisor.Rehearsal.Shell
