import AppSupervisor.Machine
import AppSupervisor.Status

/-!
What the command line prints.

Texts are styled by escape sequences, which are taken out again where no colours are wanted.
-/

namespace AppSupervisor.CommandLine

inductive Color
  | red
  | green
  | yellow
  deriving DecidableEq, Repr

def Color.number : Color → Nat
  | .red => 31
  | .green => 32
  | .yellow => 33

def escapeSequence (number : Nat) : String :=
  "\x1b[" ++ toString number ++ "m"

def styled (color : Option Color) (bold : Bool) (text : String) : String :=
  ((color.map fun c => escapeSequence c.number).getD "") ++
    (if bold then escapeSequence 1 else "") ++ text ++ escapeSequence 0

def isSequencePart (c : Char) : Bool :=
  c.isDigit || c == ';' || c == '?'

def unstyledFrom : List Char → List Char → List Char
  | held, [] => held.reverse
  | [], c :: rest => if c == '\x1b' then unstyledFrom [c] rest else c :: unstyledFrom [] rest
  | [e], c :: rest =>
    if c == '[' then unstyledFrom [c, e] rest
    else if c == '\x1b' then e :: unstyledFrom [c] rest
    else e :: c :: unstyledFrom [] rest
  | held, c :: rest =>
    if isSequencePart c then unstyledFrom (c :: held) rest
    else if c.isAlpha then unstyledFrom [] rest
    else if c == '\x1b' then held.reverse ++ unstyledFrom [c] rest
    else held.reverse ++ c :: unstyledFrom [] rest

def unstyled (text : String) : String :=
  String.ofList (unstyledFrom [] text.toList)

def printedText (colors toErrors : Bool) (journal : List Event) : String :=
  String.join (journal.reverse.filterMap fun
    | .printed errors text =>
      if errors == toErrors then some (if colors then text else unstyled text) else none
    | _ => none)

def stateColor? : State → Option Color
  | .deployed => some .green
  | .deploying | .partially => some .yellow
  | .failed | .error => some .red
  | .undeployed | .unknown => none

def padded (width : Nat) (text : String) : String :=
  text ++ String.ofList (List.replicate (width - text.length) ' ')

def stateWidth : Nat := 10

def instanceLines (i : InstanceStatus) : List String :=
  let detail (name : String) : String := (i.attributes.lookup name).getD "-"
  [s!"  [{i.index}] " ++ padded stateWidth i.state.label ++ " " ++ detail "url" ++ "  pid " ++
      detail "pid",
    "      stdout: " ++ detail "stdout", "      stderr: " ++ detail "stderr"]

def statusLines (quiet : Bool) (status : AppStatus) : List String :=
  let state := status.state
  if quiet then [s!"{status.deploymentId} {state.label}"]
  else
    let title := styled (stateColor? state) true s!"{status.deploymentId}: {state.label}"
    "" :: title :: status.instances.flatMap instanceLines ++ [""]

end AppSupervisor.CommandLine

namespace AppSupervisor.Act

open AppSupervisor.CommandLine

variable {σ : Type}

def echo (text : String) : Act σ Unit :=
  note (.printed false (text ++ "\n"))

def echoError (text : String) : Act σ Unit :=
  note (.printed true (text ++ "\n"))

def display (quiet : Bool) (status : AppStatus) : Act σ Unit :=
  (statusLines quiet status).forM echo

end AppSupervisor.Act
