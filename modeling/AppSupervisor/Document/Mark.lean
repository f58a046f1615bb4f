import AppSupervisor.Text.Digit
import AppSupervisor.Text.Quoted

/-!
Places in a document and the faults found there.

A fault tells what was being read and what is wrong, each with a place. A place is shown with the
part of its line around it and an arrow below.
-/

namespace AppSupervisor.Document

structure Mark where
  index : Nat := 0
  line : Nat := 0
  column : Nat := 0
  deriving DecidableEq, Repr, Inhabited

def isLineEnd (c : Char) : Bool :=
  c == '\x00' || c == '\n' || c == '\r' || c == '\u0085' || c == '\u2028' || c == '\u2029'

def snippetReach : Nat := 36

/-- The characters of a line next to a place, nearest first: all if they are few, and otherwise
those within reach less five, the second part telling that some are left out. -/
def besidePlace (line : List Char) : List Char × Bool :=
  if line.length ≤ snippetReach then (line, false)
  else (line.take (snippetReach + 1 - 5), true)

def Mark.snippet (mark : Mark) (text : List Char) : String :=
  let before := ((text.take mark.index).reverse).takeWhile fun c => !isLineEnd c
  let after := (text.drop mark.index).takeWhile fun c => !isLineEnd c
  let (left, leftCut) := besidePlace before
  let (right, rightCut) := besidePlace after
  let head := if leftCut then " ... " else ""
  let tail := if rightCut then " ... " else ""
  "    " ++ head ++ String.ofList left.reverse ++ String.ofList right ++ tail ++ "\n" ++
    String.ofList (List.replicate (4 + left.length + head.length) ' ') ++ "^"

def Mark.message (mark : Mark) (text : List Char) : String :=
  s!"  in \"<unicode string>\", line {mark.line + 1}, column {mark.column + 1}:\n" ++
    mark.snippet text

structure Complaint where
  context : Option String := none
  contextMark : Option Mark := none
  problem : String
  problemMark : Mark
  deriving DecidableEq, Repr

inductive Fault
  | complaint (complaint : Complaint)
  | unprintable (code position : Nat)
  | noTruthValue (word : String)
  | emptyNumber
  | badNumber (message : String)
  | badDate (message : String)
  | noDate
  | badCharacter
  | characterTooLarge
  | numberTooLarge
  deriving DecidableEq, Repr

def Complaint.message (complaint : Complaint) (text : List Char) : String :=
  let place := match complaint.contextMark with
    | some mark =>
      if mark.line != complaint.problemMark.line || mark.column != complaint.problemMark.column then
        [mark.message text]
      else []
    | none => []
  "\n".intercalate (complaint.context.toList ++ place ++
    [complaint.problem, complaint.problemMark.message text])

def Fault.message (text : List Char) : Fault → String
  | .complaint found => found.message text
  | .unprintable code position =>
    s!"unacceptable character #x{Text.hex code 4}: special characters are not allowed\n" ++
      s!"  in \"<unicode string>\", position {position}"
  | .noTruthValue word => Text.quote word
  | .emptyNumber => "string index out of range"
  | .badNumber message => message
  | .badDate message => message
  | .noDate => "'NoneType' object has no attribute 'groupdict'"
  | .badCharacter => "chr() arg not in range(0x110000)"
  | .characterTooLarge => "signed integer is greater than maximum"
  | .numberTooLarge => "int too large to convert to float"

end AppSupervisor.Document
