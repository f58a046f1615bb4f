/-!
Forms of names: texts with places for any text, any character, or one of a set of characters.
-/

namespace AppSupervisor.Rehearsal.Shell

inductive Mark
  | anyText
  | anyChar
  | oneOf (isOther : Bool) (ranges : List (Char × Char))
  | exactly (c : Char)
  deriving DecidableEq, Repr

abbrev Form := List Mark

def readRanges : List Char → List (Char × Char)
  | first :: '-' :: last :: rest => (first, last) :: readRanges rest
  | c :: rest => (c, c) :: readRanges rest
  | [] => []

def readSet? (marked : List (Char × Bool)) : Option (Mark × List (Char × Bool)) :=
  let (isOther, marked) := match marked with
    | ('!', false) :: rest => (true, rest)
    | rest => (false, rest)
  let first := marked.take 1
  let others := marked.drop 1
  match others.dropWhile fun (c, quoted) => c != ']' || quoted with
  | [] => none
  | _ :: rest =>
    let inside := first ++ others.takeWhile fun (c, quoted) => c != ']' || quoted
    some (.oneOf isOther (readRanges (inside.map Prod.fst)), rest)

def readForm : Nat → List (Char × Bool) → Form
  | 0, _ => []
  | _, [] => []
  | steps + 1, (c, quoted) :: rest =>
    if quoted then .exactly c :: readForm steps rest
    else if c == '*' then .anyText :: readForm steps rest
    else if c == '?' then .anyChar :: readForm steps rest
    else if c == '[' then match readSet? rest with
      | some (mark, rest) => mark :: readForm steps rest
      | none => .exactly c :: readForm steps rest
    else .exactly c :: readForm steps rest

def Form.ofChars (marked : List (Char × Bool)) : Form :=
  readForm marked.length marked

def Form.isText (form : Form) : Bool :=
  form.all fun
    | .exactly _ => true
    | _ => false

def fits : Form → List Char → Bool
  | [], name => name.isEmpty
  | .anyText :: form, name => (List.range (name.length + 1)).any fun n => fits form (name.drop n)
  | .anyChar :: form, _ :: name => fits form name
  | .oneOf isOther ranges :: form, c :: name =>
    (ranges.any fun (first, last) => first ≤ c && c ≤ last) != isOther && fits form name
  | .exactly c :: form, d :: name => c == d && fits form name
  | _, _ => false

/-- A text less the shortest or longest part at one of its ends that fits a form. -/
def cutForm (form : Form) (atEnd longest : Bool) (text : List Char) : List Char :=
  let counts := List.range (text.length + 1)
  let counts := if longest then counts.reverse else counts
  let cut := counts.findSome? fun n =>
    if atEnd then
      if fits form (text.drop (text.length - n)) then some (text.take (text.length - n)) else none
    else if fits form (text.take n) then some (text.drop n)
    else none
  cut.getD text

end AppSupervisor.Rehearsal.Shell
