import AppSupervisor.Rehearsal.Shell.Script

/-!
Arithmetic of a small shell: whole numbers of 64 bits, names, and the usual operators.

An expression is read as a whole before anything of it is counted, so that a part that does not
count, such as the right side of a conjunction whose left side is false, neither sets a name nor
divides by zero.
-/

namespace AppSupervisor.Rehearsal.Shell

inductive SumFault
  | primaryExpected
  | colonExpected
  | bracketExpected
  | endExpected
  | divisionByZero
  | illegalNumber (text : String)
  deriving DecidableEq, Repr

def SumFault.message (expression : String) : SumFault → String
  | .illegalNumber text => s!"Illegal number: {text}"
  | .primaryExpected => about "expecting primary"
  | .colonExpected => about "expecting ':'"
  | .bracketExpected => about "expecting ')'"
  | .endExpected => about "expecting EOF"
  | .divisionByZero => about "division by zero"
where
  about (text : String) : String := s!"arithmetic expression: {text}: \"{expression}\""

inductive Sum
  | number (n : Int)
  | name (name : String)
  | unary (op : Char) (body : Sum)
  | binary (op : String) (left right : Sum)
  | choice (condition yes no : Sum)
  | set (name : String) (op : String) (value : Sum)
  deriving Repr, Inhabited

def operatorTexts : List String :=
  ["<<=", ">>=", "||", "&&", "==", "!=", "<=", ">=", "<<", ">>", "+=", "-=", "*=", "/=", "%=", "&=",
    "|=", "^=", "|", "^", "&", "<", ">", "+", "-", "*", "/", "%", "=", "?", ":", "(", ")", "~", "!"]

def operatorLevels : List (List String) :=
  [["||"], ["&&"], ["|"], ["^"], ["&"], ["==", "!="], ["<=", ">=", "<", ">"], ["<<", ">>"],
    ["+", "-"], ["*", "/", "%"]]

def settingOperators : List (String × String) :=
  [("=", ""), ("+=", "+"), ("-=", "-"), ("*=", "*"), ("/=", "/"), ("%=", "%"), ("<<=", "<<"),
    (">>=", ">>"), ("&=", "&"), ("|=", "|"), ("^=", "^")]

def dropBlanks (cs : List Char) : List Char :=
  cs.dropWhile fun c => c == ' ' || c == '\t' || c == '\n'

def operatorAt? (cs : List Char) : Option (String × List Char) :=
  let cs := dropBlanks cs
  (operatorTexts.find? fun text => text.toList.isPrefixOf cs).map fun text =>
    (text, cs.drop text.length)

def digitIn? (base : Nat) (c : Char) : Option Nat :=
  let value :=
    if c.isDigit then c.toNat - '0'.toNat
    else if 'a' ≤ c.toLower && c.toLower ≤ 'f' then c.toLower.toNat - 'a'.toNat + 10
    else 16
  if value < base then some value else none

/-- The number that a text begins with, and what is left behind it: hexadecimal behind `0x`, octal
behind another zero. -/
def numberAt (cs : List Char) : Nat × List Char :=
  let count (base : Nat) (cs : List Char) : Nat × List Char :=
    ((cs.takeWhile fun c => (digitIn? base c).isSome).foldl
      (fun n c => base * n + (digitIn? base c).getD 0) 0,
      cs.dropWhile fun c => (digitIn? base c).isSome)
  match cs with
  | '0' :: x :: c :: rest =>
    if (x == 'x' || x == 'X') && (digitIn? 16 c).isSome then count 16 (c :: rest) else count 8 cs
  | '0' :: _ => count 8 cs
  | _ => count 10 cs

mutual

def sumAt (steps level : Nat) (cs : List Char) : Except SumFault (Sum × List Char) :=
  match steps with
  | 0 => .error .primaryExpected
  | steps + 1 =>
    if level < operatorLevels.length then do
      let (left, rest) ← sumAt steps (level + 1) cs
      sumMore steps level left rest
    else
      let cs := dropBlanks cs
      match operatorAt? cs with
      | some ("(", rest) => do
        let (inside, rest) ← wholeSum steps rest
        match operatorAt? rest with
        | some (")", rest) => return (inside, rest)
        | _ => .error .bracketExpected
      | some (op, rest) =>
        if op == "-" || op == "+" || op == "!" || op == "~" then do
          let (body, rest) ← sumAt steps level rest
          return (.unary (op.toList.headD '+') body, rest)
        else .error .primaryExpected
      | none =>
        let (n, rest) := numberAt cs
        let name := cs.takeWhile isNameChar
        if (cs.headD ' ').isDigit then .ok (.number n, rest)
        else if name.isEmpty then .error .primaryExpected
        else .ok (.name (String.ofList name), cs.dropWhile isNameChar)

def sumMore (steps level : Nat) (left : Sum) (cs : List Char) :
    Except SumFault (Sum × List Char) :=
  match steps, operatorAt? cs with
  | 0, _ => .error .primaryExpected
  | _, none => .ok (left, cs)
  | steps + 1, some (op, rest) =>
    if (operatorLevels.getD level []).contains op then do
      let (right, rest) ← sumAt steps (level + 1) rest
      sumMore steps level (.binary op left right) rest
    else .ok (left, cs)

def wholeSum (steps : Nat) (cs : List Char) : Except SumFault (Sum × List Char) :=
  match steps with
  | 0 => .error .primaryExpected
  | steps + 1 =>
    let cs := dropBlanks cs
    let name := String.ofList (cs.takeWhile isNameChar)
    let setting? := (operatorAt? (cs.dropWhile isNameChar)).bind fun (op, rest) =>
      (settingOperators.lookup op).map fun op => (op, rest)
    match isName name, setting? with
    | true, some (op, rest) => do
      let (value, rest) ← wholeSum steps rest
      return (.set name op value, rest)
    | _, _ => do
      let (condition, rest) ← sumAt steps 0 cs
      match operatorAt? rest with
      | some ("?", rest) =>
        let (yes, rest) ← wholeSum steps rest
        match operatorAt? rest with
        | some (":", rest) =>
          let (no, rest) ← wholeSum steps rest
          return (.choice condition yes no, rest)
        | _ => .error .colonExpected
      | _ => return (condition, rest)

end

def wrapped (n : Int) : Int := Int.bmod n 18446744073709551616

def combine (op : String) (a b : Int) : Except SumFault Int :=
  let truth (b : Bool) : Except SumFault Int := .ok (if b then 1 else 0)
  let bits (f : Nat → Nat → Nat) : Except SumFault Int :=
    let word (n : Int) : Nat := (n % 18446744073709551616).toNat
    .ok (wrapped (f (word a) (word b)))
  match op with
  | "+" => .ok (wrapped (a + b))
  | "-" => .ok (wrapped (a - b))
  | "*" => .ok (wrapped (a * b))
  | "/" => if b == 0 then .error .divisionByZero else .ok (wrapped (Int.tdiv a b))
  | "%" => if b == 0 then .error .divisionByZero else .ok (Int.tmod a b)
  | "<<" => .ok (wrapped (a * (Nat.pow 2 (b % 64).toNat : Nat)))
  | ">>" => .ok (Int.fdiv a (Nat.pow 2 (b % 64).toNat : Nat))
  | "&" => bits Nat.land
  | "|" => bits Nat.lor
  | "^" => bits Nat.xor
  | "==" => truth (a == b)
  | "!=" => truth (a != b)
  | "<=" => truth (a ≤ b)
  | ">=" => truth (b ≤ a)
  | "<" => truth (a < b)
  | ">" => truth (b < a)
  | _ => .ok b

def numberOf (text : String) : Except SumFault Int :=
  let cs := dropBlanks text.toList
  let (negative, digits) := match cs with
    | '-' :: rest => (true, rest)
    | '+' :: rest => (false, rest)
    | rest => (false, rest)
  let (n, rest) := numberAt digits
  if cs.isEmpty then .ok 0
  else if (digits.headD ' ').isDigit && (dropBlanks rest).isEmpty then
    .ok (if negative then -(n : Int) else n)
  else .error (.illegalNumber text)

def Sum.value (text : String → String) (known : List (String × Int)) :
    Sum → Except SumFault (Int × List (String × Int))
  | .number n => .ok (wrapped n, known)
  | .name word => match known.lookup word with
    | some n => .ok (n, known)
    | none => (numberOf (text word)).map fun n => (n, known)
  | .unary op body => do
    let (n, known) ← body.value text known
    return (match op with
      | '-' => wrapped (-n)
      | '!' => if n == 0 then 1 else 0
      | '~' => -n - 1
      | _ => n, known)
  | .binary op left right => do
    let (a, known) ← left.value text known
    if op == "&&" && a == 0 then return (0, known)
    else if op == "||" && a != 0 then return (1, known)
    else
      let (b, known) ← right.value text known
      if op == "&&" || op == "||" then return (if b == 0 then 0 else 1, known)
      else
        let n ← combine op a b
        return (n, known)
  | .choice condition yes no => do
    let (n, known) ← condition.value text known
    if n != 0 then yes.value text known else no.value text known
  | .set word op body => do
    let (n, known) ← body.value text known
    let old ← match known.lookup word with
      | some old => .ok old
      | none => if op.isEmpty then .ok 0 else numberOf (text word)
    let n ← combine op old n
    return (n, (word, n) :: known)

def evaluate (text : String → String) (expression : String) :
    Except SumFault (Int × List (String × Int)) := do
  let cs := expression.toList
  let (sum, rest) ← wholeSum (20 * cs.length + 20) cs
  if (dropBlanks rest).isEmpty then sum.value text [] else .error .endExpected

end AppSupervisor.Rehearsal.Shell
