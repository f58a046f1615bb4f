import AppSupervisor.Files.Tree

/-!
Conditions of a small shell: what files there are, how texts and whole numbers compare, and what is
made of such by "not", "and" and "or".

A word can be an operator or a text; which it is depends on the words behind it. A reader returns
the words from the last one that it has used on.
-/

namespace AppSupervisor.Rehearsal.Shell

open AppSupervisor.Files

inductive Role
  | missing
  | text
  | unary
  | binary
  | conjunction
  | disjunction
  | negation
  | opening
  | closing
  deriving DecidableEq, Repr

def unaryTests : List String :=
  ["-r", "-w", "-x", "-e", "-f", "-d", "-c", "-b", "-p", "-u", "-g", "-k", "-s", "-t", "-z", "-n",
    "-h", "-O", "-G", "-L", "-S"]

def binaryTests : List String :=
  ["=", "!=", "<", ">", "-eq", "-ne", "-gt", "-ge", "-lt", "-le", "-nt", "-ot", "-ef"]

def roleOf : List String → Role
  | [] => .missing
  | word :: following =>
    if unaryTests.contains word then
      match following with
      | [] => .text
      | [_] => .unary
      | next :: _ => if binaryTests.contains next then .text else .unary
    else if binaryTests.contains word then .binary
    else match word with
      | "-a" => .conjunction
      | "-o" => .disjunction
      | "!" => .negation
      | "(" => if following.isEmpty then .text else .opening
      | ")" => .closing
      | _ => .text

def comparisons : List (String × (Int → Int → Bool)) :=
  [("-eq", (· == ·)), ("-ne", (· != ·)), ("-lt", fun a b => a < b), ("-le", fun a b => a ≤ b),
    ("-gt", fun a b => b < a), ("-ge", fun a b => b ≤ a)]

def wholeNumber (text : String) : Except String Int :=
  let isBlank (c : Char) : Bool := c == ' ' || c == '\t' || c == '\n'
  let cs := ((text.toList.dropWhile isBlank).reverse.dropWhile isBlank).reverse
  let (negative, digits) := match cs with
    | '-' :: rest => (true, rest)
    | '+' :: rest => (false, rest)
    | rest => (false, rest)
  if digits.all Char.isDigit && !digits.isEmpty then
    let n := digits.foldl (fun n c => 10 * n + (c.toNat - '0'.toNat)) 0
    .ok (if negative then -(n : Int) else n)
  else .error s!"Illegal number: {text}"

def passes (look : String → Option Entry) (op text : String) : Bool :=
  match op, look text with
  | "-n", _ => !text.isEmpty
  | "-z", _ => text.isEmpty
  | "-f", some (.file _) => true
  | "-s", some (.file bytes) => !bytes.isEmpty
  | "-s", some (.directory _) => true
  | "-d", some (.directory _) => true
  | "-x", some (.directory _) => true
  | "-c", some .device => true
  | "-e", some _ | "-r", some _ | "-w", some _ | "-O", some _ | "-G", some _ => true
  | _, _ => false

def compares (look : String → Option Entry) (left op right : String) : Except String Bool :=
  match op, comparisons.lookup op with
  | _, some test => do
    let a ← wholeNumber left
    let b ← wholeNumber right
    return test a b
  | "=", _ => .ok (left == right)
  | "!=", _ => .ok (left != right)
  | "<", _ => .ok (left < right)
  | ">", _ => .ok (right < left)
  | "-nt", _ => .ok ((look left).isSome && (look right).isNone)
  | "-ot", _ => .ok ((look left).isNone && (look right).isSome)
  | _, _ => .ok ((look left).isSome && left == right)

mutual

def anyHolds (look : String → Option Entry) (steps : Nat) (role : Role) (words : List String) :
    Except String (Bool × List String) :=
  match steps with
  | 0 => .ok (false, [])
  | steps + 1 => do
    let (first, words) ← allHold look steps role words
    if roleOf (words.drop 1) == .disjunction then
      let (second, words) ← anyHolds look steps (roleOf (words.drop 2)) (words.drop 2)
      return (first || second, words)
    else return (first, words)

def allHold (look : String → Option Entry) (steps : Nat) (role : Role) (words : List String) :
    Except String (Bool × List String) :=
  match steps with
  | 0 => .ok (false, [])
  | steps + 1 => do
    let (first, words) ← oneHolds look steps role words
    if roleOf (words.drop 1) == .conjunction then
      let (second, words) ← allHold look steps (roleOf (words.drop 2)) (words.drop 2)
      return (first && second, words)
    else return (first, words)

def oneHolds (look : String → Option Entry) (steps : Nat) (role : Role) (words : List String) :
    Except String (Bool × List String) :=
  match steps, role, words with
  | 0, _, _ => .ok (false, [])
  | steps + 1, .negation, words => do
    let role := roleOf (words.drop 1)
    let rest := if role == .missing then words else words.drop 1
    let (holds, words) ← oneHolds look steps role rest
    return (!holds, words)
  | _, .missing, words => .ok (false, words)
  | steps + 1, .opening, words => do
    let role := roleOf (words.drop 1)
    if role == .closing then return (false, words.drop 1)
    else
      let (holds, words) ← anyHolds look steps role (words.drop 1)
      if roleOf (words.drop 1) == .closing then return (holds, words.drop 1)
      else throw "closing paren expected"
  | _, .unary, op :: text :: rest => .ok (passes look op text, text :: rest)
  | _, .unary, op :: _ => throw s!"{op}: argument expected"
  | _, _, left :: op :: rest =>
    if roleOf (op :: rest) == .binary then
      match rest with
      | [] => throw s!"{op}: argument expected"
      | right :: rest => do return (← compares look left op right, right :: rest)
    else .ok (!left.isEmpty, left :: op :: rest)
  | _, _, [left] => .ok (!left.isEmpty, [left])
  | _, _, [] => .ok (false, [])

end

def condition (look : String → Option Entry) (words : List String) : Except String Bool :=
  let whole (role : Role) (words : List String) : Except String Bool := do
    let (holds, rest) ← anyHolds look (4 * words.length + 8) role words
    match rest with
    | last :: _ :: _ => throw s!"{last}: unexpected operator"
    | _ => return holds
  match words with
  | [] => .ok false
  | [left, op, right] =>
    if binaryTests.contains op then whole .text words
    else if left == "!" then (whole (roleOf [op, right]) [op, right]).map (!·)
    else if left == "(" && right == ")" then whole (roleOf [op]) [op]
    else whole (roleOf words) words
  | [first, second, third, fourth] =>
    if first == "(" && fourth == ")" then whole (roleOf [second, third]) [second, third]
    else if first == "!" then
      let rest := [second, third, fourth]
      (if binaryTests.contains third then whole .text rest else whole (roleOf rest) rest).map (!·)
    else whole (roleOf words) words
  | words => whole (roleOf words) words

end AppSupervisor.Rehearsal.Shell
