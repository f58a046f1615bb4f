import AppSupervisor.Rehearsal.Shell.Arithmetic

/-!
Printing: texts with backslash sequences, and forms whose places are filled with arguments.
-/

namespace AppSupervisor.Rehearsal.Shell

structure Finished where
  code : Nat := 0
  out : String := ""
  err : String := ""

def backslashed : List (Char × Char) :=
  [('n', '\n'), ('t', '\t'), ('r', '\r'), ('\\', '\\'), ('a', '\x07'), ('b', '\x08'), ('f', '\x0c'),
    ('v', '\x0b'), ('e', '\x1b')]

def octalAt (most : Nat) (cs : List Char) : Char × List Char :=
  let digits := (cs.take most).takeWhile fun c => (digitIn? 8 c).isSome
  let n := digits.foldl (fun n c => 8 * n + (digitIn? 8 c).getD 0) 0
  (Char.ofNat (n % 256), cs.drop digits.length)

def escape? : List Char → Option (Char × List Char)
  | c :: rest =>
    if (digitIn? 8 c).isSome then some (octalAt 3 (c :: rest))
    else (backslashed.lookup c).map fun d => (d, rest)
  | [] => none

def hexAt? (cs : List Char) : Option (Char × List Char) :=
  let digits := (cs.take 2).takeWhile fun c => (digitIn? 16 c).isSome
  let n := digits.foldl (fun n c => 16 * n + (digitIn? 16 c).getD 0) 0
  if digits.isEmpty then none else some (Char.ofNat n, cs.drop digits.length)

/-- A text with backslash sequences replaced, hexadecimal ones if the flag says so, and whether it
is the last that is written; the number bounds the steps. -/
def unescaped (hex : Bool) : Nat → List Char → List Char × Bool
  | 0, _ => ([], false)
  | _, [] => ([], false)
  | _, '\\' :: 'c' :: _ => ([], true)
  | steps + 1, '\\' :: rest =>
    let found? := match rest with
      | '0' :: digits => some (octalAt 3 digits)
      | 'x' :: digits => if hex then hexAt? digits else none
      | rest => escape? rest
    match found? with
    | some (c, rest) =>
      let (text, isLast) := unescaped hex steps rest
      (c :: text, isLast)
    | none =>
      let (text, isLast) := unescaped hex steps rest
      ('\\' :: text, isLast)
  | steps + 1, c :: rest =>
    let (text, isLast) := unescaped hex steps rest
    (c :: text, isLast)

def echo (arguments : List String) : Finished :=
  let (ending, arguments) := match arguments with
    | "-n" :: rest => ("", rest)
    | rest => ("\n", rest)
  let cs := (" ".intercalate arguments).toList
  let (text, isLast) := unescaped false cs.length cs
  { out := String.ofList text ++ (if isLast then "" else ending) }

def isEchoOption (word : String) : Bool :=
  match word.toList with
  | '-' :: letters => !letters.isEmpty && letters.all fun c => c == 'n' || c == 'e' || c == 'E'
  | _ => false

def writeArguments (arguments : List String) : Finished :=
  let options := String.join (arguments.takeWhile isEchoOption)
  let letters := options.toList
  let text := " ".intercalate (arguments.dropWhile isEchoOption)
  let ending := if letters.contains 'n' then "" else "\n"
  let escapes := (letters.filter fun c => c == 'e' || c == 'E').getLast? == some 'e'
  if escapes then
    let cs := text.toList
    let (text, isLast) := unescaped true cs.length cs
    { out := String.ofList text ++ (if isLast then "" else ending) }
  else { out := text ++ ending }

inductive PrintFault
  | noNumber (text : String)
  | partlyNumber (text : String)
  | badDirective (text : String)
  | noFormat
  | noForm
  deriving DecidableEq, Repr

def PrintFault.message : PrintFault → String
  | .noNumber text => s!"{text}: expected numeric value"
  | .partlyNumber text => s!"{text}: not completely converted"
  | .badDirective text => s!"{text}: invalid directive"
  | .noFormat => "missing format character"
  | .noForm => "usage: printf format [arg ...]"

def PrintFault.programMessage (program : String) : PrintFault → String
  | .noNumber text => s!"{program}: '{text}': expected a numeric value\n"
  | .partlyNumber text => s!"{program}: '{text}': value not completely converted\n"
  | .badDirective text => s!"{program}: {text}: invalid conversion specification\n"
  | .noFormat => s!"{program}: %: invalid conversion specification\n"
  | .noForm =>
    s!"{program}: missing operand\nTry '{program} --help' for more information.\n"

def PrintFault.isEnd : PrintFault → Bool
  | .noNumber _ | .partlyNumber _ => false
  | _ => true

structure Printing where
  out : List Char := []
  arguments : List String
  isUsed : Bool := false
  isLast : Bool := false
  faults : List PrintFault := []

namespace Printing

def add (p : Printing) (text : List Char) : Printing :=
  { p with out := text.reverse ++ p.out }

def take (p : Printing) : Option String × Printing :=
  match p.arguments with
  | [] => (none, { p with isUsed := true })
  | text :: arguments => (some text, { p with arguments, isUsed := true })

def takeNumber (p : Printing) : Int × Printing :=
  match p.take with
  | (none, p) => (0, p)
  | (some text, p) =>
    let cs := dropBlanks text.toList
    let (negative, digits) := match cs with
      | '-' :: rest => (true, rest)
      | '+' :: rest => (false, rest)
      | rest => (false, rest)
    let (n, rest) := numberAt digits
    let n : Int := if negative then -(n : Int) else n
    match cs with
    | '\'' :: c :: _ | '"' :: c :: _ => (c.toNat, p)
    | _ =>
      if !(digits.headD ' ').isDigit then (0, { p with faults := .noNumber text :: p.faults })
      else if rest.isEmpty then (n, p)
      else (n, { p with faults := .partlyNumber text :: p.faults })

/-- Takes an argument that is a decimal number: whether it is negative, and its size in units of the
given number of places, rounded to the nearest, a half to the even neighbour. -/
def takeDecimal (p : Printing) (places : Nat) : Bool × Nat × Printing :=
  let (text?, p) := p.take
  let cs := dropBlanks (text?.getD "0").toList
  let (negative, digits) := match cs with
    | '-' :: rest => (true, rest)
    | rest => (false, rest)
  let whole := digits.takeWhile Char.isDigit
  let rest := digits.dropWhile Char.isDigit
  let (part, rest) := match rest with
    | '.' :: rest => (rest.takeWhile Char.isDigit, rest.dropWhile Char.isDigit)
    | rest => ([], rest)
  let n := (whole ++ part).foldl (fun n c => 10 * n + (c.toNat - '0'.toNat)) 0
  let scale := Nat.pow 10 part.length
  let exact := n * Nat.pow 10 places
  let lower := exact / scale
  let twice := 2 * (exact % scale)
  let size := if scale < twice || (twice == scale && lower % 2 == 1) then lower + 1 else lower
  let text := text?.getD ""
  let faults :=
    if whole.isEmpty && part.isEmpty then .noNumber text :: p.faults
    else if rest.isEmpty then p.faults
    else .partlyNumber text :: p.faults
  (negative, size, { p with faults })

end Printing

structure Directive where
  flags : List Char
  width : Nat
  precision? : Option Nat

def Directive.padded (d : Directive) (text : List Char) : List Char :=
  let blanks := List.replicate (d.width - text.length) ' '
  if d.flags.contains '-' then text ++ blanks else blanks ++ text

def Directive.number (d : Directive) (sign digits : List Char) : List Char :=
  let zeros := match d.precision? with
    | some n => n - digits.length
    | none =>
      if d.flags.contains '0' && !d.flags.contains '-' then
        d.width - sign.length - digits.length
      else 0
  d.padded (sign ++ List.replicate zeros '0' ++ digits)

def fill (d : Directive) (conversion : Char) (p : Printing) : Printing :=
  let has (flag : Char) : Bool := d.flags.contains flag
  let unsigned (base : Nat) (mark : List Char) : Printing :=
    let (n, p) := p.takeNumber
    let word := (n % 18446744073709551616).toNat
    let digits := Nat.toDigits base word
    let digits := if conversion == 'X' then digits.map Char.toUpper else digits
    p.add (d.number (if has '#' && word != 0 then mark else []) digits)
  match conversion with
  | 'd' | 'i' =>
    let (n, p) := p.takeNumber
    let sign :=
      if n < 0 then ['-'] else if has '+' then ['+'] else if has ' ' then [' '] else []
    p.add (d.number sign (Nat.toDigits 10 n.natAbs))
  | 'u' => unsigned 10 []
  | 'o' => unsigned 8 ['0']
  | 'x' => unsigned 16 ['0', 'x']
  | 'X' => unsigned 16 ['0', 'X']
  | 'f' | 'F' =>
    let places := d.precision?.getD 6
    let (negative, size, p) := p.takeDecimal places
    let digits := Nat.toDigits 10 size
    let digits := List.replicate (places + 1 - digits.length) '0' ++ digits
    let whole := digits.take (digits.length - places)
    let part := digits.drop (digits.length - places)
    let text := if places == 0 then whole else whole ++ '.' :: part
    let sign := if negative then ['-'] else if has '+' then ['+'] else if has ' ' then [' '] else []
    p.add ({ d with precision? := none }.number sign text)
  | 'c' =>
    let (text?, p) := p.take
    p.add (d.padded ((text?.getD "").toList.take 1))
  | 'b' =>
    let (text?, p) := p.take
    let cs := (text?.getD "").toList
    let (text, isLast) := unescaped false cs.length cs
    { p.add (d.padded (text.take (d.precision?.getD text.length))) with isLast }
  | _ =>
    let (text?, p) := p.take
    let text := (text?.getD "").toList
    p.add (d.padded (text.take (d.precision?.getD text.length)))

def conversions : List Char :=
  ['d', 'i', 'u', 'o', 'x', 'X', 'c', 's', 'b', 'e', 'E', 'f', 'F', 'g', 'G', 'a', 'A']

def fillForm : Nat → List Char → Printing → Printing
  | 0, _, p => p
  | _, [], p => p
  | steps + 1, '%' :: '%' :: rest, p => fillForm steps rest (p.add ['%'])
  | steps + 1, '%' :: rest, p =>
    let flags := rest.takeWhile fun c => ['#', '-', '+', ' ', '0'].contains c
    let behind := rest.drop flags.length
    let count (cs : List Char) (p : Printing) : Int × List Char × Printing :=
      match cs with
      | '*' :: rest =>
        let (n, p) := p.takeNumber
        (n, rest, p)
      | cs => ((numberIn cs : Nat), cs.dropWhile Char.isDigit, p)
    let (width, behind, p) := count behind p
    let (precision?, behind, p) := match behind with
      | '.' :: rest =>
        let (n, rest, p) := count rest p
        (some n.toNat, rest, p)
      | rest => (none, rest, p)
    let flags := if width < 0 then '-' :: flags else flags
    match behind with
    | [] => { p with faults := .noFormat :: p.faults, isLast := true }
    | c :: behind =>
      if conversions.contains c then
        let p := fill { flags, width := width.natAbs, precision? } c p
        if p.isLast then p else fillForm steps behind p
      else
        let text := String.ofList ('%' :: rest.take (rest.length - behind.length))
        { p with faults := .badDirective text :: p.faults, isLast := true }
  | steps + 1, '\\' :: rest, p => match escape? rest with
    | some (c, rest) => fillForm steps rest (p.add [c])
    | none => fillForm steps rest (p.add ['\\'])
  | steps + 1, c :: rest, p => fillForm steps rest (p.add [c])
where
  numberIn (cs : List Char) : Nat :=
    (cs.takeWhile Char.isDigit).foldl (fun n c => 10 * n + (c.toNat - '0'.toNat)) 0

def fillForms (form : List Char) : Nat → Printing → Printing
  | 0, p => p
  | rounds + 1, p =>
    let after := fillForm form.length form { p with isUsed := false }
    if after.isLast || after.arguments.isEmpty || !after.isUsed then after
    else fillForms form rounds after

def printForm (arguments : List String) : String × List PrintFault :=
  let arguments := match arguments with
    | "--" :: rest => rest
    | rest => rest
  match arguments with
  | [] => ("", [.noForm])
  | form :: arguments =>
    let p := fillForms form.toList (arguments.length + 1) { arguments }
    (String.ofList p.out.reverse, p.faults.reverse)

end AppSupervisor.Rehearsal.Shell
