import AppSupervisor.Text.Blank
import AppSupervisor.Text.Digit
import AppSupervisor.Text.Quoted

/-!
Whole numbers in text.

A numeral is an optional sign and decimal digits of any script; single underscores may stand between
digits, and white space around the whole. At most 4300 digits are read, leading zeros included.
-/

namespace AppSupervisor.Numeral

open AppSupervisor.Text

def digitLimit : Nat := 4300

inductive IntegerFault
  | malformed (base : Nat) (text : String)
  | tooManyDigits (count : Nat)
  deriving DecidableEq, Repr

def IntegerFault.message : IntegerFault → String
  | .malformed base text =>
    s!"invalid literal for int() with base {base}: " ++ String.ofList ((quote text).toList.take 200)
  | .tooManyDigits count =>
    s!"Exceeds the limit ({digitLimit} digits) for integer string conversion: value has {count} " ++
      "digits; use sys.set_int_max_str_digits() to increase the limit"

def digitIn? (base : Nat) (c : Char) : Option Nat :=
  ((digitValue? c).or (hexValue? c)).filter (· < base)

/-- Reads digits and single underscores between them. `afterDigit` tells whether a digit stands
before; the answer is the digits and the rest that starts with neither, or nothing if an underscore
stands where no digit surrounds it. -/
def scanDigits (base : Nat) (afterDigit : Bool) : List Char → Option (List Nat × List Char)
  | [] => if afterDigit then some ([], []) else none
  | c :: rest =>
    if c == '_' then
      if afterDigit then scanDigits base false rest else none
    else match digitIn? base c with
      | some d => (scanDigits base true rest).map fun found => (d :: found.1, found.2)
      | none => if afterDigit then some ([], c :: rest) else none

def ofDigits (base : Nat) (digits : List Nat) : Nat :=
  digits.foldl (fun n d => n * base + d) 0

def takeSign : List Char → Bool × List Char
  | '-' :: rest => (true, rest)
  | '+' :: rest => (false, rest)
  | rest => (false, rest)

def signed (negative : Bool) (n : Nat) : Int :=
  if negative then -(n : Int) else (n : Int)

def baseLetter? (base : Nat) : Option Char :=
  if base == 2 then some 'b'
  else if base == 8 then some 'o'
  else if base == 16 then some 'x'
  else none

def dropBaseMark (base : Nat) : List Char → List Char
  | '0' :: c :: rest =>
    if baseLetter? base == some c.toLower then
      match rest with
      | '_' :: rest => rest
      | rest => rest
    else '0' :: c :: rest
  | rest => rest

/-- Reads a numeral in a base, which a mark such as `0x` may repeat; the limit on digits holds for
bases that are no power of two. -/
def parseIn (base : Nat) (s : String) : Except IntegerFault Int :=
  let (negative, body) := takeSign (trimUnicode s.toList)
  match scanDigits base false (dropBaseMark base body) with
  | none => .error (.malformed base s)
  | some (digits, rest) =>
    if base == 10 && digitLimit < digits.length then .error (.tooManyDigits digits.length)
    else if rest.isEmpty then .ok (signed negative (ofDigits base digits))
    else .error (.malformed base s)

def parseInteger (s : String) : Except IntegerFault Int :=
  parseIn 10 s

end AppSupervisor.Numeral
