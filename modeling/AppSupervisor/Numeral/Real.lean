import AppSupervisor.Text.Blank
import AppSupervisor.Text.Digit
import AppSupervisor.Text.Quoted

/-!
Real numbers in text.

A literal is an optional sign followed by a decimal fraction with an optional power of ten, or by a
word for infinity or for the undefined number. Its value is the nearest double-precision number.
-/

namespace AppSupervisor.Numeral

open AppSupervisor.Text

/-- What a literal denotes: `mantissa · 10 ^ exponent` with a sign, an infinity, or no number. -/
inductive RealLiteral
  | finite (negative : Bool) (mantissa : Nat) (exponent : Int)
  | infinity (negative : Bool)
  | undefined
  deriving DecidableEq, Repr

def realWord? (negative : Bool) (cs : List Char) : Option RealLiteral :=
  let word := String.ofList (cs.map Char.toLower)
  if word == "inf" || word == "infinity" then some (.infinity negative)
  else if word == "nan" then some .undefined
  else none

def spanDigits (cs : List Char) : List Nat × List Char :=
  ((cs.takeWhile isAsciiDigit).map (fun c => c.toNat - 0x30), cs.dropWhile isAsciiDigit)

def realExponent? : List Char → Option Int
  | [] => some 0
  | e :: rest =>
    if e == 'e' || e == 'E' then
      let (negative, body) := match rest with
        | '-' :: body => (true, body)
        | '+' :: body => (false, body)
        | body => (false, body)
      match spanDigits body with
      | ([], _) => none
      | (digits, []) =>
        let n : Nat := digits.foldl (fun n d => n * 10 + d) 0
        some (if negative then -(n : Int) else n)
      | (_, _ :: _) => none
    else none

def realDigits? (negative : Bool) (cs : List Char) : Option RealLiteral :=
  let (whole, rest) := spanDigits cs
  let (fraction, rest) := match rest with
    | '.' :: rest => spanDigits rest
    | rest => ([], rest)
  if whole.isEmpty && fraction.isEmpty then none
  else
    (realExponent? rest).map fun power =>
      .finite negative ((whole ++ fraction).foldl (fun n d => n * 10 + d) 0)
        (power - (fraction.length : Int))

def realLiteral? (cs : List Char) : Option RealLiteral :=
  let (negative, body) := match cs with
    | '-' :: body => (true, body)
    | '+' :: body => (false, body)
    | body => (false, body)
  (realWord? negative body).or (realDigits? negative body)

/-- Removes underscores that stand between two ASCII digits; nothing if one stands elsewhere.
`afterDigit` tells whether an ASCII digit stands before. -/
def dropUnderscores (afterDigit : Bool) : List Char → Option (List Char)
  | [] => some []
  | '_' :: c :: rest =>
    if afterDigit && isAsciiDigit c then (c :: ·) <$> dropUnderscores true rest else none
  | c :: rest =>
    if c == '_' then none else (c :: ·) <$> dropUnderscores (isAsciiDigit c) rest

def asciiDigit (c : Char) : Char :=
  match digitValue? c with
  | some d => Char.ofNat (0x30 + d)
  | none => c

/-- The double-precision number nearest to a literal. Powers of ten far outside the range of the
format are cut off first, which keeps the arithmetic small and changes no result. -/
def RealLiteral.toFloat : RealLiteral → Float
  | .undefined => 0.0 / 0.0
  | .infinity negative => if negative then -(1.0 / 0.0) else 1.0 / 0.0
  | .finite negative mantissa exponent =>
    let digits : Int := ((Nat.toDigits 10 mantissa).length : Nat)
    let magnitude : Float :=
      if mantissa == 0 || digits + exponent < -400 then 0.0
      else if 400 < digits + exponent then 1.0 / 0.0
      else if exponent < 0 then Float.ofScientific mantissa true exponent.natAbs
      else Float.ofScientific mantissa false exponent.natAbs
    if negative then -magnitude else magnitude

structure RealFault where
  text : String
  deriving DecidableEq, Repr

def RealFault.message (fault : RealFault) : String :=
  "could not convert string to float: " ++ quote fault.text

/-- Reads a literal: white space may surround it, digits may be of any script, and single
underscores may stand between digits. -/
def parseReal (s : String) : Except RealFault Float :=
  match (dropUnderscores false ((trimUnicode s.toList).map asciiDigit)).bind realLiteral? with
  | some literal => .ok literal.toFloat
  | none => .error ⟨s⟩

end AppSupervisor.Numeral
