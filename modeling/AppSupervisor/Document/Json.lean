import AppSupervisor.Numeral.Real
import AppSupervisor.Value

/-!
Documents in JSON.

A number with a point or an exponent is a floating-point number, any other one is whole. Two escapes
that are halves of one character stand for that character.
-/

namespace AppSupervisor.Json

open AppSupervisor.Numeral AppSupervisor.Text

def skipBlanks (cs : List Char) : List Char :=
  cs.dropWhile fun c => c == ' ' || c == '\n' || c == '\t' || c == '\r'

def hexFour? (digits : List Char) : Option Nat :=
  digits.foldlM (fun n c => (hexValue? c).map (n * 16 + ·)) 0

def escaped (c : Char) : Nat :=
  match c with
  | 'n' => 10
  | 't' => 9
  | 'r' => 13
  | 'b' => 8
  | 'f' => 12
  | c => c.toNat

def readCodes : List Char → Option (List Nat × List Char)
  | [] => none
  | '"' :: rest => some ([], rest)
  | '\\' :: 'u' :: a :: b :: c :: d :: rest => do
    let code ← hexFour? [a, b, c, d]
    let (codes, rest) ← readCodes rest
    return (code :: codes, rest)
  | '\\' :: c :: rest => do
    let (codes, rest) ← readCodes rest
    return (escaped c :: codes, rest)
  | c :: rest => do
    let (codes, rest) ← readCodes rest
    return (c.toNat :: codes, rest)

/-- Code points in which the halves of one character are put together. -/
def joinHalves : List Nat → List Nat
  | high :: low :: rest =>
    if 0xd800 ≤ high && high < 0xdc00 && 0xdc00 ≤ low && low < 0xe000 then
      (0x10000 + (high - 0xd800) * 0x400 + (low - 0xdc00)) :: joinHalves rest
    else high :: joinHalves (low :: rest)
  | codes => codes

def textOfCodes (codes : List Nat) : Value :=
  let codes := joinHalves codes
  if codes.all Nat.isValidChar then .text (String.ofList (codes.map Char.ofNat))
  else .brokenText codes

def isNumeric (c : Char) : Bool :=
  c.isDigit || c == '-' || c == '+' || c == '.' || c == 'e' || c == 'E'

def numberOf? (literal : List Char) : Option Value :=
  if literal.any fun c => c == '.' || c == 'e' || c == 'E' then
    (realLiteral? literal).map fun real => .float real.toFloat
  else (String.ofList literal).toInt?.map .int

def words : List (List Char × Value) :=
  [("null".toList, .null), ("true".toList, .bool true), ("false".toList, .bool false),
    ("NaN".toList, .float (0.0 / 0.0)), ("Infinity".toList, .float (1.0 / 0.0)),
    ("-Infinity".toList, .float (-(1.0 / 0.0)))]

def readWord (cs : List Char) : Option (Value × List Char) :=
  words.findSome? fun (word, value) =>
    if word.isPrefixOf cs then some (value, cs.drop word.length) else none

def readNumber (cs : List Char) : Option (Value × List Char) :=
  (numberOf? (cs.takeWhile isNumeric)).map (·, cs.dropWhile isNumeric)

mutual

def readValue (depth : Nat) (cs : List Char) : Option (Value × List Char) :=
  match depth, skipBlanks cs with
  | 0, _ => none
  | _, '"' :: rest => (readCodes rest).map fun (codes, rest) => (textOfCodes codes, rest)
  | depth + 1, '[' :: rest => match skipBlanks rest with
    | ']' :: rest => some (.list [], rest)
    | rest => (readItems depth rest).map fun (items, rest) => (.list items, rest)
  | depth + 1, '\x7b' :: rest => match skipBlanks rest with
    | '\x7d' :: rest => some (.map [], rest)
    | rest => (readEntries depth rest).map fun (entries, rest) => (.map entries, rest)
  | _, cs => (readWord cs).or (readNumber cs)

def readItems (depth : Nat) (cs : List Char) : Option (List Value × List Char) :=
  match depth with
  | 0 => none
  | depth + 1 => do
    let (item, rest) ← readValue depth cs
    match skipBlanks rest with
    | ',' :: rest =>
      let (items, rest) ← readItems depth rest
      return (item :: items, rest)
    | ']' :: rest => return ([item], rest)
    | _ => none

def readEntries (depth : Nat) (cs : List Char) : Option (List (Value × Value) × List Char) :=
  match depth with
  | 0 => none
  | depth + 1 => do
    let (key, rest) ← readValue depth cs
    match skipBlanks rest with
    | ':' :: rest =>
      let (value, rest) ← readValue depth rest
      match skipBlanks rest with
      | ',' :: rest =>
        let (entries, rest) ← readEntries depth rest
        return ((key, value) :: entries, rest)
      | '\x7d' :: rest => return ([(key, value)], rest)
      | _ => none
    | _ => none

end

def parse? (cs : List Char) : Option Value :=
  match readValue (cs.length + 1) cs with
  | some (value, rest) => if (skipBlanks rest).isEmpty then some value else none
  | none => none

end AppSupervisor.Json
