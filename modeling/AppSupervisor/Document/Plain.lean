import AppSupervisor.Document.Mark
import AppSupervisor.Field
import AppSupervisor.Numeral.Integer
import AppSupervisor.Numeral.Real

/-!
The kinds of scalars and their values.

A plain scalar has a kind by its spelling: words for truth values and for nothing, numbers in
several bases, also with base sixty, and dates. Every other scalar is a text, unless a tag says
otherwise.
-/

namespace AppSupervisor.Document

open AppSupervisor.Numeral AppSupervisor.Text

inductive Tag
  | null
  | bool
  | int
  | float
  | binary
  | timestamp
  | orderedMap
  | pairs
  | set
  | text
  | list
  | map
  | merge
  | defaultValue
  | other (name : String)
  deriving DecidableEq, Repr, Inhabited

def commonTagStart : String := "tag:yaml.org,2002:"

def commonTags : List (String × Tag) :=
  [("null", .null), ("bool", .bool), ("int", .int), ("float", .float), ("binary", .binary),
    ("timestamp", .timestamp), ("omap", .orderedMap), ("pairs", .pairs), ("set", .set),
    ("str", .text), ("seq", .list), ("map", .map), ("merge", .merge), ("value", .defaultValue)]

def Tag.ofName (name : String) : Tag :=
  match commonTags.find? (fun entry => commonTagStart ++ entry.1 == name) with
  | some entry => entry.2
  | none => .other name

def Tag.name : Tag → String
  | .other name => name
  | tag => match commonTags.find? (·.2 == tag) with
    | some entry => commonTagStart ++ entry.1
    | none => commonTagStart

/-! ### Spelling -/

def boolWords : List String :=
  ["yes", "Yes", "YES", "no", "No", "NO", "true", "True", "TRUE", "false", "False", "FALSE",
    "on", "On", "ON", "off", "Off", "OFF"]

def isDigitOrUnderscore (c : Char) : Bool := c.isDigit || c == '_'

def dropSign : List Char → List Char
  | '+' :: rest => rest
  | '-' :: rest => rest
  | rest => rest

def behindNumber (isFirst : Char → Bool) : List Char → Option (List Char)
  | [] => none
  | c :: rest => if isFirst c then some (rest.dropWhile isDigitOrUnderscore) else none

/-- The rest behind groups of a colon and a number below sixty; the flag tells whether there is one.
-/
def behindSixties (found : Bool) : List Char → Bool × List Char
  | ':' :: a :: b :: rest =>
    if '0' ≤ a && a ≤ '5' && b.isDigit then behindSixties true rest
    else if a.isDigit then behindSixties true (b :: rest)
    else (found, ':' :: a :: b :: rest)
  | [':', a] => if a.isDigit then (true, []) else (found, [':', a])
  | rest => (found, rest)

def isPowerOrEmpty : List Char → Bool
  | [] => true
  | e :: s :: rest =>
    (e == 'e' || e == 'E') && (s == '+' || s == '-') && !rest.isEmpty && rest.all Char.isDigit
  | _ => false

def spellsFloat (cs : List Char) : Bool :=
  let body := dropSign cs
  let decimal := match behindNumber Char.isDigit body with
    | some ('.' :: rest) => isPowerOrEmpty (rest.dropWhile isDigitOrUnderscore)
    | _ => false
  let fraction := match cs with
    | '.' :: rest => (behindNumber Char.isDigit rest).any isPowerOrEmpty
    | _ => false
  let sixties := match (behindNumber Char.isDigit body).map (behindSixties false) with
    | some (true, '.' :: rest) => rest.all isDigitOrUnderscore
    | _ => false
  let infinity := [".inf", ".Inf", ".INF"].contains (String.ofList body)
  let undefined := [".nan", ".NaN", ".NAN"].contains (String.ofList cs)
  decimal || fraction || sixties || infinity || undefined

def spellsInt (cs : List Char) : Bool :=
  let nonEmptyAll (p : Char → Bool) (cs : List Char) : Bool := !cs.isEmpty && cs.all p
  match dropSign cs with
  | ['0'] => true
  | '0' :: 'b' :: rest => nonEmptyAll (fun c => c == '0' || c == '1' || c == '_') rest
  | '0' :: 'x' :: rest => nonEmptyAll (fun c => (hexValue? c).isSome || c == '_') rest
  | '0' :: rest => rest.all fun c => ('0' ≤ c && c ≤ '7') || c == '_'
  | body => match behindNumber (fun c => '1' ≤ c && c ≤ '9') body with
    | none => false
    | some [] => true
    | some rest => behindSixties false rest == (true, [])

/-- A date as written, with a time of day if there is one: hour, minute and second, and the hours
and minutes that its zone is away, if a sign is written. -/
structure DateText where
  year : Nat
  month : Nat
  day : Nat
  time : Option (Nat × Nat × Nat) := none
  zone : Option (Nat × Nat) := none

def takeDigits (least most : Nat) (cs : List Char) : Option (List Char × List Char) :=
  let digits := (cs.take most).takeWhile Char.isDigit
  if digits.length < least then none else some (digits, cs.drop digits.length)

def digitsValue (digits : List Char) : Nat :=
  digits.foldl (fun n c => n * 10 + (c.toNat - 0x30)) 0

def takePart (mark : Char) (least most : Nat) : List Char → Option (Nat × List Char)
  | [] => none
  | c :: rest =>
    if c == mark then (takeDigits least most rest).map fun found => (digitsValue found.1, found.2)
    else none

def takeZone (cs : List Char) : Option (Option (Nat × Nat)) :=
  match cs.dropWhile fun c => c == ' ' || c == '\t' with
  | [] => if cs.isEmpty then some none else none
  | ['Z'] => some none
  | s :: rest =>
    if s == '+' || s == '-' then do
      let (hours, rest) ← takeDigits 1 2 rest
      if rest.isEmpty then return some (digitsValue hours, 0)
      let (minutes, rest) ← takePart ':' 2 2 rest
      if rest.isEmpty then return some (digitsValue hours, minutes) else none
    else none

/-- The date that a text spells; `least` digits must write months and days where no time follows. -/
def dateText? (least : Nat) (cs : List Char) : Option DateText := do
  let (year, rest) ← takeDigits 4 4 cs
  let year := digitsValue year
  let (month, afterMonth) ← takePart '-' 1 2 rest
  let (day, afterDay) ← takePart '-' 1 2 afterMonth
  let monthLength := rest.length - afterMonth.length - 1
  let dayLength := afterMonth.length - afterDay.length - 1
  match afterDay with
  | [] => if least ≤ monthLength && least ≤ dayLength then return { year, month, day } else none
  | c :: rest =>
    let body ← if c == 'T' || c == 't' then some rest
      else if c == ' ' || c == '\t' then some (rest.dropWhile fun c => c == ' ' || c == '\t')
      else none
    let (hour, rest) ← takeDigits 1 2 body
    let (minute, rest) ← takePart ':' 2 2 rest
    let (second, rest) ← takePart ':' 2 2 rest
    let rest := match rest with
      | '.' :: rest => rest.dropWhile Char.isDigit
      | rest => rest
    let zone ← takeZone rest
    return { year, month, day, time := some (digitsValue hour, minute, second), zone }

/-- The kind of a plain scalar. A line feed at the end does not count. -/
def plainTag (s : String) : Tag :=
  let whole := s.toList
  let endsLine := whole.head? != some '\n' && whole.getLast? == some '\n'
  let cs := if endsLine then whole.dropLast else whole
  let word := String.ofList cs
  if boolWords.contains word then .bool
  else if spellsFloat cs then .float
  else if spellsInt cs then .int
  else if word == "<<" then .merge
  else if ["~", "null", "Null", "NULL", ""].contains word then .null
  else if (dateText? 2 cs).isSome then .timestamp
  else if word == "=" then .defaultValue
  else .text

/-! ### Values -/

def boolValue (s : String) : Except Fault Value :=
  let word := s.map Char.toLower
  if ["yes", "true", "on"].contains word then .ok (.bool true)
  else if ["no", "false", "off"].contains word then .ok (.bool false)
  else .error (.noTruthValue word)

def takeNumberSign : List Char → Except Fault (Bool × List Char)
  | [] => .error .emptyNumber
  | '-' :: rest => .ok (true, rest)
  | '+' :: rest => .ok (false, rest)
  | rest => .ok (false, rest)

def numeral (base : Nat) (cs : List Char) : Except Fault Int :=
  (parseIn base (String.ofList cs)).mapError fun fault => .badNumber fault.message

def betweenColons (cs : List Char) : List (List Char) :=
  cs.foldr (fun c pieces =>
    if c == ':' then [] :: pieces
    else match pieces with
      | [] => [[c]]
      | piece :: rest => (c :: piece) :: rest) [[]]

def startsWith (start cs : List Char) : Bool := start.isPrefixOf cs

def intValue (s : String) : Except Fault Value := do
  let (isNegative, body) ← takeNumberSign (s.toList.filter (· != '_'))
  let magnitude : Int ←
    if body == ['0'] then pure 0
    else if startsWith ['0', 'b'] body then numeral 2 (body.drop 2)
    else if startsWith ['0', 'x'] body then numeral 16 (body.drop 2)
    else match body with
    | [] => throw .emptyNumber
    | '0' :: _ => numeral 8 body
    | _ =>
      if body.contains ':' then do
        let parts ← (betweenColons body).mapM (numeral 10)
        pure (parts.foldl (fun n part => n * 60 + part) 0)
      else numeral 10 body
  return .int (if isNegative then -magnitude else magnitude)

def decimal (cs : List Char) : Except Fault Float :=
  (parseReal (String.ofList cs)).mapError fun fault => .badNumber fault.message

/-- The sum of parts, the last one counting as it is and each other sixty times as much as the next.
-/
def sixtiesValue (sum : Float) (base : Nat) : List Float → Except Fault Float
  | [] => .ok sum
  | part :: rest => match floatOfInt? base with
    | none => .error .numberTooLarge
    | some scale => sixtiesValue (sum + part * scale) (base * 60) rest

def floatValue (s : String) : Except Fault Value := do
  let (isNegative, body) ←
    takeNumberSign ((s.toList.filter (· != '_')).map Char.toLower)
  let word := String.ofList body
  if word == ".nan" then return .float (0.0 / 0.0)
  let magnitude ←
    if word == ".inf" then pure (1.0 / 0.0)
    else if body.contains ':' then do
      let parts ← (betweenColons body).mapM decimal
      sixtiesValue 0.0 1 parts.reverse
    else decimal body
  return .float (if isNegative then -magnitude else magnitude)

def isLeapYear (year : Nat) : Bool :=
  year % 4 == 0 && (year % 100 != 0 || year % 400 == 0)

def daysIn (year month : Nat) : Nat :=
  if month == 2 then (if isLeapYear year then 29 else 28)
  else if [4, 6, 9, 11].contains month then 30 else 31

def dateValue (s : String) : Except Fault Value := do
  let whole := s.toList
  let cs := if whole.getLast? == some '\n' then whole.dropLast else whole
  let some date := dateText? 1 cs | throw .noDate
  match date.zone with
  | some (hours, minutes) =>
    if 24 * 60 ≤ hours * 60 + minutes then
      throw (.badDate ("offset must be a timedelta strictly between -timedelta(hours=24) and " ++
        "timedelta(hours=24)"))
  | none => pure ()
  if date.year == 0 then throw (.badDate "year 0 is out of range")
  if date.month == 0 || 12 < date.month then throw (.badDate "month must be in 1..12")
  if date.day == 0 || daysIn date.year date.month < date.day then
    throw (.badDate "day is out of range for month")
  match date.time with
  | none => return .date
  | some (hour, minute, second) =>
    if 23 < hour then throw (.badDate "hour must be in 0..23")
    if 59 < minute then throw (.badDate "minute must be in 0..59")
    if 59 < second then throw (.badDate "second must be in 0..59")
    return .dateTime

def base64Value? (c : Char) : Option Nat :=
  if 'A' ≤ c && c ≤ 'Z' then some (c.toNat - 0x41)
  else if 'a' ≤ c && c ≤ 'z' then some (c.toNat - 0x61 + 26)
  else if c.isDigit then some (c.toNat - 0x30 + 52)
  else if c == '+' then some 62
  else if c == '/' then some 63
  else none

/-- Reads bytes in groups of four characters; characters outside the notation are passed over.
`place` is the place in the group, `bits` are those of the last character that make no byte yet, and
`pads` counts the equals signs at this place. -/
def base64Bytes (place bits pads count : Nat) : List Char → Except String (List UInt8)
  | [] =>
    if place == 1 then
      .error (s!"Invalid base64-encoded string: number of data characters ({count / 3 * 4 + 1}) " ++
        "cannot be 1 more than a multiple of 4")
    else if place != 0 then .error "Incorrect padding"
    else .ok []
  | c :: rest =>
    if c == '=' then
      if 2 ≤ place && 4 ≤ place + pads + 1 then .ok []
      else base64Bytes place bits (if 2 ≤ place then pads + 1 else pads) count rest
    else match base64Value? c with
      | none => base64Bytes place bits pads count rest
      | some n =>
        let emit (byte : Nat) (place bits : Nat) : Except String (List UInt8) :=
          (UInt8.ofNat byte :: ·) <$> base64Bytes place bits 0 (count + 1) rest
        match place with
        | 0 => base64Bytes 1 n 0 count rest
        | 1 => emit (bits * 4 + n / 16) 2 (n % 16)
        | 2 => emit (bits * 16 + n / 4) 3 (n % 4)
        | _ => emit (bits * 64 + n) 0 0

def nonAscii? (cs : List Char) : Option String :=
  match cs.findIdx? (fun c => 0x80 ≤ c.toNat) with
  | none => none
  | some first =>
    let run := (cs.drop first).takeWhile fun c => 0x80 ≤ c.toNat
    let place := if run.length == 1 then
        let shown := String.ofList (quoteEscape (run.headD ' '))
        s!"character '{shown}' in position {first}"
      else s!"characters in position {first}-{first + run.length - 1}"
    some s!"'ascii' codec can't encode {place}: ordinal not in range(128)"
where
  quoteEscape (c : Char) : List Char :=
    if c.toNat < 0x100 then '\\' :: 'x' :: (hex c.toNat 2).toList
    else if c.toNat < 0x10000 then '\\' :: 'u' :: (hex c.toNat 4).toList
    else '\\' :: 'U' :: (hex c.toNat 8).toList

def binaryValue (s : String) (mark : Mark) : Except Fault Value :=
  match nonAscii? s.toList with
  | some message =>
    .error (.complaint ⟨none, none, "failed to convert base64 data into ascii: " ++ message, mark⟩)
  | none => match base64Bytes 0 0 0 0 s.toList with
    | .ok bytes => .ok (.bytes bytes)
    | .error message =>
      .error (.complaint ⟨none, none, "failed to decode base64 data: " ++ message, mark⟩)

end AppSupervisor.Document
