import AppSupervisor.Numeral.Double
import AppSupervisor.Numeral.Integer
import AppSupervisor.Numeral.Real
import AppSupervisor.Text.Utf8
import AppSupervisor.Value

/-!
Reading the fields of a record from values.

A field accepts values of its own kind and some that plainly mean one, such as a numeral in a text
for a number. A record reports what is wrong with every field at once: first the declared fields in
their order, then the entries that are no field.
-/

namespace AppSupervisor

open AppSupervisor.Text AppSupervisor.Numeral

inductive FieldCause
  | missing
  | extra
  | notText
  | brokenText
  | tooShort
  | notInteger
  | unreadableInteger
  | fractional
  | infinite
  | integerTooLong
  | notNumber
  | unreadableNumber
  | notPositive
  | negative
  | notBool
  | unreadableBool
  | notPath
  | notList
  | notMap
  | notRecord (name : String)
  | notState
  | notResource
  | frozen
  deriving DecidableEq, Repr

def FieldCause.message : FieldCause → String
  | .missing => "Field required"
  | .extra => "Extra inputs are not permitted"
  | .notText => "Input should be a valid string"
  | .brokenText => "Input should be a valid string, unable to parse raw data as a unicode string"
  | .tooShort => "String should have at least 1 character"
  | .notInteger => "Input should be a valid integer"
  | .unreadableInteger =>
    "Input should be a valid integer, unable to parse string as an integer"
  | .fractional => "Input should be a valid integer, got a number with a fractional part"
  | .infinite => "Input should be a finite number"
  | .integerTooLong => "Unable to parse input string as an integer, exceeded maximum size"
  | .notNumber => "Input should be a valid number"
  | .unreadableNumber => "Input should be a valid number, unable to parse string as a number"
  | .notPositive => "Input should be greater than 0"
  | .negative => "Input should be greater than or equal to 0"
  | .notBool => "Input should be a valid boolean"
  | .unreadableBool => "Input should be a valid boolean, unable to interpret input"
  | .notPath => "Input is not a valid path for <class 'pathlib.Path'>"
  | .notList => "Input should be a valid list"
  | .notMap => "Input should be a valid dictionary"
  | .notRecord name => s!"Input should be a valid dictionary or instance of {name}"
  | .notState =>
    "Input should be 'deploying', 'deployed', 'undeployed', 'partial', 'failed', 'error' or " ++
      "'unknown'"
  | .notResource => "Input should be an instance of Resource"
  | .frozen => "Instance is frozen"

structure FieldFault where
  path : List String
  cause : FieldCause
  deriving DecidableEq, Repr

def FieldFault.message (fault : FieldFault) : String :=
  let place := if fault.path.isEmpty then "unknown" else ".".intercalate fault.path
  s!"Field '{place}': {fault.cause.message}"

def faultsMessage (faults : List FieldFault) : String :=
  "; ".intercalate (faults.map FieldFault.message)

abbrev Checked (α : Type) := Except (List FieldFault) α

def refuse {α : Type} (cause : FieldCause) : Checked α := .error [⟨[], cause⟩]

def within {α : Type} (name : String) : Checked α → Checked α
  | .ok a => .ok a
  | .error faults => .error (faults.map fun fault => { fault with path := name :: fault.path })

def both {α β : Type} : Checked α → Checked β → Checked (α × β)
  | .ok a, .ok b => .ok (a, b)
  | .ok _, .error faults => .error faults
  | .error faults, .ok _ => .error faults
  | .error first, .error second => .error (first ++ second)

def allChecked {α : Type} : List (Checked α) → Checked (List α)
  | [] => .ok []
  | c :: rest => (both c (allChecked rest)).map fun found => found.1 :: found.2

/-! ### Texts -/

/-- Reads a text. Bytes are read as UTF-8. -/
def readText : Value → Checked String
  | .text s => .ok s
  | .brokenText _ => refuse .brokenText
  | .bytes bytes => match decodeUtf8 bytes with
    | .ok cs => .ok (String.ofList cs)
    | .error _ => refuse .brokenText
  | _ => refuse .notText

def readNonEmpty (v : Value) : Checked String := do
  let s ← readText v
  if s.isEmpty then refuse .tooShort else .ok s

def readPath : Value → Checked String
  | .text s => .ok s
  | _ => refuse .notPath

/-! ### Whole numbers -/

/-- Reads digits without leading zeros and with an optional minus; nothing if the text is not of
that form. At most `digitLimit` digits are read. -/
def plainInteger? (cs : List Char) : Option (Checked Int) :=
  let (isNegative, digits) := match cs with
    | '-' :: rest => (true, rest)
    | rest => (false, rest)
  if digits.isEmpty || !digits.all isAsciiDigit then none
  else if digits.head? == some '0' && 1 < digits.length then none
  else if digitLimit < digits.length then some (refuse .integerTooLong)
  else
    let n := ofDigits 10 (digits.map fun c => c.toNat - 0x30)
    some (.ok (signed isNegative n))

def dropLeadingZeros (last : Char) : List Char → Option (List Char)
  | [] => some [last]
  | c :: rest =>
    if c == '0' || c == '_' then dropLeadingZeros c rest
    else if isAsciiDigit c then some (c :: rest)
    else if c == '.' then some (last :: c :: rest)
    else none

def withoutLeadingZeros : List Char → Option (List Char)
  | '0' :: rest => dropLeadingZeros '0' rest
  | c :: rest => if isAsciiDigit c || c == '-' then some (c :: rest) else none
  | [] => none

def withoutZeroFraction (cs : List Char) : Option (List Char) :=
  match cs.dropWhile (· != '.') with
  | [] => some cs
  | _ :: fraction => if fraction.all (· == '0') then some (cs.takeWhile (· != '.')) else none

def hasInnerUnderscores (cs : List Char) : Bool :=
  let rec noneDouble : List Char → Bool
    | '_' :: '_' :: _ => false
    | _ :: rest => noneDouble rest
    | [] => true
  cs.contains '_' && cs.head? != some '_' && cs.getLast? != some '_' && noneDouble cs

def withoutUnderscores (cs : List Char) : List Char :=
  if hasInnerUnderscores cs then cs.filter (· != '_') else cs

/-- A numeral with the liberties of hand-written ones taken away: a plus sign, leading zeros, a zero
decimal part and underscores. -/
def tidyInteger (cs : List Char) : Option (List Char) := do
  let body ← match cs with
    | '+' :: '-' :: _ => none
    | '+' :: rest => some rest
    | rest => some rest
  let digits ← withoutZeroFraction (← withoutLeadingZeros body)
  return withoutUnderscores digits

def readIntegerText (s : String) : Checked Int :=
  let cs := trimUnicode s.toList
  let unreadable : Checked Int := refuse .unreadableInteger
  (plainInteger? cs).getD (((tidyInteger cs).bind plainInteger?).getD unreadable)

def readIntegerFloat (x : Float) : Checked Int :=
  match Double.ofFloat x with
  | .finite value =>
    if value.den != 1 then refuse .fractional
    else if Nat.pow 2 63 ≤ value.num.natAbs then refuse .integerTooLong
    else .ok value.num
  | _ => refuse .infinite

def readInteger : Value → Checked Int
  | .int n => .ok n
  | .bool b => .ok (if b then 1 else 0)
  | .float x => readIntegerFloat x
  | .text s => readIntegerText s
  | .bytes bytes => match decodeUtf8 bytes with
    | .ok cs => readIntegerText (String.ofList cs)
    | .error _ => refuse .unreadableInteger
  | .brokenText _ => refuse .unreadableInteger
  | _ => refuse .notInteger

def readOrdinal (v : Value) : Checked Nat := do
  let n ← readInteger v
  if n < 0 then refuse .negative else .ok n.toNat

/-! ### Other numbers -/

def floatOfInt? (n : Int) : Option Float :=
  (nearestDouble? n).map Float.ofInt

def readNumberText (s : String) : Checked Float :=
  let cs := trimUnicode s.toList
  let stripped :=
    if hasInnerUnderscores s.toList then realLiteral? (withoutUnderscores cs) else none
  match (realLiteral? cs).or stripped with
  | some literal => .ok literal.toFloat
  | none => refuse .unreadableNumber

def readNumber : Value → Checked Float
  | .float x => .ok x
  | .int n => match floatOfInt? n with
    | some x => .ok x
    | none => refuse .notNumber
  | .bool b => .ok (if b then 1.0 else 0.0)
  | .text s => readNumberText s
  | .bytes bytes => match decodeUtf8 bytes with
    | .ok cs => readNumberText (String.ofList cs)
    | .error _ => refuse .unreadableNumber
  | .brokenText _ => refuse .unreadableNumber
  | _ => refuse .notNumber

def readPositive (v : Value) : Checked Float := do
  let x ← readNumber v
  if x > 0.0 then .ok x else refuse .notPositive

/-! ### Truth values -/

def readBoolWord (s : String) : Checked Bool :=
  let word := s.map Char.toLower
  if ["1", "on", "t", "true", "y", "yes"].contains word then .ok true
  else if ["0", "off", "f", "false", "n", "no"].contains word then .ok false
  else refuse .unreadableBool

def readBoolInteger (n : Int) : Checked Bool :=
  if n == 1 then .ok true else if n == 0 then .ok false else refuse .unreadableBool

def readBool : Value → Checked Bool
  | .bool b => .ok b
  | .int n => if n.natAbs < Nat.pow 2 63 then readBoolInteger n else refuse .notBool
  | .float x => match Double.ofFloat x with
    | .finite value =>
      if value.den == 1 && value.num.natAbs < Nat.pow 2 63 then readBoolInteger value.num
      else refuse .notBool
    | _ => refuse .notBool
  | .text s => readBoolWord s
  | .bytes bytes => match decodeUtf8 bytes with
    | .ok cs => readBoolWord (String.ofList cs)
    | .error _ => refuse .unreadableBool
  | .brokenText _ => refuse .unreadableBool
  | _ => refuse .notBool

/-! ### Collections -/

def readItems {α : Type} (item : Value → Checked α) (start : Nat) : List Value → Checked (List α)
  | [] => .ok []
  | v :: rest =>
    (both (within (toString start) (item v)) (readItems item (start + 1) rest)).map
      fun found => found.1 :: found.2

def readList {α : Type} (item : Value → Checked α) : Value → Checked (List α)
  | .list items => readItems item 0 items
  | .tuple items => readItems item 0 items
  | .set items => readItems item 0 items
  | _ => refuse .notList

def readTexts (v : Value) : Checked (List (String × String)) :=
  match v with
  | .map entries => match Value.entries? entries with
    | none => refuse .notMap
    | some entries =>
      allChecked (entries.map fun entry =>
        (within entry.1 (readText entry.2)).map fun s => (entry.1, s))
  | _ => refuse .notMap

/-! ### Records -/

def readField {α : Type} (entries : Entries) (name : String) (default? : Option α)
    (read : Value → Checked α) : Checked α :=
  match entries.lookup name, default? with
  | some v, _ => within name (read v)
  | none, some value => .ok value
  | none, none => within name (refuse .missing)

def refuseExtra (entries : Entries) (names : List String) : Checked Unit :=
  match (entries.map (·.1)).filter (fun key => !names.contains key) with
  | [] => .ok ()
  | extra => .error (extra.map fun key => ⟨[key], .extra⟩)

def readRecord {α : Type} (name : String) (read : Entries → Checked α) : Value → Checked α
  | .map entries => match Value.entries? entries with
    | some entries => read entries
    | none => refuse (.notRecord name)
  | _ => refuse (.notRecord name)

end AppSupervisor
