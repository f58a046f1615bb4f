/-!
Values of a document.

A document holds numbers, texts and collections of them; the entries of a map keep the order in
which they stand. Texts that hold code points which are no characters are kept apart, since no
setting accepts them.
-/

namespace AppSupervisor

inductive Value
  | null
  | bool (value : Bool)
  | int (value : Int)
  | float (value : Float)
  | text (value : String)
  | brokenText (codes : List Nat)
  | bytes (value : List UInt8)
  | date
  | dateTime
  | list (items : List Value)
  | tuple (items : List Value)
  | map (entries : List (Value × Value))
  | set (items : List Value)
  deriving Inhabited

def Value.kind : Value → String
  | .null => "NoneType"
  | .bool _ => "bool"
  | .int _ => "int"
  | .float _ => "float"
  | .text _ | .brokenText _ => "str"
  | .bytes _ => "bytes"
  | .date => "date"
  | .dateTime => "datetime"
  | .list _ => "list"
  | .tuple _ => "tuple"
  | .map _ => "dict"
  | .set _ => "set"

abbrev Entries := List (String × Value)

def Value.entries? : List (Value × Value) → Option Entries
  | [] => some []
  | (.text key, value) :: rest => ((key, value) :: ·) <$> entries? rest
  | _ :: _ => none

def Value.field (v : Value) (name : String) : Value :=
  match v with
  | .map entries => match entries.find? fun
      | (.text key, _) => key == name
      | _ => false with
    | some (_, value) => value
    | none => .null
  | _ => .null

def Value.entries : Value → Entries
  | .map entries => entries.filterMap fun
    | (.text key, value) => some (key, value)
    | _ => none
  | _ => []

def Value.items : Value → List Value
  | .list items => items
  | _ => []

def Value.isNull : Value → Bool
  | .null => true
  | _ => false

def Value.isText : Value → Bool
  | .text _ | .brokenText _ => true
  | _ => false

def Value.text? : Value → Option String
  | .text s => some s
  | _ => none

def Value.int? : Value → Option Int
  | .int n => some n
  | _ => none

def Value.asText (v : Value) : String := v.text?.getD ""

def Value.asInt (v : Value) : Int := v.int?.getD 0

def Value.isTrue : Value → Bool
  | .bool b => b
  | _ => false

end AppSupervisor
