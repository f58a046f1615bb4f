import AppSupervisor.Command.Environment
import AppSupervisor.CommandLine.Option

/-!
Options that set a key to a value.

A key stands before the first equals sign, without the blanks around it, and its value behind it as
it is. Of several values of one key the last one counts.
-/

namespace AppSupervisor.CommandLine

open AppSupervisor.Text

def keyValue? (s : String) : Option (String × String) :=
  match cutEquals? s with
  | some (key, value) => if (trim key).isEmpty then none else some (trim key, value)
  | none => none

def readKeyValues (place : String) (values : List String) :
    Except UsageCause (List (String × String)) :=
  values.foldlM (fun map s => match keyValue? s with
    | some (key, value) => .ok (Command.put map key value)
    | none => .error (.badValue place (.notKeyValue s))) []

end AppSupervisor.CommandLine
