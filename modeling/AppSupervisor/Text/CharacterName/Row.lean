import AppSupervisor.Text.Blank

/-!
Rows of names.

The names of characters that stand side by side mostly begin alike, so they are listed in rows: the
first code point, what the names begin with, and how each of them goes on, with bars between.
-/

namespace AppSupervisor.Text

structure NameRow where
  first : Nat
  lead : String
  rests : String

def NameRow.find? (row : NameRow) (name : String) : Option Nat :=
  if name.startsWith row.lead then
    let rests := (row.rests.splitOn "|").map trim
    (rests.findIdx? fun rest => row.lead ++ rest == name).map (row.first + ·)
  else none

end AppSupervisor.Text
