/-!
Classes of characters given as ranges of code points.

A table of a standard (printable characters, letters and digits) is a list of closed ranges; a
class is asked by code point, so that it also answers for numbers that are no character.
-/

namespace AppSupervisor.Text

structure Ranges where
  bounds : Array (Nat × Nat)

def Ranges.contains (ranges : Ranges) (code : Nat) : Bool :=
  ranges.bounds.any fun bound => bound.1 ≤ code && code ≤ bound.2

end AppSupervisor.Text
