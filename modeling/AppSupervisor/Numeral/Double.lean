/-!
Double-precision numbers as exact fractions.

A finite number is `m · 2 ^ e` with a sign; the fields of its bits give `m` and `e`. A whole number
becomes the nearest double-precision number, a tie going to the even one, unless it is too large.
-/

namespace AppSupervisor.Numeral

inductive Double
  | finite (value : Rat)
  | infinity (negative : Bool)
  | undefined
  deriving DecidableEq

def Double.ofBits (bits : Nat) : Double :=
  let negative := Nat.pow 2 63 ≤ bits
  let exponent := bits / Nat.pow 2 52 % Nat.pow 2 11
  let fraction := bits % Nat.pow 2 52
  if exponent == Nat.pow 2 11 - 1 then
    if fraction == 0 then .infinity negative else .undefined
  else
    let mantissa := if exponent == 0 then fraction else Nat.pow 2 52 + fraction
    let shift := if exponent == 0 then 1 else exponent
    let magnitude : Rat := mkRat (mantissa * Nat.pow 2 shift : Nat) (Nat.pow 2 1075)
    .finite (if negative then -magnitude else magnitude)

def Double.ofFloat (x : Float) : Double :=
  .ofBits x.toBits.toNat

/-- A natural number rounded to 53 significant bits, a tie going to the even neighbour. -/
def round53 (n : Nat) : Nat :=
  let excess := Nat.log2 n - 52
  let unit := Nat.pow 2 excess
  let quotient := n / unit
  let rest := n % unit
  if unit < 2 * rest || (unit == 2 * rest && quotient % 2 == 1) then (quotient + 1) * unit
  else quotient * unit

/-- The double-precision number nearest to a whole number; nothing when that number lies beyond the
greatest finite one. -/
def nearestDouble? (n : Int) : Option Int :=
  let magnitude := round53 n.natAbs
  if magnitude < Nat.pow 2 1024 then some (if n < 0 then -(magnitude : Int) else magnitude)
  else none

end AppSupervisor.Numeral
