import AppSupervisor.Fault
import AppSupervisor.Files.Path
import AppSupervisor.Text.Digit

/-!
Binding ports of an idle host.

A host is named by an address in up to four numbers, by the name of the host itself, or by an empty
text, which stands for all its addresses. On an idle host every port of an address of its own can be
bound.
-/

namespace AppSupervisor.Rehearsal

open AppSupervisor.Files

def addressPart? (part : String) : Option Nat :=
  if part.isEmpty || !part.toList.all Char.isDigit then none
  else some (part.toList.foldl (fun n c => n * 10 + (c.toNat - '0'.toNat)) 0)

/-- The address that numbers write: the last one stands for all bytes that are left. -/
def addressOf? : Nat → List Nat → Option Nat
  | bytes + 1, [last] => if last < Nat.pow 256 (bytes + 1) then some last else none
  | bytes + 1, n :: rest =>
    if n < 256 then (addressOf? bytes rest).map (n * Nat.pow 256 bytes + ·) else none
  | _, _ => none

def hostAddress? (host : String) : Option Nat :=
  if host.isEmpty then some 0
  else if host.map Char.toLower == "localhost" then some (127 * Nat.pow 256 3 + 1)
  else match (pieces '.' host).mapM addressPart? with
    | some parts => addressOf? 4 parts
    | none => none

def isOwnAddress (address : Nat) : Bool :=
  address == 0 || address / Nat.pow 256 3 == 127

def canBind (host : String) (port : Int) : Except Fault Bool :=
  let limit : Int := Nat.pow 2 31
  if port < -limit || limit ≤ port then .error (.accident .noPortNumber)
  else match hostAddress? host with
    | none => .ok false
    | some address =>
      if port < 0 || maxPort < port then .error (.accident .noPortNumber)
      else .ok (isOwnAddress address)

end AppSupervisor.Rehearsal
