import AppSupervisor.Machine
import AppSupervisor.Numeral.Integer
import AppSupervisor.Text.Blank

/-!
Choosing ports.

An app may name its port, and then every instance gets it. Otherwise each instance gets a port of
its own that was free a moment ago: some are drawn at random, and if none of these is free the whole
range is searched.
-/

namespace AppSupervisor

open AppSupervisor.Numeral AppSupervisor.Text

def portProperty : String := "server.port"

def portArgument : String := "--server.port="

def firstPort : Int := 8080

def parsePort (value : String) (source : String := portProperty) : Except Fault Int :=
  match parseInteger (trim value) with
  | .error _ => .error (.badRequest (.portNotInteger source value))
  | .ok port =>
    if 1 ≤ port && port ≤ maxPort then .ok port
    else .error (.badRequest (.portOutOfRange source port))

def dropStart? (start s : String) : Option String :=
  let chars := s.toList
  if start.toList.isPrefixOf chars then some (String.ofList (chars.drop start.length)) else none

/-- The port that an app asks for, in an argument or else in a property. -/
def namedPort (properties : List (String × String)) (arguments : List String) :
    Except Fault (Option Int) :=
  match arguments.findSome? (dropStart? portArgument) with
  | some value => some <$> parsePort value "--server.port"
  | none => match properties.lookup portProperty with
    | some value => some <$> parsePort value
    | none => .ok none

namespace Act

variable {σ : Type} [Machine σ]

def isPortFree (port : Int) (host : String) : Act σ Bool := do
  let isFree ← tryMachine (Machine.isPortFree port host)
  note (.triedPort host port isFree)
  return isFree

def draw (low high : Int) : Act σ Int := do
  let value ← onMachine (Machine.draw low high)
  note (.drew low high value)
  return value

def drawPort (low high : Int) (host : String) (excluded : List Int) : Nat → Act σ (Option Int)
  | 0 => return none
  | count + 1 => do
    let port ← draw low high
    if excluded.contains port then drawPort low high host excluded count
    else if ← isPortFree port host then return some port
    else drawPort low high host excluded count

def searchPort (host : String) (excluded : List Int) (port : Int) : Nat → Act σ (Option Int)
  | 0 => return none
  | count + 1 => do
    if excluded.contains port then searchPort host excluded (port + 1) count
    else if ← isPortFree port host then return some port
    else searchPort host excluded (port + 1) count

def findPort (low high : Int) (host : String) (excluded : List Int) : Act σ Int := do
  let count := (high - low + 1).toNat
  match ← drawPort low high host excluded count with
  | some port => return port
  | none => match ← searchPort host excluded low count with
    | some port => return port
    | none => raise (.launchFailed (.noPort low high) none none)

def allocatePort (host : String) (allocated : List Int) (properties : List (String × String))
    (arguments : List String) : Act σ (Int × List Int) := do
  let port ← match ← ofExcept (namedPort properties arguments) with
    | some port => pure port
    | none =>
      let port ← findPort firstPort maxPort host allocated
      log .debug s!"Allocated dynamic port {port}"
      pure port
  return (port, if allocated.contains port then allocated else allocated ++ [port])

end Act

end AppSupervisor
