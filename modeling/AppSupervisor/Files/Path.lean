/-!
Paths of files.

A path is a number of leading slashes and a list of components. Empty components and single dots
mean nothing and are dropped when a text is read; double dots are kept, since what they mean depends
on the links in the file tree. Exactly two leading slashes are told apart from one.
-/

namespace AppSupervisor.Files

/-- A path: the number of slashes in front (at most two) and the components behind them. -/
structure Path where
  slashes : Nat
  parts : List String
  deriving DecidableEq, Repr, Inhabited

def cut (sep : Char) : List Char → List (List Char)
  | [] => [[]]
  | c :: rest =>
    if c == sep then [] :: cut sep rest
    else match cut sep rest with
      | [] => [[c]]
      | part :: parts => (c :: part) :: parts

def pieces (sep : Char) (s : String) : List String :=
  (cut sep s.toList).map String.ofList

def Path.ofString (s : String) : Path where
  slashes :=
    let count := (s.toList.takeWhile (· == '/')).length
    if count == 2 then 2 else min count 1
  parts := (pieces '/' s).filter fun part => part != "" && part != "."

def Path.toString (p : Path) : String :=
  if p.slashes == 0 && p.parts.isEmpty then "."
  else String.ofList (List.replicate p.slashes '/') ++ "/".intercalate p.parts

instance : ToString Path := ⟨Path.toString⟩

def Path.isAbsolute (p : Path) : Bool := 0 < p.slashes

def Path.join (p q : Path) : Path :=
  if q.isAbsolute then q else { p with parts := p.parts ++ q.parts }

def Path.child (p : Path) (name : String) : Path :=
  p.join (.ofString name)

def Path.name (p : Path) : String :=
  p.parts.getLastD ""

/-- The last component without its extension. A dot in front or at the end begins no extension. -/
def Path.stem (p : Path) : String :=
  let name := p.name.toList
  match name.reverse.idxOf? '.' with
  | none => p.name
  | some distance =>
    let dot := name.length - 1 - distance
    if 0 < dot && 0 < distance then String.ofList (name.take dot) else p.name

def Path.parent (p : Path) : Path :=
  { p with parts := p.parts.dropLast }

end AppSupervisor.Files
