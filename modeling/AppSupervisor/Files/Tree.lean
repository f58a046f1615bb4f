import AppSupervisor.Fault
import AppSupervisor.Files.Path

/-!
File trees.

A tree is a table of files, directories and links, numbered from the root on. A file keeps its
number while it is open, also after its name is gone. Finding a file follows links, at most forty of
them; resolving a path replaces links as far as there are any and lets the rest of the path stand.
-/

namespace AppSupervisor.Files

inductive Entry
  | file (bytes : List UInt8)
  | directory (names : List (String × Nat))
  | link (target : String)
  | device
  deriving Inhabited

structure Tree where
  entries : Array Entry
  deriving Inhabited

def Tree.empty : Tree := ⟨#[.directory []]⟩

namespace Tree

def names (t : Tree) (id : Nat) : List (String × Nat) :=
  match t.entries.getD id .device with
  | .directory names => names
  | _ => []

def isDirectory (t : Tree) (id : Nat) : Bool :=
  match t.entries.getD id .device with
  | .directory _ => true
  | _ => false

structure Place where
  way : List Nat
  id : Nat

def nameLimit : Nat := 255

def pathLimit : Nat := 4095

/-- Walks down a path from a directory; `follow` walks on where a link is met. A link at the end is
followed only if asked for. -/
def walkParts (t : Tree) (follow : List Nat → List String → Except FileCause Place)
    (followLast : Bool) : List Nat → List String → Except FileCause Place
  | way, [] => .ok ⟨way.drop 1, way.headD 0⟩
  | way, "." :: rest => walkParts t follow followLast way rest
  | way, ".." :: rest =>
    walkParts t follow followLast (if way.length ≤ 1 then way else way.drop 1) rest
  | way, part :: rest =>
    if nameLimit < part.utf8ByteSize then .error .nameTooLong
    else match (t.names (way.headD 0)).lookup part with
      | none => .error .noEntry
      | some id => match t.entries.getD id .device with
        | .directory _ => walkParts t follow followLast (id :: way) rest
        | .link target =>
          if rest.isEmpty && !followLast then .ok ⟨way, id⟩
          else
            let path := Path.ofString target
            if target.isEmpty then .error .noEntry
            else follow (if path.isAbsolute then [0] else way) (path.parts ++ rest)
        | _ => if rest.isEmpty then .ok ⟨way, id⟩ else .error .notDirectory

def walk (t : Tree) (followLast : Bool) : Nat → List Nat → List String → Except FileCause Place
  | 0 => walkParts t (fun _ _ => .error .linkLoop) followLast
  | links + 1 => walkParts t (walk t followLast links) followLast

def linkLimit : Nat := 40

def find (t : Tree) (followLast : Bool) (p : Path) : Except FileCause Place :=
  if pathLimit < p.toString.utf8ByteSize then .error .nameTooLong
  else walk t followLast linkLimit [0] p.parts

/-- The components that a text writes, with the single dots kept. A slash at the end stands for one.
-/
def componentsOf (s : String) : List String :=
  ((pieces '/' s).filter (· != "")) ++ if s.endsWith "/" then ["."] else []

def findText (t : Tree) (base : Path) (s : String) : Except FileCause Place :=
  if s.isEmpty then .error .noEntry
  else if pathLimit < s.utf8ByteSize then .error .nameTooLong
  else walk t true linkLimit [0] ((if s.startsWith "/" then [] else base.parts) ++ componentsOf s)

def insert (t : Tree) (directory : Nat) (name : String) (entry : Entry) : Tree :=
  let id := t.entries.size
  ⟨(t.entries.push entry).modify directory fun
    | .directory names => .directory (names ++ [(name, id)])
    | other => other⟩

def erase (t : Tree) (directory : Nat) (name : String) : Tree :=
  ⟨t.entries.modify directory fun
    | .directory names => .directory (names.filter (·.1 != name))
    | other => other⟩

def setBytes (t : Tree) (id : Nat) (bytes : List UInt8) : Tree :=
  ⟨t.entries.modify id fun
    | .file _ => .file bytes
    | other => other⟩

def bytes (t : Tree) (id : Nat) : List UInt8 :=
  match t.entries.getD id .device with
  | .file bytes => bytes
  | _ => []

def create (t : Tree) (p : Path) (entry : Entry) : Except FileCause Tree :=
  if pathLimit < p.toString.utf8ByteSize then .error .nameTooLong
  else match p.parts.getLast? with
    | none | some ".." => do
      let _ ← t.find true p
      .error .alreadyExists
    | some name => do
      let parent ← walk t true linkLimit [0] p.parts.dropLast
      if !t.isDirectory parent.id then throw .notDirectory
      if nameLimit < name.utf8ByteSize then throw .nameTooLong
      match (t.names parent.id).lookup name with
      | some _ => throw .alreadyExists
      | none => return t.insert parent.id name entry

def makeDirectory (t : Tree) (p : Path) : Except FileCause Tree :=
  t.create p (.directory [])

def leadsToDirectory (t : Tree) (p : Path) : Bool :=
  match t.find true p with
  | .ok place => t.isDirectory place.id
  | .error _ => false

def makeDirectoryAt (t : Tree) (mayExist : Bool) (p : Path) : Except FileCause Tree :=
  match t.makeDirectory p with
  | .ok t => .ok t
  | .error cause =>
    if mayExist && cause != .noEntry && t.leadsToDirectory p then .ok t else .error cause

/-- Makes a directory and the missing ones above it; the path is given from the root on, the last
component first. The fault names the path that could not be made. -/
def makeDirectories (t : Tree) (slashes : Nat) : List String → Except (FileCause × Path) Tree
  | [] => .ok t
  | name :: above =>
    let p : Path := ⟨slashes, (name :: above).reverse⟩
    match t.makeDirectoryAt true p with
    | .ok t => .ok t
    | .error .noEntry => do
      let t ← makeDirectories t slashes above
      (t.makeDirectoryAt true p).mapError (·, p)
    | .error cause => .error (cause, p)

def writeFile (t : Tree) (p : Path) (bytes : List UInt8) : Except FileCause Tree :=
  match t.find true p with
  | .ok place => match t.entries.getD place.id .device with
    | .file _ => .ok (t.setBytes place.id bytes)
    | .directory _ => .error .isDirectory
    | _ => .ok t
  | .error .noEntry => t.create p (.file bytes)
  | .error cause => .error cause

/-- Takes away what stands at a path, a link itself and not what it leads to. -/
def remove (t : Tree) (p : Path) : Except FileCause Tree := do
  let place ← t.find false p
  match p.parts.getLast?, place.way with
  | some name, directory :: _ => return t.erase directory name
  | _, _ => return t

/-! ### Resolving -/

def collapse (parts : List String) : List String :=
  let step (above : List String) (part : String) : List String :=
    if part == ".." then above.drop 1 else part :: above
  (parts.foldl step []).reverse

structure Spot where
  parts : List String
  isRooted : Bool
  deriving DecidableEq, Repr

/-- Links met so far, with the places they lead to once these are known. A link that was reached in
both ways counts as two. -/
abbrev Seen := List (Spot × Option Spot)

structure Resolved where
  spot : Spot
  isComplete : Bool
  seen : Seen

def Spot.beyond (s : Spot) (rest : List String) : Spot :=
  { s with parts := s.parts ++ rest }

def entryAt? (t : Tree) (parts : List String) : Option Entry :=
  match t.find false ⟨1, parts⟩ with
  | .ok place => some (t.entries.getD place.id .device)
  | .error _ => none

/-- Replaces the links along `rest`, seen from the place `done` that has none; `follow` resolves the
target of a link. -/
def resolveParts (t : Tree) (follow : Spot → List String → Seen → Resolved) :
    Spot → List String → Seen → Resolved
  | done, [], seen => ⟨done, true, seen⟩
  | done, part :: rest, seen =>
    if part == ".." then resolveParts t follow { done with parts := done.parts.dropLast } rest seen
    else
      let here := done.beyond [part]
      match t.entryAt? here.parts with
      | some (.link target) =>
        match seen.lookup here with
        | some (some known) => resolveParts t follow known rest seen
        | some none => ⟨here.beyond rest, false, seen⟩
        | none =>
          let path := Path.ofString target
          let base : Spot := if path.isAbsolute then ⟨[], true⟩ else done
          let found := follow base path.parts ((here, none) :: seen)
          if found.isComplete then
            resolveParts t follow found.spot rest ((here, some found.spot) :: found.seen)
          else ⟨found.spot.beyond rest, false, found.seen⟩
      | _ => resolveParts t follow here rest seen

def resolveWith (t : Tree) : Nat → Spot → List String → Seen → Resolved
  | 0 => resolveParts t fun done rest seen => ⟨done.beyond rest, false, seen⟩
  | depth + 1 => resolveParts t (resolveWith t depth)

def resolve (t : Tree) (current p : Path) : Path :=
  let start : Spot := if p.isAbsolute then ⟨[], true⟩ else ⟨current.parts, false⟩
  ⟨1, collapse (t.resolveWith (2 * t.entries.size + 1) start p.parts []).spot.parts⟩

/-! ### Listing -/

def listing (t : Tree) (base : Path) : Nat → List String → List Nat → List String
  | 0, _, _ => []
  | depth + 1, above, way =>
    (t.names (way.headD 0)).flatMap fun (name, id) =>
      let parts := above ++ [name]
      let text := "/".intercalate parts
      match t.entries.getD id .device with
      | .directory _ => (text ++ "/") :: listing t base depth parts (id :: way)
      | .link _ =>
        if t.leadsToDirectory { base with parts := base.parts ++ parts } then [text ++ "/"]
        else [text]
      | _ => [text]

end Tree

end AppSupervisor.Files
