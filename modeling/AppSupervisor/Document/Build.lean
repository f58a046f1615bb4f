import AppSupervisor.Document.Node

/-!
The value of a document.

Collections are filled level by level: all nodes of one level are begun, and their parts are begun
when the level is filled. The first fault in this order is the one that is reported. A map may take
in the entries of other maps by merge keys; its own entries count more than those taken in.
-/

namespace AppSupervisor.Document

inductive Made
  | leaf (value : Value)
  | list (items : List Nat)
  | map (entries : List (Nat × Nat))
  | pairs (entries : List (Nat × Nat))
  | keys (items : List Nat)
  deriving Inhabited

structure Building where
  nodes : Array Node
  made : Array (Option Made)
  waiting : List Nat := []

abbrev Build := StateT Building (Except Fault)

def nodeAt (id : Nat) : Build Node :=
  return (← get).nodes.getD id default

def refuseNode {α : Type} (context : Option (String × Mark)) (problem : String) (mark : Mark) :
    Build α :=
  throw (.complaint ⟨context.map (·.1), context.map (·.2), problem, mark⟩)

def setMade (id : Nat) (made : Made) : Build Unit :=
  modify fun b => { b with made := b.made.setIfInBounds id (some made) }

/-- The text of a node that must be a scalar. A map may give one under its default key. -/
def scalarText : Nat → Nat → Build ScalarText
  | 0, _ => return default
  | fuel + 1, id => do
    let node ← nodeAt id
    match node.content with
    | .scalar text => return text
    | .map entries =>
      let b ← get
      match entries.find? fun entry => (b.nodes.getD entry.1 default).tag == .defaultValue with
      | some (_, value) => scalarText fuel value
      | none => refuseNode none s!"expected a scalar node, but found {node.content.label}" node.mark
    | .list _ =>
      refuseNode none s!"expected a scalar node, but found {node.content.label}" node.mark

def textValue (text : ScalarText) : Value :=
  if text.isBroken then .brokenText [] else .text text.text

def start (id : Nat) : Build Unit := do
  let b ← get
  if (b.made.getD id none).isSome then return
  let node ← nodeAt id
  let fuel := b.nodes.size + 1
  let leaf (value : Build Value) : Build Unit := do setMade id (.leaf (← value))
  let collection (made : Made) : Build Unit := do
    setMade id made
    modify fun b => { b with waiting := b.waiting ++ [id] }
  match node.tag with
  | .null => leaf do
    let _ ← scalarText fuel id
    return .null
  | .bool => leaf do boolValue (← scalarText fuel id).text
  | .int => leaf do intValue (← scalarText fuel id).text
  | .float => leaf do floatValue (← scalarText fuel id).text
  | .binary => leaf do binaryValue (← scalarText fuel id).text node.mark
  | .timestamp => leaf do dateValue (← scalarText fuel id).text
  | .text => leaf do return textValue (← scalarText fuel id)
  | .list => collection (.list [])
  | .map => collection (.map [])
  | .set => collection (.keys [])
  | .orderedMap => collection (.pairs [])
  | .pairs => collection (.pairs [])
  | .merge | .defaultValue | .other _ =>
    refuseNode none s!"could not determine a constructor for the tag {Text.quote node.tag.name}"
      node.mark

def Building.entries? (b : Building) (id : Nat) : Option (List (Nat × Nat)) :=
  match (b.nodes.getD id default).content with
  | .map entries => some entries
  | _ => none

def setEntries (id : Nat) (entries : List (Nat × Nat)) : Build Unit :=
  modify fun b => { b with
    nodes := b.nodes.modify id fun node => { node with content := .map entries } }

mutual

/-- Takes the entries of merge keys into a map, in front of its own. `merged` holds those taken in,
and `index` is the place among the entries that are left. -/
def mergeInto (id : Nat) : Nat → Nat → List (Nat × Nat) → Build Unit
  | 0, _, _ => return
  | fuel + 1, index, merged => do
    let b ← get
    let entries := (b.entries? id).getD []
    match entries[index]? with
    | none => unless merged.isEmpty do setEntries id (merged ++ entries)
    | some (key, value) =>
      match (b.nodes.getD key default).tag with
      | .merge =>
        setEntries id (entries.eraseIdx index)
        let more ← mergedEntries id value fuel
        mergeInto id fuel index (merged ++ more)
      | .defaultValue =>
        modify fun b =>
          { b with nodes := b.nodes.modify key fun node => { node with tag := .text } }
        mergeInto id fuel (index + 1) merged
      | _ => mergeInto id fuel (index + 1) merged

def mergedEntries (id value : Nat) : Nat → Build (List (Nat × Nat))
  | 0 => return []
  | fuel + 1 => do
    let node ← nodeAt value
    let mark := (← nodeAt id).mark
    match node.content with
    | .map _ =>
      mergeInto value fuel 0 []
      return ((← get).entries? value).getD []
    | .list items => mergedLists mark items fuel
    | .scalar _ =>
      refuseNode (some ("while constructing a mapping", mark))
        s!"expected a mapping or list of mappings for merging, but found {node.content.label}"
        node.mark

/-- The entries of several maps to merge, those of the last map first. -/
def mergedLists (mark : Mark) : List Nat → Nat → Build (List (Nat × Nat))
  | [], _ => return []
  | _ :: _, 0 => return []
  | item :: rest, fuel + 1 => do
    let node ← nodeAt item
    match node.content with
    | .map _ =>
      mergeInto item fuel 0 []
      let entries := ((← get).entries? item).getD []
      return (← mergedLists mark rest fuel) ++ entries
    | _ =>
      refuseNode (some ("while constructing a mapping", mark))
        s!"expected a mapping for merging, but found {node.content.label}" node.mark

end

def Building.isKey (b : Building) (id : Nat) : Bool :=
  match b.made.getD id none with
  | some (.leaf _) => true
  | _ => false

def beginEntries (mark : Mark) : List (Nat × Nat) → Build Unit
  | [] => return
  | (key, value) :: rest => do
    start key
    unless (← get).isKey key do
      refuseNode (some ("while constructing a mapping", mark)) "found unhashable key"
        (← nodeAt key).mark
    start value
    beginEntries mark rest

def fillMap (id : Nat) : Build (List (Nat × Nat)) := do
  let size := (← get).nodes.size + 2
  let node ← nodeAt id
  match node.content with
  | .map _ =>
    mergeInto id (size * size) 0 []
    let entries := ((← get).entries? id).getD []
    beginEntries node.mark entries
    return entries
  | _ => refuseNode none s!"expected a mapping node, but found {node.content.label}" node.mark

def singleEntries (context : String) (mark : Mark) : List Nat → Build (List (Nat × Nat))
  | [] => return []
  | item :: rest => do
    let node ← nodeAt item
    match node.content with
    | .map [(key, value)] =>
      start key
      start value
      return (key, value) :: (← singleEntries context mark rest)
    | .map entries =>
      refuseNode (some (context, mark))
        s!"expected a single mapping item, but found {entries.length} items" node.mark
    | _ =>
      refuseNode (some (context, mark))
        s!"expected a mapping of length 1, but found {node.content.label}" node.mark

def fillPairs (id : Nat) (context : String) : Build Unit := do
  let node ← nodeAt id
  match node.content with
  | .list items => setMade id (.pairs (← singleEntries context node.mark items))
  | _ =>
    refuseNode (some (context, node.mark))
      s!"expected a sequence, but found {node.content.label}" node.mark

def beginAll : List Nat → Build Unit
  | [] => return
  | id :: rest => do
    start id
    beginAll rest

def fill (id : Nat) : Build Unit := do
  let node ← nodeAt id
  match node.tag with
  | .map => setMade id (.map (← fillMap id))
  | .set => setMade id (.keys ((← fillMap id).map (·.1)))
  | .orderedMap => fillPairs id "while constructing an ordered map"
  | .pairs => fillPairs id "while constructing pairs"
  | _ => match node.content with
    | .list items =>
      beginAll items
      setMade id (.list items)
    | _ => refuseNode none s!"expected a sequence node, but found {node.content.label}" node.mark

def fillEach : List Nat → Build Unit
  | [] => return
  | id :: rest => do
    fill id
    fillEach rest

def fillLevels : Nat → Build Unit
  | 0 => return
  | fuel + 1 => do
    let level := (← get).waiting
    if level.isEmpty then return
    modify fun b => { b with waiting := [] }
    fillEach level
    fillLevels fuel

/-- Puts an entry into a map. A key that is there already keeps its place and gets the new value. -/
def putEntry (entries : List (Value × Value)) (key value : Value) : List (Value × Value) :=
  let isSame : Value × Value → Bool
    | (.text s, _) => match key with
      | .text t => s == t
      | _ => false
    | _ => false
  if entries.any isSame then
    entries.map fun entry => if isSame entry then (entry.1, value) else entry
  else entries ++ [(key, value)]

abbrev Known := StateM (Array (Option Value))

mutual

/-- The value of a node, where a node inside itself has the value that is given for it. -/
def valueOf (made : Array (Option Made)) (inside : Array Value) (id : Nat) : Nat → Known Value
  | 0 => return .null
  | fuel + 1 => do
    match (← get).getD id none with
    | some value => return value
    | none =>
      modify (·.setIfInBounds id (some (inside.getD id .null)))
      let value ← match made.getD id none with
        | none => pure .null
        | some (.leaf value) => pure value
        | some (.list items) => Value.list <$> valuesOf made inside fuel items
        | some (.keys items) => Value.set <$> valuesOf made inside fuel items
        | some (.map entries) => do
          let pairs ← pairsOf made inside fuel entries
          pure (Value.map (pairs.foldl (fun acc entry => putEntry acc entry.1 entry.2) []))
        | some (.pairs entries) => do
          let pairs ← pairsOf made inside fuel entries
          pure (Value.list (pairs.map fun entry => .tuple [entry.1, entry.2]))
      modify (·.setIfInBounds id (some value))
      return value

def valuesOf (made : Array (Option Made)) (inside : Array Value) :
    Nat → List Nat → Known (List Value)
  | _, [] => return []
  | 0, _ :: _ => return []
  | fuel + 1, id :: rest => do
    let value ← valueOf made inside id fuel
    return value :: (← valuesOf made inside fuel rest)

def pairsOf (made : Array (Option Made)) (inside : Array Value) :
    Nat → List (Nat × Nat) → Known (List (Value × Value))
  | _, [] => return []
  | 0, _ :: _ => return []
  | fuel + 1, (key, value) :: rest => do
    let k ← valueOf made inside key fuel
    let v ← valueOf made inside value fuel
    return (k, v) :: (← pairsOf made inside fuel rest)

end

def Made.parts : Made → Nat
  | .leaf _ => 0
  | .list items | .keys items => items.length
  | .map entries | .pairs entries => entries.length

def Made.hollow : Made → Value
  | .leaf value => value
  | .list _ | .pairs _ => .list []
  | .map _ => .map []
  | .keys _ => .set []

def openAll (made : Array (Option Made)) (inside : Array Value) : Array Value :=
  let parts := made.foldl (fun n made => n + (made.map Made.parts).getD 0) 0
  let values := valuesOf made inside (3 * (made.size + parts) + 4) (List.range made.size)
  (values.run (Array.replicate made.size none)).1.toArray

/-- How many levels of a document are read at most: the section with the settings, a setting and
its items. -/
def depthLimit : Nat := 3

/-- The value of a node. A node inside itself is opened once more for each level that is read. -/
def buildFrom (id : Nat) (nodes : Array Node) : Except Fault Value := do
  let build : Build Unit := do
    start id
    fillLevels (nodes.size + 1)
  let (_, b) ← build.run { nodes, made := Array.replicate nodes.size none }
  let hollow := b.made.map fun made => (made.map Made.hollow).getD .null
  return (Nat.repeat (openAll b.made) depthLimit hollow).getD id .null

def parse (text : List Char) : Except Fault Value := do
  let lexer ← Lexer.ofText text
  let ((id?, graph), _) ← (readDocument.run {}).run lexer
  match id? with
  | none => return .null
  | some id => buildFrom id graph.nodes

end AppSupervisor.Document
