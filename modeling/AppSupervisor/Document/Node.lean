import AppSupervisor.Document.Plain
import AppSupervisor.Document.Token

/-!
The nodes of a document.

A document is a graph: an alias stands for the node that carries the anchor of its name, which may
contain the alias. Nodes are therefore numbered, and collections list the numbers of their parts.
-/

namespace AppSupervisor.Document

inductive Content
  | scalar (text : ScalarText)
  | list (items : List Nat)
  | map (entries : List (Nat × Nat))
  deriving Repr, Inhabited

def Content.label : Content → String
  | .scalar _ => "scalar"
  | .list _ => "sequence"
  | .map _ => "mapping"

structure Node where
  tag : Tag
  content : Content
  mark : Mark
  deriving Repr, Inhabited

structure Graph where
  nodes : Array Node := #[]
  anchors : List (String × Nat) := []
  handles : List (String × String) := []
  hasVersion : Bool := false

abbrev Compose := StateT Graph Lex

def reject {α : Type} (context : Option (String × Mark)) (problem : String) (mark : Mark) :
    Compose α :=
  complain context problem mark

def addNode (node : Node) : Compose Nat := do
  let graph ← get
  set { graph with nodes := graph.nodes.push node }
  return graph.nodes.size

def setContent (id : Nat) (content : Content) : Compose Unit :=
  modify fun graph =>
    { graph with nodes := graph.nodes.modify id fun node => { node with content } }

def setAnchor (anchor : Option String) (id : Nat) : Compose Unit :=
  match anchor with
  | none => return
  | some name => modify fun graph => { graph with anchors := (name, id) :: graph.anchors }

def addEmpty (mark : Mark) : Compose Nat :=
  addNode ⟨.null, .scalar ⟨"", false⟩, mark⟩

def next : Compose Token := peekToken

def take : Compose Token := takeToken

def takeKind (kind : TokenKind) : Compose (Option Token) := do
  let token ← next
  if token.kind == kind then
    return some (← take)
  return none

def knownHandles : List (String × String) :=
  [("!", "!"), ("!!", commonTagStart)]

structure Properties where
  anchor : Option String := none
  tag : Option (TagText × Mark) := none
  start : Option Mark := none
  stop : Option Mark := none

def takeProperties : Compose Properties := do
  let first ← next
  match first.kind with
  | .anchor name =>
    let _ ← take
    let second ← next
    match second.kind with
    | .tag tag =>
      let _ ← take
      return ⟨some name, some (tag, second.start), some first.start, some second.stop⟩
    | _ => return ⟨some name, none, some first.start, some first.stop⟩
  | .tag tag =>
    let _ ← take
    let second ← next
    match second.kind with
    | .anchor name =>
      let _ ← take
      return ⟨some name, some (tag, first.start), some first.start, some second.stop⟩
    | _ => return ⟨none, some (tag, first.start), some first.start, some first.stop⟩
  | _ => return {}

def resolveTag (properties : Properties) : Compose (Option String) := do
  match properties.tag with
  | none => return none
  | some (⟨none, suffix⟩, _) => return some suffix
  | some (⟨some handle, suffix⟩, mark) =>
    match (← get).handles.lookup handle with
    | some start => return some (start ++ suffix)
    | none =>
      reject (properties.start.map fun start => ("while parsing a node", start))
        s!"found undefined tag handle {Text.quote handle}" mark

def checkAnchor (anchor : Option String) (start : Mark) : Compose Unit := do
  match anchor with
  | none => return
  | some name =>
    let graph ← get
    match graph.anchors.lookup name with
    | none => return
    | some id =>
      let first := (graph.nodes.getD id default).mark
      reject (some (s!"found duplicate anchor {Text.quote name}; first occurrence", first))
        "second occurrence" start

def collectionTag (tag : Option String) (otherwise : Tag) : Tag :=
  match tag with
  | none => otherwise
  | some name => if name == "!" then otherwise else .ofName name

/-- The tag of a scalar: a plain scalar and one with a lone exclamation mark have the kind that the
spelling shows. -/
def scalarTag (tag : Option String) (isPlain : Bool) (text : String) : Tag :=
  match tag with
  | none => if isPlain then plainTag text else .text
  | some name => if name == "!" then plainTag text else .ofName name

mutual

/-- Reads a node. Block collections may begin only where `isBlock` holds, and a list that is not
indented only where `mayBeFlat` does. -/
def readNode (isBlock mayBeFlat : Bool) : Nat → Compose Nat
  | 0 => addEmpty {}
  | fuel + 1 => do
    let first ← next
    match first.kind with
    | .alias name =>
      let _ ← take
      match (← get).anchors.lookup name with
      | some id => return id
      | none => reject none s!"found undefined alias {Text.quote name}" first.start
    | _ =>
      let properties ← takeProperties
      let tag ← resolveTag properties
      let token ← next
      let start := properties.start.getD token.start
      let anchor := properties.anchor
      let opened (tag : Tag) (content : Content) : Compose Nat := do
        checkAnchor anchor start
        let id ← addNode ⟨tag, content, start⟩
        setAnchor anchor id
        return id
      let listTag := collectionTag tag .list
      let mapTag := collectionTag tag .map
      match token.kind with
      | .blockEntry =>
        if mayBeFlat then
          let id ← opened listTag (.list [])
          setContent id (.list (← readFlatEntries fuel []))
          return id
        else readMissing isBlock properties tag start token
      | .scalar text isPlain =>
        let _ ← take
        opened (scalarTag tag isPlain text.text) (.scalar text)
      | .flowSequenceStart =>
        let id ← opened listTag (.list [])
        let _ ← take
        setContent id (.list (← readFlowItems token.start true fuel []))
        return id
      | .flowMappingStart =>
        let id ← opened mapTag (.map [])
        let _ ← take
        setContent id (.map (← readFlowEntries token.start true fuel []))
        return id
      | .blockSequenceStart =>
        if isBlock then
          let id ← opened listTag (.list [])
          let _ ← take
          setContent id (.list (← readBlockItems token.start fuel []))
          return id
        else readMissing isBlock properties tag start token
      | .blockMappingStart =>
        if isBlock then
          let id ← opened mapTag (.map [])
          let _ ← take
          setContent id (.map (← readBlockEntries token.start fuel []))
          return id
        else readMissing isBlock properties tag start token
      | _ => readMissing isBlock properties tag start token

def readMissing (isBlock : Bool) (properties : Properties) (tag : Option String) (start : Mark)
    (token : Token) : Compose Nat := do
  if properties.anchor.isSome || tag.isSome then
    checkAnchor properties.anchor start
    let id ← addNode ⟨scalarTag tag true "", .scalar ⟨"", false⟩, start⟩
    setAnchor properties.anchor id
    return id
  let kind := if isBlock then "block" else "flow"
  reject (some (s!"while parsing a {kind} node", start))
    s!"expected the node content, but found {Text.quote token.kind.label}" token.start

def readNodeUnless (ends : List TokenKind) (isBlock mayBeFlat : Bool) (mark : Mark) :
    Nat → Compose Nat
  | 0 => addEmpty mark
  | fuel + 1 => do
    if ends.contains (← next).kind then addEmpty mark
    else readNode isBlock mayBeFlat fuel

def readBlockItems (start : Mark) : Nat → List Nat → Compose (List Nat)
  | 0, items => return items
  | fuel + 1, items => do
    match ← takeKind .blockEntry with
    | some entry =>
      let item ← readNodeUnless [.blockEntry, .blockEnd] true false entry.stop fuel
      readBlockItems start fuel (items ++ [item])
    | none =>
      let token ← next
      if token.kind != .blockEnd then
        reject (some ("while parsing a block collection", start))
          s!"expected <block end>, but found {Text.quote token.kind.label}" token.start
      let _ ← take
      return items

def readFlatEntries : Nat → List Nat → Compose (List Nat)
  | 0, items => return items
  | fuel + 1, items => do
    match ← takeKind .blockEntry with
    | some entry =>
      let item ← readNodeUnless [.blockEntry, .key, .value, .blockEnd] true false entry.stop fuel
      readFlatEntries fuel (items ++ [item])
    | none =>
      let _ ← next
      return items

def readBlockEntries (start : Mark) : Nat → List (Nat × Nat) → Compose (List (Nat × Nat))
  | 0, entries => return entries
  | fuel + 1, entries => do
    let ends := [TokenKind.key, .value, .blockEnd]
    match ← takeKind .key with
    | some token =>
      let key ← readNodeUnless ends true true token.stop fuel
      let value ← readBlockValue ends fuel
      readBlockEntries start fuel (entries ++ [(key, value)])
    | none =>
      let token ← next
      if token.kind != .blockEnd then
        reject (some ("while parsing a block mapping", start))
          s!"expected <block end>, but found {Text.quote token.kind.label}" token.start
      let _ ← take
      return entries

def readBlockValue (ends : List TokenKind) : Nat → Compose Nat
  | 0 => addEmpty {}
  | fuel + 1 => do
    match ← takeKind .value with
    | some token => readNodeUnless ends true true token.stop fuel
    | none => addEmpty (← next).start

def readFlowItems (start : Mark) (isFirst : Bool) : Nat → List Nat → Compose (List Nat)
  | 0, items => return items
  | fuel + 1, items => do
    if (← takeKind .flowSequenceEnd).isSome then return items
    unless isFirst do
      if (← takeKind .flowEntry).isNone then
        let token ← next
        reject (some ("while parsing a flow sequence", start))
          s!"expected ',' or ']', but got {Text.quote token.kind.label}" token.start
    let token ← next
    if token.kind == .key then
      let id ← addNode ⟨.map, .map [], token.start⟩
      let _ ← take
      let key ← readNodeUnless [.value, .flowEntry, .flowSequenceEnd] false false token.stop fuel
      let value ← match ← takeKind .value with
        | some token => readNodeUnless [.flowEntry, .flowSequenceEnd] false false token.stop fuel
        | none => addEmpty (← next).start
      setContent id (.map [(key, value)])
      let _ ← next
      readFlowItems start false fuel (items ++ [id])
    else if token.kind == .flowSequenceEnd then
      let _ ← take
      return items
    else
      let item ← readNode false false fuel
      readFlowItems start false fuel (items ++ [item])

def readFlowEntries (start : Mark) (isFirst : Bool) :
    Nat → List (Nat × Nat) → Compose (List (Nat × Nat))
  | 0, entries => return entries
  | fuel + 1, entries => do
    if (← takeKind .flowMappingEnd).isSome then return entries
    unless isFirst do
      if (← takeKind .flowEntry).isNone then
        let token ← next
        reject (some ("while parsing a flow mapping", start))
          s!"expected ',' or '\x7d', but got {Text.quote token.kind.label}" token.start
    let token ← next
    if token.kind == .key then
      let _ ← take
      let key ← readNodeUnless [.value, .flowEntry, .flowMappingEnd] false false token.stop fuel
      let value ← match ← takeKind .value with
        | some token => readNodeUnless [.flowEntry, .flowMappingEnd] false false token.stop fuel
        | none => addEmpty (← next).start
      readFlowEntries start false fuel (entries ++ [(key, value)])
    else if token.kind == .flowMappingEnd then
      let _ ← take
      return entries
    else
      let key ← readNode false false fuel
      let value ← addEmpty (← next).start
      readFlowEntries start false fuel (entries ++ [(key, value)])

end

def takeDirectives : Nat → Compose Unit
  | 0 => return
  | fuel + 1 => do
    let token ← next
    match token.kind with
    | .versionDirective major =>
      let _ ← take
      if (← get).hasVersion then reject none "found duplicate YAML directive" token.start
      if major != 1 then
        reject none "found incompatible YAML document (version 1.* is required)" token.start
      modify fun graph => { graph with hasVersion := true }
      takeDirectives fuel
    | .tagDirective handle start =>
      let _ ← take
      if ((← get).handles.lookup handle).isSome then
        reject none s!"duplicate tag handle {Text.quote handle}" token.start
      modify fun graph => { graph with handles := graph.handles ++ [(handle, start)] }
      takeDirectives fuel
    | .otherDirective =>
      let _ ← take
      takeDirectives fuel
    | _ => return

def takeDocumentEnds : Nat → Compose Unit
  | 0 => return
  | fuel + 1 => do
    if (← takeKind .documentEnd).isSome then takeDocumentEnds fuel

/-- Takes the beginning of a document with its directives; nothing at the end of the stream, and
otherwise the place where the document begins. -/
def takeDocumentStart (size : Nat) : Compose (Option Mark) := do
  takeDocumentEnds size
  let first ← next
  if first.kind == .streamEnd then return none
  modify fun graph => { graph with handles := [], hasVersion := false }
  takeDirectives size
  modify fun graph =>
    let missing := knownHandles.filter fun entry => (graph.handles.lookup entry.1).isNone
    { graph with handles := graph.handles ++ missing }
  let token ← next
  if token.kind != .documentStart then
    reject none s!"expected '<document start>', but found {Text.quote token.kind.label}" token.start
  let _ ← take
  return some first.start

def readDocument : Compose (Option Nat) := do
  let size := (← getThe Lexer).text.size * 2 + 8
  let _ ← take
  let token ← next
  let isBare := match token.kind with
    | .versionDirective _ | .tagDirective _ _ | .otherDirective => false
    | .documentStart | .streamEnd => false
    | _ => true
  let hasDocument ← if isBare then do
      modify fun graph => { graph with handles := knownHandles }
      pure true
    else do pure (← takeDocumentStart size).isSome
  unless hasDocument do return none
  let token ← next
  let isEmpty := !isBare && match token.kind with
    | .versionDirective _ | .tagDirective _ _ | .otherDirective | .documentStart | .documentEnd
    | .streamEnd => true
    | _ => false
  let id ← if isEmpty then addEmpty token.start else readNode true false (4 * size)
  let _ ← takeKind .documentEnd
  match ← takeDocumentStart size with
  | none => return some id
  | some second =>
    let first := ((← get).nodes.getD id default).mark
    reject (some ("expected a single document in the stream", first)) "but found another document"
      second

end AppSupervisor.Document
