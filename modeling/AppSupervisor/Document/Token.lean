import AppSupervisor.Document.Mark
import AppSupervisor.Text.Utf8

/-!
The tokens of a document.

Tokens are produced on demand, since a fault in later text must not hide one in earlier tokens. A
key without a question mark is known only at its colon, so the place of every possible key is
remembered and the key token is put in before the tokens that make the key up. Indentation opens and
closes block collections by tokens of their own.
-/

namespace AppSupervisor.Document

structure TagText where
  handle : Option String
  suffix : String
  deriving DecidableEq, Repr

/-- The text of a scalar. A text that holds code points which are no characters is broken; the
replacement character stands for them. -/
structure ScalarText where
  text : String
  isBroken : Bool := false
  deriving DecidableEq, Repr, Inhabited

inductive TokenKind
  | streamStart
  | streamEnd
  | versionDirective (major : Nat)
  | tagDirective (handle start : String)
  | otherDirective
  | documentStart
  | documentEnd
  | blockSequenceStart
  | blockMappingStart
  | blockEnd
  | flowSequenceStart
  | flowSequenceEnd
  | flowMappingStart
  | flowMappingEnd
  | key
  | value
  | blockEntry
  | flowEntry
  | alias (name : String)
  | anchor (name : String)
  | tag (tag : TagText)
  | scalar (text : ScalarText) (isPlain : Bool)
  deriving DecidableEq, Repr, Inhabited

def TokenKind.label : TokenKind → String
  | .streamStart => "<stream start>"
  | .streamEnd => "<stream end>"
  | .versionDirective _ | .tagDirective _ _ | .otherDirective => "<directive>"
  | .documentStart => "<document start>"
  | .documentEnd => "<document end>"
  | .blockSequenceStart => "<block sequence start>"
  | .blockMappingStart => "<block mapping start>"
  | .blockEnd => "<block end>"
  | .flowSequenceStart => "["
  | .flowSequenceEnd => "]"
  | .flowMappingStart => "\x7b"
  | .flowMappingEnd => "\x7d"
  | .key => "?"
  | .value => ":"
  | .blockEntry => "-"
  | .flowEntry => ","
  | .alias _ => "<alias>"
  | .anchor _ => "<anchor>"
  | .tag _ => "<tag>"
  | .scalar _ _ => "<scalar>"

structure Token where
  kind : TokenKind
  start : Mark
  stop : Mark
  deriving Repr, Inhabited

structure PossibleKey where
  tokenNumber : Nat
  isRequired : Bool
  mark : Mark
  deriving Repr

/-- The state of reading tokens. `indents` holds the indentations of the open block collections, the
innermost first; `possibleKeys` is listed by flow level. -/
structure Lexer where
  text : Array Char
  mark : Mark := {}
  isDone : Bool := false
  flowLevel : Nat := 0
  tokens : List Token := []
  tokensTaken : Nat := 0
  indent : Int := -1
  indents : List Int := []
  allowsKey : Bool := true
  possibleKeys : List (Nat × PossibleKey) := []

abbrev Lex := StateT Lexer (Except Fault)

def complain {α : Type} (context : Option (String × Mark)) (problem : String) (mark : Mark) :
    Lex α :=
  throw (.complaint ⟨context.map (·.1), context.map (·.2), problem, mark⟩)

/-! ### Characters -/

def Lexer.peekAt (lexer : Lexer) (offset : Nat) : Char :=
  lexer.text.getD (lexer.mark.index + offset) '\x00'

def peek (offset : Nat) : Lex Char :=
  return (← get).peekAt offset

def ahead (count : Nat) : Lex (List Char) := do
  let lexer ← get
  return (lexer.text.extract lexer.mark.index (lexer.mark.index + count)).toList

def Lexer.step (lexer : Lexer) : Lexer :=
  let c := lexer.peekAt 0
  let mark := lexer.mark
  let startsLine := c == '\n' || c == '\u0085' || c == '\u2028' || c == '\u2029' ||
    (c == '\r' && lexer.peekAt 1 != '\n')
  let next : Mark :=
    if startsLine then ⟨mark.index + 1, mark.line + 1, 0⟩
    else if c == '\uFEFF' then ⟨mark.index + 1, mark.line, mark.column⟩
    else ⟨mark.index + 1, mark.line, mark.column + 1⟩
  { lexer with mark := next }

def forward : Nat → Lex Unit
  | 0 => return
  | count + 1 => do
    modify Lexer.step
    forward count

def Lexer.spanFrom (lexer : Lexer) (isMember : Char → Bool) : Nat → Nat → Nat
  | 0, _ => 0
  | fuel + 1, offset =>
    if isMember (lexer.peekAt offset) then lexer.spanFrom isMember fuel (offset + 1) + 1 else 0

/-- The number of characters ahead that are all of a class. NUL must not be in the class. -/
def spanAhead (isMember : Char → Bool) : Lex Nat := do
  let lexer ← get
  return lexer.spanFrom isMember (lexer.text.size - lexer.mark.index) 0

def takeSpan (isMember : Char → Bool) : Lex (List Char) := do
  let count ← spanAhead isMember
  let found ← ahead count
  forward count
  return found

def skipSpaces : Lex Unit := do
  let _ ← takeSpan (· == ' ')

def remaining : Lex Nat := do
  let lexer ← get
  return lexer.text.size - lexer.mark.index + 1

def isBreak (c : Char) : Bool := isLineEnd c && c != '\x00'

def isLineEndOrSpace (c : Char) : Bool := isLineEnd c || c == ' '

def isLineEndOrBlank (c : Char) : Bool := isLineEnd c || c == ' ' || c == '\t'

def isNameChar (c : Char) : Bool := c.isAlphanum || c == '-' || c == '_'

def isHex (c : Char) : Bool := (Text.hexValue? c).isSome

def isOneOf (chars : String) (c : Char) : Bool := chars.toList.contains c

/-- Takes a line break, if one is ahead. Breaks other than the line and paragraph separators become
a line feed. -/
def takeBreak : Lex (List Char) := do
  let c ← peek 0
  if c == '\r' && (← peek 1) == '\n' then
    forward 2
    return ['\n']
  if c == '\r' || c == '\n' || c == '\u0085' then
    forward 1
    return ['\n']
  if c == '\u2028' || c == '\u2029' then
    forward 1
    return [c]
  return []

def skipComment : Lex Unit := do
  if (← peek 0) == '#' then
    let _ ← takeSpan fun c => !isLineEnd c

def isAtMarker : Lex Bool := do
  let three ← ahead 3
  return (three == ['-', '-', '-'] || three == ['.', '.', '.']) && isLineEndOrBlank (← peek 3)

def quoteAhead (offset : Nat) : Lex String :=
  return Text.quote (String.singleton (← peek offset))

def complainAhead {α : Type} (context : String) (start : Mark) (expected : String) (offset : Nat) :
    Lex α := do
  complain (some (context, start)) s!"expected {expected}, but found {← quoteAhead offset}"
    (← get).mark

/-! ### Indentation and keys -/

def push (kind : TokenKind) (start stop : Mark) : Lex Unit :=
  modify fun lexer => { lexer with tokens := lexer.tokens ++ [⟨kind, start, stop⟩] }

def pushChars (kind : TokenKind) (count : Nat) : Lex Unit := do
  let start := (← get).mark
  forward count
  push kind start (← get).mark

def missingColon {α : Type} (key : PossibleKey) : Lex α := do
  complain (some ("while scanning a simple key", key.mark)) "could not find expected ':'"
    (← get).mark

/-- Gives up possible keys that lie on an earlier line or too far back. -/
def dropStaleKeys : Lex Unit := do
  let lexer ← get
  let isStale (key : PossibleKey) : Bool :=
    key.mark.line != lexer.mark.line || 1024 < lexer.mark.index - key.mark.index
  match lexer.possibleKeys.find? (fun entry => isStale entry.2 && entry.2.isRequired) with
  | some entry => missingColon entry.2
  | none =>
    set { lexer with possibleKeys := lexer.possibleKeys.filter fun entry => !isStale entry.2 }

def dropKey : Lex Unit := do
  let lexer ← get
  match lexer.possibleKeys.lookup lexer.flowLevel with
  | none => return
  | some key =>
    if key.isRequired then missingColon key
    set { lexer with possibleKeys :=
      lexer.possibleKeys.filter fun entry => entry.1 != lexer.flowLevel }

def saveKey : Lex Unit := do
  let before ← get
  if before.allowsKey then
    dropKey
    let lexer ← get
    let key : PossibleKey := {
      tokenNumber := lexer.tokensTaken + lexer.tokens.length
      isRequired := lexer.flowLevel == 0 && lexer.indent == lexer.mark.column
      mark := lexer.mark }
    set { lexer with possibleKeys := lexer.possibleKeys ++ [(lexer.flowLevel, key)] }

def closeBlocks (column : Int) : Lex Unit := do
  let lexer ← get
  if lexer.flowLevel == 0 then
    let closed := if lexer.indent ≤ column then []
      else lexer.indent :: lexer.indents.takeWhile (column < ·)
    let outer := if lexer.indent ≤ column then lexer.indent :: lexer.indents
      else lexer.indents.dropWhile (column < ·)
    let ends := closed.map fun _ => Token.mk .blockEnd lexer.mark lexer.mark
    set { lexer with
      tokens := lexer.tokens ++ ends
      indent := outer.headD (-1)
      indents := outer.drop 1 }

def openBlock (column : Nat) : Lex Bool := do
  let lexer ← get
  if lexer.indent < column then
    set { lexer with indent := (column : Int), indents := lexer.indent :: lexer.indents }
    return true
  return false

def openCollection (kind : TokenKind) : Lex Unit := do
  let mark := (← get).mark
  if ← openBlock mark.column then push kind mark mark

def allowKey (allowed : Bool) : Lex Unit :=
  modify fun lexer => { lexer with allowsKey := allowed }

/-! ### Directives, anchors and tags -/

def takeName (context : String) (start : Mark) (isAfter : Char → Bool) : Lex String := do
  let count ← spanAhead isNameChar
  if count == 0 then complainAhead context start "alphabetic or numeric character" 0
  let name ← ahead count
  forward count
  unless isAfter (← peek 0) do complainAhead context start "alphabetic or numeric character" 0
  return String.ofList name

def takeLineRest (context : String) (start : Mark) : Lex Unit := do
  skipSpaces
  skipComment
  unless isLineEnd (← peek 0) do complainAhead context start "a comment or a line break" 0
  let _ ← takeBreak

def takeVersionNumber (context : String) (start : Mark) : Lex Nat := do
  unless (← peek 0).isDigit do complainAhead context start "a digit" 0
  let digits ← takeSpan Char.isDigit
  return digits.foldl (fun n c => n * 10 + (c.toNat - 0x30)) 0

def takeUriBytes (context : String) (start : Mark) : Nat → Lex (List UInt8)
  | 0 => return []
  | fuel + 1 => do
    if (← peek 0) != '%' then return []
    forward 1
    let expected := "URI escape sequence of 2 hexadecimal numbers"
    unless isHex (← peek 0) do complainAhead context start expected 0
    unless isHex (← peek 1) do complainAhead context start expected 1
    let digits ← ahead 2
    forward 2
    let code := digits.foldl (fun n c => n * 16 + (Text.hexValue? c).getD 0) 0
    return UInt8.ofNat code :: (← takeUriBytes context start fuel)

def takeUriChars (context : String) (start : Mark) : Nat → List Char → Lex (List Char)
  | 0, found => return found
  | fuel + 1, found => do
    let c ← peek 0
    if c == '%' then
      let mark := (← get).mark
      let bytes ← takeUriBytes context start (← remaining)
      match Text.decodeUtf8 bytes with
      | .ok cs => takeUriChars context start fuel (found ++ cs)
      | .error fault => complain (some (context, start)) fault.message mark
    else if c.isAlphanum || isOneOf "-;/?:@&=+$,_.!~*'()[]" c then
      forward 1
      takeUriChars context start fuel (found ++ [c])
    else return found

def takeUri (what : String) (start : Mark) : Lex String := do
  let found ← takeUriChars s!"while scanning a {what}" start (← remaining) []
  if found.isEmpty then complainAhead s!"while parsing a {what}" start "URI" 0
  return String.ofList found

def takeHandle (what : String) (start : Mark) : Lex String := do
  let context := s!"while scanning a {what}"
  if (← peek 0) != '!' then complainAhead context start "'!'" 0
  let lexer ← get
  if (← peek 1) == ' ' then
    forward 1
    return "!"
  let count := lexer.spanFrom isNameChar (lexer.text.size - lexer.mark.index) 1 + 1
  if (← peek count) != '!' then
    forward count
    complainAhead context start "'!'" 0
  let handle ← ahead (count + 1)
  forward (count + 1)
  return String.ofList handle

def takeDirective : Lex Unit := do
  let start := (← get).mark
  let context := "while scanning a directive"
  forward 1
  let name ← takeName context start isLineEndOrSpace
  let kind : TokenKind ← if name == "YAML" then
      skipSpaces
      let major ← takeVersionNumber context start
      if (← peek 0) != '.' then complainAhead context start "a digit or '.'" 0
      forward 1
      let _ ← takeVersionNumber context start
      unless isLineEndOrSpace (← peek 0) do complainAhead context start "a digit or ' '" 0
      pure (TokenKind.versionDirective major)
    else if name == "TAG" then
      skipSpaces
      let handle ← takeHandle "directive" start
      if (← peek 0) != ' ' then complainAhead context start "' '" 0
      skipSpaces
      let uri ← takeUri "directive" start
      unless isLineEndOrSpace (← peek 0) do complainAhead context start "' '" 0
      pure (TokenKind.tagDirective handle uri)
    else
      let _ ← takeSpan fun c => !isLineEnd c
      pure TokenKind.otherDirective
  let stop := (← get).mark
  takeLineRest context start
  push kind start stop

def takeAnchor (what : String) (make : String → TokenKind) : Lex Unit := do
  let start := (← get).mark
  forward 1
  let name ← takeName s!"while scanning an {what}" start
    fun c => isLineEndOrBlank c || isOneOf "?:,]\x7d%@\x60" c
  push (make name) start (← get).mark

def Lexer.hasHandle (lexer : Lexer) : Nat → Nat → Bool
  | 0, _ => false
  | fuel + 1, offset =>
    let c := lexer.peekAt offset
    if isLineEndOrSpace c then false
    else c == '!' || lexer.hasHandle fuel (offset + 1)

def takeTag : Lex Unit := do
  let start := (← get).mark
  let c ← peek 1
  let tag : TagText ← if c == '<' then
      forward 2
      let suffix ← takeUri "tag" start
      if (← peek 0) != '>' then complainAhead "while parsing a tag" start "'>'" 0
      forward 1
      pure { handle := none, suffix }
    else if isLineEndOrBlank c then
      forward 1
      pure { handle := none, suffix := "!" }
    else
      let lexer ← get
      let isHandle := lexer.hasHandle (lexer.text.size - lexer.mark.index) 1
      let handle ← if isHandle then takeHandle "tag" start
        else do
          forward 1
          pure "!"
      let suffix ← takeUri "tag" start
      pure { handle := some handle, suffix }
  unless isLineEndOrSpace (← peek 0) do complainAhead "while scanning a tag" start "' '" 0
  push (.tag tag) start (← get).mark

/-! ### Block scalars -/

inductive Chomping
  | clip
  | strip
  | keep
  deriving DecidableEq

def takeChomping : Lex Chomping := do
  let c ← peek 0
  if c == '+' then
    forward 1
    return .keep
  if c == '-' then
    forward 1
    return .strip
  return .clip

def takeIncrement (context : String) (start : Mark) : Lex (Option Nat) := do
  let c ← peek 0
  unless c.isDigit do return none
  if c == '0' then
    complain (some (context, start))
      "expected indentation indicator in the range 1-9, but found 0" (← get).mark
  forward 1
  return some (c.toNat - 0x30)

def takeIndentation : Nat → List Char → Nat → Lex (List Char × Nat)
  | 0, breaks, widest => return (breaks, widest)
  | fuel + 1, breaks, widest => do
    let c ← peek 0
    if c == ' ' then
      forward 1
      takeIndentation fuel breaks (max widest (← get).mark.column)
    else if isBreak c then
      takeIndentation fuel (breaks ++ (← takeBreak)) widest
    else return (breaks, widest)

def skipIndent (indent : Nat) : Nat → Lex Unit
  | 0 => return
  | fuel + 1 => do
    if (← get).mark.column < indent && (← peek 0) == ' ' then
      forward 1
      skipIndent indent fuel

def takeBreaks (indent : Nat) : Nat → List Char → Lex (List Char)
  | 0, breaks => return breaks
  | fuel + 1, breaks => do
    skipIndent indent (← remaining)
    if isBreak (← peek 0) then takeBreaks indent fuel (breaks ++ (← takeBreak))
    else return breaks

/-- Takes the lines of a block scalar: the text so far, the last line break and the breaks of the
empty lines behind it. -/
def takeLines (isFolded : Bool) (indent : Nat) :
    Nat → List Char → List Char → Lex (List Char × List Char × List Char)
  | 0, text, breaks => return (text, [], breaks)
  | fuel + 1, text, breaks => do
    let startsWithText := !isOneOf " \t" (← peek 0)
    let line ← takeSpan fun c => !isLineEnd c
    let text := text ++ breaks ++ line
    let lineBreak ← takeBreak
    let breaks ← takeBreaks indent (← remaining) []
    if (← get).mark.column == indent && (← peek 0) != '\x00' then
      let joins := isFolded && lineBreak == ['\n'] && startsWithText && !isOneOf " \t" (← peek 0)
      let joint := if joins then (if breaks.isEmpty then [' '] else []) else lineBreak
      takeLines isFolded indent fuel (text ++ joint) breaks
    else return (text, lineBreak, breaks)

def takeBlockScalar (isFolded : Bool) : Lex Unit := do
  let start := (← get).mark
  let context := "while scanning a block scalar"
  forward 1
  let before ← takeChomping
  let increment ← takeIncrement context start
  let chomping ← if before == .clip && increment.isSome then takeChomping else pure before
  unless isLineEndOrSpace (← peek 0) do
    complainAhead context start "chomping or indentation indicators" 0
  takeLineRest context start
  let least := max 1 ((← get).indent + 1).toNat
  let (breaks, indent) ← match increment with
    | none => do
      let (breaks, widest) ← takeIndentation (← remaining) [] 0
      pure (breaks, max least widest)
    | some increment => do
      let indent := least + increment - 1
      pure (← takeBreaks indent (← remaining) [], indent)
  let (text, lineBreak, breaks) ←
    if (← get).mark.column == indent && (← peek 0) != '\x00' then
      takeLines isFolded indent (← remaining) [] breaks
    else pure (([], [], breaks) : List Char × List Char × List Char)
  let text := match chomping with
    | .strip => text
    | .clip => text ++ lineBreak
    | .keep => text ++ lineBreak ++ breaks
  push (.scalar ⟨String.ofList text, false⟩ false) start (← get).mark

/-! ### Quoted scalars -/

def escapedChar? : Char → Option Char
  | '0' => some '\x00'
  | 'a' => some '\x07'
  | 'b' => some '\x08'
  | 't' | '\t' => some '\t'
  | 'n' => some '\n'
  | 'v' => some '\x0b'
  | 'f' => some '\x0c'
  | 'r' => some '\r'
  | 'e' => some '\x1b'
  | ' ' => some ' '
  | '"' => some '"'
  | '\\' => some '\\'
  | '/' => some '/'
  | 'N' => some '\u0085'
  | '_' => some '\u00a0'
  | 'L' => some '\u2028'
  | 'P' => some '\u2029'
  | _ => none

def escapeDigits? : Char → Option Nat
  | 'x' => some 2
  | 'u' => some 4
  | 'U' => some 8
  | _ => none

structure Gathered where
  chars : List Char := []
  isBroken : Bool := false

def Gathered.add (g : Gathered) (cs : List Char) : Gathered :=
  { g with chars := g.chars ++ cs }

def Gathered.addCode (g : Gathered) (code : Nat) : Except Fault Gathered :=
  if 0x110000 ≤ code then .error (if Nat.pow 2 31 ≤ code then .characterTooLarge else .badCharacter)
  else if 0xd800 ≤ code && code < 0xe000 then .ok ⟨g.chars ++ ['\uFFFD'], true⟩
  else .ok (g.add [Char.ofNat code])

def takeQuotedBreaks (start : Mark) : Nat → List Char → Lex (List Char)
  | 0, breaks => return breaks
  | fuel + 1, breaks => do
    if ← isAtMarker then
      complain (some ("while scanning a quoted scalar", start))
        "found unexpected document separator" (← get).mark
    let _ ← takeSpan (isOneOf " \t")
    if isBreak (← peek 0) then takeQuotedBreaks start fuel (breaks ++ (← takeBreak))
    else return breaks

/-- Takes blanks inside quotation marks. A line break alone means a space. -/
def takeQuotedBlanks (start : Mark) (g : Gathered) : Lex Gathered := do
  let blanks ← takeSpan (isOneOf " \t")
  let c ← peek 0
  if c == '\x00' then
    complain (some ("while scanning a quoted scalar", start)) "found unexpected end of stream"
      (← get).mark
  if isBreak c then
    let lineBreak ← takeBreak
    let breaks ← takeQuotedBreaks start (← remaining) []
    let joint := if lineBreak != ['\n'] then lineBreak else if breaks.isEmpty then [' '] else []
    return g.add (joint ++ breaks)
  return g.add blanks

def Lexer.firstNonHex? (lexer : Lexer) : Nat → Nat → Option Nat
  | 0, _ => none
  | count + 1, offset =>
    if isHex (lexer.peekAt offset) then lexer.firstNonHex? count (offset + 1) else some offset

def takeQuotedEscape (start : Mark) (g : Gathered) : Lex Gathered := do
  let context := "while scanning a double-quoted scalar"
  let c ← peek 0
  match escapedChar? c, escapeDigits? c with
  | some meant, _ =>
    forward 1
    return g.add [meant]
  | none, some count =>
    forward 1
    match (← get).firstNonHex? count 0 with
    | some offset =>
      complainAhead context start s!"escape sequence of {count} hexadecimal numbers" offset
    | none =>
      let digits ← ahead count
      let code := digits.foldl (fun n c => n * 16 + (Text.hexValue? c).getD 0) 0
      let g ← g.addCode code
      forward count
      return g
  | none, none =>
    if isBreak c then
      let _ ← takeBreak
      return g.add (← takeQuotedBreaks start (← remaining) [])
    complain (some (context, start)) s!"found unknown escape character {← quoteAhead 0}"
      (← get).mark

def takeQuotedWord (isDouble : Bool) (start : Mark) : Nat → Gathered → Lex Gathered
  | 0, g => return g
  | fuel + 1, g => do
    let plain ← takeSpan fun c => !isLineEndOrBlank c && !isOneOf "'\"\\" c
    let g := g.add plain
    let c ← peek 0
    if !isDouble && c == '\'' && (← peek 1) == '\'' then
      forward 2
      takeQuotedWord isDouble start fuel (g.add ['\''])
    else if (isDouble && c == '\'') || (!isDouble && (c == '"' || c == '\\')) then
      forward 1
      takeQuotedWord isDouble start fuel (g.add [c])
    else if isDouble && c == '\\' then
      forward 1
      takeQuotedWord isDouble start fuel (← takeQuotedEscape start g)
    else return g

def takeQuotedRest (isDouble : Bool) (mark : Char) (start : Mark) : Nat → Gathered → Lex Gathered
  | 0, g => return g
  | fuel + 1, g => do
    if (← peek 0) == mark then return g
    let g ← takeQuotedBlanks start g
    let g ← takeQuotedWord isDouble start (← remaining) g
    takeQuotedRest isDouble mark start fuel g

def takeQuoted (mark : Char) : Lex Unit := do
  let start := (← get).mark
  let isDouble := mark == '"'
  forward 1
  let g ← takeQuotedWord isDouble start (← remaining) {}
  let g ← takeQuotedRest isDouble mark start (← remaining) g
  forward 1
  push (.scalar ⟨String.ofList g.chars, g.isBroken⟩ false) start (← get).mark

/-! ### Plain scalars -/

def Lexer.endsPlain (lexer : Lexer) (offset : Nat) : Bool :=
  let c := lexer.peekAt offset
  let next := lexer.peekAt (offset + 1)
  let inFlow := 0 < lexer.flowLevel
  isLineEndOrBlank c
    || (c == ':' && (isLineEndOrBlank next || (inFlow && isOneOf ",[]\x7b\x7d" next)))
    || (inFlow && isOneOf ",?[]\x7b\x7d" c)

def Lexer.plainLength (lexer : Lexer) : Nat → Nat → Nat
  | 0, _ => 0
  | fuel + 1, offset =>
    if lexer.endsPlain offset then 0 else lexer.plainLength fuel (offset + 1) + 1

def takePlainBreaks : Nat → List Char → Lex (Option (List Char))
  | 0, breaks => return some breaks
  | fuel + 1, breaks => do
    let c ← peek 0
    if c == ' ' then
      forward 1
      takePlainBreaks fuel breaks
    else if isBreak c then
      let breaks := breaks ++ (← takeBreak)
      if ← isAtMarker then return none
      takePlainBreaks fuel breaks
    else return some breaks

def takePlainBlanks : Lex (List Char) := do
  let spaces ← takeSpan (· == ' ')
  if isBreak (← peek 0) then
    let lineBreak ← takeBreak
    allowKey true
    if ← isAtMarker then return []
    match ← takePlainBreaks (← remaining) [] with
    | none => return []
    | some breaks =>
      let joint := if lineBreak != ['\n'] then lineBreak else if breaks.isEmpty then [' '] else []
      return joint ++ breaks
  return spaces

/-- Takes the words of a plain scalar; `blanks` is the blank part before the next one. The second
part of the result is the end of the last word. -/
def takePlainWords (indent : Int) : Nat → List Char → List Char → Mark → Lex (List Char × Mark)
  | 0, text, _, stop => return (text, stop)
  | fuel + 1, text, blanks, stop => do
    if (← peek 0) == '#' then return (text, stop)
    let lexer ← get
    let count := lexer.plainLength (lexer.text.size - lexer.mark.index) 0
    if count == 0 then return (text, stop)
    allowKey false
    let word ← ahead count
    forward count
    let text := text ++ blanks ++ word
    let stop := (← get).mark
    let blanks ← takePlainBlanks
    let lexer ← get
    if blanks.isEmpty || lexer.peekAt 0 == '#' ||
        (lexer.flowLevel == 0 && (lexer.mark.column : Int) < indent) then
      return (text, stop)
    takePlainWords indent fuel text blanks stop

def takePlain : Lex Unit := do
  let lexer ← get
  let start := lexer.mark
  let (text, stop) ← takePlainWords (lexer.indent + 1) (← remaining) [] [] start
  push (.scalar ⟨String.ofList text, false⟩ true) start stop

/-! ### Fetching -/

/-- Passes over blanks, comments and line breaks. A new line allows a key outside flow collections.
-/
def skipToToken : Nat → Lex Unit
  | 0 => return
  | fuel + 1 => do
    skipSpaces
    skipComment
    if (← takeBreak).isEmpty then return
    if (← get).flowLevel == 0 then allowKey true
    skipToToken fuel

def fetchStreamEnd : Lex Unit := do
  closeBlocks (-1)
  dropKey
  allowKey false
  modify fun lexer => { lexer with possibleKeys := [], isDone := true }
  let mark := (← get).mark
  push .streamEnd mark mark

def fetchDirective : Lex Unit := do
  closeBlocks (-1)
  dropKey
  allowKey false
  takeDirective

def fetchMarker (kind : TokenKind) : Lex Unit := do
  closeBlocks (-1)
  dropKey
  allowKey false
  pushChars kind 3

def fetchFlowStart (kind : TokenKind) : Lex Unit := do
  saveKey
  modify fun lexer => { lexer with flowLevel := lexer.flowLevel + 1 }
  allowKey true
  pushChars kind 1

def fetchFlowEnd (kind : TokenKind) : Lex Unit := do
  dropKey
  modify fun lexer => { lexer with flowLevel := lexer.flowLevel - 1 }
  allowKey false
  pushChars kind 1

def fetchFlowEntry : Lex Unit := do
  allowKey true
  dropKey
  pushChars .flowEntry 1

def checkBlockEntry (what : String) : Lex Unit := do
  let lexer ← get
  if lexer.flowLevel == 0 && !lexer.allowsKey then
    complain none s!"{what} are not allowed here" lexer.mark

def fetchBlockEntry : Lex Unit := do
  if (← get).flowLevel == 0 then
    checkBlockEntry "sequence entries"
    openCollection .blockSequenceStart
  allowKey true
  dropKey
  pushChars .blockEntry 1

def fetchKey : Lex Unit := do
  if (← get).flowLevel == 0 then
    checkBlockEntry "mapping keys"
    openCollection .blockMappingStart
  allowKey ((← get).flowLevel == 0)
  dropKey
  pushChars .key 1

def insertToken (number : Nat) (kind : TokenKind) (mark : Mark) : Lex Unit :=
  modify fun lexer =>
    let place := number - lexer.tokensTaken
    { lexer with tokens :=
        lexer.tokens.take place ++ Token.mk kind mark mark :: lexer.tokens.drop place }

def fetchValue : Lex Unit := do
  let lexer ← get
  match lexer.possibleKeys.lookup lexer.flowLevel with
  | some key =>
    set { lexer with possibleKeys :=
      lexer.possibleKeys.filter fun entry => entry.1 != lexer.flowLevel }
    insertToken key.tokenNumber .key key.mark
    if lexer.flowLevel == 0 then
      if ← openBlock key.mark.column then insertToken key.tokenNumber .blockMappingStart key.mark
    allowKey false
  | none =>
    if lexer.flowLevel == 0 then
      checkBlockEntry "mapping values"
      openCollection .blockMappingStart
    allowKey (lexer.flowLevel == 0)
    dropKey
  pushChars .value 1

def fetchKeyPart (take : Lex Unit) : Lex Unit := do
  saveKey
  allowKey false
  take

def fetchBlockScalar (isFolded : Bool) : Lex Unit := do
  allowKey true
  dropKey
  takeBlockScalar isFolded

def Lexer.startsPlain (lexer : Lexer) : Bool :=
  let c := lexer.peekAt 0
  let isIndicator := isLineEndOrBlank c || isOneOf "-?:,[]\x7b\x7d#&*!|>'\"%@\x60" c
  !isIndicator || (!isLineEndOrBlank (lexer.peekAt 1) &&
    (c == '-' || (lexer.flowLevel == 0 && (c == '?' || c == ':'))))

def fetchMore : Lex Unit := do
  let lexer ← get
  if lexer.mark.index == 0 && lexer.peekAt 0 == '\uFEFF' then forward 1
  skipToToken (← remaining)
  dropStaleKeys
  closeBlocks ((← get).mark.column : Int)
  let lexer ← get
  let c := lexer.peekAt 0
  let blankNext := isLineEndOrBlank (lexer.peekAt 1)
  let inFlow := 0 < lexer.flowLevel
  let isAtMarker ← if lexer.mark.column == 0 then isAtMarker else pure false
  if c == '\x00' then fetchStreamEnd
  else if c == '%' && lexer.mark.column == 0 then fetchDirective
  else if c == '-' && isAtMarker then fetchMarker .documentStart
  else if c == '.' && isAtMarker then fetchMarker .documentEnd
  else if c == '[' then fetchFlowStart .flowSequenceStart
  else if c == '\x7b' then fetchFlowStart .flowMappingStart
  else if c == ']' then fetchFlowEnd .flowSequenceEnd
  else if c == '\x7d' then fetchFlowEnd .flowMappingEnd
  else if c == ',' then fetchFlowEntry
  else if c == '-' && blankNext then fetchBlockEntry
  else if c == '?' && (inFlow || blankNext) then fetchKey
  else if c == ':' && (inFlow || blankNext) then fetchValue
  else if c == '*' then fetchKeyPart (takeAnchor "alias" .alias)
  else if c == '&' then fetchKeyPart (takeAnchor "anchor" .anchor)
  else if c == '!' then fetchKeyPart takeTag
  else if c == '|' && !inFlow then fetchBlockScalar false
  else if c == '>' && !inFlow then fetchBlockScalar true
  else if c == '\'' || c == '"' then fetchKeyPart (takeQuoted c)
  else if lexer.startsPlain then fetchKeyPart takePlain
  else
    complain (some ("while scanning for the next token", lexer.mark))
      s!"found character {Text.quote (String.singleton c)} that cannot start any token" lexer.mark

/-- Whether the next token may still get a key token in front of it, or is not there yet. -/
def needsMore : Lex Bool := do
  if (← get).isDone then return false
  if (← get).tokens.isEmpty then return true
  dropStaleKeys
  let lexer ← get
  let first? := (lexer.possibleKeys.map (·.2.tokenNumber)).min?
  return first? == some lexer.tokensTaken

def settle : Nat → Lex Unit
  | 0 => return
  | fuel + 1 => do
    if ← needsMore then
      fetchMore
      settle fuel

def peekToken : Lex Token := do
  settle ((← remaining) + 2)
  return (← get).tokens.headD default

def takeToken : Lex Token := do
  let token ← peekToken
  modify fun lexer =>
    { lexer with tokens := lexer.tokens.drop 1, tokensTaken := lexer.tokensTaken + 1 }
  return token

def isAllowed (c : Char) : Bool :=
  let n := c.toNat
  n == 0x09 || n == 0x0a || n == 0x0d || (0x20 ≤ n && n ≤ 0x7e) || n == 0x85 ||
    (0xa0 ≤ n && n ≤ 0xd7ff) || (0xe000 ≤ n && n ≤ 0xfffd) || 0x10000 ≤ n

def Lexer.ofText (text : List Char) : Except Fault Lexer :=
  match text.findIdx? fun c => !isAllowed c with
  | some position => .error (.unprintable ((text.getD position '\x00').toNat) position)
  | none => .ok { text := text.toArray, tokens := [⟨.streamStart, {}, {}⟩] }

end AppSupervisor.Document
