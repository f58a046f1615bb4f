import AppSupervisor.Numeral.Integer
import AppSupervisor.Pattern.Fault
import AppSupervisor.Pattern.Syntax
import AppSupervisor.Text.Alphanumeric
import AppSupervisor.Text.CharacterName

/-!
Reading the text of a pattern.

The text is a sequence of tokens, each a character or a backslash with the character behind it. One
token is read ahead, so a lone backslash at the end is reported as soon as the token before it is
taken. Items are read from left to right; a repetition takes the item before it.
-/

namespace AppSupervisor.Pattern

open AppSupervisor.Text AppSupervisor.Numeral

abbrev Token := List Char

/-- What the reading of a pattern knows: the place in the text, the token ahead, the switches for
the whole pattern, the groups with their widths once closed, the names of groups, the number of
groups that a look-behind may refer to, and the group numbers that conditions ask for with their
places. -/
structure Reading where
  text : Array Char
  index : Nat := 0
  next : Option Token := none
  flags : Flags := {}
  widths : Array (Option Width) := #[none]
  names : List (String × Nat) := []
  behindGroups : Option Nat := none
  asked : List (Nat × Nat) := []

abbrev Read := StateT Reading (Except Fault)

def Reading.groupCount (r : Reading) : Nat := r.widths.size

def Reading.isClosed (r : Reading) (group : Nat) : Bool :=
  match r.widths[group]? with
  | some (some _) => true
  | _ => false

def Reading.position (r : Reading) : Nat :=
  r.index - (r.next.elim 0 List.length)

def Reading.advance (r : Reading) : Except Fault Reading :=
  match r.text[r.index]? with
  | none => .ok { r with next := none }
  | some '\\' =>
    match r.text[r.index + 1]? with
    | none => .error (.malformed .trailingBackslash (some (r.text.size - 1)))
    | some c => .ok { r with index := r.index + 2, next := some ['\\', c] }
  | some c => .ok { r with index := r.index + 1, next := some [c] }

def fail {α : Type} (cause : Cause) (offset : Nat) : Read α := do
  throw (.malformed cause (some ((← get).position - offset)))

def take : Read (Option Token) := do
  let r ← get
  set (← r.advance)
  return r.next

def takeIf (c : Char) : Read Bool := do
  let r ← get
  if r.next == some [c] then
    set (← r.advance)
    return true
  return false

def takeWhileIn (isMember : Char → Bool) : Nat → Read (List Char)
  | 0 => return []
  | count + 1 => do
    match (← get).next with
    | some [c] =>
      if isMember c then
        let _ ← take
        return c :: (← takeWhileIn isMember count)
      else return []
    | _ => return []

def takeUntil (terminator : Char) (what : String) : Nat → List Char → Read String
  | 0, taken => return String.ofList taken
  | fuel + 1, taken => do
    match ← take with
    | none =>
      if taken.isEmpty then fail (.missing what) 0
      else fail (.unterminatedName (String.singleton terminator)) taken.length
    | some token =>
      if token == [terminator] then
        if taken.isEmpty then fail (.missing what) 1 else return String.ofList taken
      else takeUntil terminator what fuel (taken ++ token)

def takeName (terminator : Char) (what : String) : Read String := do
  takeUntil terminator what ((← get).text.size + 1) []

def isOctalDigit (c : Char) : Bool := '0' ≤ c && c ≤ '7'

def isHexDigit (c : Char) : Bool := (hexValue? c).isSome

def isAsciiLetter (c : Char) : Bool := c.isAlpha

def isLetter (c : Char) : Bool :=
  isAlphanumericCode c.toNat && !isDecimalDigit c

def isGroupName (name : String) : Bool :=
  match name.toList with
  | [] => false
  | c :: rest => (c == '_' || isLetter c) && rest.all fun c => isWordCode c.toNat

def isLayout (c : Char) : Bool :=
  [' ', '\t', '\n', '\r', '\x0b', '\x0c'].contains c

def octal (digits : List Char) : Nat :=
  ofDigits 8 (digits.map fun c => c.toNat - 0x30)

def hexadecimal (digits : List Char) : Nat :=
  ofDigits 16 (digits.map fun c => (hexValue? c).getD 0)

def letterEscape? : Char → Option Nat
  | 'a' => some 7
  | 'b' => some 8
  | 'f' => some 12
  | 'n' => some 10
  | 'r' => some 13
  | 't' => some 9
  | 'v' => some 11
  | '\\' => some 92
  | _ => none

def familyEscape? : Char → Option Member
  | 'd' => some (.family .digit true)
  | 'D' => some (.family .digit false)
  | 's' => some (.family .space true)
  | 'S' => some (.family .space false)
  | 'w' => some (.family .word true)
  | 'W' => some (.family .word false)
  | _ => none

def placeEscape? : Char → Option Place
  | 'A' => some .textStart
  | 'b' => some .wordEdge
  | 'B' => some .noWordEdge
  | 'Z' => some .textEnd
  | _ => none

def hexEscape (c : Char) (count : Nat) : Read Nat := do
  let digits ← takeWhileIn isHexDigit count
  let escape := '\\' :: c :: digits
  if digits.length != count then
    fail (.incompleteEscape (String.ofList escape)) escape.length
  let code := hexadecimal digits
  if 0x10ffff < code then
    if Nat.pow 2 31 ≤ code then throw .codeTooLarge
    fail (.badEscape (String.ofList escape)) escape.length
  return code

def namedEscape : Read Nat := do
  unless ← takeIf '\x7b' do fail .missingBrace 0
  let name ← takeName '\x7d' "character name"
  match codeOfName? name with
  | some code => return code
  | none => fail (.unknownCharacterName name) (name.length + 4)

def octalEscape (digits : List Char) : Read Nat := do
  let code := octal digits
  if 0xff < code then
    fail (.octalTooLarge (String.ofList ('\\' :: digits))) (digits.length + 1)
  return code

def codeEscape (c : Char) : Read Nat := do
  if c == 'x' then hexEscape c 2
  else if c == 'u' then hexEscape c 4
  else if c == 'U' then hexEscape c 8
  else if c == 'N' then namedEscape
  else if isAsciiLetter c || isAsciiDigit c then
    fail (.badEscape (String.ofList ['\\', c])) 2
  else return c.toNat

def memberEscape (c : Char) : Read Member := do
  match letterEscape? c, familyEscape? c with
  | some code, _ => return .code code
  | none, some member => return member
  | none, none =>
    if isOctalDigit c then
      return .code (← octalEscape (c :: (← takeWhileIn isOctalDigit 2)))
    return .code (← codeEscape c)

def checkBehind (group : Nat) : Read Unit := do
  let r ← get
  match r.behindGroups with
  | none => return
  | some count =>
    unless r.isClosed group do fail .openGroup 0
    if count ≤ group then fail .groupInSameLookBehind 0

def groupReference (digits : List Char) : Read Expr := do
  let group := ofDigits 10 (digits.map fun c => c.toNat - 0x30)
  let r ← get
  if r.groupCount ≤ group then fail (.invalidGroup group) digits.length
  unless r.isClosed group do fail .openGroup (digits.length + 1)
  checkBehind group
  return .back group

def digitEscape (c : Char) : Read Expr := do
  if c == '0' then
    return .code (octal (c :: (← takeWhileIn isOctalDigit 2)))
  match ← takeWhileIn isAsciiDigit 1 with
  | [d] =>
    if isOctalDigit c && isOctalDigit d then
      match ← takeWhileIn isOctalDigit 1 with
      | [e] => return .code (← octalEscape [c, d, e])
      | _ => groupReference [c, d]
    else groupReference [c, d]
  | _ => groupReference [c]

def escape (c : Char) : Read Expr := do
  match placeEscape? c, familyEscape? c, letterEscape? c with
  | some place, _, _ => return .place place
  | none, some member, _ => return .set true [member]
  | none, none, some code => return .code code
  | none, none, none =>
    if isAsciiDigit c then digitEscape c else return .code (← codeEscape c)

def setToken (token : Token) : Read Member := do
  match token with
  | ['\\', c] => memberEscape c
  | c :: _ => return .code c.toNat
  | [] => return .code 0

def setMembers (here : Nat) : Nat → List Member → Read (List Member)
  | 0, members => return members
  | fuel + 1, members => do
    let unterminated {α : Type} : Read α := do
      fail .unterminatedSet ((← get).position - here)
    let some first ← take | unterminated
    if first == [']'] && !members.isEmpty then return members
    let start ← setToken first
    if ← takeIf '-' then
      let some last ← take | unterminated
      if last == [']'] then return members ++ [start, .code '-'.toNat]
      let stop ← setToken last
      let bad : Read (List Member) :=
        fail (.badRange (String.ofList first) (String.ofList last)) (first.length + 1 + last.length)
      match start, stop with
      | .code low, .code high =>
        if high < low then bad else setMembers here fuel (members ++ [.range low high])
      | _, _ => bad
    else setMembers here fuel (members ++ [start])

def readSet : Read Expr := do
  let here := (← get).position - 1
  let outside ← takeIf '^'
  let members ← setMembers here ((← get).text.size + 1) []
  match outside, members with
  | false, [.code code] => return .code code
  | _, _ => return .set (!outside) members

structure Rounds where
  least : Nat
  most : Option Nat

def roundLimit : Nat := Nat.pow 2 32 - 1

def roundBound (digits : List Char) : Read Nat := do
  let n := ofDigits 10 (digits.map fun c => c.toNat - 0x30)
  if roundLimit ≤ n then throw .repetitionTooLarge
  return n

/-- The numbers of rounds in braces, behind the opening brace at `here - 1`; nothing, with the
reading back behind the brace, if no bounds stand there. -/
def readBounds (here : Nat) : Read (Option Rounds) := do
  let size := (← get).text.size
  let low ← takeWhileIn isAsciiDigit size
  let high ← if ← takeIf ',' then takeWhileIn isAsciiDigit size else pure low
  if ← takeIf '\x7d' then
    let least ← if low.isEmpty then pure 0 else roundBound low
    if high.isEmpty then return some ⟨least, none⟩
    let most ← roundBound high
    if most < least then fail .leastAboveMost ((← get).position - here)
    return some ⟨least, some most⟩
  else
    let r ← get
    set (← { r with index := here }.advance)
    return none

def flagOf? : Char → Option Flags
  | 'i' => some { ignoreCase := true }
  | 'm' => some { multiline := true }
  | 's' => some { dotAll := true }
  | 'x' => some { verbose := true }
  | 'a' => some { ascii := true }
  | 'u' => some { unicode := true }
  | 't' => some { template := true }
  | 'L' => some {}
  | _ => none

def takeFlagToken (atEnd : Cause) : Read Token := do
  match ← take with
  | some token => return token
  | none => fail atEnd 0

def flagOfToken (token : Token) (otherwise : Cause) : Read (Char × Flags) := do
  let unknown : Read (Char × Flags) :=
    fail (if token.all isLetter then .unknownFlag else otherwise) token.length
  match token with
  | [c] => match flagOf? c with
    | some flag => return (c, flag)
    | none => unknown
  | _ => unknown

def flagsOn : Nat → Flags → Char → Flags → Read (Flags × Token)
  | 0, on, _, _ => return (on, [])
  | fuel + 1, on, c, flag => do
    if c == 'L' then fail .localeFlag 0
    let on := on.union flag
    if (flag.ascii && on.unicode) || (flag.unicode && on.ascii) then fail .incompatibleAlphabets 0
    let token ← takeFlagToken .missingFlagEnd
    if [[')'], ['-'], [':']].contains token then return (on, token)
    let (c, flag) ← flagOfToken token .missingFlagEnd
    flagsOn fuel on c flag

def flagsOff : Nat → Flags → Char → Flags → Read Flags
  | 0, off, _, _ => return off
  | fuel + 1, off, c, flag => do
    if flag.ascii || flag.unicode || c == 'L' then fail .alphabetFlagOff 0
    let off := off.union flag
    let token ← takeFlagToken .missingColon
    if token == [':'] then return off
    let (c, flag) ← flagOfToken token .missingColon
    flagsOff fuel off c flag

/-- The switches that begin with the token `first` behind `(?`. Switches closed by a parenthesis
hold for the whole pattern; then there is no change for a part. -/
def readFlags (first : Token) : Read (Option FlagChange) := do
  let size := (← get).text.size
  let (on, token) ← match first with
    | [c] => match flagOf? c with
      | some flag => flagsOn (size + 1) {} c flag
      | none => pure ({}, first)
    | _ => pure ({}, first)
  if token == [')'] then
    modify fun r => { r with flags := r.flags.union on }
    return none
  if on.template then fail .templateFlagOn 1
  let mut off : Flags := {}
  if token == ['-'] then
    let token ← takeFlagToken .missingFlag
    let (c, flag) ← flagOfToken token .missingFlag
    off ← flagsOff (size + 1) {} c flag
  if off.template then fail .templateFlagOff 1
  unless (on.common off).isEmpty do fail .flagOnAndOff 1
  return some ⟨on, off⟩

def openGroup (name : Option String) : Read Nat := do
  let r ← get
  let group := r.groupCount
  match name with
  | none => set { r with widths := r.widths.push none }
  | some name =>
    set { r with widths := r.widths.push none }
    match r.names.lookup name with
    | some earlier => fail (.repeatedGroupName name group earlier) (name.length + 1)
    | none => set { r with widths := r.widths.push none, names := (name, group) :: r.names }
  return group

def Reading.widthOf (r : Reading) (group : Nat) : Width :=
  match r.widths[group]? with
  | some (some width) => width
  | _ => ⟨0, 0⟩

def closeGroup (group : Nat) (body : Expr) : Read Unit :=
  modify fun r => { r with widths := r.widths.setIfInBounds group (some (body.width r.widthOf)) }

def groupLimit : Nat := 1073741823

def conditionGroup (name : String) : Read Nat := do
  let r ← get
  if isGroupName name then
    match r.names.lookup name with
    | some group => return group
    | none => fail (.unknownGroupName name) (name.length + 1)
  else
    let bad : Read Nat := fail (.badGroupName name) (name.length + 1)
    match parseInteger name with
    | .error _ => bad
    | .ok n =>
      if n < 0 then bad
      else if n == 0 then fail .badGroupNumber (name.length + 1)
      else
        let group := n.toNat
        if groupLimit ≤ group then fail (.invalidGroup group) (name.length + 1)
        unless r.asked.any (·.1 == group) do
          modify fun r => { r with asked := r.asked ++ [(group, r.position - name.length - 1)] }
        return group

def takeComment (start : Nat) : Nat → Read Unit
  | 0 => return
  | fuel + 1 => do
    if (← get).next.isNone then fail .unterminatedComment ((← get).position - start)
    if (← take) == some [')'] then return
    takeComment start fuel

def takeLine : Nat → Read Unit
  | 0 => return
  | fuel + 1 => do
    match ← take with
    | none => return
    | some token => if token == ['\n'] then return else takeLine fuel

def closeParenthesis (start : Nat) : Read Unit := do
  unless ← takeIf ')' do fail .unterminatedGroup ((← get).position - start)

/-- Items read so far, the last one first: whether each is a place or a repetition decides whether
it can be repeated. -/
inductive Item
  | plain (expr : Expr)
  | place (place : Place)
  | repetition (expr : Expr)

def Item.expr : Item → Expr
  | .plain e => e
  | .place p => .place p
  | .repetition e => e

def sequence (items : List Item) : Expr :=
  match items.map Item.expr with
  | [] => .empty
  | last :: before => before.foldl (fun acc expr => .seq expr acc) last

def takeGreed : Read Greed := do
  if ← takeIf '?' then return .lazy
  if ← takeIf '+' then return .possessive
  return .greedy

def repeatLast (rounds : Rounds) (length : Nat) : List Item → Read (List Item)
  | [] => fail .nothingToRepeat length
  | .place _ :: _ => fail .nothingToRepeat length
  | .repetition _ :: _ => fail .multipleRepeat length
  | .plain body :: before => do
    return .repetition (.repeated (← takeGreed) rounds.least rounds.most body) :: before

inductive Opening
  | nothing
  | wholePattern
  | item (expr : Expr)
  | look (ahead wanted : Bool)
  | condition
  | group (number : Option Nat) (isAtomic : Bool) (change : FlagChange)

def readOpening (start : Nat) : Read Opening := do
  unless ← takeIf '?' do return .group (some (← openGroup none)) false {}
  let some mark ← take | fail .unexpectedEnd 0
  match mark with
  | ['P'] =>
    if ← takeIf '<' then
      let name ← takeName '>' "group name"
      unless isGroupName name do fail (.badGroupName name) (name.length + 1)
      return .group (some (← openGroup (some name))) false {}
    else if ← takeIf '=' then
      let name ← takeName ')' "group name"
      unless isGroupName name do fail (.badGroupName name) (name.length + 1)
      let r ← get
      match r.names.lookup name with
      | none => fail (.unknownGroupName name) (name.length + 1)
      | some group =>
        unless r.isClosed group do fail .openGroup (name.length + 1)
        checkBehind group
        return .item (.back group)
    else
      let some token ← take | fail .unexpectedEnd 0
      fail (.unknownExtension (String.ofList ('P' :: token))) (token.length + 2)
  | [':'] => return .group none false {}
  | ['#'] =>
    takeComment start ((← get).text.size + 1)
    return .nothing
  | ['='] => return .look true true
  | ['!'] => return .look true false
  | ['<'] =>
    let some token ← take | fail .unexpectedEnd 0
    if token == ['='] then return .look false true
    else if token == ['!'] then return .look false false
    else fail (.unknownExtension (String.ofList ('<' :: token))) (token.length + 2)
  | ['('] => return .condition
  | ['>'] => return .group none true {}
  | _ =>
    let isFlag := match mark with
      | [c] => (flagOf? c).isSome || c == '-'
      | _ => false
    if isFlag then
      match ← readFlags mark with
      | none => return .wholePattern
      | some change => return .group none false change
    else fail (.unknownExtension (String.ofList mark)) (mark.length + 1)

def endsItems (token : Token) : Bool :=
  token == ['|'] || token == [')']

mutual

def readChoice (verbose : Bool) (depth : Nat) (isFirst : Bool) : Nat → Read Expr
  | 0 => return .empty
  | fuel + 1 => do
    let first ← readItems verbose (depth + 1) isFirst [] fuel
    if ← takeIf '|' then
      let r ← get
      let verbose := if depth == 0 then r.flags.verbose else verbose
      return .choice first (← readChoice verbose depth false fuel)
    return first

/-- Reads the items of one sequence behind those in `items`. Switches for the whole pattern may
stand only before the first item of the first sequence outside all parentheses (`isFirst`). -/
def readItems (verbose : Bool) (depth : Nat) (isFirst : Bool) (items : List Item) : Nat → Read Expr
  | 0 => return sequence items
  | fuel + 1 => do
    let some token := (← get).next | return sequence items
    if endsItems token then return sequence items
    let _ ← take
    let continueWith (items : List Item) : Read Expr := readItems verbose depth isFirst items fuel
    match token with
    | ['\\', c] =>
      let expr ← escape c
      match expr with
      | .place p => continueWith (.place p :: items)
      | _ => continueWith (.plain expr :: items)
    | [c] =>
      if verbose && isLayout c then continueWith items
      else if verbose && c == '#' then
        takeLine ((← get).text.size + 1)
        continueWith items
      else match c with
      | '[' => continueWith (.plain (← readSet) :: items)
      | '.' => continueWith (.plain .any :: items)
      | '^' => continueWith (.place .lineStart :: items)
      | '$' => continueWith (.place .lineEnd :: items)
      | '?' => continueWith (← repeatLast ⟨0, some 1⟩ 1 items)
      | '*' => continueWith (← repeatLast ⟨0, none⟩ 1 items)
      | '+' => continueWith (← repeatLast ⟨1, none⟩ 1 items)
      | '\x7b' =>
        let here := (← get).position
        if (← get).next == some ['\x7d'] then continueWith (.plain (.code c.toNat) :: items)
        else match ← readBounds here with
          | none => continueWith (.plain (.code c.toNat) :: items)
          | some rounds =>
            continueWith (← repeatLast rounds ((← get).position - here + 1) items)
      | '(' =>
        let start := (← get).position - 1
        match ← readOpening start with
        | .nothing => continueWith items
        | .wholePattern =>
          unless isFirst && items.isEmpty do
            fail .flagsNotAtStart ((← get).position - start)
          readItems (← get).flags.verbose depth isFirst items fuel
        | .item expr => continueWith (.plain expr :: items)
        | .look ahead wanted =>
          let outer := (← get).behindGroups
          if !ahead && outer.isNone then
            modify fun r => { r with behindGroups := some r.groupCount }
          let body ← readChoice verbose (depth + 1) false fuel
          if !ahead && outer.isNone then modify fun r => { r with behindGroups := none }
          closeParenthesis start
          if ahead then continueWith (.plain (.ahead wanted body) :: items)
          else
            let width := body.width (← get).widthOf
            continueWith (.plain (.behind wanted width.least width.most body) :: items)
        | .condition =>
          let name ← takeName ')' "group name"
          let group ← conditionGroup name
          checkBehind group
          let yes ← readItems verbose (depth + 1) false [] fuel
          let no ← if ← takeIf '|' then readItems verbose (depth + 1) false [] fuel else pure .empty
          if (← get).next == some ['|'] then fail .tooManyBranches 0
          closeParenthesis start
          continueWith (.plain (.ifGroup group yes no) :: items)
        | .group number isAtomic change =>
          let inside := (verbose || change.on.verbose) && !change.off.verbose
          let body ← readChoice inside (depth + 1) false fuel
          closeParenthesis start
          match number with
          | some number =>
            closeGroup number body
            continueWith (.plain (.group number body) :: items)
          | none =>
            if isAtomic then continueWith (.plain (.atomic body) :: items)
            else continueWith (.plain (.scoped change body) :: items)
      | c => continueWith (.plain (.code c.toNat) :: items)
    | _ => continueWith items

end

def Greed.label : Greed → String
  | .greedy => "MAX_REPEAT"
  | .lazy => "MIN_REPEAT"
  | .possessive => "POSSESSIVE_REPEAT"

def behindLimit : Nat := Nat.pow 2 32 - 1

/-- The first part of a pattern that cannot be matched: a look-behind of no fixed width, or a
repetition in a template. -/
def Expr.fault? (template : Bool) : Expr → Option Cause
  | .empty | .code _ | .any | .set _ _ | .place _ | .back _ => none
  | .seq first second | .choice first second => (first.fault? template).or (second.fault? template)
  | .repeated greed _ _ body =>
    if template then some (.templateRepeat greed.label) else body.fault? template
  | .group _ body | .scoped _ body | .atomic body | .ahead _ body => body.fault? template
  | .behind _ least most body =>
    if behindLimit < least then some .lookBehindTooLong
    else if least != most then some .lookBehindNotFixed
    else body.fault? template
  | .ifGroup _ yes no => (yes.fault? template).or (no.fault? template)

structure Compiled where
  flags : Flags
  expr : Expr
  deriving Repr

def readPattern : Read Compiled := do
  let start ← get
  set (← start.advance)
  let size := (← get).text.size
  let expr ← readChoice false 0 true (3 * size + 10)
  let r ← get
  if r.flags.ascii && r.flags.unicode then throw .conflictingAlphabets
  if r.next.isSome then fail .unbalancedParenthesis 0
  match r.asked.find? (fun ask => r.groupCount ≤ ask.1) with
  | some (group, position) => throw (.malformed (.invalidGroup group) (some position))
  | none =>
    match expr.fault? r.flags.template with
    | some cause => throw (.malformed cause none)
    | none => return ⟨r.flags, expr⟩

def parse (text : String) : Except Fault Compiled :=
  (readPattern.run { text := text.toList.toArray }).map (·.1)

end AppSupervisor.Pattern
