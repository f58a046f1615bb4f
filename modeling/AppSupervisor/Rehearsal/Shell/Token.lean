import AppSupervisor.Rehearsal.Shell.Script

/-!
The smallest parts of a script: words, operators and redirections.

A quote or a bracket that is not closed takes the rest of the script with it.
-/

namespace AppSupervisor.Rehearsal.Shell

inductive Token
  | word (word : Word) (line : Nat)
  | operator (text : String)
  | redirection (descriptor : Nat) (stream : Stream)
  | unclosed (complaint : String)
  deriving Repr, Inhabited

def endsWord (c : Char) : Bool :=
  c == ' ' || c == '\t' || c == '\n' || c == ';' || c == '&' || c == '|' || c == '(' || c == ')' ||
    c == '<' || c == '>'

/-- The text up to the bracket that closes it, and what is left behind that bracket; `depth` counts
the brackets that are open, and brackets in quotes do not count. -/
def upToBracket? (opening closing : Char) (depth : Nat) (quote? : Option Char) :
    List Char → Option (List Char × List Char)
  | [] => none
  | '\\' :: c :: rest =>
    (upToBracket? opening closing depth quote? rest).map fun (inside, rest) =>
      ('\\' :: c :: inside, rest)
  | c :: rest =>
    if quote?.isNone && c == closing && depth == 0 then some ([], rest)
    else
      let depth :=
        if quote?.isSome then depth
        else if c == opening then depth + 1
        else if c == closing then depth - 1
        else depth
      let quote? :=
        if quote? == some c then none
        else if quote?.isNone && (c == '"' || c == '\'') then some c
        else quote?
      (upToBracket? opening closing depth quote? rest).map fun (inside, rest) => (c :: inside, rest)

def upTo? (stop : Char) (cs : List Char) : Option (List Char × List Char) :=
  match cs.dropWhile (· != stop) with
  | [] => none
  | _ :: rest => some (cs.takeWhile (· != stop), rest)

def isSpecial (c : Char) : Bool :=
  c == '?' || c == '$' || c == '#' || c == '@' || c == '*' || c == '!' || c == '-'

def readUse (name : String) (cs : List Char) : Piece :=
  let piece (use : Use) (emptyCounts : Bool) (other : List Char) : Piece :=
    .parameter name use emptyCounts (String.ofList other)
  let uses : List (Char × Use) :=
    [('-', .otherwise), ('=', .assigned), ('+', .instead), ('?', .demanded)]
  match cs with
  | [] => piece .value false []
  | '#' :: '#' :: form => piece (.cut false true) false form
  | '#' :: form => piece (.cut false false) false form
  | '%' :: '%' :: form => piece (.cut true true) false form
  | '%' :: form => piece (.cut true false) false form
  | ':' :: c :: other => match uses.lookup c with
    | some use => piece use true other
    | none => piece .senseless false []
  | c :: other => match uses.lookup c with
    | some use => piece use false other
    | none => piece .senseless false []

def bracedPiece (inside : List Char) : Piece :=
  match inside with
  | [] => .parameter "" .senseless false ""
  | [c] => if isSpecial c || isNameChar c then .parameter (String.singleton c) .value false ""
    else .parameter "" .senseless false ""
  | c :: rest =>
    if c == '#' && (rest.all isNameChar || (rest.length == 1 && rest.all isSpecial)) then
      .parameter (String.ofList rest) .length false ""
    else if isSpecial c then readUse (String.singleton c) rest
    else if c.isDigit then
      readUse (String.ofList (inside.takeWhile Char.isDigit)) (inside.dropWhile Char.isDigit)
    else if isNameChar c then
      readUse (String.ofList (inside.takeWhile isNameChar)) (inside.dropWhile isNameChar)
    else .parameter "" .senseless false ""

def readDollar (cs : List Char) : Piece × List Char :=
  match cs with
  | '(' :: '(' :: rest => match upToBracket? '(' ')' 0 none rest with
    | some (inside, ')' :: rest) => (.arithmetic (String.ofList inside), rest)
    | _ => (.unclosed "Missing '))'", [])
  | '(' :: rest => match upToBracket? '(' ')' 0 none rest with
    | some (inside, rest) => (.output (String.ofList inside), rest)
    | none => (.unclosed "end of file unexpected (expecting \")\")", [])
  | '\x7b' :: rest => match upToBracket? '\x7b' '\x7d' 0 none rest with
    | some (inside, rest) => (bracedPiece inside, rest)
    | none => (.unclosed "Missing '\x7d'", [])
  | c :: rest =>
    if isSpecial c || c.isDigit then (.parameter (String.singleton c) .value false "", rest)
    else if isNameChar c then
      let name := (c :: rest).takeWhile isNameChar
      (.parameter (String.ofList name) .value false "", (c :: rest).dropWhile isNameChar)
    else (.literal "$", c :: rest)
  | [] => (.literal "$", [])

def unclosedQuote : Piece := .unclosed "Unterminated quoted string"

def readWord (quoted : Bool) : Nat → List Char → Word × List Char
  | 0, cs => ([], cs)
  | _, [] => (if quoted then [(unclosedQuote, true)] else [], [])
  | steps + 1, c :: rest =>
    let following (piece : Piece) (isQuoted : Bool) (rest : List Char) : Word × List Char :=
      let (word, rest) := readWord quoted steps rest
      ((piece, isQuoted) :: word, rest)
    if c == '"' then
      let (word, rest) := readWord (!quoted) steps rest
      ((.literal "", true) :: word, rest)
    else if c == '$' then
      let (piece, rest) := readDollar rest
      following piece quoted rest
    else if c == '\x60' then
      match upTo? '\x60' rest with
      | some (inside, rest) => following (.output (String.ofList inside)) quoted rest
      | none => ([(.unclosed "EOF in backquote substitution", true)], [])
    else if quoted then
      match c, rest with
      | '\\', e :: rest =>
        if e == '\n' then readWord quoted steps rest
        else if e == '"' || e == '\\' || e == '$' || e == '\x60' then
          following (.literal (String.singleton e)) true rest
        else following (.literal (String.ofList ['\\', e])) true rest
      | _, _ => following (.literal (String.singleton c)) true rest
    else if endsWord c then ([], c :: rest)
    else
      match c, rest with
      | '\'', rest => match upTo? '\'' rest with
        | some (inside, rest) => following (.literal (String.ofList inside)) true rest
        | none => ([(unclosedQuote, true)], [])
      | '\\', e :: rest =>
        if e == '\n' then readWord quoted steps rest
        else following (.literal (String.singleton e)) true rest
      | _, _ => following (.literal (String.singleton c)) false rest

/-- The pieces of a text that is quoted as a whole: its own quotes are letters like others. -/
def quotedWord : Nat → List Char → Word
  | 0, _ => []
  | _, [] => []
  | steps + 1, c :: rest =>
    if c == '$' then
      let (piece, rest) := readDollar rest
      (piece, true) :: quotedWord steps rest
    else match c, rest with
      | '\x60', rest => match upTo? '\x60' rest with
        | some (inside, rest) => (.output (String.ofList inside), true) :: quotedWord steps rest
        | none => [(.unclosed "EOF in backquote substitution", true)]
      | '\\', '$' :: rest => (.literal "$", true) :: quotedWord steps rest
      | _, rest => (.literal (String.singleton c), true) :: quotedWord steps rest

def looseWord : Nat → List Char → Word
  | 0, _ => []
  | _, [] => []
  | steps + 1, c :: rest =>
    if endsWord c then (.literal (String.singleton c), false) :: looseWord steps rest
    else
      let (word, left) := readWord false (2 * rest.length + 2) (c :: rest)
      word ++ looseWord steps left

def readRedirection (descriptor? : Option Nat) (c : Char) (rest : List Char) : Token × List Char :=
  let descriptor := descriptor?.getD (if c == '<' then 0 else 1)
  match c, rest with
  | '>', '>' :: rest => (.redirection descriptor .append, rest)
  | '>', '&' :: rest => (.redirection descriptor .same, rest)
  | '>', '|' :: rest => (.redirection descriptor .onto, rest)
  | '>', rest => (.redirection descriptor .onto, rest)
  | _, '&' :: rest => (.redirection descriptor .same, rest)
  | _, rest => (.redirection descriptor .from_, rest)

def Token.ofWord (word : Word) (line : Nat) : Token :=
  let complaint? := word.findSome? fun
    | (.unclosed complaint, _) => some complaint
    | _ => none
  match complaint? with
  | some complaint => .unclosed complaint
  | none => .word word line

def tokens (line : Nat) : Nat → List Char → List Token
  | 0, _ => []
  | _, [] => []
  | steps + 1, c :: rest =>
    match c, rest with
    | ' ', rest | '\t', rest => tokens line steps rest
    | '\n', rest => .operator "\n" :: tokens (line + 1) steps rest
    | '\\', '\n' :: rest => tokens (line + 1) steps rest
    | '#', rest => tokens line steps (rest.dropWhile (· != '\n'))
    | '&', '&' :: rest => .operator "&&" :: tokens line steps rest
    | '|', '|' :: rest => .operator "||" :: tokens line steps rest
    | ';', ';' :: rest => .operator ";;" :: tokens line steps rest
    | c, rest =>
      if c == ';' || c == '&' || c == '|' || c == '(' || c == ')' then
        .operator (String.singleton c) :: tokens line steps rest
      else if c == '<' || c == '>' then
        let (token, rest) := readRedirection none c rest
        token :: tokens line steps rest
      else
        match c.isDigit, rest with
        | true, '>' :: more =>
          let (token, rest) := readRedirection (some (c.toNat - '0'.toNat)) '>' more
          token :: tokens line steps rest
        | true, '<' :: more =>
          let (token, rest) := readRedirection (some (c.toNat - '0'.toNat)) '<' more
          token :: tokens line steps rest
        | _, rest =>
          let (word, left) := readWord false (2 * rest.length + 2) (c :: rest)
          .ofWord word line :: tokens line steps left

end AppSupervisor.Rehearsal.Shell
