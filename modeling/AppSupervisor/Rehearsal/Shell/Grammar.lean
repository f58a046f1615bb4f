import AppSupervisor.Rehearsal.Shell.Token

/-!
The grammar of scripts.

A script is read line by line: what stands in the lines in front of one that cannot be read is run
all the same. The number in front of a reader bounds its steps.
-/

namespace AppSupervisor.Rehearsal.Shell

structure Refusal where
  rest : List Token
  complaint : String

abbrev Read (α : Type) := α × List Token

def keywords : List String :=
  ["!", "case", "do", "done", "elif", "else", "esac", "fi", "for", "if", "in", "then", "until",
    "while", "\x7b", "\x7d"]

def closers : List String := ["then", "else", "elif", "fi", "do", "done", "esac", "\x7d"]

def Token.text? (token : Token) : Option String :=
  match token with
  | .word pieces _ => plainText? pieces
  | _ => none

def inQuotes (text : String) : String := s!"\"{text}\""

def described : List Token → String
  | [] => "end of file"
  | .operator "\n" :: _ => "newline"
  | .operator text :: _ => inQuotes text
  | .redirection _ _ :: _ => "redirection"
  | token :: _ =>
    let text := token.text?.getD ""
    if keywords.contains text then inQuotes text else "word"

def unexpected {α : Type} (expected? : Option String) (rest : List Token) : Except Refusal α :=
  .error { rest, complaint := match rest with
    | .unclosed complaint :: _ => complaint
    | _ =>
      let hint := (expected?.map fun text => s!" (expecting {text})").getD ""
      s!"{described rest} unexpected{hint}" }

def isClosed : List Token → Bool
  | [] => true
  | .operator text :: _ => text == ")" || text == ";;"
  | token :: _ => token.text?.any closers.contains

def skipLines : List Token → List Token
  | .operator "\n" :: rest => skipLines rest
  | rest => rest

def expectWord (expected : String) (tokens : List Token) : Except Refusal (List Token) :=
  match tokens with
  | token :: rest =>
    if token.text? == some expected then .ok rest
    else unexpected (some (inQuotes expected)) tokens
  | [] => unexpected (some (inQuotes expected)) tokens

def expectOperator (expected : String) (tokens : List Token) : Except Refusal (List Token) :=
  match tokens with
  | .operator text :: rest =>
    if text == expected then .ok rest else unexpected (some (inQuotes expected)) tokens
  | _ => unexpected (some (inQuotes expected)) tokens

def takeWords : List Token → List Word × List Token
  | .word word _ :: rest =>
    let (words, rest) := takeWords rest
    (word :: words, rest)
  | rest => ([], rest)

def setting? (word : Word) : Option (String × Word) :=
  let name := word.takeWhile fun
    | (.literal text, false) => text != "="
    | _ => false
  match plainText? name, word.drop name.length with
  | some text, _ :: value => if isName text then some (text, value) else none
  | _, _ => none

def splitSettings : List Word → List (String × Word) × List Word
  | [] => ([], [])
  | word :: rest => match setting? word with
    | some setting =>
      let (settings, words) := splitSettings rest
      (setting :: settings, words)
    | none => ([], word :: rest)

def withRedirections (body : Command) : List Redirection → Command
  | [] => body
  | redirections => .redirected body redirections

def readParts : List Token → Except Refusal (Read (List Word × List Redirection))
  | .word word _ :: rest => do
    let ((words, redirections), rest) ← readParts rest
    return ((word :: words, redirections), rest)
  | .redirection descriptor stream :: .word target _ :: rest => do
    let ((words, redirections), rest) ← readParts rest
    return ((words, ⟨descriptor, stream, target⟩ :: redirections), rest)
  | .redirection _ _ :: rest => unexpected none rest
  | rest => .ok (([], []), rest)

def readRedirections : List Token → Except Refusal (Read (List Redirection))
  | .redirection descriptor stream :: .word target _ :: rest => do
    let (redirections, rest) ← readRedirections rest
    return (⟨descriptor, stream, target⟩ :: redirections, rest)
  | .redirection _ _ :: rest => unexpected none rest
  | rest => .ok ([], rest)

def withTail (reading : Except Refusal (Read Command)) : Except Refusal (Read Command) := do
  let (body, rest) ← reading
  let (redirections, rest) ← readRedirections rest
  return (withRedirections body redirections, rest)

def readForms (tokens : List Token) : Except Refusal (Read (List Word)) :=
  match tokens with
  | .word word _ :: .operator "|" :: rest => do
    let (words, rest) ← readForms rest
    return (word :: words, rest)
  | .word word _ :: rest => return ([word], ← expectOperator ")" rest)
  | _ => unexpected (some (inQuotes ")")) tokens

mutual

def readList (steps : Nat) (isAsked : Bool) (tokens : List Token) : Except Refusal (Read Command) :=
  match steps, skipLines tokens with
  | 0, tokens => unexpected none tokens
  | _, [] => .ok (.nothing, [])
  | steps + 1, tokens =>
    if !isAsked && isClosed tokens then .ok (.nothing, tokens)
    else do
      let (first, rest) ← readChain steps tokens
      match rest with
      | .operator ";" :: rest | .operator "\n" :: rest =>
        let (others, rest) ← readList steps false rest
        return (.sequence first others, rest)
      | .operator "&" :: rest =>
        let (others, rest) ← readList steps false rest
        return (.sequence (.background first) others, rest)
      | rest => return (first, rest)

def readChain (steps : Nat) (tokens : List Token) : Except Refusal (Read Command) :=
  match steps with
  | 0 => unexpected none tokens
  | steps + 1 => do
    let (first, rest) ← readPipe steps tokens
    readChainMore steps first rest

def readChainMore (steps : Nat) (left : Command) (tokens : List Token) :
    Except Refusal (Read Command) :=
  match steps, tokens with
  | 0, tokens => unexpected none tokens
  | steps + 1, .operator "&&" :: rest => do
    let (right, rest) ← readPipe steps (skipLines rest)
    readChainMore steps (.conjunction left right) rest
  | steps + 1, .operator "||" :: rest => do
    let (right, rest) ← readPipe steps (skipLines rest)
    readChainMore steps (.disjunction left right) rest
  | _, rest => .ok (left, rest)

def readPipe (steps : Nat) (tokens : List Token) : Except Refusal (Read Command) :=
  match steps, tokens with
  | 0, tokens => unexpected none tokens
  | steps + 1, token :: rest =>
    if token.text? == some "!" then do
      let (body, rest) ← readPipeParts steps rest
      return (.negation body, rest)
    else readPipeParts steps (token :: rest)
  | _, [] => unexpected none []

def readPipeParts (steps : Nat) (tokens : List Token) : Except Refusal (Read Command) :=
  match steps with
  | 0 => unexpected none tokens
  | steps + 1 => do
    let (left, rest) ← readCommand steps tokens
    match rest with
    | .operator "|" :: rest =>
      let (right, rest) ← readPipeParts steps (skipLines rest)
      return (.pipe left right, rest)
    | rest => return (left, rest)

def readCommand (steps : Nat) (tokens : List Token) : Except Refusal (Read Command) :=
  match steps, tokens with
  | 0, tokens => unexpected none tokens
  | steps + 1, .operator "(" :: rest => withTail do
    let (body, rest) ← readList steps true rest
    return (.inner body, ← expectOperator ")" rest)
  | steps + 1, .word word line :: rest =>
    match plainText? word with
    | some "if" => withTail (readChoice steps rest)
    | some "while" => withTail (readLoop steps false rest)
    | some "until" => withTail (readLoop steps true rest)
    | some "for" => withTail (readEach steps rest)
    | some "case" => withTail (readSelect steps rest)
    | some "\x7b" => withTail do
      let (body, rest) ← readList steps true rest
      return (body, ← expectWord "\x7d" rest)
    | text? =>
      if text?.any keywords.contains then unexpected none tokens
      else do
        let ((words, redirections), rest) ← readParts tokens
        let (settings, words) := splitSettings words
        match settings, words, redirections, rest with
        | [], [name], [], .operator "(" :: rest => readFunction steps name rest
        | _, _, _, rest =>
          return (withRedirections (.simple line settings words) redirections, rest)
  | _, .redirection descriptor stream :: rest => do
    let ((words, redirections), rest) ← readParts (.redirection descriptor stream :: rest)
    let (settings, words) := splitSettings words
    return (withRedirections (.simple 1 settings words) redirections, rest)
  | _, tokens => unexpected none tokens

def readFunction (steps : Nat) (name : Word) (tokens : List Token) :
    Except Refusal (Read Command) :=
  match steps with
  | 0 => unexpected none tokens
  | steps + 1 => do
    let rest ← match tokens with
      | .word _ _ :: _ => .error ⟨tokens, "word unexpected (expecting \")\")"⟩
      | tokens => expectOperator ")" tokens
    match (plainText? name).filter isName with
    | none => .error ⟨rest, "Bad function name"⟩
    | some name =>
      let (body, rest) ← readCommand steps (skipLines rest)
      return (.define name body, rest)

def readChoice (steps : Nat) (tokens : List Token) : Except Refusal (Read Command) :=
  match steps with
  | 0 => unexpected none tokens
  | steps + 1 => do
    let (condition, rest) ← readList steps true tokens
    let (yes, rest) ← readList steps true (← expectWord "then" rest)
    match expectWord "elif" rest, expectWord "else" rest with
    | .ok rest, _ =>
      let (no, rest) ← readChoice steps rest
      return (.choice condition yes no, rest)
    | _, .ok rest =>
      let (no, rest) ← readList steps true rest
      return (.choice condition yes no, ← expectWord "fi" rest)
    | _, _ => return (.choice condition yes .nothing, ← expectWord "fi" rest)

def readLoop (steps : Nat) (untilTrue : Bool) (tokens : List Token) :
    Except Refusal (Read Command) :=
  match steps with
  | 0 => unexpected none tokens
  | steps + 1 => do
    let (condition, rest) ← readList steps true tokens
    let (body, rest) ← readList steps true (← expectWord "do" rest)
    return (.loop untilTrue condition body, ← expectWord "done" rest)

def readEach (steps : Nat) (tokens : List Token) : Except Refusal (Read Command) :=
  match steps, tokens with
  | 0, tokens => unexpected none tokens
  | steps + 1, token :: rest =>
    match token, token.text?.filter isName with
    | .unclosed _, _ => unexpected none tokens
    | _, none => .error ⟨rest, "Bad for loop variable"⟩
    | _, some name => do
      let (words, rest) ← match expectWord "in" (skipLines rest), rest with
        | .ok rest, _ =>
          let (words, rest) := takeWords rest
          match rest with
          | .operator ";" :: rest | .operator "\n" :: rest => .ok (words, rest)
          | rest => unexpected none rest
        | _, .operator ";" :: rest => .ok ([[(.parameter "@" .value false "", true)]], rest)
        | _, rest => .ok ([[(.parameter "@" .value false "", true)]], rest)
      let (body, rest) ← readList steps true (← expectWord "do" (skipLines rest))
      return (.each name words body, ← expectWord "done" rest)
  | _, [] => .error ⟨[], "Bad for loop variable"⟩

def readSelect (steps : Nat) (tokens : List Token) : Except Refusal (Read Command) :=
  match steps, tokens with
  | steps + 1, .word word _ :: rest => do
    let rest ← expectWord "in" (skipLines rest)
    let (branches, rest) ← readBranches steps rest
    return (.select word branches, rest)
  | _, tokens => unexpected (some "word") tokens

def readBranches (steps : Nat) (tokens : List Token) : Except Refusal (Read Command) :=
  match steps, skipLines tokens with
  | 0, tokens => unexpected none tokens
  | steps + 1, tokens =>
    match expectWord "esac" tokens, tokens with
    | .ok rest, _ => return (.nothing, rest)
    | _, tokens => do
      let tokens := match tokens with
        | .operator "(" :: rest => rest
        | rest => rest
      let (forms, rest) ← readForms tokens
      let (body, rest) ← readList steps false rest
      match expectWord "esac" rest with
      | .ok rest => return (.branch forms body .nothing, rest)
      | .error _ =>
        let (others, rest) ← readBranches steps (← expectOperator ";;" rest)
        return (.branch forms body others, rest)

end

def readLine : Nat → List Token → Except Refusal (Read Command)
  | 0, tokens => unexpected none tokens
  | _, [] => .ok (.nothing, [])
  | _, .operator "\n" :: rest => .ok (.nothing, rest)
  | steps + 1, tokens => do
    let (first, rest) ← readChain steps tokens
    match rest with
    | [] => return (first, [])
    | .operator "\n" :: rest => return (first, rest)
    | .operator ";" :: rest =>
      let (others, rest) ← readLine steps rest
      return (.sequence first others, rest)
    | .operator "&" :: rest =>
      let (others, rest) ← readLine steps rest
      return (.sequence (.background first) others, rest)
    | rest => unexpected none rest

def lineAt (all rest : List Token) : Nat :=
  1 + ((all.take (all.length - rest.length)).filter fun
    | .operator text => text == "\n"
    | _ => false).length

def readLines (all : List Token) : Nat → List Token → Command
  | 0, _ => .nothing
  | _, [] => .nothing
  | lines + 1, tokens => match readLine (8 * tokens.length + 8) tokens with
    | .error refusal =>
      .refused (lineAt all refusal.rest) s!"Syntax error: {refusal.complaint}"
    | .ok (command, rest) => .sequence command (readLines all lines rest)

def Command.ofScript (script : String) : Command :=
  let cs := script.toList
  let all := tokens 1 (cs.length + 1) cs
  readLines all (all.length + 1) all

end AppSupervisor.Rehearsal.Shell
