/-!
Scripts of a small shell.

A script is a list of commands. The words of a command are made of pieces, which are replaced when
the command is run; a quoted piece is never split into several words.
-/

namespace AppSupervisor.Rehearsal.Shell

/-- What stands for a parameter: its value, the length of that, another text where there is no value
or where there is one, or the value less what fits a form at one of its ends. -/
inductive Use
  | value
  | length
  | otherwise
  | assigned
  | instead
  | demanded
  | cut (atEnd longest : Bool)
  | senseless
  deriving DecidableEq, Repr

inductive Piece
  | literal (text : String)
  | parameter (name : String) (use : Use) (emptyCounts : Bool) (other : String)
  | arithmetic (expression : String)
  | output (script : String)
  | unclosed (complaint : String)
  deriving Repr, Inhabited

abbrev Word := List (Piece × Bool)

inductive Stream
  | from_
  | onto
  | append
  | same
  deriving DecidableEq, Repr

structure Redirection where
  descriptor : Nat
  stream : Stream
  target : Word
  deriving Repr

/-- A command. A `select` runs the first of the branches in its body that has a fitting form;
`refused` stands where a script cannot be read. -/
inductive Command
  | nothing
  | simple (line : Nat) (settings : List (String × Word)) (words : List Word)
  | redirected (body : Command) (redirections : List Redirection)
  | pipe (left right : Command)
  | conjunction (left right : Command)
  | disjunction (left right : Command)
  | negation (body : Command)
  | sequence (left right : Command)
  | choice (condition yes no : Command)
  | loop (untilTrue : Bool) (condition body : Command)
  | each (name : String) (words : List Word) (body : Command)
  | select (word : Word) (branches : Command)
  | branch (forms : List Word) (body others : Command)
  | define (name : String) (body : Command)
  | background (body : Command)
  | inner (body : Command)
  | refused (line : Nat) (complaint : String)
  deriving Repr, Inhabited

def isNameChar (c : Char) : Bool :=
  c.isAlphanum || c == '_'

def isName (text : String) : Bool :=
  text.toList.all isNameChar && !text.isEmpty && !(text.toList.headD '0').isDigit

def plainText? : Word → Option String
  | [] => some ""
  | (.literal text, false) :: rest => (plainText? rest).map (text ++ ·)
  | _ :: _ => none

end AppSupervisor.Rehearsal.Shell
