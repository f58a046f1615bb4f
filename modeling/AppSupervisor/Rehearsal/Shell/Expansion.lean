import AppSupervisor.Rehearsal.Shell.Session
import AppSupervisor.Rehearsal.Shell.Token

/-!
The fields that words stand for.

A word stands for one field, except where a piece that is not quoted has blanks in its value, or
where the word has the form of names of files.
-/

namespace AppSupervisor.Rehearsal.Shell

structure Fields where
  complete : List String := []
  current : Option String := none

namespace Fields

def add (f : Fields) (text : String) : Fields :=
  { f with current := some (f.current.getD "" ++ text) }

def close (f : Fields) : Fields :=
  { complete := f.complete ++ f.current.toList, current := none }

def addSplit (f : Fields) (text : String) : Fields :=
  text.toList.foldl (fun f c =>
    if c == ' ' || c == '\t' || c == '\n' then f.close else f.add (String.singleton c)) f

def addEach (f : Fields) : List String → Fields
  | [] => f
  | [text] => f.add text
  | text :: rest => (f.add text).close.addEach rest

def all (f : Fields) : List String := f.complete ++ f.current.toList

def text (f : Fields) : String := " ".intercalate f.all

end Fields

def withoutLineEnds (text : String) : String :=
  String.ofList (text.toList.reverse.dropWhile (· == '\n')).reverse

def formOf? (word : Word) : Option (Form × String) :=
  let marked := word.map fun
    | (.literal text, quoted) => some (text.toList.map fun c => (c, quoted))
    | _ => none
  if marked.all Option.isSome then
    let chars := (marked.filterMap id).flatten
    let form := Form.ofChars chars
    if form.isText then none else some (form, String.ofList (chars.map Prod.fst))
  else none

def isAllArguments (word : Word) : Bool :=
  match word.filter fun
    | (.literal text, _) => !text.isEmpty
    | _ => true with
  | [(.parameter name .value _ _, quoted)] => name == "@" && quoted
  | _ => false

def allQuoted (word : Word) : Word := word.map fun (piece, _) => (piece, true)

def innerWord (quoted : Bool) (text : String) : Word :=
  let cs := text.toList
  if quoted then quotedWord cs.length cs else allQuoted (looseWord cs.length cs)

def Session.refuse (s : Session) (complaint : String) : Session :=
  { s with fault? := some (s.fault?.getD complaint) }

end AppSupervisor.Rehearsal.Shell
