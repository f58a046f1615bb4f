/-!
Patterns of text.

A pattern describes which texts it matches. It is built from single characters, classes, places and
references by sequence, choice and repetition. The width of a pattern bounds the number of
characters that it takes.
-/

namespace AppSupervisor.Pattern

structure Flags where
  ignoreCase : Bool := false
  multiline : Bool := false
  dotAll : Bool := false
  verbose : Bool := false
  ascii : Bool := false
  unicode : Bool := false
  template : Bool := false
  deriving DecidableEq, Repr

def Flags.union (f g : Flags) : Flags where
  ignoreCase := f.ignoreCase || g.ignoreCase
  multiline := f.multiline || g.multiline
  dotAll := f.dotAll || g.dotAll
  verbose := f.verbose || g.verbose
  ascii := f.ascii || g.ascii
  unicode := f.unicode || g.unicode
  template := f.template || g.template

def Flags.common (f g : Flags) : Flags where
  ignoreCase := f.ignoreCase && g.ignoreCase
  multiline := f.multiline && g.multiline
  dotAll := f.dotAll && g.dotAll
  verbose := f.verbose && g.verbose
  ascii := f.ascii && g.ascii
  unicode := f.unicode && g.unicode
  template := f.template && g.template

def Flags.without (f g : Flags) : Flags where
  ignoreCase := f.ignoreCase && !g.ignoreCase
  multiline := f.multiline && !g.multiline
  dotAll := f.dotAll && !g.dotAll
  verbose := f.verbose && !g.verbose
  ascii := f.ascii && !g.ascii
  unicode := f.unicode && !g.unicode
  template := f.template && !g.template

def Flags.isEmpty (f : Flags) : Bool :=
  f == {}

structure FlagChange where
  on : Flags := {}
  off : Flags := {}
  deriving DecidableEq, Repr

/-- The switches inside a part. The alphabets exclude each other, so naming one drops the other. -/
def FlagChange.apply (change : FlagChange) (flags : Flags) : Flags :=
  let base := if change.on.ascii || change.on.unicode then
    { flags with ascii := false, unicode := false } else flags
  (base.union change.on).without change.off

inductive Family
  | digit
  | space
  | word
  deriving DecidableEq, Repr

inductive Member
  | code (code : Nat)
  | range (first last : Nat)
  | family (family : Family) (inside : Bool)
  deriving DecidableEq, Repr

inductive Place
  | lineStart
  | lineEnd
  | textStart
  | textEnd
  | wordEdge
  | noWordEdge
  deriving DecidableEq, Repr

inductive Greed
  | greedy
  | lazy
  | possessive
  deriving DecidableEq, Repr

inductive Expr
  | empty
  | code (code : Nat)
  | any
  | set (inside : Bool) (members : List Member)
  | place (place : Place)
  | back (group : Nat)
  | seq (first second : Expr)
  | choice (first second : Expr)
  | repeated (greed : Greed) (least : Nat) (most : Option Nat) (body : Expr)
  | group (number : Nat) (body : Expr)
  | scoped (change : FlagChange) (body : Expr)
  | atomic (body : Expr)
  | ahead (wanted : Bool) (body : Expr)
  | behind (wanted : Bool) (least most : Nat) (body : Expr)
  | ifGroup (group : Nat) (yes no : Expr)
  deriving Repr

structure Width where
  least : Nat
  most : Nat
  deriving DecidableEq, Repr

def Width.limit : Nat := Nat.pow 2 64

def Width.clamp (w : Width) : Width :=
  ⟨min w.least limit, min w.most limit⟩

def Expr.width (widthOf : Nat → Width) : Expr → Width
  | .empty | .place _ | .ahead _ _ | .behind _ _ _ _ => ⟨0, 0⟩
  | .code _ | .any | .set _ _ => ⟨1, 1⟩
  | .back n => widthOf n
  | .seq first second =>
    let a := first.width widthOf
    let b := second.width widthOf
    Width.clamp ⟨a.least + b.least, a.most + b.most⟩
  | .choice first second =>
    let a := first.width widthOf
    let b := second.width widthOf
    ⟨min a.least b.least, max a.most b.most⟩
  | .repeated _ least most body =>
    let a := body.width widthOf
    let greatest := match most with
      | some most => a.most * most
      | none => if a.most == 0 then 0 else Width.limit
    Width.clamp ⟨a.least * least, greatest⟩
  | .group _ body => body.width widthOf
  | .scoped _ body => body.width widthOf
  | .atomic body => body.width widthOf
  | .ifGroup _ yes no =>
    let a := yes.width widthOf
    let b := no.width widthOf
    ⟨min a.least b.least, max a.most b.most⟩

end AppSupervisor.Pattern
