import AppSupervisor.Pattern.Parser
import AppSupervisor.Text.Blank
import AppSupervisor.Text.LetterCase

/-!
Matching a text against a pattern.

A match proceeds from a cursor and hands the cursor behind it to a continuation; if that fails, the
next way to match is tried. Greedy repetitions try one more round first, lazy ones try to stop
first. After the least number of rounds, a round that starts where the last one started is not
tried.
-/

namespace AppSupervisor.Pattern

open AppSupervisor.Text

structure Cursor where
  position : Nat
  groups : List (Nat × Nat × Nat) := []

abbrev Continuation := Cursor → Option Cursor

def isAsciiSpace (code : Nat) : Bool :=
  code == 0x20 || (0x09 ≤ code && code ≤ 0x0d)

def Family.contains (family : Family) (ascii : Bool) (code : Nat) : Bool :=
  if ascii && 0x80 ≤ code then false
  else match family with
    | .digit => isDecimalDigit (Char.ofNat code)
    | .space => if ascii then isAsciiSpace code else blankCodes.contains code
    | .word => isWordCode code

def Member.contains (ascii : Bool) (variants : List Nat) (small : Nat) : Member → Bool
  | .code n => variants.contains n
  | .range first last => variants.any fun n => first ≤ n && n ≤ last
  | .family named inside => named.contains ascii small == inside

def Flags.small (flags : Flags) (code : Nat) : Nat :=
  if flags.ignoreCase then (if flags.ascii then asciiSmallCode code else smallCode code) else code

def Flags.variants (flags : Flags) (code : Nat) : List Nat :=
  if flags.ignoreCase then (if flags.ascii then asciiCaseVariants code else caseVariants code)
  else [code]

def Flags.inSet (flags : Flags) (members : List Member) (code : Nat) : Bool :=
  members.any (·.contains flags.ascii (flags.variants code) (flags.small code))

def isWordAt (flags : Flags) (text : Array Char) (position : Nat) : Bool :=
  match text[position]? with
  | some c => Family.contains .word flags.ascii c.toNat
  | none => false

def Place.holds (place : Place) (flags : Flags) (text : Array Char) (position : Nat) : Bool :=
  let edge := ((0 < position && isWordAt flags text (position - 1)) != isWordAt flags text position)
    && !text.isEmpty
  match place with
  | .textStart => position == 0
  | .textEnd => position == text.size
  | .lineStart => position == 0 || (flags.multiline && text[position - 1]? == some '\n')
  | .lineEnd =>
    position == text.size ||
      (text[position]? == some '\n' && (flags.multiline || position + 1 == text.size))
  | .wordEdge => edge
  | .noWordEdge => !edge && !text.isEmpty

def takeOne (text : Array Char) (test : Nat → Bool) (k : Continuation) (cursor : Cursor) :
    Option Cursor :=
  match text[cursor.position]? with
  | some c => if test c.toNat then k { cursor with position := cursor.position + 1 } else none
  | none => none

def takeCopy (flags : Flags) (text : Array Char) (start stop : Nat) (k : Continuation)
    (cursor : Cursor) : Option Cursor :=
  let wanted := (text.extract start stop).map fun c => flags.small c.toNat
  let found := (text.extract cursor.position (cursor.position + wanted.size)).map
    fun c => flags.small c.toNat
  if wanted == found then k { cursor with position := cursor.position + wanted.size } else none

/-- Rounds of a greedy repetition. `last` is the place where the last optional round started. -/
def greedyRounds (body : Continuation → Continuation) (k : Continuation) :
    Nat → Nat → Option Nat → Option Nat → Continuation
  | 0, _, _, _, _ => none
  | fuel + 1, least + 1, most, _, cursor =>
    body (greedyRounds body k fuel least (most.map (· - 1)) none) cursor
  | fuel + 1, 0, most, last, cursor =>
    if most == some 0 || last == some cursor.position then k cursor
    else
      let again := greedyRounds body k fuel 0 (most.map (· - 1)) (some cursor.position)
      match body again cursor with
      | some done => some done
      | none => k cursor

def lazyRounds (body : Continuation → Continuation) (k : Continuation) :
    Nat → Nat → Option Nat → Option Nat → Continuation
  | 0, _, _, _, _ => none
  | fuel + 1, least + 1, most, _, cursor =>
    body (lazyRounds body k fuel least (most.map (· - 1)) none) cursor
  | fuel + 1, 0, most, last, cursor =>
    match k cursor with
    | some done => some done
    | none =>
      if most == some 0 || last == some cursor.position then none
      else body (lazyRounds body k fuel 0 (most.map (· - 1)) (some cursor.position)) cursor

/-- Rounds of a possessive repetition: each takes the first match of the body and keeps it. -/
def possessiveRounds (body : Continuation → Continuation) (k : Continuation) :
    Nat → Nat → Option Nat → Option Nat → Continuation
  | 0, _, _, _, _ => none
  | fuel + 1, least + 1, most, _, cursor =>
    match body some cursor with
    | some next => possessiveRounds body k fuel least (most.map (· - 1)) none next
    | none => none
  | fuel + 1, 0, most, last, cursor =>
    if most == some 0 || last == some cursor.position then k cursor
    else match body some cursor with
      | some next => possessiveRounds body k fuel 0 (most.map (· - 1)) (some cursor.position) next
      | none => k cursor

def Expr.run (text : Array Char) (flags : Flags) : Expr → Continuation → Continuation
  | .empty, k => k
  | .code n, k => takeOne text (flags.inSet [.code n]) k
  | .any, k => takeOne text (fun code => flags.dotAll || code != 0x0a) k
  | .set inside members, k => takeOne text (fun code => flags.inSet members code == inside) k
  | .place condition, k => fun cursor =>
    if condition.holds flags text cursor.position then k cursor else none
  | .back n, k => fun cursor =>
    match cursor.groups.lookup n with
    | some (start, stop) => takeCopy flags text start stop k cursor
    | none => none
  | .seq first second, k => first.run text flags (second.run text flags k)
  | .choice first second, k => fun cursor =>
    match first.run text flags k cursor with
    | some done => some done
    | none => second.run text flags k cursor
  | .repeated greed least most body, k =>
    let rounds := match greed with
      | .greedy => greedyRounds
      | .lazy => lazyRounds
      | .possessive => possessiveRounds
    rounds (body.run text flags) k (least + text.size + 3) least most none
  | .group n body, k => fun cursor =>
    body.run text flags (fun next =>
      k { next with groups := (n, cursor.position, next.position) :: next.groups }) cursor
  | .scoped change body, k => body.run text (change.apply flags) k
  | .atomic body, k => fun cursor =>
    match body.run text flags some cursor with
    | some next => k next
    | none => none
  | .ahead wanted body, k => fun cursor =>
    match body.run text flags some cursor, wanted with
    | some next, true => k { next with position := cursor.position }
    | none, false => k cursor
    | _, _ => none
  | .behind wanted least _ body, k => fun cursor =>
    let found := if cursor.position < least then none
      else body.run text flags some { cursor with position := cursor.position - least }
    match found, wanted with
    | some next, true => k { next with position := cursor.position }
    | none, false => k cursor
    | _, _ => none
  | .ifGroup n yes no, k => fun cursor =>
    if (cursor.groups.lookup n).isSome then yes.run text flags k cursor
    else no.run text flags k cursor

def Compiled.matchesWhole (pattern : Compiled) (text : String) : Bool :=
  let chars := text.toList.toArray
  let atEnd : Continuation := fun cursor =>
    if cursor.position == chars.size then some cursor else none
  (pattern.expr.run chars pattern.flags atEnd { position := 0 }).isSome

end AppSupervisor.Pattern
