import AppSupervisor.CommandLine.Usage
import AppSupervisor.Text.Similarity

/-!
The grammar of command lines.

An option is written in one of its forms: a long one behind two dashes, or a short one of one letter
behind one dash. The value of an option is the argument behind it, or stands in the same argument
behind an equals sign (long form) or at once (short form). Options without a value may share one
dash. Two dashes alone end the options.
-/

namespace AppSupervisor.CommandLine

open AppSupervisor.Text

structure OptionForm (κ : Type) where
  key : κ
  forms : List String
  hasValue : Bool

abbrev Given (κ : Type) := κ × String

structure Parsed (κ : Type) where
  options : List (Given κ)
  arguments : List String

inductive Reading (κ : Type)
  | complete (given : List (Given κ))
  | open_ (given : List (Given κ)) (key : κ) (form : String)

variable {κ : Type}

def isShort (form : String) : Bool :=
  form.length == 2 && !form.startsWith "--"

def optionAt? (known : List (OptionForm κ)) (short : Bool) (form : String) :
    Option (OptionForm κ) :=
  known.find? fun option => option.forms.any fun f => f == form && isShort f == short

def longForms (known : List (OptionForm κ)) : List String :=
  known.flatMap fun option => option.forms.filter fun form => !isShort form

def cutEquals? (s : String) : Option (String × String) :=
  let before := s.toList.takeWhile (· != '=')
  if before.length == s.length then none
  else some (String.ofList before, String.ofList (s.toList.drop (before.length + 1)))

def readShort (known : List (OptionForm κ)) : List Char → Except UsageCause (Reading κ)
  | [] => .ok (.complete [])
  | c :: rest =>
    let form := String.ofList ['-', c]
    match optionAt? known true form with
    | none => .error (.noSuchOption form [])
    | some option =>
      if option.hasValue then
        if rest.isEmpty then .ok (.open_ [] option.key form)
        else .ok (.complete [(option.key, String.ofList rest)])
      else (readShort known rest).map fun
        | .complete given => .complete ((option.key, "") :: given)
        | .open_ given key form => .open_ ((option.key, "") :: given) key form

def readOption (known : List (OptionForm κ)) (argument : String) : Except UsageCause (Reading κ) :=
  let (form, value?) := match cutEquals? argument with
    | some (form, value) => (form, some value)
    | none => (argument, none)
  match optionAt? known false form, value? with
  | some option, some value =>
    if option.hasValue then .ok (.complete [(option.key, value)])
    else .error (.unwantedValue form)
  | some option, none =>
    if option.hasValue then .ok (.open_ [] option.key form) else .ok (.complete [(option.key, "")])
  | none, _ =>
    if argument.startsWith "--" then
      .error (.noSuchOption form (suggestions form (longForms known)))
    else readShort known (argument.toList.drop 1)

def isOptional (argument : String) : Bool :=
  argument.startsWith "-" && argument.length != 1

/-- Reads a command line. With `mixed`, options may stand behind arguments; otherwise the first
argument ends them. -/
def readLine (known : List (OptionForm κ)) (mixed : Bool) :
    List String → Except UsageCause (Parsed κ)
  | [] => .ok ⟨[], []⟩
  | argument :: rest =>
    if argument == "--" then .ok ⟨[], rest⟩
    else if isOptional argument then do
      match ← readOption known argument with
      | .complete given =>
        let line ← readLine known mixed rest
        return { line with options := given ++ line.options }
      | .open_ given key form => match rest with
        | [] => throw (.noValue form)
        | value :: rest =>
          let line ← readLine known mixed rest
          return { line with options := given ++ (key, value) :: line.options }
    else if mixed then do
      let line ← readLine known mixed rest
      return { line with arguments := argument :: line.arguments }
    else .ok ⟨[], argument :: rest⟩

def valuesOf [BEq κ] (key : κ) (options : List (Given κ)) : List String :=
  options.filterMap fun given => if given.1 == key then some given.2 else none

end AppSupervisor.CommandLine
