import AppSupervisor.Text.Quoted

/-!
Command lines that cannot be understood.
-/

namespace AppSupervisor.CommandLine

open AppSupervisor.Text

inductive ValueCause
  | notInteger (text : String)
  | countTooSmall (count : Int)
  | notReal (text : String)
  | missingFile (path : String)
  | directory (path : String)
  | unreadableFile (path : String)
  | notKeyValue (text : String)
  deriving DecidableEq, Repr

def ValueCause.message : ValueCause → String
  | .notInteger text => s!"{quote text} is not a valid integer range."
  | .countTooSmall count => s!"{count} is not in the range x>=1."
  | .notReal text => s!"{quote text} is not a valid float."
  | .missingFile path => s!"File {quote path} does not exist."
  | .directory path => s!"File {quote path} is a directory."
  | .unreadableFile path => s!"File {quote path} is not readable."
  | .notKeyValue text => s!"Expected KEY=VALUE, got '{text}'"

inductive UsageCause
  | noSuchOption (option : String) (similar : List String)
  | noSuchCommand (command : String) (similar : List String)
  | noCommand
  | noValue (option : String)
  | unwantedValue (option : String)
  | noArgument (argument : String)
  | extraArguments (arguments : List String)
  | badValue (place : String) (cause : ValueCause)
  deriving DecidableEq, Repr

def suggestionText : List String → String
  | [] => ""
  | [one] => s!" Did you mean {quote one}?"
  | several =>
    let ordered := several.mergeSort fun a b => !decide (b < a)
    " (Did you mean one of: " ++ ", ".intercalate (ordered.map quote) ++ "?)"

def UsageCause.message : UsageCause → String
  | .noSuchOption option similar => s!"No such option {quote option}." ++ suggestionText similar
  | .noSuchCommand command similar => s!"No such command {quote command}." ++ suggestionText similar
  | .noCommand => "Missing command."
  | .noValue option => s!"Option {quote option} requires an argument."
  | .unwantedValue option => s!"Option {quote option} does not take a value."
  | .noArgument argument => s!"Missing argument {quote argument}."
  | .extraArguments arguments =>
    let noun := if arguments.length == 1 then "argument" else "arguments"
    s!"Got unexpected extra {noun} (" ++ " ".intercalate arguments ++ ")"
  | .badValue place cause => s!"Invalid value for {place}: {cause.message}"

end AppSupervisor.CommandLine
