import AppSupervisor.Text.Quoted

/-!
What can be wrong with the text of a pattern.

A fault names its cause and, where there is one, the place in the text; the message shows the place
as a character offset, and as line and column when the text has several lines.
-/

namespace AppSupervisor.Pattern

open AppSupervisor.Text (quote)

inductive Cause
  | trailingBackslash
  | badEscape (escape : String)
  | incompleteEscape (escape : String)
  | octalTooLarge (escape : String)
  | invalidGroup (number : Nat)
  | openGroup
  | groupInSameLookBehind
  | missing (what : String)
  | unterminatedName (terminator : String)
  | missingBrace
  | unknownCharacterName (name : String)
  | unterminatedSet
  | badRange (first last : String)
  | leastAboveMost
  | nothingToRepeat
  | multipleRepeat
  | unexpectedEnd
  | unknownExtension (mark : String)
  | unterminatedComment
  | unterminatedGroup
  | badGroupName (name : String)
  | unknownGroupName (name : String)
  | badGroupNumber
  | repeatedGroupName (name : String) (number earlier : Nat)
  | tooManyBranches
  | flagsNotAtStart
  | localeFlag
  | incompatibleAlphabets
  | unknownFlag
  | missingFlagEnd
  | missingFlag
  | missingColon
  | templateFlagOn
  | templateFlagOff
  | alphabetFlagOff
  | flagOnAndOff
  | unbalancedParenthesis
  | lookBehindTooLong
  | lookBehindNotFixed
  | templateRepeat (greed : String)
  deriving DecidableEq, Repr

def Cause.message : Cause → String
  | .trailingBackslash => "bad escape (end of pattern)"
  | .badEscape escape => "bad escape " ++ escape
  | .incompleteEscape escape => "incomplete escape " ++ escape
  | .octalTooLarge escape => s!"octal escape value {escape} outside of range 0-0o377"
  | .invalidGroup number => s!"invalid group reference {number}"
  | .openGroup => "cannot refer to an open group"
  | .groupInSameLookBehind => "cannot refer to group defined in the same lookbehind subpattern"
  | .missing what => "missing " ++ what
  | .unterminatedName terminator => s!"missing {terminator}, unterminated name"
  | .missingBrace => "missing \x7b"
  | .unknownCharacterName name => "undefined character name " ++ quote name
  | .unterminatedSet => "unterminated character set"
  | .badRange first last => s!"bad character range {first}-{last}"
  | .leastAboveMost => "min repeat greater than max repeat"
  | .nothingToRepeat => "nothing to repeat"
  | .multipleRepeat => "multiple repeat"
  | .unexpectedEnd => "unexpected end of pattern"
  | .unknownExtension mark => "unknown extension ?" ++ mark
  | .unterminatedComment => "missing ), unterminated comment"
  | .unterminatedGroup => "missing ), unterminated subpattern"
  | .badGroupName name => "bad character in group name " ++ quote name
  | .unknownGroupName name => "unknown group name " ++ quote name
  | .badGroupNumber => "bad group number"
  | .repeatedGroupName name number earlier =>
    s!"redefinition of group name {quote name} as group {number}; was group {earlier}"
  | .tooManyBranches => "conditional backref with more than two branches"
  | .flagsNotAtStart => "global flags not at the start of the expression"
  | .localeFlag => "bad inline flags: cannot use 'L' flag with a str pattern"
  | .incompatibleAlphabets => "bad inline flags: flags 'a', 'u' and 'L' are incompatible"
  | .unknownFlag => "unknown flag"
  | .missingFlagEnd => "missing -, : or )"
  | .missingFlag => "missing flag"
  | .missingColon => "missing :"
  | .templateFlagOn => "bad inline flags: cannot turn on global flag"
  | .templateFlagOff => "bad inline flags: cannot turn off global flag"
  | .alphabetFlagOff => "bad inline flags: cannot turn off flags 'a', 'u' and 'L'"
  | .flagOnAndOff => "bad inline flags: flag turned on and off"
  | .unbalancedParenthesis => "unbalanced parenthesis"
  | .lookBehindTooLong => "looks too much behind"
  | .lookBehindNotFixed => "look-behind requires fixed-width pattern"
  | .templateRepeat greed => "internal: unsupported template operator " ++ greed

inductive Fault
  | malformed (cause : Cause) (position : Option Nat)
  | repetitionTooLarge
  | codeTooLarge
  | conflictingAlphabets
  deriving DecidableEq, Repr

def placeText (text : List Char) (position : Nat) : String :=
  let before := text.take position
  let line := before.count '\n' + 1
  let column := match before.reverse.idxOf? '\n' with
    | some distance => distance + 1
    | none => position + 1
  s!" at position {position}" ++
    if text.contains '\n' then s!" (line {line}, column {column})" else ""

def Fault.message (text : String) : Fault → String
  | .malformed cause none => cause.message
  | .malformed cause (some position) => cause.message ++ placeText text.toList position
  | .repetitionTooLarge => "the repetition number is too large"
  | .codeTooLarge => "signed integer is greater than maximum"
  | .conflictingAlphabets => "ASCII and UNICODE flags are incompatible"

end AppSupervisor.Pattern
