import Workbench.Text.Quoted

/-!
# Faults of patterns

What can be wrong with the text of a pattern, and how it is reported: with the place where it was
found, and if the pattern has several lines, with line and column too.
-/

namespace Workbench.Pattern

open Text (quoted)

/-- What can be wrong with the text of a pattern. -/
inductive Problem where
  | trailingBackslash
  | badEscape (text : String)
  | incompleteEscape (text : String)
  | octalTooLarge (text : String)
  | missing (what : String)
  | unterminatedName (terminator : String)
  | badGroupName (name : String)
  | unknownGroupName (name : String)
  | undefinedCharacter (name : String)
  | openGroup
  | lookbehindGroup
  | invalidReference (group : Nat)
  | badGroupNumber
  | redefinition (name : String) (group earlier : Nat)
  | unterminatedSet
  | badRange (first last : String)
  | minGreaterThanMax
  | nothingToRepeat
  | multipleRepeat
  | unexpectedEnd
  | unknownExtension (text : String)
  | unterminatedComment
  | unterminatedGroup
  | tooManyBranches
  | lateFlags
  | localeFlag
  | incompatibleFlags
  | unknownFlag
  | missingFlag
  | missingFlagEnd
  | missingColon
  | globalOn
  | globalOff
  | typeOff
  | onAndOff
  | unbalanced
  | variableLookbehind
  | distantLookbehind
  | repetitionTooLarge
  | asciiAndUnicode
  | templateRepetition (kind : String)
  deriving Repr, DecidableEq

def Problem.message : Problem → String
  | trailingBackslash => "bad escape (end of pattern)"
  | badEscape text => s!"bad escape {text}"
  | incompleteEscape text => s!"incomplete escape {text}"
  | octalTooLarge text => s!"octal escape value {text} outside of range 0-0o377"
  | missing what => s!"missing {what}"
  | unterminatedName terminator => s!"missing {terminator}, unterminated name"
  | badGroupName name => s!"bad character in group name {quoted name}"
  | unknownGroupName name => s!"unknown group name {quoted name}"
  | undefinedCharacter name => s!"undefined character name {quoted name}"
  | openGroup => "cannot refer to an open group"
  | lookbehindGroup => "cannot refer to group defined in the same lookbehind subpattern"
  | invalidReference group => s!"invalid group reference {group}"
  | badGroupNumber => "bad group number"
  | redefinition name group earlier =>
    s!"redefinition of group name {quoted name} as group {group}; was group {earlier}"
  | unterminatedSet => "unterminated character set"
  | badRange first last => s!"bad character range {first}-{last}"
  | minGreaterThanMax => "min repeat greater than max repeat"
  | nothingToRepeat => "nothing to repeat"
  | multipleRepeat => "multiple repeat"
  | unexpectedEnd => "unexpected end of pattern"
  | unknownExtension text => s!"unknown extension ?{text}"
  | unterminatedComment => "missing ), unterminated comment"
  | unterminatedGroup => "missing ), unterminated subpattern"
  | tooManyBranches => "conditional backref with more than two branches"
  | lateFlags => "global flags not at the start of the expression"
  | localeFlag => "bad inline flags: cannot use 'L' flag with a str pattern"
  | incompatibleFlags => "bad inline flags: flags 'a', 'u' and 'L' are incompatible"
  | unknownFlag => "unknown flag"
  | missingFlag => "missing flag"
  | missingFlagEnd => "missing -, : or )"
  | missingColon => "missing :"
  | globalOn => "bad inline flags: cannot turn on global flag"
  | globalOff => "bad inline flags: cannot turn off global flag"
  | typeOff => "bad inline flags: cannot turn off flags 'a', 'u' and 'L'"
  | onAndOff => "bad inline flags: flag turned on and off"
  | unbalanced => "unbalanced parenthesis"
  | variableLookbehind => "look-behind requires fixed-width pattern"
  | distantLookbehind => "looks too much behind"
  | repetitionTooLarge => "the repetition number is too large"
  | asciiAndUnicode => "ASCII and UNICODE flags are incompatible"
  | templateRepetition kind => s!"internal: unsupported template operator {kind}"

/-- A problem and the place where it was found, if it has one. -/
structure Fault where
  problem : Problem
  position : Option Nat
  deriving Repr, DecidableEq

def Fault.message (text : List Char) (f : Fault) : String :=
  match f.position with
  | none => f.problem.message
  | some position =>
    let before := text.take position
    let line := before.count '\n' + 1
    let column := (before.reverse.takeWhile (· != '\n')).length + 1
    let place := s!"{f.problem.message} at position {position}"
    if text.contains '\n' then s!"{place} (line {line}, column {column})" else place

end Workbench.Pattern
