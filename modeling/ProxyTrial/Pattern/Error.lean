import ProxyTrial.Text.Integer
import ProxyTrial.Text.Quoted
/-!
# What can be wrong with a pattern

A pattern is refused for a fault at a place, for a fault of the whole, or for
one of three limits that are not a matter of syntax.
-/

namespace ProxyTrial.Pattern

/-- A fault in the syntax of a pattern. -/
inductive Fault where
  | trailingBackslash
  | missing (what : String)
  | unterminatedName (terminator : String)
  | badGroupName (name : String)
  | redefinedGroup (name : String) (group earlier : Nat)
  | unknownGroup (name : String)
  | openGroup
  | lookbehindGroup
  | incompleteEscape (text : String)
  | badEscape (text : String)
  | largeOctal (text : String)
  | undefinedCharacter (name : String)
  | invalidGroup (group : Nat)
  | zeroGroup
  | unterminatedSet
  | badRange (first last : String)
  | nothingToRepeat
  | multipleRepeat
  | crossedBounds
  | unexpectedEnd
  | unknownExtension (text : String)
  | unterminatedComment
  | unterminatedGroup
  | thirdBranch
  | lateFlags
  | unknownFlag
  | localeFlag
  | clashingFlags
  | globalOn
  | globalOff
  | fixedFlagOff
  | flagOnAndOff
  | unbalanced
  | lookbehindWidth
  | lookbehindTooFar
  | repeatInTemplate (operator : String)
  deriving DecidableEq, Repr

/-- The wording of a fault. -/
def Fault.message : Fault → String
  | trailingBackslash => "bad escape (end of pattern)"
  | missing what => s!"missing {what}"
  | unterminatedName terminator => s!"missing {terminator}, unterminated name"
  | badGroupName name => "bad character in group name " ++ Text.quoted name
  | redefinedGroup name group earlier =>
    "redefinition of group name " ++ Text.quoted name ++ s!" as group {group}; was group {earlier}"
  | unknownGroup name => "unknown group name " ++ Text.quoted name
  | openGroup => "cannot refer to an open group"
  | lookbehindGroup => "cannot refer to group defined in the same lookbehind subpattern"
  | incompleteEscape text => s!"incomplete escape {text}"
  | badEscape text => s!"bad escape {text}"
  | largeOctal text => s!"octal escape value {text} outside of range 0-0o377"
  | undefinedCharacter name => "undefined character name " ++ Text.quoted name
  | invalidGroup group => s!"invalid group reference {group}"
  | zeroGroup => "bad group number"
  | unterminatedSet => "unterminated character set"
  | badRange first last => s!"bad character range {first}-{last}"
  | nothingToRepeat => "nothing to repeat"
  | multipleRepeat => "multiple repeat"
  | crossedBounds => "min repeat greater than max repeat"
  | unexpectedEnd => "unexpected end of pattern"
  | unknownExtension text => s!"unknown extension ?{text}"
  | unterminatedComment => "missing ), unterminated comment"
  | unterminatedGroup => "missing ), unterminated subpattern"
  | thirdBranch => "conditional backref with more than two branches"
  | lateFlags => "global flags not at the start of the expression"
  | unknownFlag => "unknown flag"
  | localeFlag => "bad inline flags: cannot use 'L' flag with a str pattern"
  | clashingFlags => "bad inline flags: flags 'a', 'u' and 'L' are incompatible"
  | globalOn => "bad inline flags: cannot turn on global flag"
  | globalOff => "bad inline flags: cannot turn off global flag"
  | fixedFlagOff => "bad inline flags: cannot turn off flags 'a', 'u' and 'L'"
  | flagOnAndOff => "bad inline flags: flag turned on and off"
  | unbalanced => "unbalanced parenthesis"
  | lookbehindWidth => "look-behind requires fixed-width pattern"
  | lookbehindTooFar => "looks too much behind"
  | repeatInTemplate operator => s!"internal: unsupported template operator {operator}"

end ProxyTrial.Pattern

namespace ProxyTrial

/-- Why a pattern cannot be used. -/
inductive PatternError where
  /-- A fault at a place of the pattern `source`. -/
  | faultAt (fault : Pattern.Fault) (source : String) (position : Nat)
  /-- A fault of the pattern as a whole. -/
  | faultOverall (fault : Pattern.Fault)
  /-- A repetition count is beyond the limit. -/
  | largeRepeat
  /-- A repetition count has more digits than are read. -/
  | longNumber (digits : Nat)
  /-- The pattern asks for ASCII and for Unicode classes. -/
  | asciiAndUnicode
  deriving DecidableEq, Repr

namespace PatternError

/-- The wording of an error.  A place is a number of characters, with line and
column beside it when the pattern has several lines. -/
def message : PatternError → String
  | faultAt fault source position =>
    let chars := source.toList
    let before := chars.take position
    let line := before.count '\n' + 1
    let column := (before.reverse.takeWhile (· != '\n')).length + 1
    let lines := if chars.contains '\n'
      then s!" (line {line}, column {column})" else ""
    s!"{fault.message} at position {position}" ++ lines
  | faultOverall fault => fault.message
  | largeRepeat => "the repetition number is too large"
  | longNumber digits => Text.tooManyDigits digits
  | asciiAndUnicode => "ASCII and UNICODE flags are incompatible"

end PatternError

end ProxyTrial
