import NameLint.Pattern.Basic
import NameLint.Text.Quoted

/-!
# Rejected patterns

Every way in which the text of a pattern can be wrong, with its wording. Most
complaints point at a place in the text, counted in characters from zero.
-/

namespace NameLint.Pattern

inductive Complaint where
  | danglingBackslash
  | badEscape (text : String)
  | incompleteEscape (text : String)
  | octalOutOfRange (text : String)
  | missingBrace
  | missingName (what : String)
  | unterminatedName (terminator : Char)
  | undefinedCharacter (name : String)
  | openGroup
  | groupOfSameLookbehind
  | invalidGroup (number : Nat)
  | badGroupName (name : String)
  | unknownGroup (name : String)
  | badGroupNumber
  | redefinedGroup (name : String) (number first : Nat)
  | unterminatedSet
  | badRange (low high : String)
  | nothingToRepeat
  | multipleRepeat
  | leastOverMost
  | unexpectedEnd
  | unknownExtension (text : String)
  | unterminatedComment
  | unterminatedGroup
  | unbalancedParenthesis
  | tooManyBranches
  | flagsNotAtStart
  | localeFlag
  | clashingFlags
  | globalFlagOn
  | globalFlagOff
  | modeFlagOff
  | flagOnAndOff
  | unknownFlag
  | missingFlag
  | missingFlagEnd
  | missingColon
  | variableLookbehind
  | repeatInTemplate (greed : Greed)
  deriving DecidableEq, Repr

def Complaint.text : Complaint → String
  | .danglingBackslash => "bad escape (end of pattern)"
  | .badEscape text => "bad escape " ++ text
  | .incompleteEscape text => "incomplete escape " ++ text
  | .octalOutOfRange text => "octal escape value " ++ text ++ " outside of range 0-0o377"
  | .missingBrace => "missing \x7b"
  | .missingName what => "missing " ++ what
  | .unterminatedName terminator =>
    "missing " ++ String.singleton terminator ++ ", unterminated name"
  | .undefinedCharacter name => "undefined character name " ++ Text.quoted name
  | .openGroup => "cannot refer to an open group"
  | .groupOfSameLookbehind => "cannot refer to group defined in the same lookbehind subpattern"
  | .invalidGroup number => "invalid group reference " ++ toString number
  | .badGroupName name => "bad character in group name " ++ Text.quoted name
  | .unknownGroup name => "unknown group name " ++ Text.quoted name
  | .badGroupNumber => "bad group number"
  | .redefinedGroup name number first =>
    "redefinition of group name " ++ Text.quoted name ++ " as group " ++ toString number ++
      "; was group " ++ toString first
  | .unterminatedSet => "unterminated character set"
  | .badRange low high => "bad character range " ++ low ++ "-" ++ high
  | .nothingToRepeat => "nothing to repeat"
  | .multipleRepeat => "multiple repeat"
  | .leastOverMost => "min repeat greater than max repeat"
  | .unexpectedEnd => "unexpected end of pattern"
  | .unknownExtension text => "unknown extension " ++ text
  | .unterminatedComment => "missing ), unterminated comment"
  | .unterminatedGroup => "missing ), unterminated subpattern"
  | .unbalancedParenthesis => "unbalanced parenthesis"
  | .tooManyBranches => "conditional backref with more than two branches"
  | .flagsNotAtStart => "global flags not at the start of the expression"
  | .localeFlag => "bad inline flags: cannot use 'L' flag with a str pattern"
  | .clashingFlags => "bad inline flags: flags 'a', 'u' and 'L' are incompatible"
  | .globalFlagOn => "bad inline flags: cannot turn on global flag"
  | .globalFlagOff => "bad inline flags: cannot turn off global flag"
  | .modeFlagOff => "bad inline flags: cannot turn off flags 'a', 'u' and 'L'"
  | .flagOnAndOff => "bad inline flags: flag turned on and off"
  | .unknownFlag => "unknown flag"
  | .missingFlag => "missing flag"
  | .missingFlagEnd => "missing -, : or )"
  | .missingColon => "missing :"
  | .variableLookbehind => "look-behind requires fixed-width pattern"
  | .repeatInTemplate .most => "internal: unsupported template operator MAX_REPEAT"
  | .repeatInTemplate .least => "internal: unsupported template operator MIN_REPEAT"
  | .repeatInTemplate .allOrNothing =>
    "internal: unsupported template operator POSSESSIVE_REPEAT"

/-- Why a text is no pattern, or why a search for it has no answer. -/
inductive Fault where
  /-- The text is wrong, at a place where one can be named. -/
  | rejected (complaint : Complaint) (position : Option Nat)
  /-- A repetition count is past every count that a matcher keeps. -/
  | countTooLarge
  /-- A repetition count has more digits than are read. -/
  | countTooLong
  /-- The whole pattern is put into two character modes at once. -/
  | clashingModes
  /-- A look-behind reaches further than a matcher can look. -/
  | tooWide
  /-- A match left behind a group that ends before it begins. -/
  | crossedGroup
  /-- The stack has no room for reading the text. -/
  | stackExhausted
  deriving DecidableEq, Repr

def rejection (complaint : Complaint) (position : Option Nat) : String :=
  match position with
  | none => complaint.text
  | some n => complaint.text ++ " at position " ++ toString n

end NameLint.Pattern
