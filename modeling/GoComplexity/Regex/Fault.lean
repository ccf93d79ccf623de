/-
# Faults of patterns

A pattern that is not well formed has a fault: a cause and mostly the place
where it was found.  A pattern of several lines has the place by line and
column too.  Three faults are of other kinds: a repetition number that is too
large or has too many digits, and flags that exclude each other.

Key definitions: `Cause`, `Cause.message`, `Fault`, `Fault.message`.
-/
import GoComplexity.Number.Integer

namespace GoComplexity.Regex

/-- What is wrong with a pattern. -/
inductive Cause where
  | badEscape (text : String)
  | trailingBackslash
  | incompleteEscape (text : String)
  | octalTooLarge (text : String)
  | missing (what : String)
  | unterminatedName (terminator : String)
  | unterminatedGroup
  | unterminatedComment
  | unterminatedSet
  | unknownCharacterName (name : String)
  | openGroup
  | lookbehindGroup
  | noGroup (number : Int)
  | badGroupNumber
  | badGroupName (name : String)
  | unknownGroupName (name : String)
  | groupRedefined (name : String) (number earlier : Nat)
  | badRange (text : String)
  | reversedRepetition
  | nothingToRepeat
  | multipleRepeat
  | endOfPattern
  | threeBranches
  | unknownExtension (text : String)
  | unknownFlag
  | localeFlag
  | exclusiveFlags
  | typeFlagOff
  | globalFlagOn
  | globalFlagOff
  | flagOnAndOff
  | lateGlobalFlags
  | unbalanced
  | lookbehindTooWide
  | lookbehindWidth
  | templateRepeat (operator : String)
deriving DecidableEq, Repr, Inhabited

/-- The wording of a cause. -/
def Cause.message : Cause → String
  | .badEscape text => s!"bad escape {text}"
  | .trailingBackslash => "bad escape (end of pattern)"
  | .incompleteEscape text => s!"incomplete escape {text}"
  | .octalTooLarge text => s!"octal escape value {text} outside of range 0-0o377"
  | .missing what => s!"missing {what}"
  | .unterminatedName terminator => s!"missing {terminator}, unterminated name"
  | .unterminatedGroup => "missing ), unterminated subpattern"
  | .unterminatedComment => "missing ), unterminated comment"
  | .unterminatedSet => "unterminated character set"
  | .unknownCharacterName name => s!"undefined character name {Text.quote name}"
  | .openGroup => "cannot refer to an open group"
  | .lookbehindGroup => "cannot refer to group defined in the same lookbehind subpattern"
  | .noGroup number => s!"invalid group reference {number}"
  | .badGroupNumber => "bad group number"
  | .badGroupName name => s!"bad character in group name {Text.quote name}"
  | .unknownGroupName name => s!"unknown group name {Text.quote name}"
  | .groupRedefined name number earlier =>
    s!"redefinition of group name {Text.quote name} as group {number}; was group {earlier}"
  | .badRange text => s!"bad character range {text}"
  | .reversedRepetition => "min repeat greater than max repeat"
  | .nothingToRepeat => "nothing to repeat"
  | .multipleRepeat => "multiple repeat"
  | .endOfPattern => "unexpected end of pattern"
  | .threeBranches => "conditional backref with more than two branches"
  | .unknownExtension text => s!"unknown extension ?{text}"
  | .unknownFlag => "unknown flag"
  | .localeFlag => "bad inline flags: cannot use 'L' flag with a str pattern"
  | .exclusiveFlags => "bad inline flags: flags 'a', 'u' and 'L' are incompatible"
  | .typeFlagOff => "bad inline flags: cannot turn off flags 'a', 'u' and 'L'"
  | .globalFlagOn => "bad inline flags: cannot turn on global flag"
  | .globalFlagOff => "bad inline flags: cannot turn off global flag"
  | .flagOnAndOff => "bad inline flags: flag turned on and off"
  | .lateGlobalFlags => "global flags not at the start of the expression"
  | .unbalanced => "unbalanced parenthesis"
  | .lookbehindTooWide => "looks too much behind"
  | .lookbehindWidth => "look-behind requires fixed-width pattern"
  | .templateRepeat operator => s!"internal: unsupported template operator {operator}"

/-- Why a text is no pattern. -/
inductive Fault where
  /-- The text is malformed, mostly at a known place. -/
  | malformed (cause : Cause) (position : Option Nat)
  /-- A repetition number is too large. -/
  | repetitionTooLarge
  /-- A repetition number has too many digits. -/
  | number (fault : IntegerFault)
  /-- Letters are to be both those of all alphabets and those of one. -/
  | flagClash
deriving DecidableEq, Repr, Inhabited

/-- The line and column of a place, lines counted from one. -/
def lineAndColumn (cs : List Char) (position : Nat) : Nat × Nat :=
  let before := cs.take position
  (before.count '\n' + 1, (before.reverse.takeWhile (· ≠ '\n')).length + 1)

/-- The wording of a fault of a pattern text. -/
def Fault.message (pattern : String) : Fault → String
  | .malformed cause none => cause.message
  | .malformed cause (some position) =>
    let cs := pattern.toList
    let place := s!"{cause.message} at position {position}"
    if cs.contains '\n' then
      let (line, column) := lineAndColumn cs position
      s!"{place} (line {line}, column {column})"
    else place
  | .repetitionTooLarge => "the repetition number is too large"
  | .number fault => fault.message
  | .flagClash => "ASCII and UNICODE flags are incompatible"

end GoComplexity.Regex
