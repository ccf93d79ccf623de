/-
# Faults of configuration texts

A text that is no TOML document has a cause and the place, by line and column,
where it was found.  An integer with too many digits is a fault of another
kind, which has no place.

Key definitions: `Cause`, `Fault`, `Fault.message`.
-/
import GoComplexity.Number.Integer

namespace GoComplexity.Toml

/-- What is wrong with a document. -/
inductive Cause where
  | invalidStatement
  | expectedNewline
  | invalidKey
  | expectedEquals
  | expectedTableEnd
  | declaredTwice
  | overwritten
  | immutable
  | invalidValue
  | invalidDate
  | illegalCharacter
  | unterminated
  | unknownEscape
  | invalidHex
  | noScalarValue
  | unclosedArray
  | unclosedTable
  | duplicateKey
deriving DecidableEq, Repr, Inhabited

/-- The wording of a cause. -/
def Cause.message : Cause → String
  | .invalidStatement => "Invalid statement"
  | .expectedNewline => "Expected newline or end of document after a statement"
  | .invalidKey => "Invalid initial character for a key part"
  | .expectedEquals => "Expected '=' after a key in a key/value pair"
  | .expectedTableEnd => "Expected ']' at the end of a table declaration"
  | .declaredTwice => "Cannot declare a table twice"
  | .overwritten => "Cannot overwrite a value"
  | .immutable => "Cannot mutate immutable namespace"
  | .invalidValue => "Invalid value"
  | .invalidDate => "Invalid date or datetime"
  | .illegalCharacter => "Illegal character"
  | .unterminated => "Unterminated string"
  | .unknownEscape => "Unescaped '\\' in a string"
  | .invalidHex => "Invalid hex value"
  | .noScalarValue => "Escaped character is not a Unicode scalar value"
  | .unclosedArray => "Unclosed array"
  | .unclosedTable => "Unclosed inline table"
  | .duplicateKey => "Duplicate inline table key"

/-- Why a text is no document. -/
inductive Fault where
  /-- A cause, with so many characters left of the text. -/
  | malformed (cause : Cause) (left : Nat)
  /-- An integer that cannot be read. -/
  | number (fault : IntegerFault)
deriving DecidableEq, Repr, Inhabited

/-- The wording of a fault of a text. -/
def Fault.message (text : String) : Fault → String
  | .malformed cause 0 => s!"{cause.message} (at end of document)"
  | .malformed cause left =>
    let cs := text.toList
    let before := cs.take (cs.length - left)
    let line := before.count '\n' + 1
    let column := (before.reverse.takeWhile (· ≠ '\n')).length + 1
    s!"{cause.message} (at line {line}, column {column})"
  | .number fault => fault.message

end GoComplexity.Toml
