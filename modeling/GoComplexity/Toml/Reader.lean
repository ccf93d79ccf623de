/-
# Reading a configuration text

A document is read character by character.  Blanks within a line are spaces and
tabs; a comment goes up to the end of its line and holds no control characters
but tabs.

Key definitions: `Reader`, `skipBlanks`, `skipComment`.
-/
import GoComplexity.Toml.Fault

namespace GoComplexity.Toml

/-- A step of reading a document; the state is the text that is left. -/
abbrev Reader := StateT (List Char) (Except Fault)

/-- Fails here. -/
def fail {α : Type} (cause : Cause) : Reader α := do
  throw (.malformed cause (← get).length)

/-- The next character. -/
def peek : Reader (Option Char) := return (← get).head?

/-- Drops so many characters. -/
def drop (n : Nat) : Reader Unit := modify fun cs => cs.drop n

/-- Whether the text goes on with another one. -/
def sees (text : String) : Reader Bool := return text.toList.isPrefixOf (← get)

/-- Takes a given text if it is next. -/
def accepts (text : String) : Reader Bool := do
  if ← sees text then
    drop text.length
    return true
  else return false

/-- Takes the longest run of characters of a kind. -/
def takeWhile (kind : Char → Bool) : Reader (List Char) := do
  let cs ← get
  set (cs.dropWhile kind)
  return cs.takeWhile kind

/-- A blank within a line. -/
def isBlank (c : Char) : Bool := c = ' ' || c = '\t'

/-- A control character that has to be escaped. -/
def isControl (c : Char) : Bool := (c.toNat < 0x20 && c ≠ '\t') || c.toNat = 0x7f

/-- Skips the blanks of a line. -/
def skipBlanks : Reader Unit := do
  let _ ← takeWhile isBlank

/-- Skips a comment, if one is next. -/
def skipComment : Reader Unit := do
  if ← accepts "#" then
    let comment ← takeWhile (· ≠ '\n')
    if comment.any isControl then fail .illegalCharacter

/-- Skips blanks, line ends and comments between the items of an array. -/
def skipLayout : Nat → Reader Unit
  | 0 => return ()
  | limit + 1 => do
    let before := (← get).length
    let _ ← takeWhile fun c => isBlank c || c = '\n'
    skipComment
    if (← get).length = before then return () else skipLayout limit

end GoComplexity.Toml
