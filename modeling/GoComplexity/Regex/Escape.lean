/-
# Escapes in patterns

A backslash gives the character after it another meaning: a class, a place, a
control character, a character by its code, or a group once more.  Before a
letter of no such meaning it is a fault, before anything else it takes the
meaning away.

Key definitions: `escapeInSet`, `escape`.
-/
import GoComplexity.Regex.Reader

namespace GoComplexity.Regex

open Reader

/-- The value of a hexadecimal digit. -/
def hexValue? (c : Char) : Option Nat :=
  if c.isDigit then some (c.toNat - 0x30)
  else if 'a' ≤ c && c ≤ 'f' then some (c.toNat - 0x57)
  else if 'A' ≤ c && c ≤ 'F' then some (c.toNat - 0x37)
  else none

def isHex (c : Char) : Bool := (hexValue? c).isSome

def isOctal (c : Char) : Bool := '0' ≤ c && c ≤ '7'

/-- The number that hexadecimal digits stand for. -/
def ofHex (cs : List Char) : Nat := cs.foldl (fun n c => 16 * n + (hexValue? c).getD 0) 0

/-- The number that octal digits stand for. -/
def ofOctal (cs : List Char) : Nat := cs.foldl (fun n c => 8 * n + (c.toNat - 0x30)) 0

/-- The control character of a letter. -/
def controlCode? : Char → Option Nat
  | 'a' => some 0x7
  | 'b' => some 0x8
  | 'f' => some 0xc
  | 'n' => some 0xa
  | 'r' => some 0xd
  | 't' => some 0x9
  | 'v' => some 0xb
  | '\\' => some 0x5c
  | _ => none

/-- The class of a letter. -/
def classItem? : Char → Option SetItem
  | 'd' => some (.charClass .digit false)
  | 'D' => some (.charClass .digit true)
  | 's' => some (.charClass .space false)
  | 'S' => some (.charClass .space true)
  | 'w' => some (.charClass .word false)
  | 'W' => some (.charClass .word true)
  | _ => none

/-- The place of a letter. -/
def anchor? : Char → Option Anchor
  | 'A' => some .textStart
  | 'b' => some .boundary
  | 'B' => some .noBoundary
  | 'Z' => some .textEnd
  | _ => none

/-- The number of hexadecimal digits after a letter. -/
def hexWidth? : Char → Option Nat
  | 'x' => some 2
  | 'u' => some 4
  | 'U' => some 8
  | _ => none

/-- The text of an escape. -/
def escapeText (cs : List Char) : String := String.ofList ('\\' :: cs)

/-- The character of `width` hexadecimal digits after a letter. -/
def hexEscape (letter : Char) (width : Nat) : Reader Nat := do
  let digits ← takeWhile isHex width
  let text := letter :: digits
  if digits.length ≠ width then failBack (.incompleteEscape (escapeText text)) (text.length + 1)
  else if 0x10ffff < ofHex digits then failBack (.badEscape (escapeText text)) (text.length + 1)
  else return ofHex digits

/-- A character by its name; no names are known. -/
def namedEscape (limit : Nat) : Reader Nat := do
  if ← accepts '\x7b' then
    let name ← takeName '\x7d' "character name" limit
    failBack (.unknownCharacterName (String.ofList name)) (name.length + 4)
  else failBack (.missing "\x7b") 0

/-- The character of octal digits, unless its code has more than eight bits. -/
def octalEscape (digits : List Char) : Reader Nat :=
  if 0o377 < ofOctal digits then failBack (.octalTooLarge (escapeText digits)) (digits.length + 1)
  else return ofOctal digits

/-- A letter or digit without a meaning of its own is a fault, anything else
stands for itself. -/
def plainEscape (c : Char) : Reader Nat :=
  if c.isAlphanum then failBack (.badEscape (escapeText [c])) 2 else return c.toNat

/-- An escape that names a character by its code or name. -/
def codeEscape? (c : Char) (limit : Nat) : Reader (Option Nat) := do
  match hexWidth? c with
  | some width => return some (← hexEscape c width)
  | none => if c = 'N' then return some (← namedEscape limit) else return none

/-- An escape inside a set. -/
def escapeInSet (c : Char) (limit : Nat) : Reader SetItem := do
  match controlCode? c, classItem? c with
  | some code, _ => return .char code
  | none, some item => return item
  | none, none =>
    match ← codeEscape? c limit with
    | some code => return .char code
    | none =>
      if isOctal c then return .char (← octalEscape (c :: (← takeWhile isOctal 2)))
      else return .char (← plainEscape c)

/-- An escape that begins with a digit other than zero: three octal digits are
a character, and one or two digits are a group. -/
def numberEscape (c : Char) : Reader Pattern := do
  let second ← takeWhile Char.isDigit 1
  let third ←
    if isOctal c && !second.isEmpty && second.all isOctal then takeWhile isOctal 1 else pure []
  let digits := c :: second ++ third
  if !third.isEmpty then return .char (← octalEscape digits)
  else
    let number := ofDigits (digits.map fun d => d.toNat - 0x30)
    if number ≤ (← get).groups.length then reference number (digits.length + 1)
    else failBack (.noGroup number) digits.length

/-- An escape outside of sets. -/
def escape (c : Char) (limit : Nat) : Reader Pattern := do
  match anchor? c, classItem? c, controlCode? c with
  | some place, _, _ => return .anchor place
  | none, some item, _ => return .set false [item]
  | none, none, some code => return .char code
  | none, none, none =>
    match ← codeEscape? c limit with
    | some code => return .char code
    | none =>
      if c = '0' then return .char (ofOctal (← takeWhile isOctal 2))
      else if c.isDigit then numberEscape c
      else return .char (← plainEscape c)

end GoComplexity.Regex
