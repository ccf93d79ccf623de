/-
# Quoted texts of a configuration file

A text between double quotes has escapes, one between single quotes has none.
Three quotes begin a text of several lines, which may end in up to two more
quotes; in it, a backslash before the end of a line joins the line with the
next one.

Key definitions: `basicText`, `literalText`, `quotedText`.
-/
import GoComplexity.Toml.Reader

namespace GoComplexity.Toml

/-- The value of a hexadecimal digit. -/
def hexValue? (c : Char) : Option Nat :=
  if c.isDigit then some (c.toNat - 0x30)
  else if 'a' ≤ c && c ≤ 'f' then some (c.toNat - 0x57)
  else if 'A' ≤ c && c ≤ 'F' then some (c.toNat - 0x37)
  else none

/-- The character of a fixed number of hexadecimal digits. -/
def hexCharacter (width : Nat) : Reader Char := do
  let digits := (← get).take width
  if digits.length ≠ width || digits.any fun c => (hexValue? c).isNone then fail .invalidHex
  drop width
  let n := digits.foldl (fun n c => 16 * n + (hexValue? c).getD 0) 0
  if h : n.isValidChar then return Char.ofNatAux n h else fail .noScalarValue

/-- The character of an escape letter. -/
def escaped? : Char → Option Char
  | 'b' => some (Char.ofNat 0x8)
  | 't' => some '\t'
  | 'n' => some '\n'
  | 'f' => some (Char.ofNat 0xc)
  | 'r' => some '\r'
  | '"' => some '"'
  | '\\' => some '\\'
  | _ => none

/-- Joins a line with the next one after a backslash: nothing but blanks may
stand before the end of the line. -/
def joinLines : Reader Unit := do
  skipBlanks
  match ← peek with
  | none => return ()
  | some c =>
    if c ≠ '\n' then fail .unknownEscape
    let _ ← takeWhile fun c => isBlank c || c = '\n'

/-- An escape after its backslash. -/
def escape (multiline : Bool) : Reader (List Char) := do
  match ← peek with
  | none => fail .unknownEscape
  | some c =>
    if multiline && (isBlank c || c = '\n') then
      joinLines
      return []
    else
      drop 1
      if c = 'u' then return [← hexCharacter 4]
      else if c = 'U' then return [← hexCharacter 8]
      else
        match escaped? c with
        | some e => return [e]
        | none => fail .unknownEscape

/-- The characters of a text up to its closing double quotes. -/
def basicText (multiline : Bool) : Nat → Reader (List Char)
  | 0 => fail .unterminated
  | limit + 1 => do
    match ← peek with
    | none => fail .unterminated
    | some '"' =>
      if ← accepts (if multiline then "\"\"\"" else "\"") then return []
      else
        drop 1
        return '"' :: (← basicText multiline limit)
    | some '\\' =>
      drop 1
      let cs ← escape multiline
      return cs ++ (← basicText multiline limit)
    | some c =>
      if isControl c && !(multiline && c = '\n') then fail .illegalCharacter
      drop 1
      return c :: (← basicText multiline limit)

/-- The characters of a text up to its closing single quotes. -/
def literalText (multiline : Bool) : Nat → Reader (List Char)
  | 0 => fail .unterminated
  | limit + 1 => do
    if ← accepts (if multiline then "'''" else "'") then return []
    else
      match ← peek with
      | none => fail .unterminated
      | some c =>
        if isControl c && !(multiline && c = '\n') then fail .illegalCharacter
        drop 1
        return c :: (← literalText multiline limit)

/-- Up to two more quotes at the end of a text of several lines. -/
def extraQuotes (mark : String) : Reader (List Char) := do
  if ← accepts (mark ++ mark) then return mark.toList ++ mark.toList
  else if ← accepts mark then return mark.toList
  else return []

/-- A text between quotes of one kind. -/
def quotedText (mark : String) (body : Bool → Nat → Reader (List Char)) : Reader String := do
  let limit := (← get).length + 1
  if ← accepts (mark ++ mark ++ mark) then
    let _ ← accepts "\n"
    let cs ← body true limit
    return String.ofList (cs ++ (← extraQuotes mark))
  else
    drop 1
    return String.ofList (← body false limit)

end GoComplexity.Toml
