/-
# Lexemes

At each place of a source text the longest lexeme is taken: blanks, the end of
a line, a comment, a name, a number, a text or a symbol.  What begins none of
them, or begins one and does not end it, is a fault.

A number's underscores stand between digits; a number with leading zero is
octal unless it has a fraction, an exponent or the imaginary mark.

Key definitions: `Lexeme`, `lexeme`.
-/
import GoComplexity.Syntax.Token
import GoComplexity.Text.Digit
import GoComplexity.Text.Word

namespace GoComplexity

/-- What stands at a place of a source text. -/
inductive Lexeme where
  | blank
  | newline
  | comment
  | token (kind : TokenKind)
  | fault
deriving DecidableEq, Repr, Inhabited

namespace Lexeme

/-- A character that a name may begin with. -/
def beginsName (c : Char) : Bool := c = '_' || Text.isLetter c

/-- A character that a name may go on with. -/
def continuesName (c : Char) : Bool := beginsName c || Text.isDecimal c

/-- Blanks inside a line. -/
def isInlineBlank (c : Char) : Bool := c = ' ' || c = '\t' || c = '\r'

/-- A hexadecimal digit of either case. -/
def isHex (c : Char) : Bool :=
  c.isDigit || ('a' ≤ c && c ≤ 'f') || ('A' ≤ c && c ≤ 'F')

/-! ### Numbers -/

/-- Digits and underscores. -/
def digitRun (isDigit : Char → Bool) (cs : List Char) : List Char :=
  cs.takeWhile fun c => isDigit c || c = '_'

/-- Whether every underscore of a run stands between digits, the first of which
may be one before the run. -/
def isSeparated : Bool → List Char → Bool
  | afterDigit, [] => afterDigit
  | afterDigit, '_' :: rest => afterDigit && isSeparated false rest
  | _, _ :: rest => isSeparated true rest

/-- The exponent that a text begins with; none if it is malformed. -/
def exponentLength? (marks : List Char) (cs : List Char) : Option Nat :=
  match cs with
  | c :: rest =>
    if marks.contains c then
      let sign := match rest with
        | '+' :: _ | '-' :: _ => 1
        | _ => 0
      let digits := digitRun Char.isDigit (rest.drop sign)
      if digits.isEmpty || !isSeparated false digits then none else some (1 + sign + digits.length)
    else some 0
  | [] => some 0

/-- The kind of a number, with the imaginary mark if it has one. -/
def numberKind (kind : String) (length : Nat) (rest : List Char) : String × Nat :=
  match rest with
  | 'i' :: _ => ("imaginary_literal", length + 1)
  | _ => (kind, length)

/-- A number that begins with a mark of its base, of two characters. -/
def basedNumber? (isDigit : Char → Bool) (cs : List Char) : Option (String × Nat) :=
  let digits := digitRun isDigit (cs.drop 2)
  let length := 2 + digits.length
  if digits.all (· = '_') || !isSeparated true digits then none
  else some (numberKind "int_literal" length (cs.drop length))

/-- A hexadecimal number, which may have a fraction and then has an exponent. -/
def hexNumber? (cs : List Char) : Option (String × Nat) :=
  let whole := digitRun isHex (cs.drop 2)
  let afterWhole := cs.drop (2 + whole.length)
  let part := match afterWhole with
    | '.' :: rest => some (digitRun isHex rest)
    | _ => none
  let fraction := (part.map fun p => p.length + 1).getD 0
  let rest := afterWhole.drop fraction
  let isSound := (whole ++ part.getD []).any isHex && (whole.isEmpty || isSeparated true whole) &&
    ((part.getD []).isEmpty || isSeparated false (part.getD []))
  match exponentLength? ['p', 'P'] rest with
  | none => none
  | some 0 =>
    if part.isSome || !isSound then none
    else some (numberKind "int_literal" (2 + whole.length) rest)
  | some k =>
    if isSound then
      some (numberKind "float_literal" (2 + whole.length + fraction + k) (rest.drop k))
    else none

/-- A decimal number with its fraction and exponent. -/
def decimalNumber? (cs : List Char) : Option (String × Nat) :=
  let whole := digitRun Char.isDigit cs
  let afterWhole := cs.drop whole.length
  let part := match afterWhole with
    | '.' :: rest => some (digitRun Char.isDigit rest)
    | _ => none
  let fraction := (part.map fun p => p.length + 1).getD 0
  let rest := afterWhole.drop fraction
  let isSound := (whole.isEmpty || isSeparated false whole) &&
    ((part.getD []).isEmpty || isSeparated false (part.getD []))
  match exponentLength? ['e', 'E'] rest with
  | none => none
  | some k =>
    let length := whole.length + fraction + k
    let kind := if part.isSome || 0 < k then "float_literal" else "int_literal"
    let (kind, length) := numberKind kind length (rest.drop k)
    let isOctal := whole.head? = some '0' && kind = "int_literal"
    if !isSound || (isOctal && whole.any fun c => c = '8' || c = '9') then none
    else some (kind, length)

/-- The number that a text begins with: its kind and its length. -/
def number? (cs : List Char) : Option (String × Nat) :=
  match cs with
  | '0' :: 'x' :: _ | '0' :: 'X' :: _ => hexNumber? cs
  | '0' :: 'b' :: _ | '0' :: 'B' :: _ => basedNumber? (fun c => c = '0' || c = '1') cs
  | '0' :: 'o' :: _ | '0' :: 'O' :: _ => basedNumber? (fun c => '0' ≤ c && c ≤ '7') cs
  | _ => decimalNumber? cs

/-! ### Texts -/

/-- The number of hexadecimal digits that an escape's letter asks for. -/
def escapeDigits : Char → Nat
  | 'x' => 2
  | 'u' => 4
  | 'U' => 8
  | _ => 0

/-- Whether a text begins with so many hexadecimal digits. -/
def beginsHex (n : Nat) (cs : List Char) : Bool := n ≤ ((cs.take n).takeWhile isHex).length

/-- The length of a text up to and with its closing quote, on one line. -/
def quotedLength? : Nat → List Char → Option Nat
  | _, [] => none
  | n, '"' :: _ => some (n + 1)
  | _, '\n' :: _ => none
  | n, '\\' :: c :: rest =>
    if c = '\n' || !beginsHex (escapeDigits c) rest then none else quotedLength? (n + 2) rest
  | n, _ :: rest => quotedLength? (n + 1) rest

/-- The length of a raw text up to and with its closing mark. -/
def rawLength? : Nat → List Char → Option Nat
  | _, [] => none
  | n, c :: rest => if c = Char.ofNat 0x60 then some (n + 1) else rawLength? (n + 1) rest

/-- The characters that a backslash may precede in a character literal. -/
def runeEscapes : List Char := ['a', 'b', 'f', 'n', 'r', 't', 'v', '\\', '\'', '"']

/-- The length of what stands between the quotes of a character literal. -/
def runeLength? (cs : List Char) : Option Nat :=
  match cs with
  | '\\' :: c :: rest =>
    if runeEscapes.contains c then some 2
    else if 0 < escapeDigits c then
      if beginsHex (escapeDigits c) rest then some (2 + escapeDigits c) else none
    else if ((c :: rest).take 3).all (fun d => '0' ≤ d && d ≤ '7') then some 4
    else none
  | '\'' :: _ | '\n' :: _ | '\\' :: _ | [] => none
  | _ :: _ => some 1

/-- A character literal. -/
def rune? (cs : List Char) : Option Nat :=
  match runeLength? cs with
  | some n => if cs[n]? = some '\'' then some (n + 2) else none
  | none => none

/-- The length of a comment up to and with its closing mark. -/
def commentLength? : Nat → List Char → Option Nat
  | _, [] => none
  | n, '*' :: '/' :: _ => some (n + 2)
  | n, _ :: rest => commentLength? (n + 1) rest

end Lexeme

open Lexeme in
/-- The lexeme that a text begins with, and its length. -/
def lexeme (cs : List Char) : Lexeme × Nat :=
  let literal (name : String) (length : Option Nat) : Lexeme × Nat :=
    match length with
    | some n => (.token (.literal name), n)
    | none => (.fault, 1)
  match cs with
  | [] => (.fault, 1)
  | '\n' :: _ => (.newline, 1)
  | '/' :: '/' :: rest => (.comment, 2 + (rest.takeWhile (· ≠ '\n')).length)
  | '/' :: '*' :: rest =>
    match commentLength? 2 rest with
    | some n => (.comment, n)
    | none => (.fault, 1)
  | '"' :: rest => literal "interpreted_string_literal" (quotedLength? 1 rest)
  | '\'' :: rest => literal "rune_literal" (rune? rest)
  | c :: rest =>
    if isInlineBlank c then (.blank, (cs.takeWhile isInlineBlank).length)
    else if c = Char.ofNat 0x60 then literal "raw_string_literal" (rawLength? 1 rest)
    else if beginsName c then
      let name := cs.takeWhile continuesName
      if keywords.contains (String.ofList name) then (.token .symbol, name.length)
      else (.token .identifier, name.length)
    else if c.isDigit || (c = '.' && (rest.head?.map Char.isDigit).getD false) then
      match number? cs with
      | some (kind, n) => (.token (.literal kind), n)
      | none => (.fault, 1)
    else
      match symbols.find? fun s => s.toList.isPrefixOf cs with
      | some s => (.token .symbol, s.length)
      | none => (.fault, 1)

end GoComplexity
