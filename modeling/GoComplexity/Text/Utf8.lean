/-
# Text from bytes

A text is read from UTF-8.  The tolerant reading puts one replacement
character for each longest run of bytes that begins a character and cannot be
completed; the strict reading accepts well-formed bytes only.

Key definitions: `Glyph`, `glyphs`, `decode?`.
-/
namespace GoComplexity.Text

/-- A byte that continues a character. -/
def isContinuation (b : UInt8) : Bool := 0x80 ≤ b && b ≤ 0xbf

/-- The second byte of a character of three bytes: it excludes overlong forms
and the surrogates. -/
def isSecondOfThree (lead b : UInt8) : Bool :=
  if lead = 0xe0 then 0xa0 ≤ b && b ≤ 0xbf
  else if lead = 0xed then 0x80 ≤ b && b ≤ 0x9f
  else isContinuation b

/-- The second byte of a character of four bytes: it excludes overlong forms
and what lies above U+10FFFF. -/
def isSecondOfFour (lead b : UInt8) : Bool :=
  if lead = 0xf0 then 0x90 ≤ b && b ≤ 0xbf
  else if lead = 0xf4 then 0x80 ≤ b && b ≤ 0x8f
  else isContinuation b

/-- What stands for bytes that are no character. -/
def replacement : Char := Char.ofNat 0xfffd

/-- The low six bits of a continuation byte. -/
def low (b : UInt8) : Nat := (b &&& 0x3f).toNat

/-- A character and the number of bytes that it took. -/
structure Glyph where
  char : Char
  width : Nat
deriving DecidableEq, Repr, Inhabited

/-- The character that a list of bytes begins with, or the replacement for the
longest incomplete beginning. -/
def firstGlyph (b : UInt8) (r : List UInt8) : Glyph :=
  if b < 0x80 then ⟨Char.ofNat b.toNat, 1⟩
  else if 0xc2 ≤ b && b ≤ 0xdf then
    match r with
    | b₁ :: _ =>
      if isContinuation b₁ then ⟨Char.ofNat ((b &&& 0x1f).toNat * 64 + low b₁), 2⟩
      else ⟨replacement, 1⟩
    | [] => ⟨replacement, 1⟩
  else if 0xe0 ≤ b && b ≤ 0xef then
    match r with
    | b₁ :: r₁ =>
      if isSecondOfThree b b₁ then
        match r₁ with
        | b₂ :: _ =>
          if isContinuation b₂ then
            ⟨Char.ofNat ((b &&& 0x0f).toNat * 4096 + low b₁ * 64 + low b₂), 3⟩
          else ⟨replacement, 2⟩
        | [] => ⟨replacement, 2⟩
      else ⟨replacement, 1⟩
    | [] => ⟨replacement, 1⟩
  else if 0xf0 ≤ b && b ≤ 0xf4 then
    match r with
    | b₁ :: r₁ =>
      if isSecondOfFour b b₁ then
        match r₁ with
        | b₂ :: r₂ =>
          if isContinuation b₂ then
            match r₂ with
            | b₃ :: _ =>
              if isContinuation b₃ then
                ⟨Char.ofNat
                  ((b &&& 0x07).toNat * 262144 + low b₁ * 4096 + low b₂ * 64 + low b₃), 4⟩
              else ⟨replacement, 3⟩
            | [] => ⟨replacement, 3⟩
          else ⟨replacement, 2⟩
        | [] => ⟨replacement, 2⟩
      else ⟨replacement, 1⟩
    | [] => ⟨replacement, 1⟩
  else ⟨replacement, 1⟩

/-- Reads characters from bytes, `skip` of which belong to the one read last. -/
def glyphsFrom : Nat → List UInt8 → List Glyph
  | _, [] => []
  | 0, b :: r =>
    let g := firstGlyph b r
    g :: glyphsFrom (g.width - 1) r
  | skip + 1, _ :: r => glyphsFrom skip r

/-- The characters of a list of bytes with their widths, a replacement for each longest
incomplete beginning. -/
def glyphs (bytes : List UInt8) : List Glyph := glyphsFrom 0 bytes

/-- The text of well-formed bytes. -/
def decode? (bytes : ByteArray) : Option String := String.fromUTF8? bytes

end GoComplexity.Text
