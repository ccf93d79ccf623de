/-
# Blank characters

Trimming removes the characters of Unicode that separate words or lines, and
with them the four information separators U+001C to U+001F and the next-line
control U+0085; the zero-width characters are not blank.

Key definitions: `isBlank`, `trim`.
-/
namespace GoComplexity.Text

/-- A character that trimming removes. -/
def isBlank (c : Char) : Bool :=
  let n := c.toNat
  (0x9 ≤ n && n ≤ 0xd) || (0x1c ≤ n && n ≤ 0x20) || n == 0x85 || n == 0xa0 || n == 0x1680 ||
    (0x2000 ≤ n && n ≤ 0x200a) || n == 0x2028 || n == 0x2029 || n == 0x202f || n == 0x205f ||
    n == 0x3000

/-- The characters from the first to the last that is not blank. -/
def trimChars (cs : List Char) : List Char :=
  ((cs.dropWhile isBlank).reverse.dropWhile isBlank).reverse

/-- The text without the blanks at its ends. -/
def trim (s : String) : String := String.ofList (trimChars s.toList)

end GoComplexity.Text
