/-
# JSON reports

A document is printed with two blanks of indentation for every level and one
member or element a line; an empty list is closed at once.  Texts are ASCII: any
other character is written by its UTF-16 units.  A report is a list with one
object a function.

Key definitions: `Json`, `Json.render`, `Stat.toJson`, `jsonReport`.
-/
import GoComplexity.Score.Stat
import GoComplexity.Text.Quoted

namespace GoComplexity

/-- A document. -/
inductive Json where
  | integer (n : Int)
  | text (s : String)
  | list (items : List Json)
  | object (members : List (String × Json))
deriving Inhabited

namespace Json

/-- A UTF-16 unit written by its number. -/
def escapeUnit (n : Nat) : List Char := '\\' :: 'u' :: Text.hexDigits 4 n

/-- A character in a text. -/
def escapeChar (c : Char) : List Char :=
  if c = '"' || c = '\\' then ['\\', c]
  else if c = '\n' then ['\\', 'n']
  else if c = '\r' then ['\\', 'r']
  else if c = '\t' then ['\\', 't']
  else if c = '\x08' then ['\\', 'b']
  else if c = '\x0c' then ['\\', 'f']
  else
    let n := c.toNat
    if 0x20 ≤ n && n ≤ 0x7e then [c]
    else if n < 0x10000 then escapeUnit n
    else
      escapeUnit (0xd800 + (n - 0x10000) / 0x400) ++ escapeUnit (0xdc00 + (n - 0x10000) % 0x400)

/-- A text between quotes. -/
def quote (s : String) : List Char := '"' :: s.toList.flatMap escapeChar ++ ['"']

/-- The end of a line and the indentation of the next one. -/
def newLine (depth : Nat) : List Char := '\n' :: List.replicate (2 * depth) ' '

mutual

/-- The text of a document that stands at a depth. -/
def renderAt (depth : Nat) : Json → List Char
  | integer n => (toString n).toList
  | text s => quote s
  | list [] => ['[', ']']
  | list (x :: xs) =>
    '[' :: newLine (depth + 1) ++ renderAt (depth + 1) x ++ renderItems (depth + 1) xs ++
      newLine depth ++ [']']
  | object [] => ['\x7b', '\x7d']
  | object ((key, x) :: members) =>
    '\x7b' :: newLine (depth + 1) ++ quote key ++ [':', ' '] ++ renderAt (depth + 1) x ++
      renderMembers (depth + 1) members ++ newLine depth ++ ['\x7d']

/-- The elements of a list after the first. -/
def renderItems (depth : Nat) : List Json → List Char
  | [] => []
  | x :: xs => ',' :: newLine depth ++ renderAt depth x ++ renderItems depth xs

/-- The members of an object after the first. -/
def renderMembers (depth : Nat) : List (String × Json) → List Char
  | [] => []
  | (key, x) :: members =>
    ',' :: newLine depth ++ quote key ++ [':', ' '] ++ renderAt depth x ++
      renderMembers depth members

end

/-- The text of a document. -/
def render (x : Json) : String := String.ofList (renderAt 0 x)

end Json

/-- The object of a function. -/
def Stat.toJson (s : Stat) : Json :=
  .object [("pkg_name", .text s.package), ("func_name", .text s.function),
    ("cyclomatic", .integer s.cyclomatic), ("cognitive", .integer s.cognitive),
    ("pos", .text s.position.render)]

/-- The report of scores.  As in plain lines, the limit of the digits of an integer is
left out. -/
def jsonReport (stats : List Stat) : String := (Json.list (stats.map Stat.toJson)).render

end GoComplexity
