/-
# The text of a path in messages

A path is shown in its simplest form: no empty and no `.` components and no
slash at the end.  One leading slash makes it absolute, and exactly two are
kept.  A path with nothing left is `.`; `..` components stay.

Key definitions: `displayPath`, `joinPath`.
-/
namespace GoComplexity

/-- The pieces of a text between slashes. -/
def splitSlashes : List Char → List (List Char)
  | [] => [[]]
  | '/' :: rest => [] :: splitSlashes rest
  | c :: rest =>
    match splitSlashes rest with
    | [] => [[c]]
    | piece :: pieces => (c :: piece) :: pieces

/-- The components of a path that count. -/
def pathComponents (path : String) : List String :=
  ((splitSlashes path.toList).filter fun piece => piece ≠ [] && piece ≠ ['.']).map String.ofList

/-- The slashes with which an absolute path begins in its simplest form. -/
def pathRoot (path : String) : String :=
  match (path.toList.takeWhile (· = '/')).length with
  | 0 => ""
  | 2 => "//"
  | _ => "/"

/-- A path in its simplest form. -/
def displayPath (path : String) : String :=
  let text := pathRoot path ++ "/".intercalate (pathComponents path)
  if text = "" then "." else text

/-- Whether a path holds a character that no path may hold. -/
def holdsNull (path : String) : Bool := path.toList.contains (Char.ofNat 0)

/-- The path of an entry of a directory. -/
def joinPath (directory name : String) : String :=
  if directory.toList.getLast? = some '/' then directory ++ name else directory ++ "/" ++ name

end GoComplexity
