/-
# Positions in source files

A position names a file, a line and a column, both counted from one; columns
count bytes.

Key definitions: `Position`, `Position.render`.
-/
namespace GoComplexity

/-- A place in a source file. -/
structure Position where
  file : String
  line : Int
  column : Int
deriving DecidableEq, Repr, Inhabited

/-- A position as it stands in reports: file, line and column between colons. -/
def Position.render (p : Position) : String := s!"{p.file}:{p.line}:{p.column}"

end GoComplexity
