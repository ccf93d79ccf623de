/-
# Line ends

A text may end its lines by a line feed, a carriage return or both in this
order; read as lines, it has line feeds alone.

Key definitions: `unifyLines`.
-/
namespace GoComplexity.Text

/-- Replaces each line end by a line feed. -/
def unifyLines : List Char → List Char
  | '\r' :: '\n' :: rest => '\n' :: unifyLines rest
  | '\r' :: rest => '\n' :: unifyLines rest
  | c :: rest => c :: unifyLines rest
  | [] => []

end GoComplexity.Text
