/-
# The tokens of a source file

A source file is cut into lexemes from its beginning; tokens and comments are
kept with the points where they start and stop.  The end of a line, of the
file, or of a line inside a comment ends a statement if the last token on the
line may end one.  A mark of the byte order at the beginning is passed over.

Key definitions: `Scan`, `tokensOf`, `Scan.step`.
-/
import GoComplexity.Syntax.Lexeme
import GoComplexity.Text.Utf8

namespace GoComplexity

/-- What has been read of a source text, latest first: tokens, comments, and
where the next lexeme starts. -/
structure Scan where
  tokens : List Token := []
  comments : List Tree := []
  place : Point := {}
deriving Inhabited

open Text (Glyph)

/-- The point after a run of characters. -/
def Point.advance (p : Point) (gs : List Glyph) : Point :=
  gs.foldl (fun p g =>
    if g.char = '\n' then ⟨p.row + 1, 0⟩ else ⟨p.row, p.column + g.width⟩) p

namespace Scan

/-- The end of a line or file after the tokens read, if it ends a statement. -/
def endLine (s : Scan) : List Token :=
  match s.tokens with
  | last :: _ =>
    if last.endsStatement then ⟨.lineEnd, "\n", s.place, s.place⟩ :: s.tokens else s.tokens
  | [] => []

/-- Takes a lexeme in. -/
def step (s : Scan) (l : Lexeme) (gs : List Glyph) : Scan :=
  let stop := s.place.advance gs
  let text := String.ofList (gs.map Glyph.char)
  match l with
  | .newline => { s with tokens := s.endLine, place := stop }
  | .comment =>
    let comment := Tree.node
      { kind := "comment", start := s.place, stop := stop, text := some text } []
    let tokens := if stop.row = s.place.row then s.tokens else s.endLine
    ⟨tokens, comment :: s.comments, stop⟩
  | .token kind => { s with tokens := ⟨kind, text, s.place, stop⟩ :: s.tokens, place := stop }
  | .blank | .fault => { s with place := stop }

end Scan

/-- Cuts a text into lexemes; `cs` are the characters of the list, and the
error is the point of what is no lexeme. -/
def scanFrom (s : Scan) (cs : List Char) : List Glyph → Except Point Scan
  | [] => .ok { s with tokens := s.endLine }
  | g :: rest =>
    match lexeme cs with
    | (.fault, _) => .error s.place
    | (l, length) =>
      scanFrom (s.step l (g :: rest.take (length - 1))) (cs.drop (length - 1 + 1))
        (rest.drop (length - 1))
termination_by gs => gs.length
decreasing_by
  simp only [List.length_drop, List.length_cons]
  omega

/-- The mark of the byte order. -/
def byteOrderMark : Char := Char.ofNat 0xfeff

/-- Cuts a whole text into lexemes. -/
def scanAll (s : Scan) (gs : List Glyph) : Except Point Scan := scanFrom s (gs.map Glyph.char) gs

/-- The tokens of a source text in order, closed by the end of the file, and
its comments in order. -/
def tokensOf (gs : List Glyph) : Except Point (List Token × List Tree) := do
  let s ←
    match gs with
    | g :: rest =>
      if g.char = byteOrderMark then scanAll { place := ⟨0, g.width⟩ } rest else scanAll {} gs
    | [] => scanAll {} []
  return ((⟨.fileEnd, "", s.place, s.place⟩ :: s.tokens).reverse, s.comments.reverse)

end GoComplexity
