/-
# Formats of a report

A report shows scores as plain lines, as a JSON document or as a table for a
terminal, in which high scores stand out.  What is printed is the document with
the end of a line after it, if it has any line; a table exists only as print.
What a terminal makes of marked-up texts and of tables is its own affair: it is
given by three functions, which may be any.

Key definitions: `Format`, `Terminal`, `Terminal.scoreTable`, `Format.document?`,
`Terminal.print`.
-/
import GoComplexity.Report.Json
import GoComplexity.Report.Table

namespace GoComplexity

/-- The format of a report. -/
inductive Format where
  | text
  | json
  | table
deriving DecidableEq, Repr, Inhabited

namespace Format

def name : Format → String
  | text => "text"
  | json => "json"
  | table => "rich"

/-- The format of a name. -/
def ofName? (s : String) : Option Format := [text, json, table].find? fun f => f.name == s

/-- The wording for a name of no format. -/
def unknownMessage (s : String) : String :=
  s!"Unknown formatter: {Text.quote s} (available: json, rich, text)"

end Format

/-- The plain lines of scores. -/
def textReport (stats : List Stat) : String := "\n".intercalate (stats.map Stat.render)

/-- The style of a score: the higher, the more it stands out. -/
def scoreStyle (score : Int) : String :=
  if 15 < score then "red bold"
  else if 10 < score then "red"
  else if 5 < score then "yellow"
  else "green"

/-- The cell of a score. -/
def scoreCell (score : Int) : String := s!"[{scoreStyle score}]{score}[/]"

/-- What shows marked-up texts and tables. -/
structure Terminal where
  /-- A text as marked-up text that shows it. -/
  escape : String → String
  /-- What a marked-up text shows. -/
  display : String → String
  /-- What a table shows. -/
  draw : Table → String

/-- The document of a report; a table is none. -/
def Format.document? (f : Format) (stats : List Stat) : Option String :=
  match f with
  | text => some (textReport stats)
  | json => some (jsonReport stats)
  | table => none

namespace Terminal

variable (terminal : Terminal)

/-- The table of scores. -/
def scoreTable (stats : List Stat) : Table where
  title := "Function complexity"
  columns := [⟨"Cyclomatic", true⟩, ⟨"Cognitive", true⟩, ⟨"Package", false⟩, ⟨"Function", false⟩,
    ⟨"Position", false⟩]
  rows := stats.map fun s =>
    [scoreCell s.cyclomatic, scoreCell s.cognitive, terminal.escape s.package,
      terminal.escape s.function, terminal.escape s.position.render]

/-- A line of marked-up text. -/
def line (markup : String) : String := terminal.display markup ++ "\n"

/-- What is printed of a report. -/
def print (f : Format) (stats : List Stat) : String :=
  match f with
  | .text => String.join (stats.map fun s => s.render ++ "\n")
  | .json => jsonReport stats ++ "\n"
  | .table =>
    if stats.isEmpty then terminal.line "[dim]No functions found.[/dim]"
    else terminal.draw (terminal.scoreTable stats)

/-- A message after its label, which has a colour. -/
def message (colour label text : String) : String :=
  terminal.display (s!"[{colour}]{label}:[/{colour}] " ++ terminal.escape text)

end Terminal

end GoComplexity
