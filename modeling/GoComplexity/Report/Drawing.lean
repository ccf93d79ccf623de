/-
# Drawn tables

A table is drawn with lines around the cells, heavy ones around the headings.  A
column is as wide as its longest cell, a cell has a blank on both sides, and the
title stands in the middle over the table.

Key definitions: `Table.render`, `Terminal.wide`.
-/
import GoComplexity.Report.Format
import GoComplexity.Report.Markup
import GoComplexity.Text.Width

namespace GoComplexity

/-- The lines of a text. -/
def splitLines : List Char → List (List Char)
  | [] => [[]]
  | '\n' :: rest => [] :: splitLines rest
  | c :: rest =>
    match splitLines rest with
    | [] => [[c]]
    | line :: lines => (c :: line) :: lines

/-- The columns from one tab stop to the next. -/
def tabStop : Nat := 8

/-- A line with blanks instead of tabs, when so many columns stand before it. -/
def expandTabs (column : Nat) : List Char → List Char
  | [] => []
  | '\t' :: rest =>
    let blanks := tabStop - column % tabStop
    List.replicate blanks ' ' ++ expandTabs (column + blanks) rest
  | c :: rest => c :: expandTabs (column + Text.charWidth c) rest

/-- Blanks. -/
def blanks (n : Nat) : List Char := List.replicate n ' '

/-- A line filled up with blanks to a width. -/
def fillLine (alignRight : Bool) (width : Nat) (line : List Char) : List Char :=
  let line := expandTabs 0 line
  let missing := blanks (width - Text.width line)
  if alignRight then missing ++ line else line ++ missing

/-- Cells of a line between vertical lines. -/
def ruledLine (bar : Char) (cells : List (List Char)) : List Char :=
  bar :: cells.flatMap fun cell => ' ' :: cell ++ [' ', bar]

/-- A horizontal line over columns of some widths. -/
def horizontal (left line cross right : Char) (widths : List Nat) : List Char :=
  left :: [cross].intercalate (widths.map fun w => List.replicate (w + 2) line) ++ [right]

namespace Table

/-- The width of every column. -/
def widths (t : Table) : List Nat :=
  t.cells.map fun cells =>
    (cells.flatMap fun cell => (splitLines (displayMarkup cell)).map Text.width).foldl max 0

/-- The lines of a row: as many as its highest cell has. -/
def rowLines (t : Table) (bar : Char) (row : List String) : List (List Char) :=
  let cells := row.map fun cell => splitLines (displayMarkup cell)
  let height := (cells.map List.length).foldl max 1
  (List.range height).map fun i =>
    ruledLine bar ((t.columns.zip (t.widths.zip cells)).map fun (column, width, lines) =>
      fillLine column.alignRight width (lines.getD i []))

/-- The columns of a terminal that the table takes. -/
def totalWidth (t : Table) : Nat := t.widths.foldr (fun w n => w + 3 + n) 1

/-- The title in the middle of a line. -/
def titleLine (t : Table) : List Char :=
  let title := t.title.toList
  let spare := t.totalWidth - Text.width title
  blanks (spare / 2) ++ title ++ blanks (spare - spare / 2)

/-- The lines of the table. -/
def lines (t : Table) : List (List Char) :=
  [t.titleLine, horizontal '┏' '━' '┳' '┓' t.widths] ++
    t.rowLines '┃' (t.columns.map Column.heading) ++
    [horizontal '┡' '━' '╇' '┩' t.widths] ++
    t.rows.flatMap (t.rowLines '│') ++
    [horizontal '└' '─' '┴' '┘' t.widths]

/-- The text of the table. -/
def render (t : Table) : String := String.ofList (t.lines.flatMap fun line => line ++ ['\n'])

end Table

/-- A terminal that is wide enough for every line. -/
def Terminal.wide : Terminal where
  escape := escapeMarkup
  display s := String.ofList (displayMarkup s)
  draw := Table.render

/-- The table of scores. -/
def scoreTable (stats : List Stat) : Table := Terminal.wide.scoreTable stats

/-- What is printed of a report. -/
def Format.print (f : Format) (stats : List Stat) : String := Terminal.wide.print f stats

end GoComplexity
