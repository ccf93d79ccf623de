/-
# Doc comments

At the top level of a file, comments form groups: each comment starts at most
one line below the end of the one before it.  A group documents the code that
starts on the line right below its end.  A comment that starts on the line on
which code ends belongs to no group.

Key definitions: `DocTracker`, `DocTracker.comment`, `DocTracker.code`.
-/
import GoComplexity.Syntax.Tree

namespace GoComplexity

/-- The comments of the pending group, and the row on which code last ended. -/
structure DocTracker where
  group : List Tree := []
  lastCodeRow : Option Nat := none
deriving Inhabited

namespace DocTracker

/-- Takes a comment in. -/
def comment (d : DocTracker) (t : Tree) : DocTracker :=
  if d.lastCodeRow = some t.start.row then { d with group := [] }
  else
    match d.group.getLast? with
    | some last =>
      if last.stop.row + 1 < t.start.row then { d with group := [t] }
      else { d with group := d.group ++ [t] }
    | none => { d with group := [t] }

/-- The texts of the pending group if it documents the code. -/
def docFor (d : DocTracker) (t : Tree) : List String :=
  match d.group.getLast? with
  | some last => if last.stop.row + 1 = t.start.row then d.group.map Tree.text else []
  | none => []

/-- The tracker after the code, which ends the pending group. -/
def code (t : Tree) : DocTracker := { group := [], lastCodeRow := some t.stop.row }

end DocTracker

end GoComplexity
