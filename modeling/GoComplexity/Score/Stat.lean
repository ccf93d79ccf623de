/-
# Scores of functions

A score tells, for one function, its package, its display name, both measures
and where it stands.

Key definitions: `Metric`, `Stat`, `Stat.render`, `Stat.describe`.
-/
import GoComplexity.Position
import GoComplexity.Text.Quoted

namespace GoComplexity

/-- The measure that a report sorts, filters and sums by. -/
inductive Metric where
  | cyclomatic
  | cognitive
deriving DecidableEq, Repr, Inhabited

namespace Metric

def name : Metric → String
  | .cyclomatic => "cyclomatic"
  | .cognitive => "cognitive"

/-- The measure of a name. -/
def ofName? (s : String) : Option Metric :=
  [cyclomatic, cognitive].find? fun m => m.name == s

/-- The wording for what is the name of no measure. -/
def unknownMessage (shown : String) : String := s!"{shown} is not a valid Metric"

end Metric

/-- The complexity of one function. -/
structure Stat where
  package : String
  function : String
  cyclomatic : Int
  cognitive : Int
  position : Position
deriving DecidableEq, Repr, Inhabited

namespace Stat

/-- The score in a measure. -/
def value (m : Metric) (s : Stat) : Int :=
  match m with
  | .cyclomatic => s.cyclomatic
  | .cognitive => s.cognitive

/-- The line of a score in a plain report.  Its numbers have as many digits as they
need: the limit of digits beyond which no text is made of an integer is left out. -/
def render (s : Stat) : String :=
  s!"cyclomatic: {s.cyclomatic}, cognitive: {s.cognitive}, " ++
    s!"{s.package} {s.function} {s.position.render}"

/-- A score with the names of all its parts. -/
def describe (s : Stat) : String :=
  let place :=
    s!"Position(filename={Text.quote s.position.file}, line={s.position.line}, " ++
      s!"column={s.position.column})"
  s!"Stat(pkg_name={Text.quote s.package}, func_name={Text.quote s.function}, " ++
    s!"cyclomatic={s.cyclomatic}, cognitive={s.cognitive}, pos={place})"

/-- Scores with the names of all their parts. -/
def describeAll (stats : List Stat) : String :=
  "Stats([" ++ ", ".intercalate (stats.map describe) ++ "])"

end Stat

end GoComplexity
