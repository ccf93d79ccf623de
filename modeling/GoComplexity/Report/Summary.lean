/-
# Warnings and sums of a report

Functions above a maximum are warned of, in a sentence for each measure.  The
average is written with three digits and the total in full, each with a label
or alone.

Key definitions: `thresholdWarnings`, `averageLine`, `totalLine`.
-/
import GoComplexity.Config.Settings
import GoComplexity.Score.Average

namespace GoComplexity

/-- The setting of the maximum of a measure. -/
def Metric.maximum : Metric → Setting
  | .cyclomatic => .maxCyclomatic
  | .cognitive => .maxCognitive

/-- The value of a maximum if a score is above it; a maximum of zero is off. -/
def exceeded? (maximum : Value) (score : Int) : Except TypeFault Bool := do
  if ← maximum.isAbove 0 then maximum.isBelow score else return false

/-- The warning that a function is above the maximum of a measure, if it is. -/
def warning? (settings : Settings) (m : Metric) (s : Stat) : Except TypeFault (Option String) := do
  let maximum := settings.value m.maximum
  if ← exceeded? maximum (s.value m) then
    return some (s!"Function {s.function}() on package {s.package} have {m.name} " ++
      s!"complexity of {s.value m} (exceeding {maximum.render}) consider refactoring.")
  else return none

/-- The warnings of all functions above a maximum. -/
def thresholdWarnings (settings : Settings) (stats : List Stat) :
    Except TypeFault (List String) := do
  let warnings ← stats.mapM fun s => do
    let first ← warning? settings .cyclomatic s
    let second ← warning? settings .cognitive s
    return first.toList ++ second.toList
  return warnings.flatten

/-- A sum with its label or alone. -/
def labelled (label : String) (short : Bool) (text : String) : String :=
  if short then text else s!"{label}: {text}"

/-- The line of the average. -/
def averageLine (m : Metric) (short : Bool) (stats : List Stat) : Except AverageFault String :=
  (average m stats).map fun x => labelled "Average" short (x.renderDigits 3)

/-- The line of the total. -/
def totalLine (m : Metric) (short : Bool) (stats : List Stat) : String :=
  labelled "Total" short (toString (total m stats))

end GoComplexity
