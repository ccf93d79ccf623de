/-
# Averages

The average of a measure is the quotient of its sum and the number of
functions, rounded once to a floating-point number.  There is none over no
functions, and none if the quotient is too large.

Key definitions: `average`.
-/
import GoComplexity.Failure
import GoComplexity.Score.Ranking

namespace GoComplexity

/-- Why there is no average. -/
inductive AverageFault where
  | noFunctions
  | tooLarge
deriving DecidableEq, Repr, Inhabited

/-- The failure that an average over no functions is. -/
def AverageFault.insufficient : Failure := .insufficientData "no functions to average" (some 1)

/-- The average of a measure. -/
def average (m : Metric) (stats : List Stat) : Except AverageFault Binary64 :=
  if stats.isEmpty then .error .noFunctions
  else
    let sum := total m stats
    match Binary64.ofRatio (sum < 0) sum.natAbs stats.length with
    | .infinite _ => .error .tooLarge
    | x => .ok x

end GoComplexity
