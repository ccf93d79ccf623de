/-
# Which functions a report shows

The settings say by which measure a report ranks the functions, how many it
shows and above which score.  A length that is no integer shows all, and a bound
is looked at only where there is a function to compare with it.

Key definitions: `Settings.metric`, `Settings.selection`.
-/
import GoComplexity.Config.Settings
import GoComplexity.Report.Format
import GoComplexity.Score.Ranking

namespace GoComplexity

/-- The bar of a bound; a fractional bound is passed by the integers above it. -/
def Bar.ofValue (bound : Value) : Except TypeFault Bar := do
  if !(← bound.isAbove 0) then return .open
  match bound.integer?, bound.number? with
  | some n, _ => return .above n
  | _, some x =>
    match x.floor? with
    | some n => return .above n
    | none => return .shut
  | _, _ => return .open

namespace Settings

/-- The measure of a report. -/
def metric (s : Settings) : Metric :=
  match s.value .metric with
  | .text name => (Metric.ofName? name).getD .cyclomatic
  | _ => .cyclomatic

/-- The format of a report. -/
def format (s : Settings) : Format :=
  match s.value .outputFormat with
  | .text name => (Format.ofName? name).getD .text
  | _ => .text

/-- The length of a report; a negative one for all. -/
def limit (s : Settings) : Int := (s.value .top).equalInt?.getD (-1)

/-- The functions that a report shows, ranked. -/
def selection (s : Settings) (stats : List Stat) : Except TypeFault (List Stat) :=
  if stats.isEmpty || s.limit = 0 then .ok []
  else (Bar.ofValue (s.value .bound)).map fun bar => select s.metric s.limit bar stats

end Settings

end GoComplexity
