/-
# What the command prints

After an analysis the command prints warnings, or a report and the sums that are
asked for.  A failure is a message on the error output.  The command ends with 2 if
the settings cannot be used, with 1 if the analysis fails, and after a report with
1 if functions above the bound are shown; else with 0.

Key definitions: `Ending`, `Printed`, `Terminal.printReport`, `Terminal.reportOn`,
`Terminal.printedOf`.
-/
import GoComplexity.Analysis.Analyzer
import GoComplexity.Command.Options
import GoComplexity.Report.Selection
import GoComplexity.Report.Summary

namespace GoComplexity

/-- How the command ends. -/
inductive Ending where
  /-- It ends as it should, with a code. -/
  | code (n : Nat)
  /-- It ends with a problem that it does not expect. -/
  | problem (p : Problem)
deriving Inhabited

/-- The code with which the program ends. -/
def Ending.exitCode : Ending → Nat
  | code n => n
  | problem _ => 1

/-- What is printed, and how the command ends. -/
structure Printed where
  /-- The text on the output. -/
  output : String := ""
  /-- The messages on the error output. -/
  messages : List String := []
  ending : Ending := .code 0
deriving Inhabited

namespace Printed

/-- A problem that is not expected, after what has been printed. -/
def stop (p : Problem) (before : Printed) : Printed := { before with ending := .problem p }

/-- A line more on the output. -/
def addLine (line : String) (p : Printed) : Printed := { p with output := p.output ++ line ++ "\n" }

/-- A message more. -/
def addMessage (message : String) (p : Printed) : Printed :=
  { p with messages := p.messages ++ [message] }

end Printed

/-- The warnings of a run that warns. -/
def printWarnings (settings : Settings) (stats : List Stat) : Printed :=
  match thresholdWarnings settings stats with
  | .ok lines => lines.foldl (fun p line => p.addLine line) {}
  | .error fault => Printed.stop (.type fault) {}

/-- The total, if it is asked for. -/
def printTotal (o : Options) (m : Metric) (stats : List Stat) (p : Printed) : Printed :=
  if o.total || o.totalShort then p.addLine (totalLine m o.totalShort stats) else p

/-- The code after a report that shows some functions. -/
def reportEnding (settings : Settings) (shown : List Stat) : Ending :=
  match (settings.value .bound).isAbove 0 with
  | .ok above => .code (if above && !shown.isEmpty then 1 else 0)
  | .error fault => .problem (.type fault)

namespace Terminal

variable (terminal : Terminal)

/-- A failure, reported with its code. -/
def printFailure (code : Nat) (f : Failure) : Printed where
  messages := [terminal.message "red" "Error" f.render]
  ending := .code code

/-- The average, if it is asked for. -/
def printAverage (o : Options) (m : Metric) (stats : List Stat) (p : Printed) :
    Except Printed Printed :=
  if !(o.average || o.averageShort) then .ok p
  else
    match averageLine m o.averageShort stats with
    | .ok line => .ok (p.addLine line)
    | .error .noFunctions =>
      .ok (p.addMessage (terminal.message "yellow" "Warning" AverageFault.insufficient.render))
    | .error .tooLarge => .error (p.stop .quotientTooLarge)

/-- The report of a run, with the sums that are asked for. -/
def printReport (o : Options) (settings : Settings) (stats : List Stat) : Printed :=
  match settings.selection stats with
  | .error fault => Printed.stop (.type fault) {}
  | .ok shown =>
    let report : Printed := { output := terminal.print settings.format shown }
    match terminal.printAverage o settings.metric stats report with
    | .error stopped => stopped
    | .ok p =>
      { printTotal o settings.metric stats p with ending := reportEnding settings shown }

/-- What is printed of the functions that have been measured. -/
def reportOn (o : Options) (settings : Settings) (stats : List Stat) : Printed :=
  match settings.warns with
  | .error fault => Printed.stop (.type fault) {}
  | .ok true => printWarnings settings stats
  | .ok false => terminal.printReport o settings stats

/-- What is printed after an analysis. -/
def printedOf (o : Options) (settings : Settings) : Except Problem Analysis → Printed
  | .ok a => terminal.reportOn o settings a.stats
  | .error (.failure f) => terminal.printFailure 1 f
  | .error p => Printed.stop p {}

end Terminal

end GoComplexity
