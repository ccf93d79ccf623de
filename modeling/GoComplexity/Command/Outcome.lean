/-
# What the command comes to

The command is run with the front end of Go sources, words that stand for options
in the usual way, and a wide terminal.

Key definitions: `Toolkit.go`, `runCommand`.
-/
import GoComplexity.Analysis.Go
import GoComplexity.Command.Arguments
import GoComplexity.Command.Toolkit
import GoComplexity.Report.Drawing

namespace GoComplexity

/-- The tools of the command. -/
def Toolkit.go : Toolkit where
  front := .go
  readWords := readInvocation
  terminal := .wide

/-- The average, if it is asked for. -/
def printAverage (o : Options) (m : Metric) (stats : List Stat) (p : Printed) :
    Except Printed Printed :=
  Terminal.wide.printAverage o m stats p

/-- Runs the command with the words of a command line. -/
def runCommand (s : Surroundings) (words : List String) : Outcome := Toolkit.go.runCommand s words

end GoComplexity
