/-
# Go sources

The front end of Go sources parses them as the grammar of the language says and
converts as much nesting as a stack of a thousand frames has room for.  The
functions here are those over any front end, with this one.

Key definitions: `Frontend.go`, `Outline.ofTree?`, `Analyzer.measureFile`,
`Analyzer.analyze`, `analyze`.
-/
import GoComplexity.Analysis.Analyzer
import GoComplexity.Syntax.Source

namespace GoComplexity

/-- The front end of Go sources. -/
def Frontend.go : Frontend where
  parse := Tree.ofSource
  limits := { levels := 490, pointers := 970 }

/-- The outline of a file's tree, unless the tree holds a fault or is nested too
deeply. -/
def Outline.ofTree? (path : String) (root : Tree) : Except Failure Outline :=
  Outline.ofTreeWithin? Frontend.go.limits path root

/-- The scores of a file. -/
def Analyzer.measureFile (d : Disk) (path : String) : Run (List Stat) :=
  Frontend.go.measureFile d path

/-- Measures every function of the files under paths. -/
def Analyzer.analyze (a : Analyzer) (d : Disk) (paths : List String) : Run Analysis :=
  Frontend.go.analyze a d paths

/-- Measures every function of the files under paths with the settings of a
request. -/
def analyze (r : Request) (paths : List String) : Run Analysis :=
  Frontend.go.analyzeRequest r paths

end GoComplexity
