/-
# Analysing files and directories

An analyzer measures every function of every source file under some paths.  A
file that cannot be read, or is malformed, is reported and left out; a strict
analyzer ends with the first malformed file instead.  With several workers the
files are measured in any order, and the outcomes are read in the order of the
files.  The front end that reads the syntax of the files may be any.

Key definitions: `Analyzer`, `Analysis`, `Frontend.measureFile`,
`Frontend.analyzeIn`, `Frontend.analyzeRequest`.
-/
import GoComplexity.Analysis.Pool
import GoComplexity.Analysis.Scan
import GoComplexity.Config.Layers
import GoComplexity.Outline.Build
import GoComplexity.Score.Unit

namespace GoComplexity

/-- How files are analysed. -/
structure Analyzer where
  rules : ScanRules := {}
  strict : Bool := false
  workers : Value := .int 1
deriving Inhabited

/-- What a run has found out. -/
structure Analysis where
  /-- The scores of all functions, in the order in which they were found. -/
  stats : List Stat := []
  /-- The number of files that were measured. -/
  filesAnalyzed : Nat := 0
  /-- The failures of paths and files that were left out. -/
  errors : List Failure := []
deriving Inhabited

/-- What became of a file. -/
inductive FileOutcome where
  | measured (stats : List Stat)
  | failed (f : Failure)
deriving Inhabited

namespace FileOutcome

/-- The scores of a file that was measured. -/
def stats? : FileOutcome → Option (List Stat)
  | measured stats => some stats
  | failed _ => none

/-- The failure of a file that was not measured. -/
def failure? : FileOutcome → Option Failure
  | measured _ => none
  | failed f => some f

end FileOutcome

/-- The analyzer that settings ask for. -/
def Analyzer.ofSettings (s : Settings) : Except Problem Analyzer := do
  let pattern ← s.pattern?
  match (s.value .fileExtensions).elements with
  | .ok extensions =>
    return ⟨⟨pattern, extensions⟩, (s.value .strict).truthy, s.value .workers⟩
  | .error fault => throw (.type fault)

namespace Frontend

variable (front : Frontend)

/-- The scores of the functions of a source text. -/
def measureSource (path : String) (content : ByteArray) : Except Failure (List Stat) :=
  (front.outline? path content).map Outline.measure

/-- The scores of a file. -/
def measureFile (d : Disk) (path : String) : Run (List Stat) := do
  let content ← (readSource d path : Except Problem ByteArray)
  match front.outline? path content with
  | .error f => throw (.failure f)
  | .ok o =>
    Run.logAll (o.record :: o.measureLog)
    let stats := o.measure
    Run.log .debug .analyzer s!"{path}: {stats.length} functions"
    return stats

/-- What becomes of a file: a strict analyzer does not go on after a malformed
one. -/
def tryFile (a : Analyzer) (d : Disk) (path : String) : Run FileOutcome := do
  match ← (front.measureFile d path).capture with
  | .ok stats => return .measured stats
  | .error (.failure (.fileAccess p reason)) => return .failed (.fileAccess p reason)
  | .error (.failure (.parsing p reason location language)) =>
    let f := Failure.parsing p reason location language
    if a.strict then throw (.failure f) else return .failed f
  | .error problem => throw problem

/-- What becomes of files, which finish in a given order if there are several
workers. -/
def outcomes (a : Analyzer) (d : Disk) (order : List Nat) (files : List String) :
    Run (List FileOutcome) := do
  if (← Run.ofTyped (a.workers.isAbove 1)) && 1 < files.length then
    runPool order (files.map (front.tryFile a d))
  else files.mapM (front.tryFile a d)

/-- Measures every function of the files under paths; with several workers the
files finish in the order that `order` gives for their number. -/
def analyzeIn (a : Analyzer) (order : Nat → List Nat) (d : Disk) (paths : List String) :
    Run Analysis := do
  let (files, scanErrors) ← scan d a.rules paths
  let outcomes ← front.outcomes a d (order files.length) files
  let errors := outcomes.filterMap FileOutcome.failure?
  Run.logAll (errors.map fun f => ⟨.warning, .analyzer, f.render⟩)
  let stats := outcomes.filterMap FileOutcome.stats?
  let result : Analysis := ⟨stats.flatten, stats.length, scanErrors ++ errors⟩
  Run.log .info .analyzer
    (s!"Analyzed {result.filesAnalyzed} files, {result.stats.length} functions, " ++
      s!"{result.errors.length} skipped")
  return result

/-- Measures every function of the files under paths. -/
def analyze (a : Analyzer) (d : Disk) (paths : List String) : Run Analysis :=
  front.analyzeIn a List.range d paths

/-- Measures every function of the files under paths as settings ask. -/
def analyzeWith (settings : Settings) (d : Disk) (paths : List String) : Run Analysis := do
  let analyzer ← (Analyzer.ofSettings settings : Except Problem Analyzer)
  front.analyze analyzer d paths

/-- Measures every function of the files under paths with the settings of a
request. -/
def analyzeRequest (r : Request) (paths : List String) : Run Analysis := do
  let settings ← (loadSettings r : Except Problem Settings)
  front.analyzeWith settings r.disk paths

end Frontend

end GoComplexity
