/-
# Settings

A run has twelve settings.  Each has a key, under which files and callers give
it, and a default; its value is kept as it was given.

Key definitions: `Setting`, `Setting.key`, `Setting.default`, `Settings`,
`Settings.ofEntries`.
-/
import GoComplexity.Value

namespace GoComplexity

/-- The settings of a run. -/
inductive Setting where
  /-- A pattern; files whose paths it matches are left out. -/
  | ignorePattern
  /-- The endings of the names of source files in directories. -/
  | fileExtensions
  /-- How many files are read at the same time. -/
  | workers
  /-- Whether the first file that is malformed ends the run. -/
  | strict
  /-- The measure to sort, filter and sum up by. -/
  | metric
  /-- How many functions are shown; all for -1. -/
  | top
  /-- Above which score functions are shown; all for 0. -/
  | bound
  /-- Above which cyclomatic score functions are warned of; none for 0. -/
  | maxCyclomatic
  /-- Above which cognitive score functions are warned of; none for 0. -/
  | maxCognitive
  | outputFormat
  | verbosity
  /-- A file that records are written to as well. -/
  | logFile
deriving DecidableEq, Repr, Inhabited

namespace Setting

/-- All settings. -/
def all : List Setting :=
  [ignorePattern, fileExtensions, workers, strict, metric, top, bound, maxCyclomatic, maxCognitive,
    outputFormat, verbosity, logFile]

/-- The key of a setting. -/
def key : Setting → String
  | ignorePattern => "ignore_pattern"
  | fileExtensions => "file_extensions"
  | workers => "workers"
  | strict => "strict"
  | metric => "metric"
  | top => "top"
  | bound => "over"
  | maxCyclomatic => "max_cyclomatic"
  | maxCognitive => "max_cognitive"
  | outputFormat => "output_format"
  | verbosity => "verbosity"
  | logFile => "log_file"

/-- The setting of a key. -/
def ofKey? (s : String) : Option Setting := all.find? fun x => x.key = s

/-- The value of a setting that is not given. -/
def default : Setting → Value
  | ignorePattern | logFile => .none
  | fileExtensions => .list [.text ".go"]
  | workers => .int 1
  | strict => .bool false
  | metric => .text "cyclomatic"
  | top => .int (-1)
  | bound | maxCyclomatic | maxCognitive => .int 0
  | outputFormat => .text "text"
  | verbosity => .text "normal"

/-- The values to which a setting is restricted, if it is. -/
def choices : Setting → List String
  | metric => ["cyclomatic", "cognitive"]
  | outputFormat => ["text", "json", "rich"]
  | verbosity => ["quiet", "normal", "verbose"]
  | _ => []

end Setting

/-- A value for every setting. -/
structure Settings where
  value : Setting → Value

namespace Settings

/-- The settings that named values give, the others with their defaults. -/
def ofEntries (entries : List (String × Value)) : Settings where
  value s := (entries.lookup s.key).getD s.default

/-- Whether functions above a maximum are warned of instead of shown. -/
def warns (s : Settings) : Except TypeFault Bool := do
  if ← (s.value .maxCyclomatic).isAbove 0 then return true
  else (s.value .maxCognitive).isAbove 0

end Settings

end GoComplexity
