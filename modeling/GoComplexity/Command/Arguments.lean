/-
# The options that words stand for

The last one of repeated options counts.  Numbers have bounds, names are
compared without regard to case, a configuration file has to exist and a log
file may not be a directory.  Asking for the version or for help comes before
everything but the reading of the words.

Key definitions: `Arguments.options`, `readInvocation`.
-/
import GoComplexity.Command.Options
import GoComplexity.Command.Words

namespace GoComplexity

/-- A letter of a name without its case. -/
def foldLetter (c : Char) : Char := if c = 'ſ' then 's' else c.toLower

/-- A name without its case. -/
def foldName (s : String) : String := String.ofList (s.toList.map foldLetter)

/-- Whether an option is answered before the others are looked at. -/
def Flag.isEager (f : Flag) : Bool := f = .version || f = .help

namespace Arguments

variable (a : Arguments)

/-- The value of an option: the last one given. -/
def value? (p : Parameter) : Option String := a.values.reverse.lookup p

/-- The value of an option, read. -/
def read {α : Type} (p : Parameter) (f : String → Option α) : Except Refusal (Option α) :=
  match a.value? p with
  | none => .ok none
  | some s =>
    match f s with
    | some x => .ok (some x)
    | none => .error (.usage (UsageFault.invalidValue p s).message)

/-- An integer that is not below a least one and not above a greatest one, where
these are given. -/
def readBounded (least most : Option Int) (s : String) : Option Int :=
  match readInteger s with
  | .ok n => if (least.all (· ≤ n)) && (most.all (n ≤ ·)) then some n else none
  | .error _ => none

/-- The configuration file: it exists and is no directory. -/
def configFile (d : Disk) : Except Refusal (Option String) :=
  match a.value? .config with
  | none => .ok none
  | some s =>
    if holdsNull s then .error (.problem .embeddedNull)
    else if d.isFile s then .ok (some (displayPath s))
    else .error (.usage (UsageFault.invalidValue .config s).message)

/-- The log file: it is no directory. -/
def logFile (d : Disk) : Except Refusal (Option String) :=
  match a.value? .logFile with
  | none => .ok none
  | some s =>
    if holdsNull s then .error (.problem .embeddedNull)
    else if d.isDirectory s then .error (.usage (UsageFault.invalidValue .logFile s).message)
    else .ok (some (displayPath s))

/-- Whether an option without a value is given. -/
def has (f : Flag) : Bool := a.flags.contains f

/-- The options that arguments stand for. -/
def options (d : Disk) : Except Refusal Options := do
  let bound ← a.read .bound (readBounded none none)
  let top ← a.read .top (readBounded none none)
  let metric ← a.read .metric fun s => Metric.ofName? (foldName s)
  let maxCyclomatic ← a.read .maxCyclomatic (readBounded (some 0) none)
  let maxCognitive ← a.read .maxCognitive (readBounded (some 0) none)
  let ignore ← a.read .ignore some
  let format ← a.read .format fun s => Format.ofName? (foldName s)
  let workers ← a.read .workers (readBounded (some 1) (some 32))
  let config ← a.configFile d
  let logFile ← a.logFile d
  if a.paths.isEmpty then throw (.usage UsageFault.missingPaths.message)
  return ⟨a.paths, bound, top, metric, maxCyclomatic, maxCognitive, ignore, format, workers, config,
    logFile, a.has .average, a.has .averageShort, a.has .total, a.has .totalShort, a.has .strict,
    a.has .verbose, a.has .quiet⟩

end Arguments

/-- How the command is used. -/
def helpText : String :=
  "Usage: gosca [OPTIONS] PATHS...\n\n" ++
    "Calculate cyclomatic and cognitive complexities of Go functions.\n"

/-- What a command line asks for. -/
def readInvocation (d : Disk) (words : List String) : Except Refusal Invocation := do
  let a ← (readArguments words).mapError fun fault => Refusal.usage fault.message
  match a.flags.find? Flag.isEager with
  | some .version => return .version
  | some _ => return .help helpText
  | none => return .run (← a.options d)

end GoComplexity
