/-
# The words of a command line

A word is an option or a path.  A long option begins with two dashes and may
have its value after an equals sign; a word with one dash holds short options, a
letter each, and the rest of the word after one that takes a value is the value.
Else the value is the next word, whatever it looks like.  After a word of two
dashes alone all words are paths.

Key definitions: `Flag`, `Parameter`, `Word`, `readWord`, `Arguments`,
`readArguments`.
-/
namespace GoComplexity

/-- An option without a value. -/
inductive Flag where
  | average
  | averageShort
  | total
  | totalShort
  | strict
  | verbose
  | quiet
  | version
  | help
deriving DecidableEq, Repr, Inhabited

/-- An option with a value. -/
inductive Parameter where
  | bound
  | top
  | metric
  | maxCyclomatic
  | maxCognitive
  | ignore
  | format
  | workers
  | config
  | logFile
deriving DecidableEq, Repr, Inhabited

/-- All options without a value. -/
def Flag.all : List Flag :=
  [.average, .averageShort, .total, .totalShort, .strict, .verbose, .quiet, .version, .help]

/-- The names of an option. -/
def Flag.names : Flag → List String
  | .average => ["--avg"]
  | .averageShort => ["--avg-short"]
  | .total => ["--total"]
  | .totalShort => ["--total-short"]
  | .strict => ["--strict"]
  | .verbose => ["--verbose", "-v"]
  | .quiet => ["--quiet", "-q"]
  | .version => ["--version"]
  | .help => ["--help"]

/-- All options with a value. -/
def Parameter.all : List Parameter :=
  [.bound, .top, .metric, .maxCyclomatic, .maxCognitive, .ignore, .format, .workers, .config,
    .logFile]

/-- The names of an option. -/
def Parameter.names : Parameter → List String
  | .bound => ["--over"]
  | .top => ["--top"]
  | .metric => ["--metric", "-m"]
  | .maxCyclomatic => ["--max-cyclo"]
  | .maxCognitive => ["--max-cogni"]
  | .ignore => ["--ignore"]
  | .format => ["--format", "-f"]
  | .workers => ["--workers", "-w"]
  | .config => ["--config", "-c"]
  | .logFile => ["--log-file"]

/-- Why a command line cannot be used. -/
inductive UsageFault where
  | noSuchOption (name : String)
  /-- An option stands last and lacks its value. -/
  | missingValue (name : String)
  /-- An option has a value and takes none. -/
  | unexpectedValue (name : String)
  /-- The value of an option is not one that it takes. -/
  | invalidValue (p : Parameter) (value : String)
  | missingPaths
deriving DecidableEq, Repr, Inhabited

/-- The wording of a fault. -/
def UsageFault.message : UsageFault → String
  | .noSuchOption name => s!"No such option: {name}"
  | .missingValue name => s!"Option '{name}' requires an argument."
  | .unexpectedValue name => s!"Option '{name}' does not take a value."
  | .invalidValue p value => "Invalid value for " ++ " / ".intercalate p.names ++ s!": {value}"
  | .missingPaths => "Missing argument 'PATHS...'."

/-- The option of a name. -/
def optionOf? (name : String) : Option (Flag ⊕ Parameter) :=
  match Flag.all.find? fun f => f.names.contains name with
  | some f => some (.inl f)
  | none => (Parameter.all.find? fun p => p.names.contains name).map .inr

/-- A word of a command line. -/
inductive Word where
  | path (s : String)
  /-- Options without values. -/
  | flags (fs : List Flag)
  /-- An option with its value. -/
  | given (fs : List Flag) (p : Parameter) (value : String)
  /-- An option whose value is the next word. -/
  | awaiting (fs : List Flag) (p : Parameter) (name : String)
deriving DecidableEq, Repr, Inhabited

/-- A word with a flag before its other options. -/
def Word.addFlag (f : Flag) : Word → Word
  | .path s => .path s
  | .flags fs => .flags (f :: fs)
  | .given fs p value => .given (f :: fs) p value
  | .awaiting fs p name => .awaiting (f :: fs) p name

/-- The short options that letters stand for. -/
def readLetters : List Char → Except UsageFault Word
  | [] => .ok (.flags [])
  | c :: rest =>
    let name := String.ofList ['-', c]
    match optionOf? name with
    | none => .error (.noSuchOption name)
    | some (.inl f) => (readLetters rest).map (Word.addFlag f)
    | some (.inr p) =>
      if rest.isEmpty then .ok (.awaiting [] p name) else .ok (.given [] p (String.ofList rest))

/-- A long option, with the value after the equals sign if there is one. -/
def readLong (cs : List Char) : Except UsageFault Word :=
  let before := cs.takeWhile (· ≠ '=')
  let name := String.ofList before
  let value? := (cs.drop before.length).tail?.map String.ofList
  match optionOf? name, value? with
  | none, _ => .error (.noSuchOption name)
  | some (.inl f), none => .ok (.flags [f])
  | some (.inl _), some _ => .error (.unexpectedValue name)
  | some (.inr p), none => .ok (.awaiting [] p name)
  | some (.inr p), some value => .ok (.given [] p value)

/-- A word of a command line; a dash alone is a path. -/
def readWord (s : String) : Except UsageFault Word :=
  match s.toList with
  | '-' :: '-' :: rest => readLong ('-' :: '-' :: rest)
  | '-' :: c :: rest => readLetters (c :: rest)
  | _ => .ok (.path s)

/-- What the words of a command line give, in their order. -/
structure Arguments where
  paths : List String := []
  flags : List Flag := []
  values : List (Parameter × String) := []
deriving Repr, Inhabited

namespace Arguments

def addPath (s : String) (a : Arguments) : Arguments := { a with paths := s :: a.paths }

def addFlags (fs : List Flag) (a : Arguments) : Arguments := { a with flags := fs ++ a.flags }

def addValue (p : Parameter) (value : String) (a : Arguments) : Arguments :=
  { a with values := (p, value) :: a.values }

end Arguments

/-- The arguments of a command line. -/
def readArguments : List String → Except UsageFault Arguments
  | [] => .ok {}
  | s :: rest =>
    if s = "--" then .ok { paths := rest }
    else
      match readWord s with
      | .error fault => .error fault
      | .ok (.path p) => (readArguments rest).map (Arguments.addPath p)
      | .ok (.flags fs) => (readArguments rest).map (Arguments.addFlags fs)
      | .ok (.given fs p value) =>
        (readArguments rest).map fun a => (a.addValue p value).addFlags fs
      | .ok (.awaiting fs p name) =>
        match rest with
        | [] => .error (.missingValue name)
        | value :: rest => (readArguments rest).map fun a => (a.addValue p value).addFlags fs

end GoComplexity
