/-
# The options of the command

A command line asks for a run with options, for the version, or for help, whose
text comes with it; or it cannot be used.  How its words are read is not told
here.  Of the options of a run some give values to settings.

Key definitions: `Options`, `Invocation`, `Refusal`, `Options.overrides`.
-/
import GoComplexity.Config.Layers
import GoComplexity.Report.Format

namespace GoComplexity

/-- What the command is asked to do with some paths. -/
structure Options where
  paths : List String
  bound : Option Int := none
  top : Option Int := none
  metric : Option Metric := none
  maxCyclomatic : Option Int := none
  maxCognitive : Option Int := none
  ignore : Option String := none
  format : Option Format := none
  workers : Option Int := none
  config : Option String := none
  logFile : Option String := none
  average : Bool := false
  averageShort : Bool := false
  total : Bool := false
  totalShort : Bool := false
  strict : Bool := false
  verbose : Bool := false
  quiet : Bool := false
deriving Repr, Inhabited

/-- What the command is asked for. -/
inductive Invocation where
  | run (o : Options)
  | version
  | help (text : String)
deriving Inhabited

/-- Why the command is not carried out. -/
inductive Refusal where
  /-- It is used in a wrong way, which a message tells. -/
  | usage (message : String)
  | problem (p : Problem)
deriving Inhabited

namespace Options

variable (o : Options)

/-- What the options give of the settings. -/
def overrides : Entries :=
  let integer (n : Option Int) : Value := (n.map Value.int).getD .none
  let text (s : Option String) : Value := (s.map Value.text).getD .none
  [(Setting.ignorePattern.key, text o.ignore),
    (Setting.metric.key, text (o.metric.map Metric.name)),
    (Setting.top.key, integer o.top), (Setting.bound.key, integer o.bound),
    (Setting.maxCyclomatic.key, integer o.maxCyclomatic),
    (Setting.maxCognitive.key, integer o.maxCognitive),
    (Setting.outputFormat.key, text (o.format.map Format.name)),
    (Setting.strict.key, if o.strict then .bool true else .none),
    (Setting.workers.key, integer o.workers), ("verbose", .bool o.verbose),
    ("quiet", .bool o.quiet), (Setting.logFile.key, text o.logFile)]

end Options

end GoComplexity
