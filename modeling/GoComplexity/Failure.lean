/-
# Failures

What can go wrong on purpose: a source that cannot be read or parsed, an
aggregate over nothing, a setting or a path that cannot be used.  A failure has
a message and named details, and its full text is the message followed by the
details in parentheses.

Key definitions: `Failure`, `Failure.message`, `Failure.details`,
`Failure.render`.
-/
import GoComplexity.Path
import GoComplexity.Toml.Fault
import GoComplexity.Value

namespace GoComplexity

/-- Why a configuration file cannot be used. -/
inductive ConfigFileFault where
  /-- The bytes are no text. -/
  | notText
  /-- The text is no document. -/
  | malformed (text : String) (fault : Toml.Fault)
  /-- The settings are no table. -/
  | notTable
deriving Inhabited

/-- The wording of a fault of a configuration file. -/
def ConfigFileFault.message : ConfigFileFault → String
  | .notText => "the file is not encoded in UTF-8"
  | .malformed text fault => fault.message text
  | .notTable => "[gosca] must be a table"

/-- A failure and its cause. -/
inductive Failure where
  /-- Any failure, with its own wording. -/
  | general (message : String) (details : List (String × String))
  /-- A failure while sources are read, parsed and summed up. -/
  | analysis (message : String) (details : List (String × String))
  /-- A failure of the settings. -/
  | configuration (message : String) (details : List (String × String))
  /-- A configuration file cannot be used. -/
  | configFile (path : String) (fault : ConfigFileFault)
  /-- Settings that there are not. -/
  | unknownSettings (keys : List String)
  /-- A setting has a value of the wrong type. -/
  | illTypedSetting (fault : TypeFault)
  /-- A source path is missing or cannot be read. -/
  | fileAccess (path reason : String)
  /-- A source file is malformed or nested too deeply. -/
  | parsing (path reason : String) (location : Option (Int × Int)) (language : String)
  /-- An aggregate over too few functions. -/
  | insufficientData (reason : String) (minimum : Option Int)
  /-- A path in the settings does not exist. -/
  | invalidPath (path reason : String)
  /-- A setting has a value that cannot be used. -/
  | invalidSetting (key : String) (value : Value) (reason : String)
deriving Inhabited

namespace Failure

/-- The message without the details. -/
def message : Failure → String
  | .general message _ | .analysis message _ | .configuration message _ => message
  | .configFile path fault => s!"Invalid config file '{path}': {fault.message}"
  | .unknownSettings keys => "Unknown configuration keys: " ++ ", ".intercalate keys
  | .illTypedSetting fault => s!"Invalid configuration: {fault.message}"
  | .fileAccess path reason => s!"cannot read {displayPath path}: {reason}"
  | .parsing path reason none _ => s!"cannot parse {displayPath path}: {reason}"
  | .parsing path reason (some (line, column)) _ =>
    s!"cannot parse {displayPath path}:{line}:{column}: {reason}"
  | .insufficientData reason _ => reason
  | .invalidPath path reason => s!"{reason}: {displayPath path}"
  | .invalidSetting key value reason => s!"{key} = {value.describe} is invalid: {reason}"

/-- The named details, in order. -/
def details : Failure → List (String × String)
  | .general _ details | .analysis _ details | .configuration _ details => details
  | .configFile .. | .unknownSettings _ | .illTypedSetting _ => []
  | .fileAccess path _ => [("file", displayPath path)]
  | .parsing path _ _ language => [("file", displayPath path), ("language", language)]
  | .insufficientData _ none => []
  | .insufficientData _ (some minimum) => [("minimum_required", toString minimum)]
  | .invalidPath path _ => [("path", displayPath path)]
  | .invalidSetting key _ _ => [("key", key)]

/-- The reason that a failure was given, if it has one of its own. -/
def reason? : Failure → Option String
  | .general .. | .analysis .. | .configuration .. | .configFile .. | .unknownSettings _
  | .illTypedSetting _ => none
  | .fileAccess _ reason | .parsing _ reason _ _ | .insufficientData reason _
  | .invalidPath _ reason | .invalidSetting _ _ reason => some reason

/-- The full text: the message, and the details in parentheses if there are any. -/
def render (f : Failure) : String :=
  if f.details.isEmpty then f.message
  else
    let context := "; ".intercalate (f.details.map fun d => s!"{d.1}: {d.2}")
    s!"{f.message} ({context})"

end Failure

end GoComplexity
