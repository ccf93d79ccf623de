/-
# Log records

A record has a level, the name of the part of the program that wrote it, and a
message.  A threshold lets through the records at or above it.

Key definitions: `Level`, `Record`, `Record.passes`, `Record.render`.
-/
namespace GoComplexity

/-- The severity of a record. -/
inductive Level where
  | debug
  | info
  | warning
  | error
deriving DecidableEq, Repr, Inhabited

namespace Level

/-- The name of a level in logs. -/
def name : Level → String
  | .debug => "DEBUG"
  | .info => "INFO"
  | .warning => "WARNING"
  | .error => "ERROR"

/-- The place of a level in the order of severity. -/
def rank : Level → Nat
  | .debug => 10
  | .info => 20
  | .warning => 30
  | .error => 40

end Level

/-- The part of the program that writes a record. -/
inductive Origin where
  | analyzer
  | scanner
  | normalizer
  | discovery
deriving DecidableEq, Repr, Inhabited

/-- The name under which a part of the program logs. -/
def Origin.name : Origin → String
  | .analyzer => "gosca.analyzer"
  | .scanner => "gosca.scanning.scanner"
  | .normalizer => "gosca.scanning.normalizer"
  | .discovery => "gosca.complexity.discovery"

/-- One log record. -/
structure Record where
  level : Level
  origin : Origin
  message : String
deriving DecidableEq, Repr, Inhabited

namespace Record

/-- Whether a record is at or above a threshold. -/
def passes (threshold : Level) (r : Record) : Bool := threshold.rank ≤ r.level.rank

/-- A record in one line: level, origin and message. -/
def render (r : Record) : String := s!"{r.level.name} {r.origin.name}: {r.message}"

/-- A record in one line of a log file, the level padded to eight columns. -/
def renderPadded (r : Record) : String :=
  let level := r.level.name
  let padding := String.ofList (List.replicate (8 - level.length) ' ')
  s!"{level}{padding} {r.origin.name}: {r.message}"

end Record

end GoComplexity
