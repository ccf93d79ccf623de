/-
# The measured units of a file

Measured are, in source order, every top-level function and method, and every
function literal that stands directly among the initial values of a top-level
line of values; such a literal takes the first name of its line.  The doc
comment of a group holds for each of its literals.  A unit whose doc comment
carries the ignore directive is left out of the report.

Key definitions: `MeasuredUnit`, `Outline.units`, `Outline.measure`.
-/
import GoComplexity.Log
import GoComplexity.Outline.Declaration
import GoComplexity.Score.Cognitive
import GoComplexity.Score.Cyclomatic
import GoComplexity.Score.Directive
import GoComplexity.Score.Stat

namespace GoComplexity

/-- One measured function. -/
structure MeasuredUnit where
  /-- The display name. -/
  name : String
  package : String
  body : Option Node
  doc : List String
  position : Position
  /-- The package-level name by which the function calls itself; none for
  methods. -/
  identity : Option String
deriving Inhabited

/-- Both measures of a unit. -/
def MeasuredUnit.measure (u : MeasuredUnit) : Stat where
  package := u.package
  function := u.name
  cyclomatic := cyclomatic u.body
  cognitive := cognitive u.identity u.body
  position := u.position

/-- The unit of a function literal that initialises the line of `name`. -/
def ValueSpec.unitOf (package : String) (doc : List String) (name : String) (value : Node) :
    MeasuredUnit where
  name := name
  package := package
  body := value.body.head?
  doc := doc
  position := value.position
  identity := some name

/-- The units of one line of values. -/
def ValueSpec.units (package : String) (doc : List String) (spec : ValueSpec) :
    List MeasuredUnit :=
  match spec.names with
  | [] => []
  | name :: _ =>
    (spec.values.filter fun v => v.kind == .functionLiteral).map (unitOf package doc name)

/-- The units of a declaration. -/
def Declaration.units (package : String) (d : Declaration) : List MeasuredUnit :=
  match d.kind with
  | .value => d.specs.flatMap (ValueSpec.units package d.doc)
  | kind => [{
      name := d.displayName
      package := package
      body := d.body
      doc := d.doc
      position := d.position
      identity := if kind = .function then some d.name else none }]

namespace Outline

/-- The units of a file in source order. -/
def units (o : Outline) : List MeasuredUnit := o.declarations.flatMap (Declaration.units o.package)

/-- The scores of the units that are not to be ignored. -/
def measure (o : Outline) : List Stat :=
  (o.units.filter fun u => !hasIgnore u.doc).map MeasuredUnit.measure

/-- What is logged of the units to be ignored. -/
def measureLog (o : Outline) : List Record :=
  (o.units.filter fun u => hasIgnore u.doc).map fun u =>
    { level := .debug
      origin := .discovery
      message := s!"{u.position.render}: skipping {u.name} (ignore directive)" }

end Outline

end GoComplexity
