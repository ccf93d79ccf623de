/-
# Top-level declarations

The outline of a file is its package name and its functions, methods and
groups of values, in source order.

Key definitions: `Receiver`, `Declaration`, `Outline`,
`Declaration.displayName`.
-/
import GoComplexity.Outline.Node

namespace GoComplexity

/-- The kinds of top-level declaration. -/
inductive DeclarationKind where
  | function
  | method
  | value
deriving DecidableEq, Repr, Inhabited

/-- The name of a kind. -/
def DeclarationKind.name : DeclarationKind → String
  | .function => "function"
  | .method => "method"
  | .value => "value"

/-- The shape of a method's receiver type: a type name, a pointer to a shape,
or anything else (generic, parenthesised, qualified). -/
inductive Receiver where
  | ident (name : String)
  | pointer (elem : Receiver)
  | other
deriving DecidableEq, Repr, Inhabited

namespace Receiver

/-- A receiver type in display names: a star for each pointer, then the type
name, or a fixed word for every other shape. -/
def render : Receiver → String
  | .ident name => name
  | .pointer elem => "*" ++ elem.render
  | .other => "BADRECV"

end Receiver

/-- One line of a group of values: names and their initial values. -/
structure ValueSpec where
  names : List String
  values : List Node
deriving Inhabited

/-- A top-level declaration. -/
structure Declaration where
  kind : DeclarationKind
  /-- The name of a function or method; empty for a group of values. -/
  name : String := ""
  /-- Where the declaring keyword stands. -/
  position : Position := default
  /-- The comments that document the declaration. -/
  doc : List String := []
  /-- The body of a function; none if it is declared without one. -/
  body : Option Node := none
  /-- The receiver type of a method; none if its receiver list is empty. -/
  receiver : Option Receiver := none
  /-- The lines of a group of values. -/
  specs : List ValueSpec := []
deriving Inhabited

namespace Declaration

/-- The receiver type of a declaration, or the fixed word if it has none. -/
def receiverText (d : Declaration) : String := (d.receiver.getD .other).render

/-- The name of a function or method in reports: a method's name follows its
receiver type in parentheses. -/
def displayName (d : Declaration) : String :=
  match d.kind, d.receiver with
  | .method, some r => s!"({r.render}).{d.name}"
  | _, _ => d.name

/-- The bodies that a declaration holds, in source order. -/
def trees (d : Declaration) : List Node :=
  d.body.toList ++ d.specs.flatMap ValueSpec.values

end Declaration

/-- The outline of a source file. -/
structure Outline where
  path : String
  package : String
  declarations : List Declaration
deriving Inhabited

end GoComplexity
