/-
# Local names

While a body is outlined, the names that are known locally are kept in scopes,
the innermost one first.  A declaration adds its names to the innermost scope;
the empty name and the blank one declare nothing.

Key definitions: `Scopes`, `Scopes.bind`, `Scopes.isLocal`, `identifiers`,
`parameterNames`, `declaredNames`, `openingNames`.
-/
import GoComplexity.Outline.Form

namespace GoComplexity

/-- The scopes of local names, the innermost one first. -/
abbrev Scopes := List (List String)

/-- Whether a declared name is a name at all. -/
def isBindable (name : String) : Bool := name ≠ "" && name ≠ "_"

namespace Scopes

/-- Adds names to the innermost scope. -/
def bind (names : List String) : Scopes → Scopes
  | [] => []
  | innermost :: outer => (names.filter isBindable ++ innermost) :: outer

/-- Whether a name is known locally. -/
def isLocal (scopes : Scopes) (name : String) : Bool := scopes.any fun s => s.contains name

end Scopes

/-- The identifiers listed directly in a node, or the node itself if it is one. -/
def identifiers (t : Tree) : List String :=
  if t.kind = "identifier" then [t.text]
  else (t.namedChildren.filter fun c => c.kind == "identifier").map Tree.text

/-- The identifiers of a field that may be absent. -/
def identifiersOf (t : Tree) (field : String) : List String :=
  ((t.childByField? field).map identifiers).getD []

/-- The names bound by one parameter declaration. -/
def parameterNamesOf (declaration : Tree) : List String :=
  ((declaration.childrenByField "name").filter fun n => n.kind == "identifier").map Tree.text

/-- The names bound by a list of parameters; anything else binds none. -/
def parameterNames (t : Tree) : List String :=
  if t.kind = "parameter_list" then t.namedChildren.flatMap parameterNamesOf else []

/-- The parameter names of a field that may be absent. -/
def parametersOf (t : Tree) (field : String) : List String :=
  ((t.childByField? field).map parameterNames).getD []

/-- The names that a node declares for what comes after it. -/
def declaredNames (t : Tree) : List String :=
  match t.form with
  | .shortVar => identifiersOf t "left"
  | .valueSpec => (t.childrenByField "name").map Tree.text
  | .rangeClause | .receive => if t.hasToken ":=" then identifiersOf t "left" else []
  | _ => []

/-- The names that a node declares for its own inside. -/
def openingNames (t : Tree) : List String :=
  match t.form with
  | .funcLiteral => parametersOf t "parameters" ++ parametersOf t "result"
  | .typeSwitch => identifiersOf t "alias"
  | _ => []

end GoComplexity
