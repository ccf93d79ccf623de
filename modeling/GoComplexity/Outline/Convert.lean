/-
# Function bodies from syntax

A body's syntax becomes a tree of nodes: every named node that is no comment
gives one node, numbered in source order, parents first.  On the way the local
names are tracked, so that a call through a bare identifier names a
package-level function only where no local name shadows it.  A declaration's
names are known after it, not in its own operands.

Key definitions: `Conversion`, `convert`, `facts`, `slots`.
-/
import GoComplexity.Outline.Node
import GoComplexity.Outline.Scope

namespace GoComplexity

/-- The state of a conversion: the next index and the local names. -/
structure Conversion where
  next : Nat
  scopes : Scopes
deriving Inhabited

/-- The position of a node in a file. -/
def Tree.position (path : String) (t : Tree) : Position :=
  ⟨path, t.start.row + 1, t.start.column + 1⟩

/-- The name of the package-level function that a node calls: the callee must
be a bare identifier that is not known locally. -/
def callee? (scopes : Scopes) (t : Tree) : Option String :=
  match t.form, t.childByField? "function" with
  | .call, some function =>
    if function.kind = "identifier" && !scopes.isLocal function.text then some function.text
    else none
  | _, _ => none

/-- The logical operator of a binary expression, known by the operator token. -/
def logicalOperator? (t : Tree) : Option String :=
  match t.childByField? "operator" with
  | some operator =>
    if operator.kind = "&&" || operator.kind = "||" then some operator.kind else none
  | none => none

/-- The node of a field's first child, found beside the kept children's nodes. -/
def slot (name : String) : List Tree → List Node → Option Node
  | [], _ => none
  | t :: ts, nodes =>
    if t.isKept then
      match nodes with
      | [] => none
      | n :: rest => if t.field = some name then some n else slot name ts rest
    else if t.field = some name then none
    else slot name ts nodes

/-- The nodes of the clauses among the children. -/
def clauses (children : List Tree) (nodes : List Node) : List Node :=
  (((children.filter Tree.isKept).zip nodes).filter fun p => p.1.form.isCase).map Prod.snd

/-- What a node says of itself. -/
def facts (path : String) (parent : Form) (index : Nat) (callee : Option String) (t : Tree) :
    Facts :=
  let base : Facts := { index := index, position := t.position path, callee := callee }
  match t.form with
  | .ifStatement => { base with kind := .conditional }
  | .forStatement =>
    let isRange := t.children.any fun c => c.isKept && c.form == .rangeClause
    { base with kind := if isRange then .iteration else .loop }
  | .expressionSwitch => { base with kind := .branch }
  | .selectStatement => { base with kind := .select }
  | .expressionCase | .typeCase => { base with kind := .branchCase }
  | .communicationCase => { base with kind := .selectCase }
  | .defaultCase =>
    { base with kind := if parent = .selectStatement then .selectCase else .branchCase,
                isDefault := true }
  | .funcLiteral => { base with kind := .functionLiteral }
  | .jump =>
    let label := (t.namedChildren.find? fun c => c.kind == "label_name").map Tree.text
    { base with kind := .jump, label := label }
  | .binary =>
    match logicalOperator? t with
    | some operator => { base with kind := .logical, operator := some operator }
    | none => base
  | .call => { base with kind := .call }
  | .parenthesized => { base with grouping := true }
  | _ => base

/-- The body and the alternative of a node, among its converted children. -/
def slots (t : Tree) (nodes : List Node) : List Node × Option Node :=
  match t.form with
  | .ifStatement =>
    ((slot "consequence" t.children nodes).toList, slot "alternative" t.children nodes)
  | .forStatement | .funcLiteral => ((slot "body" t.children nodes).toList, none)
  | .expressionSwitch | .selectStatement => (clauses t.children nodes, none)
  | _ => ([], none)

/-- The local names inside a node. -/
def enter (t : Tree) (scopes : Scopes) : Scopes :=
  Scopes.bind (openingNames t) (if t.form.opensScope then [] :: scopes else scopes)

/-- The local names after a node. -/
def leave (t : Tree) (scopes : Scopes) : Scopes :=
  let bound := scopes.bind (declaredNames t)
  if t.form.opensScope then bound.drop 1 else bound

mutual

/-- The node of a syntax node, and the state after it. -/
def convert (path : String) (parent : Form) : Tree → Conversion → Node × Conversion
  | .node tag cs, s =>
    let t := Tree.node tag cs
    let inside := enter t s.scopes
    let (nodes, s') := convertAll path t.form cs ⟨s.next + 1, inside⟩
    let (body, alternative) := slots t nodes
    (.node (facts path parent s.next (callee? inside t) t) nodes body alternative,
      ⟨s'.next, leave t s'.scopes⟩)

/-- The nodes of the kept nodes of a list, in order. -/
def convertAll (path : String) (parent : Form) : List Tree → Conversion → List Node × Conversion
  | [], s => ([], s)
  | t :: ts, s =>
    if t.isKept then
      let (n, s₁) := convert path parent t s
      let (ns, s₂) := convertAll path parent ts s₁
      (n :: ns, s₂)
    else convertAll path parent ts s

end

end GoComplexity
