/-
# Concrete syntax trees

A concrete syntax tree holds every token of a source file.  A node has a kind,
possibly a field name in its parent, the points where it starts and stops,
possibly a text, and flags: whether it is named (rather than a literal token),
whether it is missing (supplied by the parser), and whether an error lies in it.
Rows and columns count from zero, columns in bytes.

Key definitions: `Point`, `Tag`, `Tree`, `Tree.childByField?`,
`Tree.namedChildren`, `Tree.preorder`, `Tree.firstError?`.
-/
namespace GoComplexity

/-- A place in a source text. -/
structure Point where
  row : Nat := 0
  column : Nat := 0
deriving DecidableEq, Repr, Inhabited

/-- Whether a point lies before another one. -/
def Point.isBefore (p q : Point) : Bool :=
  p.row < q.row || (p.row == q.row && p.column < q.column)

/-- What a node of a tree says of itself. -/
structure Tag where
  kind : String
  field : Option String := none
  start : Point := {}
  stop : Point := {}
  text : Option String := none
  isNamed : Bool := true
  isMissing : Bool := false
  hasError : Bool := false
deriving DecidableEq, Repr, Inhabited

/-- A concrete syntax tree. -/
inductive Tree where
  | node (tag : Tag) (children : List Tree)
deriving Inhabited

namespace Tree

def tag : Tree → Tag
  | .node t _ => t

/-- All child nodes in source order. -/
def children : Tree → List Tree
  | .node _ cs => cs

def kind (t : Tree) : String := t.tag.kind
def field (t : Tree) : Option String := t.tag.field
def start (t : Tree) : Point := t.tag.start
def stop (t : Tree) : Point := t.tag.stop
def isNamed (t : Tree) : Bool := t.tag.isNamed
def isMissing (t : Tree) : Bool := t.tag.isMissing
def hasError (t : Tree) : Bool := t.tag.hasError

/-- The text of a node, empty if it has none. -/
def text (t : Tree) : String := t.tag.text.getD ""

/-- A comment, which may stand between any two tokens. -/
def isComment (t : Tree) : Bool := t.kind == "comment"

/-- The children that are not literal tokens. -/
def namedChildren (t : Tree) : List Tree := t.children.filter isNamed

/-- The first child of a field. -/
def childByField? (t : Tree) (name : String) : Option Tree :=
  t.children.find? fun c => c.field == some name

/-- The children of a field in order. -/
def childrenByField (t : Tree) (name : String) : List Tree :=
  t.children.filter fun c => c.field == some name

/-- Whether a literal token stands among the children. -/
def hasToken (t : Tree) (token : String) : Bool :=
  t.children.any fun c => !c.isNamed && c.kind == token

/-- Whether a node is a fault by itself: an error or a missing token. -/
def isFault (t : Tree) : Bool := t.kind == "ERROR" || t.isMissing

/-- Whether a fault lies in a node or it is missing. -/
def isSuspect (t : Tree) : Bool := t.hasError || t.isMissing

mutual

/-- The first fault in source order of a node that is entered whatever its
flags; below it only suspect nodes are entered. -/
def faultIn? : Tree → Option Tree
  | .node tag cs =>
    if (Tree.node tag cs).isFault then some (.node tag cs) else faultAmong? cs

/-- The first fault of the suspect nodes of a list. -/
def faultAmong? : List Tree → Option Tree
  | [] => none
  | t :: ts =>
    if t.isSuspect then
      match faultIn? t with
      | some fault => some fault
      | none => faultAmong? ts
    else faultAmong? ts

end

/-- The first fault of a tree in source order; none if the root has no error. -/
def firstError? (t : Tree) : Option Tree := if t.hasError then faultIn? t else none

mutual

/-- The node and all below it, each before its own children. -/
def preorder : Tree → List Tree
  | .node tag cs => .node tag cs :: preorderAll cs

def preorderAll : List Tree → List Tree
  | [] => []
  | t :: ts => preorder t ++ preorderAll ts

end

theorem preorderAll_eq : ∀ cs : List Tree, preorderAll cs = cs.flatMap preorder
  | [] => rfl
  | c :: cs => by rw [preorderAll, preorderAll_eq cs, List.flatMap_cons]

theorem preorder_eq (t : Tree) : t.preorder = t :: t.children.flatMap preorder := by
  cases t with
  | node tag cs => rw [preorder, preorderAll_eq, children]

/-- Whether a child is carried over into an outline: a named node that is no
comment. -/
def isKept (t : Tree) : Bool := t.isNamed && !t.isComment

mutual

/-- The number of levels of kept nodes. -/
def levels : Tree → Nat
  | .node _ cs => 1 + levelsAll cs

/-- The greatest number of levels of the kept nodes of a list. -/
def levelsAll : List Tree → Nat
  | [] => 0
  | t :: ts => max (if t.isKept then levels t else 0) (levelsAll ts)

end

end Tree

end GoComplexity
