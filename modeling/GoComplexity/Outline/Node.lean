/-
# The nodes of a function body

A body is a tree of nodes.  A node has a kind, an index that is unique in its
file, a position and its children in source order; some of the children stand
in its `body` (they are entered one nesting level deeper) or as its
`alternative` (the else branch), and the others form its header.  The measures
see nothing else of a program.

Nodes may also be made by hand: then indexes may repeat, and the body and the
alternative need not be among the children.

Key definitions: `NodeKind`, `Node`, `Node.header`, `Node.walk`,
`Node.isLogical`, `Node.weight`.
-/
import GoComplexity.Position

namespace GoComplexity

/-- The kinds of node that the measures tell apart. -/
inductive NodeKind where
  | conditional
  | loop
  | iteration
  | branch
  | branchCase
  | select
  | selectCase
  | functionLiteral
  | jump
  | logical
  | call
  | other
deriving DecidableEq, Repr, Inhabited

/-- The name of a kind. -/
def NodeKind.name : NodeKind → String
  | .conditional => "Conditional"
  | .loop => "Loop"
  | .iteration => "IterationOverCollection"
  | .branch => "MultiwayBranch"
  | .branchCase => "MultiwayBranchCase"
  | .select => "ConcurrentSelect"
  | .selectCase => "ConcurrentSelectCase"
  | .functionLiteral => "FunctionLiteral"
  | .jump => "JumpStatement"
  | .logical => "BinaryLogicalExpression"
  | .call => "CallExpression"
  | .other => "Other"

/-- All kinds. -/
def NodeKind.all : List NodeKind :=
  [.conditional, .loop, .iteration, .branch, .branchCase, .select, .selectCase, .functionLiteral,
    .jump, .logical, .call, .other]

/-- The kind of a name. -/
def NodeKind.ofName? (name : String) : Option NodeKind :=
  NodeKind.all.find? fun k => k.name == name

/-- What a node says of itself, apart from the nodes it holds. -/
structure Facts where
  kind : NodeKind := .other
  index : Nat := 0
  position : Position := default
  /-- The operator of a logical expression. -/
  operator : Option String := none
  /-- The target of a jump. -/
  label : Option String := none
  /-- Whether a clause is the default one. -/
  isDefault : Bool := false
  /-- The package-level name that a call invokes. -/
  callee : Option String := none
  /-- Whether an expression only groups another one. -/
  grouping : Bool := false
deriving DecidableEq, Repr, Inhabited

/-- A node of a function body. -/
inductive Node where
  | node (facts : Facts) (children body : List Node) (alternative : Option Node)
deriving Inhabited

namespace Node

def facts : Node → Facts
  | .node f _ _ _ => f

/-- The child nodes in source order. -/
def children : Node → List Node
  | .node _ cs _ _ => cs

/-- The nodes entered one nesting level deeper. -/
def body : Node → List Node
  | .node _ _ b _ => b

/-- The else branch. -/
def alternative : Node → Option Node
  | .node _ _ _ a => a

def kind (n : Node) : NodeKind := n.facts.kind
def index (n : Node) : Nat := n.facts.index
def position (n : Node) : Position := n.facts.position
def operator (n : Node) : Option String := n.facts.operator
def label (n : Node) : Option String := n.facts.label
def isDefault (n : Node) : Bool := n.facts.isDefault
def callee (n : Node) : Option String := n.facts.callee
def grouping (n : Node) : Bool := n.facts.grouping

/-- The indexes of the body and the alternative. -/
def nestedIndexes (n : Node) : List Nat :=
  n.body.map index ++ (n.alternative.map index).toList

/-- The children at the node's own nesting level: initialiser, condition, tag. -/
def header (n : Node) : List Node :=
  let nested := n.nestedIndexes
  n.children.filter fun c => !nested.contains c.index

/-- An expression joined by one of the two logical operators. -/
def isLogical (n : Node) : Bool :=
  n.kind == .logical && (n.operator == some "&&" || n.operator == some "||")

mutual

/-- The node and all below it through children, each before its own children. -/
def walk : Node → List Node
  | .node f cs b a => .node f cs b a :: walkAll cs

/-- The walks of a list of nodes, one after the other. -/
def walkAll : List Node → List Node
  | [] => []
  | n :: ns => walk n ++ walkAll ns

end

mutual

/-- The number of steps that bounds any traversal of the node. -/
def weight : Node → Nat
  | .node _ cs b a => 1 + weightAll cs + weightAll b + weightOpt a

def weightAll : List Node → Nat
  | [] => 0
  | n :: ns => weight n + weightAll ns

def weightOpt : Option Node → Nat
  | none => 0
  | some n => weight n

end

theorem weight_eq (n : Node) :
    n.weight = 1 + weightAll n.children + weightAll n.body + weightOpt n.alternative := by
  cases n with
  | node f cs b a => simp [weight, children, body, alternative]

theorem weight_pos (n : Node) : 0 < n.weight := by
  rw [weight_eq]; omega

theorem weightAll_append (xs ys : List Node) :
    weightAll (xs ++ ys) = weightAll xs + weightAll ys := by
  induction xs with
  | nil => simp [weightAll]
  | cons x xs ih => simp [weightAll, ih]; omega

/-- Leaving nodes out of a list makes it no heavier. -/
theorem weightAll_filter_le (p : Node → Bool) (xs : List Node) :
    weightAll (xs.filter p) ≤ weightAll xs := by
  induction xs with
  | nil => simp
  | cons x xs ih =>
    by_cases h : p x
    · simp [h, weightAll]; omega
    · simp [h, weightAll]; omega

theorem weightAll_header_le (n : Node) : weightAll n.header ≤ weightAll n.children :=
  weightAll_filter_le _ _

end Node

end GoComplexity
