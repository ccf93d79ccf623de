/-
# Cognitive complexity

A measure of how hard a body is to follow.

* A conditional, a multiway branch, a select and a loop add one plus their
  nesting level, and their bodies are one level deeper.
* An else adds one, whatever its level; an else-if adds one and keeps the level
  of its chain.
* A function literal adds nothing and nests its body.
* A jump to a label adds one.
* A logical expression adds one for each run of equal operators.
* A call of the enclosing function by its name adds one.

The traversal keeps the work still to do on a list, the next piece first, so
the depth of a body does not matter.  A visitor remembers the indexes of the
nodes whose logical expression it has scored: an operand that is itself such
an expression is not scored again.

Key definitions: `Work`, `Visitor`, `Node.collectOperators`, `Visitor.step`,
`Visitor.run`, `cognitive`.
-/
import GoComplexity.Outline.Node

namespace GoComplexity

namespace Node

mutual

/-- A bound of the number of steps in which the operators of a node are
collected. -/
def reach : Node → Nat
  | .node _ cs _ _ => 2 + 2 * reachAll cs

def reachAll : List Node → Nat
  | [] => 0
  | n :: ns => reach n + reachAll ns

end

theorem reach_eq (n : Node) : n.reach = 2 + 2 * reachAll n.children := by
  cases n with
  | node f cs b a => simp [reach, children]

theorem reach_le_reachAll {n : Node} {ns : List Node} (h : n ∈ ns) : n.reach ≤ reachAll ns := by
  induction ns with
  | nil => simp at h
  | cons m ms ih =>
    simp only [reachAll]
    rcases List.mem_cons.1 h with rfl | h
    · omega
    · have := ih h; omega

/-- What is still to be read of a logical expression: a node or an operator
between two of them. -/
inductive Item where
  | node (n : Node)
  | operator (o : String)

def Item.reach : Item → Nat
  | .node n => n.reach
  | .operator _ => 1

/-- A bound of the number of steps in which a list of items is read. -/
def itemsReach : List Item → Nat
  | [] => 0
  | x :: xs => x.reach + itemsReach xs

theorem itemsReach_append (xs ys : List Item) :
    itemsReach (xs ++ ys) = itemsReach xs + itemsReach ys := by
  induction xs with
  | nil => simp [itemsReach]
  | cons x xs ih => simp only [List.cons_append, itemsReach, ih]; omega

/-- The parts in which the reading of a node's operators goes on: both operands
and the operator between them, the content of a grouping, or nothing. -/
def parts (n : Node) : List Item :=
  if n.isLogical then
    match n.children.head?, n.children.getLast? with
    | some first, some last => [.node first, .operator (n.operator.getD ""), .node last]
    | _, _ => []
  else if n.grouping then (n.children.head?.map Item.node).toList
  else []

theorem parts_reach_lt (n : Node) : itemsReach n.parts < n.reach := by
  have hn := reach_eq n
  unfold parts
  split
  · split
    · rename_i first last h₁ h₂
      have h1 := reach_le_reachAll (List.mem_of_mem_head? h₁)
      have h2 := reach_le_reachAll (List.mem_of_getLast? h₂)
      simp only [itemsReach, Item.reach]; omega
    · simp only [itemsReach]; omega
  · split
    · cases h : n.children.head? with
      | none => simp only [Option.map_none, Option.toList_none, itemsReach]; omega
      | some first =>
        have h1 := reach_le_reachAll (List.mem_of_mem_head? h)
        simp only [Option.map_some, Option.toList_some, itemsReach, Item.reach]; omega
    · simp only [itemsReach]; omega

/-- The operators of a list of items in source order, and the indexes of the
nodes read for them. -/
def collectFrom : List Item → List String × List Nat
  | [] => ([], [])
  | .operator o :: rest =>
    let (operators, indexes) := collectFrom rest
    (o :: operators, indexes)
  | .node n :: rest =>
    let (operators, indexes) := collectFrom (n.parts ++ rest)
    (operators, n.index :: indexes)
termination_by items => itemsReach items
decreasing_by
  · simp only [itemsReach, Item.reach]; omega
  · have := parts_reach_lt n
    simp only [itemsReach, itemsReach_append, Item.reach]; omega

/-- The operators of a logical expression in source order, through groupings,
and the indexes of the nodes that hold it. -/
def collectOperators (n : Node) : List String × List Nat := collectFrom [.node n]

end Node

/-- The number of maximal runs of equal operators, after a previous one. -/
def countRuns : Option String → List String → Nat
  | _, [] => 0
  | last, o :: os => (if last = some o then 0 else 1) + countRuns (some o) os

/-- A node to visit, its nesting level, and whether it is an else-if. -/
structure Work where
  node : Node
  nesting : Nat
  isElse : Bool := false

/-- What a traversal has found: the sum so far and the indexes of the nodes
whose logical expression is scored. -/
structure Visitor where
  total : Nat := 0
  scored : List Nat := []
deriving DecidableEq, Repr, Inhabited

namespace Visitor

/-- The work on a list of nodes at one level. -/
def works (ns : List Node) (nesting : Nat) : List Work := ns.map fun n => ⟨n, nesting, false⟩

/-- The work on a node's header, and one level deeper on its body. -/
def nestedWorks (n : Node) (nesting : Nat) : List Work :=
  works n.header nesting ++ works n.body (nesting + 1)

def add (v : Visitor) (k : Nat) : Visitor := { v with total := v.total + k }

/-- A visit of a conditional: its own increment, the flat one for an else, and
the work on its parts. -/
def conditional (v : Visitor) (w : Work) : Visitor × List Work :=
  let v := v.add (if w.isElse then 1 else w.nesting + 1)
  let inner := nestedWorks w.node w.nesting
  match w.node.alternative with
  | none => (v, inner)
  | some a =>
    if a.kind = .conditional then (v, inner ++ [⟨a, w.nesting, true⟩])
    else (v.add 1, inner ++ [⟨a, w.nesting + 1, false⟩])

/-- A visit of a logical node: the runs of its expression, unless it belongs to
an expression already scored. -/
def logical (v : Visitor) (n : Node) : Visitor :=
  if n.isLogical && !v.scored.contains n.index then
    let (operators, indexes) := n.collectOperators
    { total := v.total + countRuns none operators, scored := indexes ++ v.scored }
  else v

/-- One visit: the visitor after it, and the work it leaves, in source order. -/
def step (identity : Option String) (v : Visitor) (w : Work) : Visitor × List Work :=
  match w.node.kind with
  | .conditional => v.conditional w
  | .branch | .select | .loop | .iteration =>
    (v.add (w.nesting + 1), nestedWorks w.node w.nesting)
  | .functionLiteral => (v, nestedWorks w.node w.nesting)
  | .jump => (if w.node.label.getD "" = "" then v else v.add 1, works w.node.children w.nesting)
  | .logical => (v.logical w.node, works w.node.children w.nesting)
  | .call =>
    (if identity.isSome && w.node.callee == identity then v.add 1 else v,
      works w.node.children w.nesting)
  | .branchCase | .selectCase | .other => (v, works w.node.children w.nesting)

/-- The weight of a list of work, which every visit makes less. -/
def load (ws : List Work) : Nat := Node.weightAll (ws.map Work.node)

theorem load_append (xs ys : List Work) : load (xs ++ ys) = load xs + load ys := by
  simp [load, Node.weightAll_append]

theorem load_works (ns : List Node) (k : Nat) : load (works ns k) = Node.weightAll ns := by
  simp [load, works, Function.comp_def]

theorem load_nestedWorks_le (n : Node) (k : Nat) :
    load (nestedWorks n k) ≤ Node.weightAll n.children + Node.weightAll n.body := by
  rw [nestedWorks, load_append, load_works, load_works]
  have := n.weightAll_header_le
  omega

theorem load_step_lt (identity : Option String) (v : Visitor) (w : Work) :
    load (v.step identity w).2 < w.node.weight := by
  have hw := w.node.weight_eq
  have hn := load_nestedWorks_le w.node w.nesting
  have hc := load_works w.node.children w.nesting
  unfold step
  split
  · unfold conditional
    dsimp only
    split
    · dsimp only; omega
    · rename_i a ha
      rw [ha] at hw
      simp only [Node.weightOpt] at hw
      split <;>
        · rw [load_append]
          simp [load, Node.weightAll] at *
          omega
  all_goals dsimp only; omega

/-- Does the work of a list, the first piece first; what a piece leaves is done
before the pieces after it. -/
def run (identity : Option String) (v : Visitor) : List Work → Visitor
  | [] => v
  | w :: ws =>
    let next := v.step identity w
    run identity next.1 (next.2 ++ ws)
termination_by ws => load ws
decreasing_by
  have := load_step_lt identity v w
  rw [load_append]
  simp [load, Node.weightAll] at *
  omega

/-- Visits a body. -/
def visit (identity : Option String) (v : Visitor) (n : Node) : Visitor :=
  v.run identity [⟨n, 0, false⟩]

end Visitor

/-- The cognitive complexity of a body; `identity` is the package-level name
of the function, against which calls are compared. -/
def cognitive (identity : Option String) : Option Node → Nat
  | none => 0
  | some n => (Visitor.visit identity {} n).total

end GoComplexity
