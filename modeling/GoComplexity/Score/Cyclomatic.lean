/-
# Cyclomatic complexity

One for the straight path, and one more for each decision point of the body:
a conditional, a loop of either kind, a case that is not the default one, and
a logical operator.  Function literals are walked like any other node, so their
decision points count towards the function that holds them.

Key definitions: `Node.decisionPoints`, `Node.decisions`, `cyclomatic`.
-/
import GoComplexity.Outline.Node

namespace GoComplexity

namespace Node

/-- What a node adds by itself to the cyclomatic complexity. -/
def decisionPoints (n : Node) : Nat :=
  match n.kind with
  | .conditional | .loop | .iteration => 1
  | .branchCase | .selectCase => if n.isDefault then 0 else 1
  | _ => if n.isLogical then 1 else 0

mutual

/-- The decision points of a node and of all below it. -/
def decisions : Node → Nat
  | .node f cs b a => (Node.node f cs b a).decisionPoints + decisionsAll cs

def decisionsAll : List Node → Nat
  | [] => 0
  | n :: ns => decisions n + decisionsAll ns

end

end Node

/-- The cyclomatic complexity of a body; a missing body has the straight path
only. -/
def cyclomatic : Option Node → Nat
  | none => 1
  | some n => 1 + n.decisions

end GoComplexity
