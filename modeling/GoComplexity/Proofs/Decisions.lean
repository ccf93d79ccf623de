/-
# The decisions of a body

A conversion makes one node for each node of syntax that it reaches, in the same
order, and the node adds to the cyclomatic complexity just what its syntax says:
one for a branch, a loop, a case with an expression, a type or a communication,
and a logical operator.  A default clause is a case whatever statement it stands
in, and a function literal is walked like any other node, so nothing hangs on
what is above a node.

Key definitions: `Tree.reached`, `Tree.isDecision`.
Key theorems: `map_decisionPoints_walk_convert`, `cyclomatic_convert`.
-/
import GoComplexity.Proofs.Conversion
import GoComplexity.Score.Cyclomatic
import Mathlib.Algebra.GroupWithZero.Nat

namespace GoComplexity

namespace Tree

mutual

/-- The node and all below it that are carried over, each before its own
children. -/
def reached : Tree → List Tree
  | .node tag cs => .node tag cs :: reachedAll cs

def reachedAll : List Tree → List Tree
  | [] => []
  | c :: cs => (if c.isKept then c.reached else []) ++ reachedAll cs

end

theorem reachedAll_eq : ∀ cs : List Tree, reachedAll cs = (cs.filter isKept).flatMap reached
  | [] => rfl
  | c :: cs => by
    by_cases hc : c.isKept = true
    · rw [reachedAll, if_pos hc, List.filter_cons_of_pos hc, List.flatMap_cons, reachedAll_eq cs]
    · rw [reachedAll, if_neg hc, List.filter_cons_of_neg hc, List.nil_append, reachedAll_eq cs]

theorem reached_eq (t : Tree) : t.reached = t :: t.kept.flatMap reached := by
  cases t with
  | node tag cs => rw [reached, reachedAll_eq]; rfl

/-- Whether a node is a decision by itself. -/
def isDecision (t : Tree) : Bool :=
  ["if_statement", "for_statement", "expression_case", "type_case",
      "communication_case"].contains t.kind ||
    t.kind == "binary_expression" &&
      (t.childByField? "operator").any fun o => o.kind == "&&" || o.kind == "||"

end Tree

/-! ### One node -/

theorem logicalOperator?_isSome (t : Tree) :
    (logicalOperator? t).isSome =
      (t.childByField? "operator").any fun o => o.kind == "&&" || o.kind == "||" := by
  unfold logicalOperator?
  cases t.childByField? "operator" with
  | none => rfl
  | some o =>
    by_cases h : o.kind = "&&" ∨ o.kind = "||"
    · rcases h with h | h <;> simp [h]
    · rw [not_or] at h
      simp [h.1, h.2]

/-- Whether a node is a decision, told by its form. -/
theorem Tree.isDecision_eq (t : Tree) :
    t.isDecision =
      match t.form with
      | .ifStatement | .forStatement | .expressionCase | .typeCase | .communicationCase => true
      | .binary => (logicalOperator? t).isSome
      | _ => false := by
  have hkind : t.form ≠ .other → t.kind ∈ t.form.kinds := Form.mem_kinds_ofKind
  rw [logicalOperator?_isSome]
  cases hf : t.form <;> rw [hf] at hkind
  case other =>
    -- a kind of one of the other forms would give the node that form
    have hne : ∀ (f : Form) (kind : String), f ≠ .other → kind ∈ f.kinds → t.kind ≠ kind := by
      intro f kind hother hk he
      have hform : t.form = f := Form.ofKind_of_mem_kinds (he ▸ hk)
      exact hother (hform.symm.trans hf)
    have h₁ := hne .ifStatement "if_statement" (by decide) (by decide)
    have h₂ := hne .forStatement "for_statement" (by decide) (by decide)
    have h₃ := hne .expressionCase "expression_case" (by decide) (by decide)
    have h₄ := hne .typeCase "type_case" (by decide) (by decide)
    have h₅ := hne .communicationCase "communication_case" (by decide) (by decide)
    have h₆ := hne .binary "binary_expression" (by decide) (by decide)
    simp [isDecision, h₁, h₂, h₃, h₄, h₅, h₆]
  all_goals
    have hk := hkind (by decide)
    simp only [Form.kinds, List.mem_cons, List.not_mem_nil, or_false] at hk
  case jump => rcases hk with hk | hk | hk | hk <;> simp [isDecision, hk]
  case valueSpec => rcases hk with hk | hk <;> simp [isDecision, hk]
  all_goals simp [isDecision, hk]

variable (path : String) (parent : Form)

/-- **A node adds what its syntax says**, wherever it stands. -/
theorem decisionPoints_convert (t : Tree) (s : Conversion) :
    (convert path parent t s).1.decisionPoints = if t.isDecision then 1 else 0 := by
  rw [convert_eq, Tree.isDecision_eq]
  unfold Node.decisionPoints Node.isLogical Node.kind Node.operator Node.isDefault Node.facts facts
  cases t.form
  case forStatement =>
    cases t.children.any fun c => c.isKept && c.form == .rangeClause <;> rfl
  case defaultCase => by_cases hp : parent = .selectStatement <;> simp [hp]
  case binary =>
    cases ho : logicalOperator? t with
    | none => rfl
    | some o =>
      rcases logicalOperator?_mem ho with rfl | rfl <;> rfl
  all_goals rfl

/-! ### The whole body -/

theorem map_decisionPoints_convertAll : ∀ (cs : List Tree),
    (∀ c ∈ cs, c.isKept = true ∧ ∀ s, (convert path parent c s).1.walk.map Node.decisionPoints =
      c.reached.map fun d => if d.isDecision then 1 else 0) →
    ∀ s, ((convertAll path parent cs s).1.flatMap Node.walk).map Node.decisionPoints =
      (cs.flatMap Tree.reached).map fun d => if d.isDecision then 1 else 0
  | [], _, _ => rfl
  | c :: cs, h, s => by
    obtain ⟨hc, hwalk⟩ := h c List.mem_cons_self
    have htail := map_decisionPoints_convertAll cs fun d hd => h d (List.mem_cons_of_mem _ hd)
    rw [convertAll_cons path parent hc, List.flatMap_cons, List.flatMap_cons, List.map_append,
      List.map_append, hwalk, htail]

/-- **No node is lost, doubled or taken for another.** The nodes of a walk add
what the reached nodes of syntax say, one by one. -/
theorem map_decisionPoints_walk_convert (t : Tree) (s : Conversion) :
    (convert path parent t s).1.walk.map Node.decisionPoints =
      t.reached.map fun d => if d.isDecision then 1 else 0 := by
  induction t using Tree.keptInduction generalizing parent s with
  | node t ih =>
    have hall := map_decisionPoints_convertAll path t.form t.kept
      (fun c hc => ⟨Tree.isKept_of_mem_kept hc, ih c hc t.form⟩) (s.inside t)
    rw [Node.walk_eq, Tree.reached_eq, List.map_cons, List.map_cons, decisionPoints_convert,
      children_convert]
    exact congrArg _ hall

/-- The decisions of a node are the decision points of its walk. -/
theorem Node.decisions_eq_sum_walk (n : Node) : n.decisions = (n.walk.map decisionPoints).sum := by
  induction n using Node.induction with
  | node n ih _ _ =>
    have hall : ∀ ns : List Node, (∀ m ∈ ns, m.decisions = (m.walk.map decisionPoints).sum) →
        decisionsAll ns = ((ns.flatMap walk).map decisionPoints).sum := by
      intro ns h
      induction ns with
      | nil => rfl
      | cons m ms ihs =>
        rw [decisionsAll, h m List.mem_cons_self, ihs fun k hk => h k (List.mem_cons_of_mem _ hk),
          List.flatMap_cons, List.map_append, List.sum_append]
    have hn : n.decisions = n.decisionPoints + decisionsAll n.children := by
      cases n with
      | node f cs b a => rfl
    rw [hn, hall n.children ih, walk_eq, List.map_cons, List.sum_cons]

/-- **The cyclomatic complexity counts the decisions of the syntax.** It is one
more than the number of nodes reached from the body that are a branch, a loop, a
case that is not the default one, or a logical expression. -/
theorem cyclomatic_convert (t : Tree) (s : Conversion) :
    cyclomatic (some (convert path parent t s).1) = 1 + t.reached.countP Tree.isDecision := by
  have hsum : ∀ ts : List Tree,
      (ts.map fun d => if d.isDecision then 1 else 0).sum = ts.countP Tree.isDecision := by
    intro ts
    induction ts with
    | nil => rfl
    | cons d ds ih =>
      rw [List.map_cons, List.sum_cons, List.countP_cons, ih]
      omega
  calc cyclomatic (some (convert path parent t s).1)
      = 1 + ((convert path parent t s).1.walk.map Node.decisionPoints).sum := by
        rw [← Node.decisions_eq_sum_walk]; rfl
    _ = 1 + (t.reached.map fun d => if d.isDecision then 1 else 0).sum := by
        rw [map_decisionPoints_walk_convert]
    _ = 1 + t.reached.countP Tree.isDecision := by rw [hsum]

end GoComplexity
