/-
# Logical expressions

The reading of a logical expression goes from a logical node to its first and
its last child, and from a grouping to its first.  The operators that it finds
are those of the expression in source order, and the nodes that it meets all
lie below the node at which it starts.  What is counted of the operators is their
runs, the maximal stretches of equal ones.

Key definitions: `Node.operands`, `Node.operators`, `runs`.
Key theorems: `Node.collectOperators_fst`, `Node.mem_collected_iff`,
`Node.collected_subset_walk`, `countRuns_eq`.
-/
import GoComplexity.Score.Cognitive
import GoComplexity.Proofs.Shape
import Mathlib.Data.List.SplitBy

namespace GoComplexity
namespace Node

/-- The nodes in which the reading of an expression goes on from a node. -/
def operands (n : Node) : List Node :=
  if n.isLogical then n.children.head?.toList ++ n.children.getLast?.toList
  else if n.grouping then n.children.head?.toList
  else []

mutual

/-- The operators of an expression in source order, through groupings. -/
def operators : Node → List String
  | .node f cs b a =>
    if (Node.node f cs b a).isLogical then
      if cs.isEmpty then [] else firstOperators cs ++ f.operator.getD "" :: lastOperators cs
    else if f.grouping then firstOperators cs
    else []

/-- The operators of the first node of a list. -/
def firstOperators : List Node → List String
  | [] => []
  | n :: _ => operators n

/-- The operators of the last node of a list. -/
def lastOperators : List Node → List String
  | [] => []
  | [n] => operators n
  | _ :: n :: ns => lastOperators (n :: ns)

end

theorem firstOperators_eq (ns : List Node) :
    firstOperators ns = ns.head?.toList.flatMap operators := by
  cases ns <;> simp [firstOperators]

theorem lastOperators_eq : ∀ ns : List Node,
    lastOperators ns = ns.getLast?.toList.flatMap operators
  | [] => rfl
  | [n] => by simp [lastOperators]
  | _ :: n :: ns => by rw [lastOperators, lastOperators_eq (n :: ns), List.getLast?_cons_cons]

/-- The operators of an expression, put together from those of its operands. -/
def joined (n : Node) (f : Node → List String) : List String :=
  if n.isLogical then
    if n.children.isEmpty then []
    else n.children.head?.toList.flatMap f ++
      n.operator.getD "" :: n.children.getLast?.toList.flatMap f
  else if n.grouping then n.children.head?.toList.flatMap f
  else []

theorem operators_eq (n : Node) : n.operators = n.joined operators := by
  cases n with
  | node f cs b a => rw [operators, firstOperators_eq, lastOperators_eq]; rfl

theorem joined_congr {n : Node} {f g : Node → List String} (h : ∀ m ∈ n.operands, f m = g m) :
    n.joined f = n.joined g := by
  unfold operands at h
  unfold joined
  split
  · rename_i hl
    simp only [hl, ↓reduceIte, List.mem_append] at h
    rw [List.flatMap_congr fun m hm => h m (Or.inl hm),
      List.flatMap_congr fun m hm => h m (Or.inr hm)]
  · rename_i hl
    split
    · rename_i hg
      simp only [hl, hg, ↓reduceIte] at h
      exact List.flatMap_congr h
    · rfl

theorem operands_subset {n m : Node} (h : m ∈ n.operands) : m ∈ n.children := by
  unfold operands at h
  split at h
  · rcases List.mem_append.mp h with h | h
    · exact List.mem_of_mem_head? (Option.mem_toList.mp h)
    · exact List.mem_of_getLast? (Option.mem_toList.mp h)
  · split at h
    · exact List.mem_of_mem_head? (Option.mem_toList.mp h)
    · exact absurd h List.not_mem_nil

/-! ### The reading of a list of items -/

theorem collectFrom_node (n : Node) (rest : List Item) :
    collectFrom (.node n :: rest) =
      ((collectFrom (n.parts ++ rest)).1, n.index :: (collectFrom (n.parts ++ rest)).2) := by
  rw [collectFrom]

theorem collectFrom_operator (o : String) (rest : List Item) :
    collectFrom (.operator o :: rest) = (o :: (collectFrom rest).1, (collectFrom rest).2) := by
  rw [collectFrom]

theorem collectFrom_append (xs ys : List Item) :
    collectFrom (xs ++ ys) =
      ((collectFrom xs).1 ++ (collectFrom ys).1, (collectFrom xs).2 ++ (collectFrom ys).2) := by
  induction xs using collectFrom.induct with
  | case1 => simp [collectFrom]
  | case2 o rest _ _ _ ih =>
    rw [List.cons_append, collectFrom_operator, collectFrom_operator, ih]; rfl
  | case3 n rest _ _ _ ih =>
    rw [List.cons_append, collectFrom_node, collectFrom_node, ← List.append_assoc, ih]; rfl

theorem collectFrom_cons (n : Node) (rest : List Item) :
    collectFrom (.node n :: rest) =
      (n.collectOperators.1 ++ (collectFrom rest).1,
        n.collectOperators.2 ++ (collectFrom rest).2) :=
  collectFrom_append [.node n] rest

theorem collectOperators_eq (n : Node) :
    n.collectOperators = ((collectFrom n.parts).1, n.index :: (collectFrom n.parts).2) := by
  rw [collectOperators, collectFrom_node, List.append_nil]

/-- The reading of the parts of a node is the readings of its operands. -/
theorem collectFrom_parts (n : Node) :
    collectFrom n.parts = (n.joined fun m => m.collectOperators.1,
      n.operands.flatMap fun m => m.collectOperators.2) := by
  have hnil : collectFrom [] = ([], []) := by rw [collectFrom]
  unfold parts joined operands
  cases n.children with
  | nil => cases n.isLogical <;> cases n.grouping <;> simp [hnil]
  | cons c cs =>
    obtain ⟨last, hlast⟩ : ∃ last, (c :: cs).getLast? = some last :=
      ⟨_, List.getLast?_eq_some_getLast (List.cons_ne_nil c cs)⟩
    rw [hlast]
    cases n.isLogical <;> cases n.grouping <;>
      simp [hnil, collectFrom_cons, collectFrom_operator]

/-- **The reading finds the operators in source order.** -/
theorem collectOperators_fst (n : Node) : n.collectOperators.1 = n.operators := by
  induction n using Node.induction with
  | node n ih _ _ =>
    rw [collectOperators_eq, operators_eq, collectFrom_parts]
    exact joined_congr fun m hm => ih m (operands_subset hm)

/-- The reading meets the node and what the readings of its operands meet. -/
theorem mem_collected_iff (n : Node) (i : Nat) :
    i ∈ n.collectOperators.2 ↔ i = n.index ∨ ∃ m ∈ n.operands, i ∈ m.collectOperators.2 := by
  rw [collectOperators_eq, List.mem_cons, collectFrom_parts, List.mem_flatMap]

theorem self_mem_collected (n : Node) : n.index ∈ n.collectOperators.2 :=
  (mem_collected_iff n _).mpr (Or.inl rfl)

/-- The reading meets only nodes of the tree. -/
theorem collected_subset_walk (n : Node) {i : Nat} (h : i ∈ n.collectOperators.2) :
    i ∈ n.walk.map index := by
  induction n using Node.induction with
  | node n ih _ _ =>
    rcases (mem_collected_iff n i).mp h with rfl | ⟨m, hm, hi⟩
    · exact List.mem_map_of_mem n.self_mem_walk
    · have hc := operands_subset hm
      exact ((walk_sublist_of_child hc).map index).subset (ih m hc hi)

end Node

/-! ### Runs of operators -/

/-- The maximal runs of equal operators. -/
def runs (operators : List String) : List (List String) := operators.splitBy (· == ·)

@[simp] theorem runs_nil : runs [] = [] := rfl

/-- The runs that are split off after some, with one under way, are those and one for each
change of the operator. -/
theorem length_splitBy_loop (operators : List String) (last : String) (run : List String)
    (done : List (List String)) :
    (List.splitBy.loop (· == ·) operators last run done).length =
      done.length + 1 + countRuns (some last) operators := by
  induction operators generalizing last run done with
  | nil => rw [List.splitBy.loop, countRuns, List.length_reverse, List.length_cons, Nat.add_zero]
  | cons o operators ih =>
    rw [List.splitBy.loop, countRuns]
    by_cases h : last = o
    · rw [beq_iff_eq.mpr h, if_pos (congrArg some h), Nat.zero_add]
      exact ih o (last :: run) done
    · rw [beq_eq_false_iff_ne.mpr h, if_neg fun he => h (Option.some.inj he), ← Nat.add_assoc]
      exact ih o [] _

/-- **The count is that of the runs.** -/
theorem countRuns_eq (operators : List String) :
    countRuns none operators = (runs operators).length := by
  cases operators with
  | nil => rfl
  | cons o operators =>
    rw [runs, List.splitBy, length_splitBy_loop, countRuns, if_neg (Option.some_ne_none o).symm]
    rfl

end GoComplexity
