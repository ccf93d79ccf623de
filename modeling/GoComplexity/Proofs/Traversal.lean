/-
# The visits of a traversal

What a visit leaves to be done hangs on the node and its level alone, not on
what was found before.  So the visits of a traversal are a list that can be
told without a visitor, and a run takes the visitor through it.  The list for
some work and then some more is the two lists in a row; in a tree of the shape
that bodies have it holds every node of the tree, each once.  A visit adds to
what was counted before, so visits that count more than others do so together.

Key definitions: `Work.leaves`, `visits`.
Key theorems: `Visitor.run_eq_foldl_visits`, `visits_append`,
`Visitor.run_append`, `Visitor.foldl_step_more`, `Node.Shaped.perm_visits`.
-/
import GoComplexity.Score.Cognitive
import GoComplexity.Proofs.Shape

namespace GoComplexity

open Visitor

/-- The work on the else branch of a conditional: an else-if keeps the level of
its chain. -/
def Work.elseWork (w : Work) : List Work :=
  match w.node.alternative with
  | none => []
  | some a =>
    if a.kind = .conditional then [⟨a, w.nesting, true⟩] else [⟨a, w.nesting + 1, false⟩]

/-- The work that a visit leaves, in source order. -/
def Work.leaves (w : Work) : List Work :=
  match w.node.kind with
  | .conditional => nestedWorks w.node w.nesting ++ w.elseWork
  | .branch | .select | .loop | .iteration | .functionLiteral => nestedWorks w.node w.nesting
  | _ => works w.node.children w.nesting

/-- What a visit leaves does not hang on the visitor. -/
theorem Visitor.step_snd (identity : Option String) (v : Visitor) (w : Work) :
    (v.step identity w).2 = w.leaves := by
  unfold step Work.leaves
  cases w.node.kind <;> try rfl
  simp only [conditional, Work.elseWork]
  cases w.node.alternative with
  | none => simp
  | some a => by_cases h : a.kind = .conditional <;> simp [h]

theorem load_leaves_lt (w : Work) : load w.leaves < w.node.weight :=
  Visitor.step_snd none {} w ▸ load_step_lt none {} w

theorem load_cons (w : Work) (ws : List Work) : load (w :: ws) = w.node.weight + load ws := rfl

/-- The visits made for a list of work, in order. -/
def visits : List Work → List Work
  | [] => []
  | w :: ws => w :: visits (w.leaves ++ ws)
termination_by ws => load ws
decreasing_by
  have := load_leaves_lt w
  rw [load_append, load_cons]
  omega

theorem visits_cons (w : Work) (ws : List Work) :
    visits (w :: ws) = w :: visits (w.leaves ++ ws) := by
  rw [visits]

/-- A run takes the visitor through the visits, one by one. -/
theorem Visitor.run_eq_foldl_visits (identity : Option String) (v : Visitor) (ws : List Work) :
    v.run identity ws = (visits ws).foldl (fun v w => (v.step identity w).1) v := by
  induction v, ws using run.induct identity with
  | case1 v => rw [run, visits, List.foldl_nil]
  | case2 v w ws next ih => rw [run, visits_cons, List.foldl_cons, ih, step_snd]

/-- All that the first part of the work leads to is done before the second. -/
theorem visits_append (xs ys : List Work) : visits (xs ++ ys) = visits xs ++ visits ys := by
  induction xs using visits.induct with
  | case1 => rw [visits, List.nil_append, List.nil_append]
  | case2 w ws ih =>
    rw [List.cons_append, visits_cons, visits_cons, ← List.append_assoc, ih, List.cons_append]

theorem visits_singleton (w : Work) : visits [w] = w :: visits w.leaves := by
  rw [visits_cons, List.append_nil]

theorem visits_eq_flatMap : ∀ ws : List Work, visits ws = ws.flatMap fun w => visits [w]
  | [] => by rw [visits, List.flatMap_nil]
  | w :: ws => by
    rw [List.flatMap_cons, ← visits_eq_flatMap ws, ← visits_append, List.singleton_append]

theorem Visitor.run_append (identity : Option String) (v : Visitor) (xs ys : List Work) :
    v.run identity (xs ++ ys) = (v.run identity xs).run identity ys := by
  simp only [run_eq_foldl_visits, visits_append, List.foldl_append]

/-- A run on one piece of work visits its node and goes on with what that leaves. -/
theorem Visitor.run_singleton (identity : Option String) (v : Visitor) (w : Work) :
    v.run identity [w] = (v.step identity w).1.run identity w.leaves := by
  rw [run, List.append_nil, step_snd]

/-! ### What was counted before -/

theorem Visitor.add_add (v : Visitor) (j k : Nat) : (v.add j).add k = v.add (j + k) :=
  congrArg (Visitor.mk · v.scored) (Nat.add_assoc v.total j k)

theorem Visitor.add_right_comm (v : Visitor) (j k : Nat) : (v.add j).add k = (v.add k).add j := by
  rw [add_add, add_add, Nat.add_comm]

/-- A visit adds to what was counted before and does not look at it. -/
theorem Visitor.step_add (identity : Option String) (v : Visitor) (k : Nat) (w : Work) :
    ((v.add k).step identity w).1 = (v.step identity w).1.add k := by
  unfold step
  cases w.node.kind <;> simp only
  case conditional =>
    unfold conditional
    cases w.node.alternative with
    | none => exact v.add_right_comm _ _
    | some a =>
      by_cases h : a.kind = .conditional
      · simp only [if_pos h]
        exact v.add_right_comm _ _
      · simp only [if_neg h]
        rw [v.add_right_comm, Visitor.add_right_comm]
  case logical =>
    have hscored : (v.add k).scored = v.scored := rfl
    unfold logical
    rw [hscored]
    split
    · exact congrArg (Visitor.mk · _) (Nat.add_right_comm _ _ _)
    · rfl
  case jump =>
    split
    · rfl
    · exact v.add_right_comm _ _
  case call =>
    split
    · exact v.add_right_comm _ _
    · rfl
  case branch | select | loop | iteration => exact v.add_right_comm _ _

theorem Visitor.foldl_step_add (identity : Option String) (k : Nat) : ∀ (ws : List Work)
    (v : Visitor), ws.foldl (fun v w => (v.step identity w).1) (v.add k) =
      (ws.foldl (fun v w => (v.step identity w).1) v).add k
  | [], _ => rfl
  | w :: ws, v => by rw [List.foldl_cons, List.foldl_cons, step_add, foldl_step_add identity k ws]

theorem Visitor.run_add (identity : Option String) (v : Visitor) (k : Nat) (ws : List Work) :
    (v.add k).run identity ws = (v.run identity ws).add k := by
  rw [run_eq_foldl_visits, run_eq_foldl_visits, foldl_step_add]

/-- **Visits that count more.** If the visits with a property count so much more each,
then they do so together. -/
theorem Visitor.foldl_step_more (identity : Option String) {more : Visitor → Work → Visitor}
    {p : Work → Bool} {k : Nat}
    (h : ∀ v w, more v w = (v.step identity w).1.add (if p w then k else 0)) :
    ∀ (ws : List Work) (v : Visitor),
      ws.foldl more v =
        (ws.foldl (fun v w => (v.step identity w).1) v).add (k * ws.countP p)
  | [], _ => rfl
  | w :: ws, v => by
    rw [List.foldl_cons, List.foldl_cons, foldl_step_more identity h ws, h, foldl_step_add, add_add,
      List.countP_cons]
    by_cases hw : p w
    · rw [if_pos hw, if_pos hw, Nat.mul_add, Nat.mul_one, Nat.add_comm]
    · rw [if_neg hw, if_neg hw, Nat.zero_add, Nat.add_zero]

/-! ### Every node is visited once -/

theorem map_node_works (ns : List Node) (k : Nat) : (works ns k).map Work.node = ns := by
  simp [works, Function.comp_def]

theorem map_node_elseWork (w : Work) : w.elseWork.map Work.node = w.node.alternative.toList := by
  unfold Work.elseWork
  cases w.node.alternative with
  | none => rfl
  | some a => by_cases h : a.kind = .conditional <;> simp [h]

/-- A visit of a node leaves the work on its children, each once. -/
theorem Node.Shaped.perm_leaves {w : Work} (h : w.node.Shaped) :
    (w.leaves.map Work.node).Perm w.node.children := by
  have hp := h.perm_children
  have hnested : w.node.kind ≠ .conditional →
      ((nestedWorks w.node w.nesting).map Work.node).Perm w.node.children := by
    intro hk
    rw [h.self_fits.alternative_eq_none hk, Option.toList_none, List.append_nil] at hp
    rwa [nestedWorks, List.map_append, map_node_works, map_node_works]
  unfold Work.leaves
  cases hk : w.node.kind <;> simp only
  case conditional =>
    rwa [List.map_append, map_node_elseWork, nestedWorks, List.map_append, map_node_works,
      map_node_works]
  case branch | select | loop | iteration | functionLiteral =>
    exact hnested (by rw [hk]; decide)
  case branchCase | selectCase | jump | logical | call | other =>
    rw [map_node_works]

/-- **Every node is visited, once.** -/
theorem Node.Shaped.perm_visits {n : Node} (h : n.Shaped) (k : Nat) (e : Bool) :
    ((visits [⟨n, k, e⟩]).map Work.node).Perm n.walk := by
  induction n using Node.induction generalizing k e with
  | node n ih _ _ =>
    have hl := Node.Shaped.perm_leaves (w := ⟨n, k, e⟩) h
    rw [visits_singleton, List.map_cons, Node.walk_eq]
    refine List.Perm.cons n ?_
    rw [visits_eq_flatMap, List.map_flatMap]
    have hw : ∀ w ∈ Work.leaves ⟨n, k, e⟩, ((visits [w]).map Work.node).Perm w.node.walk := by
      intro w hw
      have hc : w.node ∈ n.children := hl.subset (List.mem_map_of_mem hw)
      exact ih w.node hc (h.child hc) w.nesting w.isElse
    refine (List.Perm.flatMap_left _ hw).trans ?_
    rw [← List.flatMap_map]
    exact hl.flatMap_right _

end GoComplexity
