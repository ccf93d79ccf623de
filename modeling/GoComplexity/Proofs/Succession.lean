/-
# Trees one after the other

A visitor reads and writes marks only at the indexes that a tree holds.  So what it finds
in a tree does not hang on the trees visited before, as long as they hold other indexes:
it finds what a new visitor would find.  Its sum after some trees is the sum of their
scores, in whatever order they are visited.  Which numbers the indexes are does not matter
either, as long as they stay apart.  Nothing is assumed of the trees: within a tree indexes
may repeat.

Key definitions: `Node.indexes`, `Visitor.Ahead`, `Node.reindex`.
Key theorems: `Visitor.Ahead.step`, `Visitor.visit_total`, `Visitor.total_foldl_visit`,
`cognitive_reindex`, `foldl_visit_of_disjoint`.
-/
import GoComplexity.Proofs.Increment
import GoComplexity.Proofs.Relabelling
import Mathlib.Algebra.Order.BigOperators.Group.List
import Mathlib.Algebra.Order.Group.Nat
import Mathlib.Data.Set.Operations

namespace GoComplexity

/-! ### The indexes that a tree holds -/

namespace Node

mutual

/-- The indexes of a node and of all that it holds among its children, in its body and as
its alternative. -/
def indexes : Node → List Nat
  | .node f cs b a => f.index :: (indexesAll cs ++ (indexesAll b ++ indexesOpt a))

def indexesAll : List Node → List Nat
  | [] => []
  | n :: ns => n.indexes ++ indexesAll ns

def indexesOpt : Option Node → List Nat
  | none => []
  | some n => n.indexes

end

theorem indexesAll_eq : ∀ ns : List Node, indexesAll ns = ns.flatMap indexes
  | [] => rfl
  | n :: ns => by rw [indexesAll, indexesAll_eq ns, List.flatMap_cons]

theorem indexes_eq (n : Node) :
    n.indexes = n.index ::
      (n.children.flatMap indexes ++ (n.body.flatMap indexes ++
        n.alternative.toList.flatMap indexes)) := by
  cases n with
  | node f cs b a =>
    rw [indexes, indexesAll_eq, indexesAll_eq]
    cases a with
    | none => rfl
    | some a => exact congrArg (fun is => f.index :: (_ ++ (_ ++ is))) (List.append_nil _).symm

variable {n c : Node}

theorem self_mem_indexes (n : Node) : n.index ∈ n.indexes := by
  rw [indexes_eq]
  exact List.mem_cons_self

theorem indexes_subset_of_child (h : c ∈ n.children) : c.indexes ⊆ n.indexes := by
  intro i hi
  rw [n.indexes_eq]
  exact List.mem_cons_of_mem _ (List.mem_append_left _ (List.mem_flatMap.mpr ⟨c, h, hi⟩))

theorem indexes_subset_of_body (h : c ∈ n.body) : c.indexes ⊆ n.indexes := by
  intro i hi
  rw [n.indexes_eq]
  exact List.mem_cons_of_mem _ (List.mem_append_right _
    (List.mem_append_left _ (List.mem_flatMap.mpr ⟨c, h, hi⟩)))

theorem indexes_subset_of_alternative (h : c ∈ n.alternative) : c.indexes ⊆ n.indexes := by
  intro i hi
  rw [n.indexes_eq]
  exact List.mem_cons_of_mem _ (List.mem_append_right _
    (List.mem_append_right _ (List.mem_flatMap.mpr ⟨c, Option.mem_toList.mpr h, hi⟩)))

/-- The reading of an expression meets only indexes of the tree. -/
theorem collected_subset_indexes (n : Node) : n.collectOperators.2 ⊆ n.indexes := by
  induction n using Node.induction with
  | node n ih _ _ =>
    intro i hi
    rcases (mem_collected_iff n i).mp hi with rfl | ⟨m, hm, hi⟩
    · exact n.self_mem_indexes
    · have hc := operands_subset hm
      exact indexes_subset_of_child hc (ih m hc hi)

end Node

open Visitor

theorem indexes_subset_of_mem_works {ns : List Node} {nesting : Nat} {is : List Nat}
    (h : ∀ n ∈ ns, n.indexes ⊆ is) : ∀ x ∈ works ns nesting, x.node.indexes ⊆ is := by
  intro x hx
  obtain ⟨n, hn, rfl⟩ := List.mem_map.mp hx
  exact h n hn

/-- The work that a visit leaves is on nodes that its node holds. -/
theorem Work.indexes_subset_of_mem_leaves {w x : Work} (hx : x ∈ w.leaves) :
    x.node.indexes ⊆ w.node.indexes := by
  have hchildren : ∀ x ∈ works w.node.children w.nesting, x.node.indexes ⊆ w.node.indexes :=
    indexes_subset_of_mem_works fun _ => Node.indexes_subset_of_child
  have hnested : ∀ x ∈ nestedWorks w.node w.nesting, x.node.indexes ⊆ w.node.indexes := by
    intro x hx
    rcases List.mem_append.mp hx with hx | hx
    · exact indexes_subset_of_mem_works
        (fun _ hn => Node.indexes_subset_of_child (List.mem_of_mem_filter hn)) x hx
    · exact indexes_subset_of_mem_works (fun _ => Node.indexes_subset_of_body) x hx
  have helse : ∀ x ∈ w.elseWork, x.node.indexes ⊆ w.node.indexes := by
    intro x hx
    have hmem : x.node ∈ w.elseWork.map Work.node := List.mem_map_of_mem hx
    rw [map_node_elseWork] at hmem
    exact Node.indexes_subset_of_alternative (Option.mem_toList.mp hmem)
  unfold Work.leaves at hx
  cases hk : w.node.kind <;> simp only [hk] at hx
  case conditional => exact (List.mem_append.mp hx).elim (hnested x) (helse x)
  case branch | select | loop | iteration | functionLiteral => exact hnested x hx
  case branchCase | selectCase | jump | logical | call | other => exact hchildren x hx

/-- A traversal stays within the trees that it is to visit. -/
theorem indexes_subset_of_mem_visits {ws : List Work} {is : List Nat}
    (h : ∀ w ∈ ws, w.node.indexes ⊆ is) : ∀ x ∈ visits ws, x.node.indexes ⊆ is := by
  induction ws using visits.induct with
  | case1 =>
    rw [visits]
    exact h
  | case2 w ws ih =>
    obtain ⟨hw, hws⟩ := List.forall_mem_cons.mp h
    rw [visits_cons]
    refine List.forall_mem_cons.mpr ⟨hw, ih (List.forall_mem_append.mpr ⟨fun x hx => ?_, hws⟩)⟩
    exact fun i hi => hw (Work.indexes_subset_of_mem_leaves hx hi)

/-! ### Marks elsewhere -/

/-- Whether a visitor has so much more than another one and the same marks at some
indexes. -/
structure Visitor.Ahead (k : Nat) (is : List Nat) (v v' : Visitor) : Prop where
  total : v.total = v'.total + k
  marks : ∀ i ∈ is, i ∈ v.scored ↔ i ∈ v'.scored

variable {identity : Option String} {k : Nat} {is : List Nat} {v v' : Visitor}

/-- **A visit reads marks at the indexes of its node alone**: visitors that agree there
find the same. -/
theorem Visitor.Ahead.step (h : Ahead k is v v') {w : Work} (hw : w.node.indexes ⊆ is) :
    Ahead k is (v.step identity w).1 (v'.step identity w).1 := by
  obtain ⟨htotal, hmarks⟩ := h
  have hself : v.scored.contains w.node.index = v'.scored.contains w.node.index := by
    rw [Bool.eq_iff_iff, List.contains_iff_mem, List.contains_iff_mem]
    exact hmarks _ (hw w.node.self_mem_indexes)
  have hadd : ∀ j : Nat, Ahead k is (v.add j) (v'.add j) := fun j =>
    ⟨by simp only [add]; omega, hmarks⟩
  unfold Visitor.step
  cases w.node.kind <;> simp only
  case conditional =>
    refine ⟨?_, fun i hi => ?_⟩
    · rw [conditional_total, conditional_total, htotal]
      omega
    · rw [conditional_scored, conditional_scored]
      exact hmarks i hi
  case logical =>
    refine ⟨?_, fun i hi => ?_⟩
    · rw [logical_total, logical_total, htotal, hself]
      omega
    · rw [mem_scored_logical, mem_scored_logical, hself, hmarks i hi]
  case branch | select | loop | iteration => exact hadd _
  case jump =>
    split
    · exact ⟨htotal, hmarks⟩
    · exact hadd 1
  case call =>
    split
    · exact hadd 1
    · exact ⟨htotal, hmarks⟩
  case functionLiteral | branchCase | selectCase | other => exact ⟨htotal, hmarks⟩

/-- A visit writes marks at the indexes of its node alone. -/
theorem Visitor.mem_scored_step_of_notMem {w : Work} {i : Nat} (hi : i ∉ w.node.indexes) :
    i ∈ (v.step identity w).1.scored ↔ i ∈ v.scored := by
  by_cases hk : w.node.kind = .logical
  · have hs : (v.step identity w).1 = v.logical w.node := by
      unfold Visitor.step
      rw [hk]
    rw [hs, mem_scored_logical]
    exact or_iff_left fun h => hi (w.node.collected_subset_indexes h.2)
  · rw [scored_step identity v hk]

/-- Visitors that agree on a tree find the same in it. -/
theorem Visitor.Ahead.run (h : Ahead k is v v') {ws : List Work}
    (hws : ∀ w ∈ ws, w.node.indexes ⊆ is) :
    Ahead k is (v.run identity ws) (v'.run identity ws) := by
  rw [run_eq_foldl_visits, run_eq_foldl_visits]
  exact List.foldl_rel h fun x hx _ _ h => h.step (indexes_subset_of_mem_visits hws x hx)

/-- A traversal of a tree leaves the marks at other indexes. -/
theorem Visitor.mem_scored_visit_of_notMem {n : Node} {i : Nat} (hi : i ∉ n.indexes) :
    i ∈ (v.visit identity n).scored ↔ i ∈ v.scored := by
  have hvisits : ∀ x ∈ visits [⟨n, 0, false⟩], i ∉ x.node.indexes := fun x hx hix =>
    hi (indexes_subset_of_mem_visits (List.forall_mem_singleton.mpr fun _ => id) x hx hix)
  rw [visit, run_eq_foldl_visits]
  exact List.foldlRecOn (motive := fun u : Visitor => i ∈ u.scored ↔ i ∈ v.scored) _ _ Iff.rfl
    fun u hu x hx => (mem_scored_step_of_notMem (hvisits x hx)).trans hu

/-- **In a tree without marks a visitor finds its score**, whatever it found before. -/
theorem Visitor.visit_total {n : Node} (h : ∀ i ∈ n.indexes, i ∉ v.scored) :
    (v.visit identity n).total = v.total + cognitive identity (some n) := by
  have hstart : Ahead v.total n.indexes v {} :=
    ⟨(Nat.zero_add _).symm, fun i hi => iff_of_false (h i hi) List.not_mem_nil⟩
  have hrun : Ahead v.total n.indexes (v.visit identity n) (Visitor.visit identity {} n) :=
    hstart.run (List.forall_mem_singleton.mpr fun _ => id)
  rw [hrun.total, Nat.add_comm]
  rfl

/-- **A visitor finds the sum of the scores** of trees that hold no index in common. -/
theorem Visitor.total_foldl_visit : ∀ (ns : List Node) (v : Visitor),
    (ns.Pairwise fun m n => m.indexes.Disjoint n.indexes) →
    (∀ n ∈ ns, ∀ i ∈ n.indexes, i ∉ v.scored) →
    (ns.foldl (visit identity) v).total =
      v.total + (ns.map fun n => cognitive identity (some n)).sum
  | [], _, _, _ => rfl
  | n :: ns, v, hd, hv => by
    obtain ⟨hn, hns⟩ := List.pairwise_cons.mp hd
    obtain ⟨hvn, hvns⟩ := List.forall_mem_cons.mp hv
    -- the trees to come are without marks after this one too
    have hafter : ∀ m ∈ ns, ∀ i ∈ m.indexes, i ∉ (v.visit identity n).scored := by
      intro m hm i hi
      rw [mem_scored_visit_of_notMem fun hin => hn m hm hin hi]
      exact hvns m hm i hi
    rw [List.foldl_cons, total_foldl_visit ns _ hns hafter, visit_total hvn, List.map_cons,
      List.sum_cons, Nat.add_assoc]

/-! ### Other indexes -/

/-- The same tree with other indexes. -/
def Node.reindex (ι : Nat → Nat) : Node → Node := relabel (Facts.renumber ι Facts.position)

theorem Node.reindex_congr {ι ι' : Nat → Nat} {n : Node} (h : ∀ i ∈ n.indexes, ι i = ι' i) :
    n.reindex ι = n.reindex ι' := by
  induction n using Node.induction with
  | node n ihchildren ihbody ihalternative =>
    have hindex : ι n.index = ι' n.index := h _ n.self_mem_indexes
    have hchildren : n.children.map (reindex ι) = n.children.map (reindex ι') :=
      List.map_congr_left fun c hc =>
        ihchildren c hc fun i hi => h i (indexes_subset_of_child hc hi)
    have hbody : n.body.map (reindex ι) = n.body.map (reindex ι') :=
      List.map_congr_left fun c hc =>
        ihbody c hc fun i hi => h i (indexes_subset_of_body hc hi)
    have halternative : n.alternative.map (reindex ι) = n.alternative.map (reindex ι') :=
      Option.map_congr fun c hc =>
        ihalternative c hc fun i hi => h i (indexes_subset_of_alternative hc hi)
    cases n with
    | node f cs b a =>
      have hfacts : f.renumber ι Facts.position = f.renumber ι' Facts.position :=
        congrArg (fun i => ({ f with index := i } : Facts)) hindex
      rw [reindex, reindex, relabel_node, relabel_node]
      exact congr (congr (congr (congrArg Node.node hfacts) hchildren) hbody) halternative

/-- A function that keeps some numbers apart goes on to one that keeps all apart. -/
theorem exists_injective_extension {ι : Nat → Nat} {is : List Nat}
    (h : Set.InjOn ι {i | i ∈ is}) :
    ∃ ι' : Nat → Nat, Function.Injective ι' ∧ ∀ i ∈ is, ι i = ι' i := by
  -- the other numbers go beyond all values at the given ones
  let bound := (is.map ι).sum + 1
  have hlt : ∀ i ∈ is, ι i < bound := fun i hi =>
    Nat.lt_succ_of_le (List.le_sum_of_mem (List.mem_map_of_mem hi))
  refine ⟨fun i => if i ∈ is then ι i else i + bound, fun i j hij => ?_, fun i hi => ?_⟩
  · dsimp only at hij
    by_cases hi : i ∈ is <;> by_cases hj : j ∈ is
    · rw [if_pos hi, if_pos hj] at hij
      exact h hi hj hij
    · rw [if_pos hi, if_neg hj] at hij
      have := hlt i hi
      omega
    · rw [if_neg hi, if_pos hj] at hij
      have := hlt j hj
      omega
    · rw [if_neg hi, if_neg hj] at hij
      exact Nat.add_right_cancel hij
  · exact (if_pos hi).symm

/-- **Which numbers the indexes are** does not matter to the score. -/
theorem cognitive_reindex (identity : Option String) {n : Node} {ι : Nat → Nat}
    (h : Set.InjOn ι {i | i ∈ n.indexes}) :
    cognitive identity (some (n.reindex ι)) = cognitive identity (some n) := by
  obtain ⟨ι', hinjective, hι⟩ := exists_injective_extension h
  rw [Node.reindex_congr hι]
  exact cognitive_relabel (keepsScores_renumber hinjective Facts.position identity) (some n)

/-- **One visitor for several trees.** If they hold no index in common, then after each of
them the visitor has found the sum of the scores of the trees so far, and in another order
it finds the same in the end.  The score of a tree stays the same with other indexes, if
different ones stay different. -/
theorem foldl_visit_of_disjoint (identity : Option String) {ns : List Node}
    (h : ns.Pairwise fun m n => m.indexes.Disjoint n.indexes) :
    (∀ k : Nat, ((ns.take k).foldl (Visitor.visit identity) {}).total =
      ((ns.take k).map fun n => cognitive identity (some n)).sum) ∧
    (∀ ms : List Node, ms.Perm ns → (ms.foldl (Visitor.visit identity) {}).total =
      (ns.foldl (Visitor.visit identity) {}).total) ∧
    ∀ (n : Node) (ι : Nat → Nat), Set.InjOn ι {i | i ∈ n.indexes} →
      cognitive identity (some (n.reindex ι)) = cognitive identity (some n) := by
  have hsum : ∀ ms : List Node, (ms.Pairwise fun m n => m.indexes.Disjoint n.indexes) →
      (ms.foldl (Visitor.visit identity) {}).total =
        (ms.map fun n => cognitive identity (some n)).sum := fun ms hms => by
    rw [Visitor.total_foldl_visit ms {} hms fun _ _ _ _ => List.not_mem_nil, Nat.zero_add]
  refine ⟨fun k => hsum _ (h.sublist (List.take_sublist k ns)), fun ms hms => ?_,
    fun n ι => cognitive_reindex identity⟩
  have hsymm : ∀ {m n : Node}, m.indexes.Disjoint n.indexes → n.indexes.Disjoint m.indexes :=
    List.Disjoint.symm
  rw [hsum ns h, hsum ms (hms.symm.pairwise h hsymm), (hms.map _).sum_eq]

/-- A node with the same `a && b` twice, indexed from a number on. -/
def repeated (i : Nat) : Node :=
  let expression := .node { kind := .logical, index := i + 1, operator := some "&&" }
    [.node { index := i + 2 } [] [] none, .node { index := i + 3 } [] [] none] [] none
  .node { index := i } [expression, expression] [] none

/-- Each of two trees with indexes of its own counts its expression once, in either order
and with other indexes too. -/
theorem foldl_visit_repeated :
    [repeated 0, repeated 4].Pairwise (fun m n => m.indexes.Disjoint n.indexes) ∧
    [repeated 4, repeated 0].Perm [repeated 0, repeated 4] ∧
    ([repeated 4, repeated 0].foldl (Visitor.visit none) {}).total = 2 ∧
    Set.InjOn (7 - ·) {i | i ∈ (repeated 4).indexes} ∧
    cognitive none (some ((repeated 4).reindex (7 - ·))) = 1 := by
  have hdisjoint : [repeated 0, repeated 4].Pairwise
      fun m n => m.indexes.Disjoint n.indexes :=
    List.pairwise_pair.mpr (show ∀ i ∈ (repeated 0).indexes, i ∉ (repeated 4).indexes by decide)
  have hperm : [repeated 4, repeated 0].Perm [repeated 0, repeated 4] := List.Perm.swap _ _ _
  have hinjective : Set.InjOn (7 - ·) {i | i ∈ (repeated 4).indexes} := by
    have hle : ∀ i ∈ (repeated 4).indexes, i ≤ 7 := by decide
    intro i hi j hj hij
    have hi := hle i hi
    have hj := hle j hj
    dsimp only at hij
    omega
  have hscores : [repeated 0, repeated 4].map (fun n => cognitive none (some n)) = [1, 1] := by
    decide +kernel
  obtain ⟨hsum, horder, hreindex⟩ := foldl_visit_of_disjoint none hdisjoint
  refine ⟨hdisjoint, hperm, ?_, hinjective, ?_⟩
  · rw [horder _ hperm]
    exact (hsum 2).trans (congrArg List.sum hscores)
  · exact (hreindex _ _ hinjective).trans (List.cons.inj (List.cons.inj hscores).2).1

end GoComplexity
