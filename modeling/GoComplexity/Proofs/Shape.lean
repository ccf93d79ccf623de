/-
# The shape of a tree of nodes

In the tree of a body every node has an index of its own, the body of a node
lists children of it, each once, and only a conditional has an alternative, a
child outside its body.  In a tree of this shape the header, the body and the
alternative of a node are its children, each once.

Key definitions: `Node.Fits`, `Node.Shaped`.
Key theorems: `Node.Shaped.child`, `Node.Shaped.perm_children`.
-/
import GoComplexity.Outline.Node
import Mathlib.Data.List.Lattice
import Mathlib.Data.List.Nodup
import Mathlib.Data.List.Pairwise
import Mathlib.Data.List.Perm.Basic

namespace GoComplexity
namespace Node

theorem weight_le_weightAll {m : Node} : ∀ {ns : List Node}, m ∈ ns → m.weight ≤ weightAll ns
  | n :: ns, h => by
    simp only [weightAll]
    rcases List.mem_cons.mp h with rfl | h
    · omega
    · have := weight_le_weightAll h
      omega

/-- What holds of a node follows from what holds of the nodes it holds. -/
@[elab_as_elim]
theorem induction {P : Node → Prop}
    (node : ∀ n : Node, (∀ m ∈ n.children, P m) → (∀ m ∈ n.body, P m) →
      (∀ m ∈ n.alternative, P m) → P n) (n : Node) : P n := by
  suffices h : ∀ k (n : Node), n.weight ≤ k → P n from h n.weight n (Nat.le_refl _)
  intro k
  induction k with
  | zero =>
    intro n hn
    have := n.weight_pos
    omega
  | succ k ih =>
    intro n hn
    have hw := n.weight_eq
    refine node n (fun m hm => ih m ?_) (fun m hm => ih m ?_) (fun m hm => ih m ?_)
    · have := weight_le_weightAll hm; omega
    · have := weight_le_weightAll hm; omega
    · rw [Option.mem_def.mp hm] at hw
      simp only [weightOpt] at hw
      omega

/-! ### Walks -/

theorem walkAll_eq : ∀ ns : List Node, walkAll ns = ns.flatMap walk
  | [] => rfl
  | n :: ns => by rw [walkAll, walkAll_eq ns, List.flatMap_cons]

theorem walk_eq (n : Node) : n.walk = n :: n.children.flatMap walk := by
  cases n with
  | node f cs b a => rw [walk, walkAll_eq, children]

theorem self_mem_walk (n : Node) : n ∈ n.walk := by
  rw [walk_eq]
  exact List.mem_cons_self

theorem walk_sublist_of_child {n c : Node} (h : c ∈ n.children) : c.walk.Sublist n.walk := by
  rw [n.walk_eq, List.flatMap_def]
  exact (List.sublist_flatten_of_mem (List.mem_map_of_mem h)).trans (List.sublist_cons_self _ _)

/-- The walk of a node that is met on a walk is a part of it. -/
theorem walk_sublist {n m : Node} (h : m ∈ n.walk) : m.walk.Sublist n.walk := by
  induction n using Node.induction with
  | node n ih _ _ =>
    rw [walk_eq, List.mem_cons, List.mem_flatMap] at h
    rcases h with rfl | ⟨c, hc, hm⟩
    · exact List.Sublist.refl _
    · exact (ih c hc hm).trans (walk_sublist_of_child hc)

theorem sublist_flatMap_walk : ∀ ns : List Node, ns.Sublist (ns.flatMap walk)
  | [] => List.Sublist.refl _
  | n :: ns => by
    rw [List.flatMap_cons, walk_eq, List.cons_append]
    exact ((sublist_flatMap_walk ns).trans (List.sublist_append_right _ _)).cons_cons n

/-! ### Shape -/

/-- The body and the alternative of a node stand among its children, apart from
each other. -/
structure Fits (n : Node) : Prop where
  body_mem : ∀ b ∈ n.body, b ∈ n.children
  body_nodup : n.body.Nodup
  alternative_mem : ∀ a ∈ n.alternative, a ∈ n.children
  alternative_notMem : ∀ a ∈ n.alternative, a ∉ n.body
  alternative_kind : n.alternative.isSome → n.kind = .conditional

/-- The shape of the tree of a body. -/
structure Shaped (root : Node) : Prop where
  distinct : (root.walk.map index).Nodup
  fits : ∀ n ∈ root.walk, n.Fits

namespace Shaped

variable {n : Node}

theorem of_mem (h : n.Shaped) {m : Node} (hm : m ∈ n.walk) : m.Shaped where
  distinct := h.distinct.sublist ((walk_sublist hm).map _)
  fits := fun k hk => h.fits k ((walk_sublist hm).subset hk)

theorem child (h : n.Shaped) {c : Node} (hc : c ∈ n.children) : c.Shaped :=
  h.of_mem ((walk_sublist_of_child hc).subset c.self_mem_walk)

theorem self_fits (h : n.Shaped) : n.Fits := h.fits n n.self_mem_walk

theorem distinct_below (h : n.Shaped) : ((n.children.flatMap walk).map index).Nodup := by
  have := h.distinct
  rw [walk_eq, List.map_cons, List.nodup_cons] at this
  exact this.2

theorem children_distinct (h : n.Shaped) : (n.children.map index).Nodup :=
  h.distinct_below.sublist ((sublist_flatMap_walk _).map _)

theorem children_nodup (h : n.Shaped) : n.children.Nodup := h.children_distinct.of_map

/-- Children with one index are one child. -/
theorem child_ext (h : n.Shaped) {c d : Node} (hc : c ∈ n.children) (hd : d ∈ n.children)
    (hi : c.index = d.index) : c = d :=
  List.inj_on_of_nodup_map h.children_distinct hc hd hi

/-- Children whose trees share an index are one child. -/
theorem walk_ext (h : n.Shaped) {c d : Node} (hc : c ∈ n.children) (hd : d ∈ n.children) {i : Nat}
    (hic : i ∈ c.walk.map index) (hid : i ∈ d.walk.map index) : c = d := by
  have hd' := h.distinct_below
  rw [List.map_flatMap, List.nodup_flatMap] at hd'
  have : Std.Symm (Function.onFun List.Disjoint fun c : Node => c.walk.map index) :=
    ⟨fun _ _ => List.Disjoint.symm⟩
  by_contra hne
  exact hd'.2.forall hc hd hne hic hid

/-- No node below a node has its index. -/
theorem index_notMem (h : n.Shaped) {c : Node} (hc : c ∈ n.children) :
    n.index ∉ c.walk.map index := by
  have hd := h.distinct
  rw [walk_eq, List.map_cons, List.nodup_cons] at hd
  refine fun hm => hd.1 ((List.Sublist.map index ?_).subset hm)
  rw [List.flatMap_def]
  exact List.sublist_flatten_of_mem (List.mem_map_of_mem hc)

end Shaped

/-- The nodes that a node enters apart from its header. -/
def nested (n : Node) : List Node := n.body ++ n.alternative.toList

theorem nestedIndexes_eq (n : Node) : n.nestedIndexes = n.nested.map index := by
  cases h : n.alternative <;> simp [nestedIndexes, nested, h]

theorem mem_header_iff (n c : Node) :
    c ∈ n.header ↔ c ∈ n.children ∧ c.index ∉ n.nested.map index := by
  simp only [header, nestedIndexes_eq, List.mem_filter, Bool.not_eq_true', List.contains_iff_mem,
    ← Bool.not_eq_true]

namespace Fits

variable {n : Node}

theorem alternative_eq_none (h : n.Fits) (hk : n.kind ≠ .conditional) : n.alternative = none := by
  by_contra hne
  exact hk (h.alternative_kind (Option.isSome_iff_ne_none.mpr hne))

theorem nested_mem (h : n.Fits) {c : Node} (hc : c ∈ n.nested) : c ∈ n.children := by
  rcases List.mem_append.mp hc with hb | ha
  · exact h.body_mem c hb
  · exact h.alternative_mem c (Option.mem_toList.mp ha)

theorem nested_nodup (h : n.Fits) : n.nested.Nodup := by
  have ha : n.alternative.toList.Nodup := by cases n.alternative <;> simp
  exact h.body_nodup.append ha fun c hb ha => h.alternative_notMem c (Option.mem_toList.mp ha) hb

/-- The shape of a node, told by the indexes of what it nests. -/
theorem of_nestedIndexes (hbody : ∀ b ∈ n.body, b ∈ n.children)
    (halternative : ∀ a ∈ n.alternative, a ∈ n.children) (hd : n.nestedIndexes.Nodup)
    (hkind : n.alternative.isSome → n.kind = .conditional) : n.Fits := by
  rw [nestedIndexes_eq] at hd
  have hnested := List.nodup_append'.mp hd.of_map
  exact {
    body_mem := hbody
    body_nodup := hnested.1
    alternative_mem := halternative
    alternative_notMem := fun a ha hb => hnested.2.2 hb (Option.mem_toList.mpr ha)
    alternative_kind := hkind }

theorem of_bare (hb : n.body = []) (ha : n.alternative = none) : n.Fits :=
  of_nestedIndexes (by simp [hb]) (by simp [ha]) (by simp [nestedIndexes, hb, ha]) (by simp [ha])

end Fits

theorem Shaped.nestedIndexes_nodup {n : Node} (h : n.Shaped) : n.nestedIndexes.Nodup := by
  rw [nestedIndexes_eq]
  exact h.self_fits.nested_nodup.map_on fun c hc d hd =>
    h.child_ext (h.self_fits.nested_mem hc) (h.self_fits.nested_mem hd)

/-- **Nothing is lost or doubled.** The header, the body and the alternative of
a node are its children, each once. -/
theorem Shaped.perm_children {n : Node} (h : n.Shaped) :
    (n.header ++ n.body ++ n.alternative.toList).Perm n.children := by
  have hf := h.self_fits
  -- a child is nested if its index is, since no other child has that index
  have hnested : (n.children.filter fun c => n.nestedIndexes.contains c.index).Perm n.nested := by
    refine (List.perm_ext_iff_of_nodup (h.children_nodup.filter _) hf.nested_nodup).mpr fun c => ?_
    simp only [nestedIndexes_eq, List.mem_filter, List.contains_iff_mem, List.mem_map]
    refine ⟨fun ⟨hc, d, hd, hi⟩ => ?_, fun hc => ⟨hf.nested_mem hc, c, hc, rfl⟩⟩
    exact h.child_ext (hf.nested_mem hd) hc hi ▸ hd
  have hsplit := List.filter_append_perm (fun c => n.nestedIndexes.contains c.index) n.children
  rw [List.append_assoc]
  exact (List.perm_append_comm.trans (hnested.symm.append_right _)).trans hsplit

end Node
end GoComplexity
