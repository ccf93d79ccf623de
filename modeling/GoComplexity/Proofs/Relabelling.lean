/-
# Relabelled trees

A relabelling changes what the nodes of a tree say of themselves and leaves the
tree as it is.  The measures read little of a node: its kind, its operator,
whether it is a default clause or a grouping, whether it jumps to a label, and
whether it calls the measured function; indexes are only compared.  So a
relabelling that keeps those keeps both measures, and a traversal of the
relabelled tree is the relabelled traversal, visit by visit.

Key definitions: `Node.relabel`, `KeepsScores`, `Facts.renumber`.
Key theorems: `Visitor.run_relabel`, `cognitive_relabel`, `cyclomatic_relabel`.
-/
import GoComplexity.Proofs.Decisions
import GoComplexity.Proofs.Expression

namespace GoComplexity

namespace Node

mutual

/-- The same tree with other facts at every node. -/
def relabel (h : Facts → Facts) : Node → Node
  | .node f cs b a => .node (h f) (relabelAll h cs) (relabelAll h b) (relabelOpt h a)

def relabelAll (h : Facts → Facts) : List Node → List Node
  | [] => []
  | n :: ns => n.relabel h :: relabelAll h ns

def relabelOpt (h : Facts → Facts) : Option Node → Option Node
  | none => none
  | some n => some (n.relabel h)

end

variable (h : Facts → Facts)

theorem relabelAll_eq : ∀ ns : List Node, relabelAll h ns = ns.map (relabel h)
  | [] => rfl
  | n :: ns => by rw [relabelAll, relabelAll_eq ns, List.map_cons]

theorem relabelOpt_eq (a : Option Node) : relabelOpt h a = a.map (relabel h) := by
  cases a <;> rfl

theorem relabel_node (f : Facts) (cs b : List Node) (a : Option Node) :
    (Node.node f cs b a).relabel h =
      .node (h f) (cs.map (relabel h)) (b.map (relabel h)) (a.map (relabel h)) := by
  rw [relabel, relabelAll_eq, relabelAll_eq, relabelOpt_eq]

@[simp] theorem facts_relabel (n : Node) : (n.relabel h).facts = h n.facts := by
  cases n with
  | node f cs b a => rfl

@[simp] theorem children_relabel (n : Node) :
    (n.relabel h).children = n.children.map (relabel h) := by
  cases n with
  | node f cs b a => rw [relabel_node]; rfl

@[simp] theorem body_relabel (n : Node) : (n.relabel h).body = n.body.map (relabel h) := by
  cases n with
  | node f cs b a => rw [relabel_node]; rfl

@[simp] theorem alternative_relabel (n : Node) :
    (n.relabel h).alternative = n.alternative.map (relabel h) := by
  cases n with
  | node f cs b a => rw [relabel_node]; rfl

theorem walk_relabel (n : Node) : (n.relabel h).walk = n.walk.map (relabel h) := by
  induction n using Node.induction with
  | node n ih _ _ =>
    rw [walk_eq, walk_eq, children_relabel, List.map_cons, List.map_flatMap, List.flatMap_map]
    exact congrArg _ (List.flatMap_congr ih)

end Node

/-- What a relabelling keeps if the function measured by one identity has the
scores of the relabelled one measured by another: indexes stay apart, and the
rest of what the measures read stays the same. -/
structure KeepsScores (h : Facts → Facts) (ι : Nat → Nat) (identity identity' : Option String) :
    Prop where
  injective : Function.Injective ι
  index : ∀ f, (h f).index = ι f.index
  kind : ∀ f, (h f).kind = f.kind
  operator : ∀ f, (h f).operator = f.operator
  isDefault : ∀ f, (h f).isDefault = f.isDefault
  grouping : ∀ f, (h f).grouping = f.grouping
  label : ∀ f, (h f).label.getD "" = "" ↔ f.label.getD "" = ""
  callee : ∀ f, (identity'.isSome && (h f).callee == identity') =
    (identity.isSome && f.callee == identity)

namespace KeepsScores

variable {h : Facts → Facts} {ι : Nat → Nat} {identity identity' : Option String}
  (hk : KeepsScores h ι identity identity')

include hk

theorem node_index (n : Node) : (n.relabel h).index = ι n.index := by
  rw [Node.index, Node.facts_relabel, hk.index]; rfl

theorem node_kind (n : Node) : (n.relabel h).kind = n.kind := by
  rw [Node.kind, Node.facts_relabel, hk.kind]; rfl

theorem node_operator (n : Node) : (n.relabel h).operator = n.operator := by
  rw [Node.operator, Node.facts_relabel, hk.operator]; rfl

theorem node_grouping (n : Node) : (n.relabel h).grouping = n.grouping := by
  rw [Node.grouping, Node.facts_relabel, hk.grouping]; rfl

theorem isLogical (n : Node) : (n.relabel h).isLogical = n.isLogical := by
  rw [Node.isLogical, Node.isLogical, hk.node_kind, hk.node_operator]

theorem map_index (ns : List Node) :
    (ns.map (Node.relabel h)).map Node.index = (ns.map Node.index).map ι := by
  rw [List.map_map, List.map_map]
  exact List.map_congr_left fun n _ => hk.node_index n

theorem contains_map (is : List Nat) (i : Nat) : (is.map ι).contains (ι i) = is.contains i := by
  rw [Bool.eq_iff_iff, List.contains_iff_mem, List.contains_iff_mem]
  exact List.mem_map_of_injective hk.injective

/-! ### The cyclomatic complexity -/

theorem decisionPoints (n : Node) : (n.relabel h).decisionPoints = n.decisionPoints := by
  have hdefault : (n.relabel h).isDefault = n.isDefault := by
    rw [Node.isDefault, Node.facts_relabel, hk.isDefault]; rfl
  unfold Node.decisionPoints
  rw [hk.node_kind, hk.isLogical, hdefault]

end KeepsScores

/-- **A relabelling keeps the decisions** of a body. -/
theorem cyclomatic_relabel {h : Facts → Facts} {ι : Nat → Nat} {identity identity' : Option String}
    (hk : KeepsScores h ι identity identity') (body : Option Node) :
    cyclomatic (body.map (Node.relabel h)) = cyclomatic body := by
  cases body with
  | none => rfl
  | some n =>
    show 1 + (n.relabel h).decisions = 1 + n.decisions
    rw [Node.decisions_eq_sum_walk, Node.decisions_eq_sum_walk, Node.walk_relabel, List.map_map]
    exact congrArg (1 + List.sum ·) (List.map_congr_left fun m _ => hk.decisionPoints m)

/-! ### The cognitive complexity -/

/-- A piece of work on the relabelled node. -/
def Work.relabel (h : Facts → Facts) (w : Work) : Work := { w with node := w.node.relabel h }

/-- A visitor whose marks are those of the relabelled nodes. -/
def Visitor.relabel (ι : Nat → Nat) (v : Visitor) : Visitor :=
  { v with scored := v.scored.map ι }

/-- What is still to be read of a relabelled expression. -/
def Node.Item.relabel (h : Facts → Facts) : Node.Item → Node.Item
  | .node n => .node (n.relabel h)
  | .operator o => .operator o

namespace KeepsScores

variable {h : Facts → Facts} {ι : Nat → Nat} {identity identity' : Option String}
  (hk : KeepsScores h ι identity identity')

include hk

theorem nestedIndexes (n : Node) : (n.relabel h).nestedIndexes = n.nestedIndexes.map ι := by
  have halt : ((n.alternative.map (Node.relabel h)).map Node.index).toList =
      (n.alternative.map Node.index).toList.map ι := by
    cases n.alternative with
    | none => rfl
    | some a => exact congrArg (fun i => [i]) (hk.node_index a)
  rw [Node.nestedIndexes, Node.nestedIndexes, Node.body_relabel, Node.alternative_relabel,
    hk.map_index, halt, List.map_append]

/-- A relabelling keeps the shape of a tree. -/
theorem shaped {n : Node} (hn : n.Shaped) : (n.relabel h).Shaped where
  distinct := by
    rw [Node.walk_relabel, hk.map_index]
    exact hn.distinct.map hk.injective
  fits := by
    intro m' hm'
    rw [Node.walk_relabel] at hm'
    obtain ⟨m, hm, rfl⟩ := List.mem_map.mp hm'
    have hf := hn.fits m hm
    refine Node.Fits.of_nestedIndexes ?_ ?_ ?_ ?_
    · rw [Node.body_relabel, Node.children_relabel]
      exact List.map_subset _ hf.body_mem
    · rw [Node.alternative_relabel, Node.children_relabel]
      intro a' ha'
      obtain ⟨a, ha, rfl⟩ := Option.map_eq_some_iff.mp ha'
      exact List.mem_map_of_mem (hf.alternative_mem a ha)
    · rw [hk.nestedIndexes]
      exact (hn.of_mem hm).nestedIndexes_nodup.map hk.injective
    · rw [Node.alternative_relabel, Option.isSome_map, hk.node_kind]
      exact hf.alternative_kind

theorem header (n : Node) : (n.relabel h).header = n.header.map (Node.relabel h) := by
  unfold Node.header
  rw [hk.nestedIndexes, Node.children_relabel, List.filter_map]
  refine congrArg _ (List.filter_congr fun c _ => ?_)
  rw [Function.comp_apply, hk.node_index, hk.contains_map]

theorem parts (n : Node) : (n.relabel h).parts = n.parts.map (Node.Item.relabel h) := by
  unfold Node.parts
  rw [hk.isLogical, hk.node_grouping, hk.node_operator, Node.children_relabel, List.head?_map,
    List.getLast?_map]
  cases n.children.head? <;> cases n.children.getLast? <;> cases n.isLogical <;>
    cases n.grouping <;> rfl

/-- The reading of a relabelled expression finds the same operators, and the
nodes that it meets are the relabelled ones. -/
theorem collectFrom (items : List Node.Item) :
    Node.collectFrom (items.map (Node.Item.relabel h)) =
      ((Node.collectFrom items).1, (Node.collectFrom items).2.map ι) := by
  induction items using Node.collectFrom.induct with
  | case1 => simp [Node.collectFrom]
  | case2 o rest _ _ _ ih =>
    rw [List.map_cons, Node.collectFrom_operator]
    show Node.collectFrom (.operator o :: rest.map (Node.Item.relabel h)) = _
    rw [Node.collectFrom_operator, ih]
  | case3 n rest _ _ _ ih =>
    rw [List.map_append] at ih
    rw [List.map_cons, Node.collectFrom_node]
    show Node.collectFrom (.node (n.relabel h) :: rest.map (Node.Item.relabel h)) = _
    rw [Node.collectFrom_node, hk.parts, ih, hk.node_index, List.map_cons]

theorem collectOperators (n : Node) :
    (n.relabel h).collectOperators = (n.collectOperators.1, n.collectOperators.2.map ι) :=
  hk.collectFrom [.node n]

omit hk in
theorem works (ns : List Node) (k : Nat) :
    Visitor.works (ns.map (Node.relabel h)) k = (Visitor.works ns k).map (Work.relabel h) := by
  rw [Visitor.works, Visitor.works, List.map_map, List.map_map]
  rfl

theorem nestedWorks (n : Node) (k : Nat) :
    Visitor.nestedWorks (n.relabel h) k = (Visitor.nestedWorks n k).map (Work.relabel h) := by
  rw [Visitor.nestedWorks, Visitor.nestedWorks, hk.header, Node.body_relabel, works, works,
    List.map_append]

theorem conditional (v : Visitor) (w : Work) :
    (v.relabel ι).conditional (w.relabel h) =
      ((v.conditional w).1.relabel ι, (v.conditional w).2.map (Work.relabel h)) := by
  have halt : (w.relabel h).node.alternative = w.node.alternative.map (Node.relabel h) :=
    Node.alternative_relabel h w.node
  have hnested := hk.nestedWorks w.node w.nesting
  unfold Visitor.conditional
  rw [halt]
  cases w.node.alternative with
  | none => exact Prod.ext rfl hnested
  | some a =>
    rw [Option.map_some]
    dsimp only
    rw [hk.node_kind]
    by_cases ha : a.kind = .conditional
    · rw [if_pos ha, if_pos ha, List.map_append]
      exact Prod.ext rfl (congrArg (· ++ _) hnested)
    · rw [if_neg ha, if_neg ha, List.map_append]
      exact Prod.ext rfl (congrArg (· ++ _) hnested)

theorem logical (v : Visitor) (n : Node) :
    (v.relabel ι).logical (n.relabel h) = (v.logical n).relabel ι := by
  have hmarked : (v.relabel ι).scored.contains (n.relabel h).index =
      v.scored.contains n.index := by
    rw [hk.node_index]
    exact hk.contains_map v.scored n.index
  unfold Visitor.logical
  rw [hk.isLogical, hmarked, hk.collectOperators]
  split
  · simp [Visitor.relabel]
  · rfl

/-- A visit of a relabelled node does the same, and leaves the relabelled work. -/
theorem step (v : Visitor) (w : Work) :
    (v.relabel ι).step identity' (w.relabel h) =
      ((v.step identity w).1.relabel ι, (v.step identity w).2.map (Work.relabel h)) := by
  have hkind : (w.relabel h).node.kind = w.node.kind := hk.node_kind w.node
  have hnested := hk.nestedWorks w.node w.nesting
  have hworks : Visitor.works (w.relabel h).node.children w.nesting =
      (Visitor.works w.node.children w.nesting).map (Work.relabel h) := by
    rw [← works]
    exact congrArg (Visitor.works · w.nesting) (Node.children_relabel h w.node)
  unfold Visitor.step
  rw [hkind]
  cases w.node.kind <;> simp only
  case conditional => exact hk.conditional v w
  case branch | select | loop | iteration => exact Prod.ext rfl hnested
  case functionLiteral => exact Prod.ext rfl hnested
  case branchCase | selectCase | other => exact Prod.ext rfl hworks
  case logical => exact Prod.ext (hk.logical v w.node) hworks
  case jump =>
    have hlabel : (w.relabel h).node.label.getD "" = "" ↔ w.node.label.getD "" = "" := by
      have := hk.label w.node.facts
      rwa [← Node.facts_relabel h w.node] at this
    refine Prod.ext ?_ hworks
    by_cases hl : w.node.label.getD "" = ""
    · simp only [if_pos hl, if_pos (hlabel.mpr hl)]
    · simp only [if_neg hl, if_neg fun he => hl (hlabel.mp he)]
      rfl
  case call =>
    have hcallee : (identity'.isSome && (w.relabel h).node.callee == identity') =
        (identity.isSome && w.node.callee == identity) := by
      have := hk.callee w.node.facts
      rwa [← Node.facts_relabel h w.node] at this
    refine Prod.ext ?_ hworks
    simp only [hcallee]
    cases identity.isSome && w.node.callee == identity <;> rfl

end KeepsScores

/-- **The traversal of a relabelled tree is the relabelled traversal.** -/
theorem Visitor.run_relabel {h : Facts → Facts} {ι : Nat → Nat} {identity identity' : Option String}
    (hk : KeepsScores h ι identity identity') (v : Visitor) (ws : List Work) :
    (v.relabel ι).run identity' (ws.map (Work.relabel h)) = (v.run identity ws).relabel ι := by
  induction v, ws using Visitor.run.induct identity with
  | case1 v => rw [List.map_nil, run, run]
  | case2 v w ws next ih =>
    rw [List.map_append] at ih
    rw [List.map_cons, run, run, hk.step]
    exact ih

/-- **A relabelling keeps the cognitive complexity** of a body. -/
theorem cognitive_relabel {h : Facts → Facts} {ι : Nat → Nat} {identity identity' : Option String}
    (hk : KeepsScores h ι identity identity') (body : Option Node) :
    cognitive identity' (body.map (Node.relabel h)) = cognitive identity body := by
  cases body with
  | none => rfl
  | some n =>
    have htotal := congrArg Visitor.total (Visitor.run_relabel hk {} [⟨n, 0, false⟩])
    exact htotal

/-! ### Renumbered trees -/

/-- A node with another index, somewhere else. -/
def Facts.renumber (ι : Nat → Nat) (g : Facts → Position) (f : Facts) : Facts :=
  { f with index := ι f.index, position := g f }

theorem keepsScores_renumber {ι : Nat → Nat} (hι : Function.Injective ι) (g : Facts → Position)
    (identity : Option String) : KeepsScores (Facts.renumber ι g) ι identity identity where
  injective := hι
  index := fun _ => rfl
  kind := fun _ => rfl
  operator := fun _ => rfl
  isDefault := fun _ => rfl
  grouping := fun _ => rfl
  label := fun _ => Iff.rfl
  callee := fun _ => rfl

end GoComplexity
