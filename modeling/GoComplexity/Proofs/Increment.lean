/-
# The increments of a body

The cognitive complexity of a body is a sum over its nodes.  What a node adds
hangs on the node and on the nodes above it alone: its level is the number of
edges above it that go deeper, and a logical expression counts at its topmost
node.  The marks of a visitor stand for that last notion: when a node is
visited, the marked indexes below it are those of the expression it continues.

Key definitions: `Place`, `Node.places`, `depth`, `isElseIf`, `isOperand`,
`Place.increment`, `Visitor.Knows`.
Key theorems: `Visitor.run_work`, `cognitive_eq_sum_increment`.
-/
import GoComplexity.Proofs.Expression
import GoComplexity.Proofs.Traversal
import Mathlib.Algebra.BigOperators.Group.List.Basic
import Mathlib.Algebra.GroupWithZero.Nat

namespace GoComplexity

open Visitor

/-! ### Places -/

/-- A node of a tree with the nodes above it, its parent first. -/
structure Place where
  above : List Node
  node : Node

namespace Node

mutual

/-- The places of a tree, each before those below it. -/
def places : Node → List Node → List Place
  | .node f cs b a, above => ⟨above, .node f cs b a⟩ :: placesAll cs (.node f cs b a :: above)

def placesAll : List Node → List Node → List Place
  | [], _ => []
  | n :: ns, above => places n above ++ placesAll ns above

end

theorem placesAll_eq (above : List Node) : ∀ ns : List Node,
    placesAll ns above = ns.flatMap fun n => n.places above
  | [] => rfl
  | n :: ns => by rw [placesAll, placesAll_eq above ns, List.flatMap_cons]

theorem places_eq (n : Node) (above : List Node) :
    n.places above = ⟨above, n⟩ :: n.children.flatMap fun c => c.places (n :: above) := by
  cases n with
  | node f cs b a => rw [places, placesAll_eq, children]

/-- The places are the nodes of the walk. -/
theorem map_node_places (n : Node) (above : List Node) :
    (n.places above).map Place.node = n.walk := by
  induction n using Node.induction generalizing above with
  | node n ih _ _ =>
    rw [places_eq, walk_eq, List.map_cons, List.map_flatMap]
    congr 1
    exact List.flatMap_congr fun c hc => ih c hc (n :: above)

end Node

/-! ### Increments -/

/-- The kinds of node whose body lies one level deeper. -/
def NodeKind.nests : NodeKind → Bool
  | .conditional | .loop | .iteration | .branch | .select | .functionLiteral => true
  | _ => false

/-- Whether a node stands as the alternative of another one. -/
def Node.isAlternative (n c : Node) : Bool := n.alternative.any fun a => a.index == c.index

/-- Whether the edge to a child goes one level deeper: into a body, or into an
else branch that is no else-if. -/
def Node.deepens (n c : Node) : Bool :=
  (n.kind.nests && (n.body.map Node.index).contains c.index) ||
    (n.isAlternative c && c.kind != .conditional)

/-- The number of edges down to a node that go deeper. -/
def depth : List Node → Node → Nat
  | [], _ => 0
  | p :: above, n => depth above p + if p.deepens n then 1 else 0

/-- Whether a node is an else-if: a conditional that is the alternative of one. -/
def isElseIf : List Node → Node → Bool
  | [], _ => false
  | p :: _, n => n.kind == .conditional && (p.kind == .conditional && p.isAlternative n)

/-- Whether a node belongs to the logical expression of a node above it. -/
def isOperand : List Node → Node → Bool
  | [], _ => false
  | p :: above, n =>
    (p.operands.map Node.index).contains n.index && (p.isLogical || isOperand above p)

/-- What a node adds at its place. -/
def Place.increment (identity : Option String) (p : Place) : Nat :=
  match p.node.kind with
  | .conditional =>
    (if isElseIf p.above p.node then 1 else depth p.above p.node + 1) +
      if p.node.alternative.any fun a => a.kind != .conditional then 1 else 0
  | .loop | .iteration | .branch | .select => depth p.above p.node + 1
  | .jump => if p.node.label.getD "" = "" then 0 else 1
  | .call => if identity.isSome && p.node.callee == identity then 1 else 0
  | .logical =>
    if p.node.isLogical && !isOperand p.above p.node then (runs p.node.operators).length else 0
  | .branchCase | .selectCase | .functionLiteral | .other => 0

/-- The work that is due at a place. -/
def Place.work (p : Place) : Work := ⟨p.node, depth p.above p.node, isElseIf p.above p.node⟩

/-! ### The edges to the children -/

namespace Node

theorem contains_index_iff (ns : List Node) (c : Node) :
    (ns.map index).contains c.index = true ↔ c.index ∈ ns.map index := List.contains_iff_mem

theorem isAlternative_iff (n c : Node) :
    n.isAlternative c = true ↔ ∃ a ∈ n.alternative, a.index = c.index := by
  unfold isAlternative
  cases n.alternative <;> simp

variable {n c : Node}

theorem isAlternative_of_mem_header (hc : c ∈ n.header) : n.isAlternative c = false := by
  rw [Bool.eq_false_iff, ne_eq, isAlternative_iff]
  rintro ⟨a, ha, hi⟩
  refine ((mem_header_iff n c).mp hc).2 (hi ▸ List.mem_map_of_mem ?_)
  exact List.mem_append_right _ (Option.mem_toList.mpr ha)

/-- An edge into the header stays at its level. -/
theorem deepens_of_mem_header (hc : c ∈ n.header) : n.deepens c = false := by
  have hb : (n.body.map index).contains c.index = false := by
    rw [Bool.eq_false_iff, ne_eq, contains_index_iff]
    refine fun hm => ((mem_header_iff n c).mp hc).2 ?_
    rw [nested, List.map_append]
    exact List.mem_append_left _ hm
  rw [deepens, hb, isAlternative_of_mem_header hc, Bool.and_false, Bool.false_and, Bool.or_false]

/-- An edge into a body goes one level deeper. -/
theorem deepens_of_mem_body (hk : n.kind.nests) (hc : c ∈ n.body) : n.deepens c = true := by
  have hb := (contains_index_iff n.body c).mpr (List.mem_map_of_mem hc)
  rw [deepens, hk, hb, Bool.true_and, Bool.true_or]

theorem Shaped.isAlternative_of_mem_body (h : n.Shaped) (hc : c ∈ n.body) :
    n.isAlternative c = false := by
  rw [Bool.eq_false_iff, ne_eq, isAlternative_iff]
  rintro ⟨a, ha, hi⟩
  have hf := h.self_fits
  have he := h.child_ext (hf.alternative_mem a ha) (hf.body_mem c hc) hi
  exact hf.alternative_notMem a ha (he ▸ hc)

theorem isAlternative_self (ha : c ∈ n.alternative) : n.isAlternative c = true :=
  (isAlternative_iff n c).mpr ⟨c, ha, rfl⟩

/-- An edge into an else branch goes deeper unless it leads to an else-if. -/
theorem Shaped.deepens_of_mem_alternative (h : n.Shaped) (ha : c ∈ n.alternative) :
    n.deepens c = (c.kind != .conditional) := by
  have hb : (n.body.map index).contains c.index = false := by
    rw [Bool.eq_false_iff, ne_eq, contains_index_iff, List.mem_map]
    rintro ⟨b, hb, hi⟩
    have hf := h.self_fits
    have he := h.child_ext (hf.body_mem b hb) (hf.alternative_mem c ha) hi
    exact hf.alternative_notMem c ha (he ▸ hb)
  rw [deepens, hb, isAlternative_self ha, Bool.and_false, Bool.true_and, Bool.false_or]

/-- No edge from a node without nesting goes deeper. -/
theorem Fits.deepens_eq_false (h : n.Fits) (hk : n.kind.nests = false) : n.deepens c = false := by
  have ha := h.alternative_eq_none fun hc => by rw [hc] at hk; exact absurd hk (by decide)
  rw [deepens, hk, isAlternative, ha]
  rfl

end Node

namespace Place

variable {p : Place} {c : Node}

/-- The work at the place of a child, by the edge to it. -/
theorem work_child (p : Place) (c : Node) {d e : Bool} (hd : p.node.deepens c = d)
    (he : (c.kind == .conditional && (p.node.kind == .conditional && p.node.isAlternative c)) = e) :
    Place.work ⟨p.node :: p.above, c⟩ =
      ⟨c, depth p.above p.node + if d then 1 else 0, e⟩ := by
  rw [work, depth, isElseIf, hd, he]

theorem nestedWorks_work (h : p.node.Shaped) (hk : p.node.kind.nests) {w : Work}
    (hw : w ∈ nestedWorks p.node p.work.nesting) :
    w = Place.work ⟨p.node :: p.above, w.node⟩ := by
  simp only [nestedWorks, works, List.mem_append, List.mem_map] at hw
  rcases hw with ⟨c, hc, rfl⟩ | ⟨c, hc, rfl⟩
  · have he := Node.isAlternative_of_mem_header hc
    exact (work_child p c (Node.deepens_of_mem_header hc) (by simp [he])).symm
  · have he := h.isAlternative_of_mem_body hc
    exact (work_child p c (Node.deepens_of_mem_body hk hc) (by simp [he])).symm

theorem works_work (h : p.node.Shaped) (hk : p.node.kind.nests = false) {w : Work}
    (hw : w ∈ works p.node.children p.work.nesting) :
    w = Place.work ⟨p.node :: p.above, w.node⟩ := by
  obtain ⟨c, hc, rfl⟩ := List.mem_map.mp hw
  have he : (p.node.kind == .conditional) = false := by
    rw [beq_eq_false_iff_ne]
    exact fun h => by rw [h] at hk; exact absurd hk (by decide)
  exact (work_child p c (h.self_fits.deepens_eq_false hk) (by simp [he])).symm

theorem elseWork_work (h : p.node.Shaped) {w : Work} (hw : w ∈ p.work.elseWork) :
    w = Place.work ⟨p.node :: p.above, w.node⟩ := by
  unfold Work.elseWork at hw
  cases ha : p.node.alternative with
  | none => simp [work, ha] at hw
  | some a =>
    have hk := h.self_fits.alternative_kind (by rw [ha, Option.isSome_some])
    have he : (p.node.kind == .conditional && p.node.isAlternative a) = true := by
      rw [hk, Node.isAlternative_self ha]; rfl
    have hd := h.deepens_of_mem_alternative ha
    by_cases hc : a.kind = .conditional
    · simp only [work, ha, hc, ↓reduceIte, List.mem_singleton] at hw
      rw [hw, work_child p a (d := false) (e := true) (hd.trans (by simp [hc])) (by simp [hc, he])]
      rfl
    · simp only [work, ha, hc, ↓reduceIte, List.mem_singleton] at hw
      rw [hw, work_child p a (d := true) (e := false) (hd.trans (bne_iff_ne.mpr hc)) (by simp [hc])]
      rfl

/-- A visit leaves the work that is due at the places of the children. -/
theorem leaves_work (h : p.node.Shaped) {w : Work} (hw : w ∈ p.work.leaves) :
    w = Place.work ⟨p.node :: p.above, w.node⟩ := by
  have hk : p.work.node.kind = p.node.kind := rfl
  unfold Work.leaves at hw
  cases hn : p.node.kind <;> simp only [hk, hn] at hw
  case conditional =>
    rcases List.mem_append.mp hw with hw | hw
    · exact nestedWorks_work h (by rw [hn]; rfl) hw
    · exact elseWork_work h hw
  case loop | iteration | branch | select | functionLiteral =>
    exact nestedWorks_work h (by rw [hn]; rfl) hw
  case branchCase | selectCase | jump | logical | call | other =>
    exact works_work h (by rw [hn]; rfl) hw

end Place

/-! ### Marks -/

/-- The marks of a visitor that comes to a node: of the indexes in its tree,
those of the expression that the node continues. -/
def Visitor.Knows (v : Visitor) (above : List Node) (n : Node) : Prop :=
  ∀ i ∈ n.walk.map Node.index,
    i ∈ v.scored ↔ isOperand above n = true ∧ i ∈ n.collectOperators.2

theorem Node.kind_of_isLogical {n : Node} (h : n.isLogical) : n.kind = .logical := by
  unfold isLogical at h
  rw [Bool.and_eq_true, beq_iff_eq] at h
  exact h.1

theorem Visitor.Knows.contains_iff {v : Visitor} {above : List Node} {n : Node}
    (hv : v.Knows above n) : v.scored.contains n.index = isOperand above n := by
  have := hv n.index (List.mem_map_of_mem n.self_mem_walk)
  rw [Bool.eq_iff_iff, List.contains_iff_mem, this]
  exact and_iff_left n.self_mem_collected

theorem Visitor.logical_total (v : Visitor) (n : Node) :
    (v.logical n).total =
      v.total +
        if n.isLogical && !v.scored.contains n.index then (runs n.operators).length else 0 := by
  rw [logical, ← countRuns_eq, ← Node.collectOperators_fst]
  split <;> rfl

theorem Visitor.mem_scored_logical (v : Visitor) (n : Node) (i : Nat) :
    i ∈ (v.logical n).scored ↔ i ∈ v.scored ∨
      ((n.isLogical && !v.scored.contains n.index) = true ∧ i ∈ n.collectOperators.2) := by
  rw [logical]
  split
  · rename_i h
    simp only [h, true_and, List.mem_append, or_comm]
  · rename_i h
    simp only [h, Bool.false_eq_true, false_and, or_false]

theorem Visitor.conditional_total (v : Visitor) (w : Work) :
    (v.conditional w).1.total = v.total + ((if w.isElse then 1 else w.nesting + 1) +
      if w.node.alternative.any fun a => a.kind != .conditional then 1 else 0) := by
  unfold conditional
  cases w.node.alternative with
  | none => rfl
  | some a =>
    by_cases h : a.kind = .conditional
    · simp [h, add]
    · simp [h, add, Nat.add_assoc]

theorem Visitor.conditional_scored (v : Visitor) (w : Work) :
    (v.conditional w).1.scored = v.scored := by
  unfold conditional
  cases w.node.alternative with
  | none => rfl
  | some a => by_cases h : a.kind = .conditional <;> simp [h, add]

/-- A visit adds the increment of its place. -/
theorem Visitor.step_total (identity : Option String) {v : Visitor} {p : Place}
    (hv : v.Knows p.above p.node) :
    (v.step identity p.work).1.total = v.total + p.increment identity := by
  have hk : p.work.node = p.node := rfl
  unfold step Place.increment
  rw [hk]
  cases hn : p.node.kind <;> simp only
  case conditional => rw [conditional_total]; rfl
  case logical => rw [logical_total, hv.contains_iff]
  case jump => split <;> rfl
  case call => split <;> rfl
  case branch | select | loop | iteration => rfl
  case branchCase | selectCase | functionLiteral | other => rfl

/-- Only a visit of a logical node marks anything. -/
theorem Visitor.scored_step (identity : Option String) (v : Visitor) {w : Work}
    (hk : w.node.kind ≠ .logical) : (v.step identity w).1.scored = v.scored := by
  unfold step
  cases hn : w.node.kind <;> simp only
  case conditional => rw [conditional_scored]
  case logical => exact absurd hn hk
  case jump => split <;> rfl
  case call => split <;> rfl
  case branch | select | loop | iteration => rfl

/-- A visit marks the expression of a logical node. -/
theorem Visitor.mem_scored_step (identity : Option String) {v : Visitor} {p : Place}
    (hv : v.Knows p.above p.node) (i : Nat) :
    i ∈ (v.step identity p.work).1.scored ↔
      i ∈ v.scored ∨ (p.node.isLogical = true ∧ i ∈ p.node.collectOperators.2) := by
  by_cases hk : p.node.kind = .logical
  · have hs : (v.step identity p.work).1 = v.logical p.node := by
      unfold step
      rw [show p.work.node = p.node from rfl, hk]
    rw [hs, mem_scored_logical, hv.contains_iff, Bool.and_eq_true, Bool.not_eq_true']
    refine ⟨Or.imp_right fun h => ⟨h.1.1, h.2⟩, ?_⟩
    rintro (h | ⟨hl, hi⟩)
    · exact Or.inl h
    -- the node of an expression that goes on has its marks already
    · cases ho : isOperand p.above p.node with
      | false => exact Or.inr ⟨⟨hl, rfl⟩, hi⟩
      | true => exact Or.inl ((hv i (p.node.collected_subset_walk hi)).mpr ⟨ho, hi⟩)
  · rw [scored_step identity v hk]
    have hl : ¬ p.node.isLogical = true := fun h => hk (Node.kind_of_isLogical h)
    simp only [hl, Bool.false_eq_true, false_and, or_false]

/-- What is read of a child's tree is read in the child, if it is an operand. -/
theorem Node.Shaped.mem_collected_child {n c : Node} (h : n.Shaped) (hc : c ∈ n.children) {i : Nat}
    (hi : i ∈ c.walk.map Node.index) :
    i ∈ n.collectOperators.2 ↔ c ∈ n.operands ∧ i ∈ c.collectOperators.2 := by
  rw [mem_collected_iff]
  constructor
  · rintro (rfl | ⟨m, hm, him⟩)
    · exact absurd hi (h.index_notMem hc)
    · have := h.walk_ext (operands_subset hm) hc (collected_subset_walk m him) hi
      exact this ▸ ⟨hm, him⟩
  · exact fun ⟨ho, hi⟩ => Or.inr ⟨c, ho, hi⟩

/-- A visit leaves to each child the marks of the expression that it continues. -/
theorem Visitor.Knows.child (identity : Option String) {v : Visitor} {p : Place}
    (h : p.node.Shaped) (hv : v.Knows p.above p.node) {c : Node} (hc : c ∈ p.node.children) :
    (v.step identity p.work).1.Knows (p.node :: p.above) c := by
  intro i hi
  have hin : i ∈ p.node.walk.map Node.index :=
    ((Node.walk_sublist_of_child hc).map Node.index).subset hi
  have hop : (p.node.operands.map Node.index).contains c.index = true ↔ c ∈ p.node.operands := by
    rw [Node.contains_index_iff, List.mem_map]
    refine ⟨fun ⟨m, hm, hmi⟩ => ?_, fun ho => ⟨c, ho, rfl⟩⟩
    exact h.child_ext (Node.operands_subset hm) hc hmi ▸ hm
  rw [mem_scored_step identity hv, hv i hin, h.mem_collected_child hc hi, isOperand,
    Bool.and_eq_true, Bool.or_eq_true, hop]
  tauto

/-- Marks outside of a node's tree do not matter to it. -/
theorem Visitor.Knows.congr {v v' : Visitor} {above : List Node} {n : Node} (hv : v.Knows above n)
    (h : ∀ i ∈ n.walk.map Node.index, i ∈ v'.scored ↔ i ∈ v.scored) : v'.Knows above n :=
  fun i hi => (h i hi).trans (hv i hi)

/-! ### Runs -/

/-- What a run on a node does: it adds the increments of the places in the tree,
and marks nothing outside of it. -/
def Visitor.Sums (identity : Option String) (above : List Node) (n : Node) : Prop :=
  ∀ v : Visitor, v.Knows above n →
    (v.run identity [Place.work ⟨above, n⟩]).total =
        v.total + ((n.places above).map (Place.increment identity)).sum ∧
      ∀ i ∉ n.walk.map Node.index,
        i ∈ (v.run identity [Place.work ⟨above, n⟩]).scored ↔ i ∈ v.scored

/-- A run on several nodes with nothing in common adds what the runs on each add. -/
theorem Visitor.run_siblings (identity : Option String) (above : List Node) :
    ∀ (cs : List Node) (v : Visitor), (∀ c ∈ cs, Sums identity above c) →
      ((cs.flatMap Node.walk).map Node.index).Nodup → (∀ c ∈ cs, v.Knows above c) →
      (v.run identity (cs.map fun c => Place.work ⟨above, c⟩)).total =
          v.total + ((cs.flatMap fun c => c.places above).map (Place.increment identity)).sum ∧
        ∀ i ∉ (cs.flatMap Node.walk).map Node.index,
          i ∈ (v.run identity (cs.map fun c => Place.work ⟨above, c⟩)).scored ↔ i ∈ v.scored
  | [], v, _, _, _ => by simp [run]
  | c :: cs, v, hs, hd, hv => by
    rw [List.flatMap_cons, List.map_append] at hd
    have hrest := (List.nodup_append'.mp hd).2.1
    have hdis := (List.nodup_append'.mp hd).2.2
    obtain ⟨htotal, hframe⟩ := hs c List.mem_cons_self v (hv c List.mem_cons_self)
    rw [List.map_cons, ← List.singleton_append, run_append]
    set v' := v.run identity [Place.work ⟨above, c⟩] with hv'
    -- the run on the first node leaves the marks of the others alone
    have hknows : ∀ d ∈ cs, v'.Knows above d := fun d hd =>
      (hv d (List.mem_cons_of_mem _ hd)).congr fun i hi => hframe i fun hc =>
        hdis hc (((List.sublist_flatten_of_mem (List.mem_map_of_mem hd)).map Node.index).subset hi)
    obtain ⟨htotals, hframes⟩ := run_siblings identity above cs v'
      (fun d hd => hs d (List.mem_cons_of_mem _ hd)) hrest hknows
    constructor
    · rw [htotals, htotal, List.flatMap_cons, List.map_append, List.sum_append, Nat.add_assoc]
    · intro i hi
      rw [List.flatMap_cons, List.map_append, List.mem_append, not_or] at hi
      exact (hframes i hi.2).trans (hframe i hi.1)

/-- **A run on a node sums up its tree.** -/
theorem Visitor.run_work (identity : Option String) {n : Node} (h : n.Shaped) (above : List Node) :
    Sums identity above n := by
  induction n using Node.induction generalizing above with
  | node n ih _ _ =>
    intro v hv
    have hl : (Place.work ⟨above, n⟩).leaves.map Work.node |>.Perm n.children := h.perm_leaves
    set ms := (Place.work ⟨above, n⟩).leaves.map Work.node with hms
    have hleaves : (Place.work ⟨above, n⟩).leaves =
        ms.map fun c => Place.work ⟨n :: above, c⟩ := by
      rw [hms, List.map_map]
      refine (List.map_id _).symm.trans (List.map_congr_left fun w hw => ?_)
      exact Place.leaves_work (p := ⟨above, n⟩) h hw
    have hmem : ∀ c ∈ ms, c ∈ n.children := fun c hc => hl.subset hc
    have hstep := step_total identity (p := ⟨above, n⟩) hv
    obtain ⟨htotal, hframe⟩ := run_siblings identity (n :: above) ms
      (v.step identity (Place.work ⟨above, n⟩)).1
      (fun c hc => ih c (hmem c hc) (h.child (hmem c hc)) (n :: above))
      (((hl.flatMap_right _).map _).nodup_iff.mpr h.distinct_below)
      (fun c hc => Knows.child identity (p := ⟨above, n⟩) h hv (hmem c hc))
    rw [run_singleton, hleaves, Node.places_eq]
    constructor
    · rw [htotal, hstep, List.map_cons, List.sum_cons, ← Nat.add_assoc,
        (((hl.flatMap_right _).map _).sum_eq)]
    · intro i hi
      have hi' : i ∉ (ms.flatMap Node.walk).map Node.index := by
        intro hm
        refine hi ?_
        rw [Node.walk_eq, List.map_cons]
        exact List.mem_cons_of_mem _ (((hl.flatMap_right _).map _).subset hm)
      rw [hframe i hi', mem_scored_step identity (p := ⟨above, n⟩) hv]
      refine or_iff_left fun h => hi (n.collected_subset_walk h.2)

/-- **The cognitive complexity is the sum of the increments.** The places are
the nodes of the walk with their paths, and each adds what its place tells. -/
theorem cognitive_eq_sum_increment (identity : Option String) {root : Node} (h : root.Shaped) :
    (root.places []).map Place.node = root.walk ∧
      cognitive identity (some root) =
        ((root.places []).map (Place.increment identity)).sum := by
  refine ⟨root.map_node_places [], ?_⟩
  have hknows : Visitor.Knows {} [] root := fun i _ => by simp [isOperand]
  have hrun := (run_work identity h [] {} hknows).1
  rw [Nat.zero_add] at hrun
  exact hrun

/-- The tree of `if a && b {} else { f() }`. -/
def elseCall : Node :=
  let condition := .node { kind := .logical, index := 1, operator := some "&&" }
    [.node { index := 2 } [] [] none, .node { index := 3 } [] [] none] [] none
  let thenBlock := .node { index := 4 } [] [] none
  let elseBlock := .node { index := 5 }
    [.node { kind := .call, index := 6, callee := some "f" } [] [] none] [] none
  .node { kind := .conditional } [condition, thenBlock, elseBlock] [thenBlock] (some elseBlock)

theorem shaped_elseCall : elseCall.Shaped where
  distinct := by decide
  fits := by
    intro n hn
    simp only [elseCall, Node.walk, Node.walkAll, List.append_nil, List.mem_cons, List.mem_append,
      List.not_mem_nil, or_false] at hn
    rcases hn with rfl | (rfl | rfl | rfl) | rfl | rfl | rfl <;>
      constructor <;> simp [Node.body, Node.children, Node.alternative, Node.kind, Node.facts]

/-- A branch, its else and its condition's run count one each, and so does the
call, in the function that it calls. -/
theorem cognitive_elseCall :
    (elseCall.places []).map Place.node = elseCall.walk ∧
      cognitive (some "f") (some elseCall) = 4 := by
  obtain ⟨hwalk, hsum⟩ := cognitive_eq_sum_increment (some "f") shaped_elseCall
  exact ⟨hwalk, hsum.trans (by decide)⟩

end GoComplexity
