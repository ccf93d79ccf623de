/-
# The traversal as a recursion

A traversal keeps its work on a list, but it comes to what a plain recursion comes
to: score a node, then go through its header, its body one level deeper and its
alternative, or through all its children, and hand what has been found from each
to the next.  The reading of a logical expression is such a recursion too.  Both
loops end, since each turn leaves less to do.  Nothing is assumed of the tree:
indexes may repeat, the body and the alternative need not be among the children,
and a logical node may have any number of them.

Key definitions: `Node.marks`, `Tally`, `Node.scoreSelf`, `Node.score`,
`Visitor.turn`, `Node.readingTurn`.
Key theorems: `Node.toFinset_collected`, `Visitor.tally_run`, `Visitor.turns_run`,
`Visitor.visit_eq_score`.
-/
import GoComplexity.Proofs.Expression
import GoComplexity.Proofs.Traversal
import Mathlib.Data.Finset.Lattice.Lemmas
import Mathlib.Logic.Function.Iterate

namespace GoComplexity

/-! ### Expressions -/

namespace Node

mutual

/-- The indexes of the nodes that hold an expression, its operands and groupings
included. -/
def marks : Node → Finset Nat
  | .node f cs b a =>
    insert f.index
      (if (Node.node f cs b a).isLogical then firstMarks cs ∪ lastMarks cs
      else if f.grouping then firstMarks cs
      else ∅)

/-- The marks of the first node of a list. -/
def firstMarks : List Node → Finset Nat
  | [] => ∅
  | n :: _ => marks n

/-- The marks of the last node of a list. -/
def lastMarks : List Node → Finset Nat
  | [] => ∅
  | [n] => marks n
  | _ :: n :: ns => lastMarks (n :: ns)

end

theorem mem_firstMarks (i : Nat) (ns : List Node) :
    i ∈ firstMarks ns ↔ ∃ m ∈ ns.head?.toList, i ∈ m.marks := by
  cases ns <;> simp [firstMarks]

theorem mem_lastMarks (i : Nat) : ∀ ns : List Node,
    i ∈ lastMarks ns ↔ ∃ m ∈ ns.getLast?.toList, i ∈ m.marks
  | [] => by simp [lastMarks]
  | [n] => by simp [lastMarks]
  | _ :: n :: ns => by rw [lastMarks, mem_lastMarks i (n :: ns), List.getLast?_cons_cons]

/-- An expression is held by its root and by what holds the operands of the root. -/
theorem mem_marks_iff (n : Node) (i : Nat) :
    i ∈ n.marks ↔ i = n.index ∨ ∃ m ∈ n.operands, i ∈ m.marks := by
  cases n with
  | node f cs b a =>
    rw [marks, Finset.mem_insert]
    refine or_congr_right ?_
    unfold operands
    cases (Node.node f cs b a).isLogical with
    | true =>
      simp only [↓reduceIte, Finset.mem_union, mem_firstMarks, mem_lastMarks, List.mem_append,
        or_and_right, exists_or]
      rfl
    | false =>
      show i ∈ (if f.grouping = true then firstMarks cs else ∅) ↔
        ∃ m ∈ (if f.grouping = true then cs.head?.toList else []), i ∈ m.marks
      cases f.grouping with
      | true => exact mem_firstMarks i cs
      | false => simp

/-- **The reading marks the nodes that hold the expression.** -/
theorem toFinset_collected (n : Node) : n.collectOperators.2.toFinset = n.marks := by
  ext i
  rw [List.mem_toFinset]
  induction n using Node.induction with
  | node n ih _ _ =>
    rw [mem_collected_iff, mem_marks_iff]
    refine or_congr_right (exists_congr fun m => and_congr_right fun hm => ?_)
    exact ih m (operands_subset hm)

/-! ### The turns of a reading -/

/-- A reading under way: the operators found, the indexes of the nodes read, and the
items still to be read. -/
abbrev Reading := List String × List Nat × List Item

/-- One turn of a reading: an operator is noted, or a node is marked and its parts
are to be read before the rest. -/
def readingTurn : Reading → Reading
  | (operators, indexes, []) => (operators, indexes, [])
  | (operators, indexes, .operator o :: rest) => (operators ++ [o], indexes, rest)
  | (operators, indexes, .node n :: rest) => (operators, indexes ++ [n.index], n.parts ++ rest)

/-- A reading ends with what is collected from its items. -/
theorem turns_collectFrom (items : List Item) (operators : List String) (indexes : List Nat) :
    ∃ k ≤ itemsReach items, readingTurn^[k] (operators, indexes, items) =
      (operators ++ (collectFrom items).1, indexes ++ (collectFrom items).2, []) := by
  induction items using collectFrom.induct generalizing operators indexes with
  | case1 => exact ⟨0, Nat.zero_le _, by simp [collectFrom]⟩
  | case2 o rest _ _ _ ih =>
    obtain ⟨k, hk, hturns⟩ := ih (operators ++ [o]) indexes
    refine ⟨k + 1, by simp only [itemsReach, Item.reach]; omega, ?_⟩
    rw [Function.iterate_succ_apply, readingTurn, hturns, collectFrom_operator,
      List.append_assoc, List.singleton_append]
  | case3 n rest _ _ _ ih =>
    obtain ⟨k, hk, hturns⟩ := ih operators (indexes ++ [n.index])
    have hparts := n.parts_reach_lt
    rw [itemsReach_append] at hk
    refine ⟨k + 1, by simp only [itemsReach, Item.reach]; omega, ?_⟩
    rw [Function.iterate_succ_apply, readingTurn, hturns, collectFrom_node, List.append_assoc,
      List.singleton_append]

/-- **A reading ends**, with the operators in source order and all nodes it read marked. -/
theorem turns_collectOperators (n : Node) :
    ∃ k ≤ n.reach,
      readingTurn^[k] ([], [], [.node n]) = (n.operators, n.collectOperators.2, []) := by
  obtain ⟨k, hk, hturns⟩ := turns_collectFrom [.node n] [] []
  refine ⟨k, hk, ?_⟩
  rw [hturns, List.nil_append, List.nil_append, ← collectOperators_fst]
  rfl

end Node

/-! ### The recursion -/

/-- What a recursion has found: the sum so far and the indexes of the nodes whose
expression is scored. -/
structure Tally where
  total : Nat := 0
  scored : Finset Nat := ∅
deriving DecidableEq

def Tally.add (t : Tally) (k : Nat) : Tally := { t with total := t.total + k }

namespace Node

variable (identity : Option String)

/-- What a node adds by itself, at a level and as an else-if or not. -/
def scoreSelf (n : Node) (nesting : Nat) (isElse : Bool) (t : Tally) : Tally :=
  match n.kind with
  | .conditional =>
    (t.add (if isElse then 1 else nesting + 1)).add
      (if n.alternative.any fun a => a.kind != .conditional then 1 else 0)
  | .branch | .select | .loop | .iteration => t.add (nesting + 1)
  | .jump => if n.label.getD "" = "" then t else t.add 1
  | .logical =>
    if n.isLogical = true ∧ n.index ∉ t.scored then
      ⟨t.total + (runs n.operators).length, n.marks ∪ t.scored⟩
    else t
  | .call => if identity.isSome && n.callee == identity then t.add 1 else t
  | .functionLiteral | .branchCase | .selectCase | .other => t

mutual

/-- What is found in a tree: in its root, and then in the header, the body and, of a
conditional, the alternative, or else in all the children, each with what was found before. -/
def score : Node → Nat → Bool → Tally → Tally
  | .node f cs b a, nesting, isElse, t =>
    let n := Node.node f cs b a
    let t := n.scoreSelf identity nesting isElse t
    match f.kind with
    | .conditional =>
      scoreElse a nesting (scoreAll b (nesting + 1) (scoreHeader n.nestedIndexes cs nesting t))
    | .branch | .select | .loop | .iteration | .functionLiteral =>
      scoreAll b (nesting + 1) (scoreHeader n.nestedIndexes cs nesting t)
    | _ => scoreAll cs nesting t

/-- What is found in the trees of a list, one after the other. -/
def scoreAll : List Node → Nat → Tally → Tally
  | [], _, t => t
  | n :: ns, nesting, t => scoreAll ns nesting (score n nesting false t)

/-- What is found in the trees of a list without those of some indexes. -/
def scoreHeader (nested : List Nat) : List Node → Nat → Tally → Tally
  | [], _, t => t
  | n :: ns, nesting, t =>
    scoreHeader nested ns nesting
      (if nested.contains n.index then t else score n nesting false t)

/-- What is found in an alternative: an else-if keeps the level. -/
def scoreElse : Option Node → Nat → Tally → Tally
  | none, _, t => t
  | some a, nesting, t =>
    if a.kind = .conditional then score a nesting true t else score a (nesting + 1) false t

end

theorem scoreHeader_eq (nested : List Nat) : ∀ (ns : List Node) (nesting : Nat) (t : Tally),
    scoreHeader identity nested ns nesting t =
      scoreAll identity (ns.filter fun c => !nested.contains c.index) nesting t
  | [], _, _ => rfl
  | n :: ns, nesting, t => by
    rw [scoreHeader, scoreHeader_eq nested ns, List.filter_cons]
    cases nested.contains n.index <;> rfl

/-- The recursion, told by the kind of the root. -/
theorem score_eq (n : Node) (nesting : Nat) (isElse : Bool) (t : Tally) :
    n.score identity nesting isElse t =
      let t := n.scoreSelf identity nesting isElse t
      match n.kind with
      | .conditional =>
        scoreElse identity n.alternative nesting
          (scoreAll identity n.body (nesting + 1) (scoreAll identity n.header nesting t))
      | .branch | .select | .loop | .iteration | .functionLiteral =>
        scoreAll identity n.body (nesting + 1) (scoreAll identity n.header nesting t)
      | _ => scoreAll identity n.children nesting t := by
  cases n with
  | node f cs b a =>
    rw [score]
    simp only [scoreHeader_eq]
    rfl

end Node

namespace Visitor

/-- What a visitor has found. -/
def tally (v : Visitor) : Tally := ⟨v.total, v.scored.toFinset⟩

theorem tally_add (v : Visitor) (k : Nat) : (v.add k).tally = v.tally.add k := rfl

theorem tally_conditional (v : Visitor) (w : Work) :
    (v.conditional w).1.tally = (v.tally.add (if w.isElse then 1 else w.nesting + 1)).add
      (if w.node.alternative.any fun a => a.kind != .conditional then 1 else 0) := by
  unfold conditional
  cases w.node.alternative with
  | none => rfl
  | some a => by_cases h : a.kind = .conditional <;> simp [h, tally_add, Tally.add]

theorem tally_logical (v : Visitor) (n : Node) :
    (v.logical n).tally =
      if n.isLogical = true ∧ n.index ∉ v.tally.scored then
        ⟨v.total + (runs n.operators).length, n.marks ∪ v.tally.scored⟩
      else v.tally := by
  have hscored : (n.isLogical && !v.scored.contains n.index) = true ↔
      n.isLogical = true ∧ n.index ∉ v.tally.scored := by
    rw [Bool.and_eq_true, Bool.not_eq_true', ← Bool.not_eq_true, List.contains_iff_mem, tally,
      List.mem_toFinset]
  unfold logical
  rw [apply_ite tally, if_congr hscored rfl rfl]
  refine if_congr Iff.rfl ?_ rfl
  rw [← countRuns_eq, ← Node.collectOperators_fst, ← Node.toFinset_collected]
  exact congrArg (Tally.mk _) List.toFinset_append

variable (identity : Option String)

/-- A visit finds what the node adds by itself. -/
theorem tally_step (v : Visitor) (w : Work) :
    (v.step identity w).1.tally = w.node.scoreSelf identity w.nesting w.isElse v.tally := by
  unfold step Node.scoreSelf
  cases w.node.kind <;> simp only
  case conditional => exact tally_conditional v w
  case logical => exact tally_logical v w.node
  case jump => split <;> rfl
  case call => split <;> rfl
  case branch | select | loop | iteration => rfl

/-- A run on nodes at one level, if the runs on each are known. -/
theorem tally_run_works {nesting : Nat} : ∀ (ns : List Node) (v : Visitor),
    (∀ n ∈ ns, ∀ v : Visitor, (v.run identity [⟨n, nesting, false⟩]).tally =
      n.score identity nesting false v.tally) →
    (v.run identity (works ns nesting)).tally = Node.scoreAll identity ns nesting v.tally
  | [], v, _ => by rw [works, List.map_nil, run, Node.scoreAll]
  | n :: ns, v, h => by
    have hns := tally_run_works ns (v.run identity [⟨n, nesting, false⟩]) fun m hm =>
      h m (List.mem_cons_of_mem _ hm)
    rw [works, List.map_cons, ← List.singleton_append, run_append, Node.scoreAll,
      ← h n List.mem_cons_self v]
    exact hns

/-- **A run on a node finds what the recursion finds**, whatever was found before. -/
theorem tally_run (n : Node) (nesting : Nat) (isElse : Bool) (v : Visitor) :
    (v.run identity [⟨n, nesting, isElse⟩]).tally = n.score identity nesting isElse v.tally := by
  induction n using Node.induction generalizing nesting isElse v with
  | node n ihchildren ihbody ihalternative =>
    have hchildren := fun v' => tally_run_works identity n.children v' fun c hc v'' =>
      ihchildren c hc nesting false v''
    have hnested : ∀ v' : Visitor, (v'.run identity (nestedWorks n nesting)).tally =
        Node.scoreAll identity n.body (nesting + 1)
          (Node.scoreAll identity n.header nesting v'.tally) := by
      intro v'
      rw [nestedWorks, run_append, tally_run_works identity n.body _ fun c hc v'' =>
        ihbody c hc (nesting + 1) false v'', tally_run_works identity n.header _ fun c hc v'' =>
        ihchildren c (List.mem_of_mem_filter hc) nesting false v'']
    have helse : ∀ v' : Visitor, (v'.run identity (Work.elseWork ⟨n, nesting, isElse⟩)).tally =
        Node.scoreElse identity n.alternative nesting v'.tally := by
      intro v'
      unfold Work.elseWork
      cases ha : n.alternative with
      | none => rw [run, Node.scoreElse]
      | some a =>
        rw [Node.scoreElse]
        dsimp only
        split
        · exact ihalternative a ha nesting true v'
        · exact ihalternative a ha (nesting + 1) false v'
    rw [run_singleton, Node.score_eq, ← tally_step identity v ⟨n, nesting, isElse⟩]
    unfold Work.leaves
    cases n.kind <;> simp only
    case conditional => rw [run_append, helse, hnested]
    case branch | select | loop | iteration | functionLiteral => exact hnested _
    case branchCase | selectCase | jump | logical | call | other => exact hchildren _

/-! ### The turns of a traversal -/

/-- One turn of a traversal: the first piece of work is done, and what it leaves is
to be done before the rest. -/
def turn : Visitor × List Work → Visitor × List Work
  | (v, []) => (v, [])
  | (v, w :: ws) => ((v.step identity w).1, (v.step identity w).2 ++ ws)

/-- A traversal ends with what a run comes to. -/
theorem turns_run (v : Visitor) (ws : List Work) :
    ∃ k ≤ load ws, (turn identity)^[k] (v, ws) = (v.run identity ws, []) := by
  induction v, ws using run.induct identity with
  | case1 v => exact ⟨0, Nat.zero_le _, by rw [run]; rfl⟩
  | case2 v w ws next ih =>
    obtain ⟨k, hk, hturns⟩ := ih
    have hload := load_step_lt identity v w
    have hk : k ≤ load (v.step identity w).2 + load ws := hk.trans_eq (load_append _ _)
    refine ⟨k + 1, by rw [load_cons]; omega, ?_⟩
    rw [Function.iterate_succ_apply, run]
    exact hturns

/-- **The loops come to what the recursions come to.** A traversal ends, whatever the
tree, and has then found what the recursion finds after what was found before.  The
reading of a logical expression ends as well, with the operators of the first child,
the operator of the node and those of the last child, and with every node that it has
read marked. -/
theorem visit_eq_score (v : Visitor) (n : Node) :
    (∃ k ≤ n.weight, (turn identity)^[k] (v, [⟨n, 0, false⟩]) = (v.visit identity n, [])) ∧
      (v.visit identity n).tally = n.score identity 0 false v.tally ∧
      ∀ m : Node,
        (∃ k ≤ m.reach, Node.readingTurn^[k] ([], [], [.node m]) =
          (m.collectOperators.1, m.collectOperators.2, [])) ∧
        m.collectOperators.1 = m.operators ∧ m.collectOperators.2.toFinset = m.marks := by
  refine ⟨turns_run identity v [⟨n, 0, false⟩], tally_run identity n 0 false v, fun m => ?_⟩
  refine ⟨?_, m.collectOperators_fst, m.toFinset_collected⟩
  rw [m.collectOperators_fst]
  exact m.turns_collectOperators

/-- An expression whose index has been marked is not scored, though it is another one. -/
example :
    let n := Node.node { kind := .logical, index := 1, operator := some "&&" }
      [.node { index := 2 } [] [] none] [] none
    ((Node.node {} [n, n] [] none).score none 0 false {}).total = 1 := by decide

end Visitor

end GoComplexity
