/-
# Levels

A traversal that starts on a deeper level makes the same visits, each of them so many
levels deeper.  It marks the same indexes and counts more at the visits alone that
count their level: at loops, branches and selects, and at conditionals that are no
else-if.  What an else-if and an else count stays the same.  So the score of a tree
grows in step with its level, and the number of those visits is the slope.  Nothing is
assumed of the tree.

A node around a tree shifts its level by one.  A function literal adds nothing else; a
loop, a branch, a select and a conditional without an else add one.

Key definitions: `Work.deepen`, `Work.countsLevel`, `Node.slope`, `Node.within`.
Key theorems: `visits_deepen`, `Visitor.step_deepen`, `Visitor.run_deepen`,
`Node.run_level`, `cognitive_within`.
-/
import GoComplexity.Proofs.Increment

namespace GoComplexity

open Visitor

/-! ### Deeper visits -/

/-- The same visit so many levels deeper. -/
def Work.deepen (d : Nat) (w : Work) : Work := { w with nesting := w.nesting + d }

/-- Whether a visit counts its level. -/
def Work.countsLevel (w : Work) : Bool :=
  match w.node.kind with
  | .loop | .iteration | .branch | .select => true
  | .conditional => !w.isElse
  | _ => false

variable (d : Nat)

theorem works_deepen (ns : List Node) (nesting : Nat) :
    works ns (nesting + d) = (works ns nesting).map (Work.deepen d) := by
  rw [works, works, List.map_map]
  rfl

theorem nestedWorks_deepen (n : Node) (nesting : Nat) :
    nestedWorks n (nesting + d) = (nestedWorks n nesting).map (Work.deepen d) := by
  rw [nestedWorks, nestedWorks, List.map_append, ← works_deepen, ← works_deepen,
    Nat.add_right_comm]

theorem Work.elseWork_deepen (w : Work) :
    (w.deepen d).elseWork = w.elseWork.map (Work.deepen d) := by
  have halternative : (w.deepen d).node.alternative = w.node.alternative := rfl
  unfold elseWork
  rw [halternative]
  cases w.node.alternative with
  | none => rfl
  | some a =>
    by_cases h : a.kind = .conditional
    · simp only [if_pos h]
      rfl
    · simp only [if_neg h]
      exact congrArg (fun k => [Work.mk a k false]) (Nat.add_right_comm _ _ _)

/-- A deeper visit leaves the same work, deeper. -/
theorem Work.leaves_deepen (w : Work) : (w.deepen d).leaves = w.leaves.map (Work.deepen d) := by
  have hkind : (w.deepen d).node.kind = w.node.kind := rfl
  unfold leaves
  rw [hkind]
  cases w.node.kind <;> simp only
  case conditional =>
    rw [List.map_append, ← elseWork_deepen, ← nestedWorks_deepen]
    rfl
  case branch | select | loop | iteration | functionLiteral => exact nestedWorks_deepen d _ _
  case branchCase | selectCase | jump | logical | call | other => exact works_deepen d _ _

/-- **The visits on a deeper level** are the same, deeper. -/
theorem visits_deepen (ws : List Work) :
    visits (ws.map (Work.deepen d)) = (visits ws).map (Work.deepen d) := by
  induction ws using visits.induct with
  | case1 => rw [List.map_nil, visits, List.map_nil]
  | case2 w ws ih =>
    rw [List.map_cons, visits_cons, visits_cons, List.map_cons, Work.leaves_deepen,
      ← List.map_append, ih]

namespace Visitor

variable (identity : Option String)

/-- **A deeper visit** marks the same and counts more only if it counts its level. -/
theorem step_deepen (v : Visitor) (w : Work) :
    (v.step identity (w.deepen d)).1 =
      (v.step identity w).1.add (if w.countsLevel then d else 0) := by
  have hkind : (w.deepen d).node.kind = w.node.kind := rfl
  have hlevel : v.add (w.nesting + d + 1) = (v.add (w.nesting + 1)).add d := by
    rw [add_add, Nat.add_right_comm]
  unfold step Work.countsLevel
  rw [hkind]
  cases w.node.kind <;> simp only
  case conditional =>
    have hself : v.add (if w.isElse then 1 else w.nesting + d + 1) =
        (v.add (if w.isElse then 1 else w.nesting + 1)).add (if !w.isElse then d else 0) := by
      cases w.isElse with
      | true => rfl
      | false => exact hlevel
    have halternative : (w.deepen d).node.alternative = w.node.alternative := rfl
    unfold conditional
    rw [halternative]
    cases w.node.alternative with
    | none => exact hself
    | some a =>
      by_cases h : a.kind = .conditional
      · simp only [if_pos h]
        exact hself
      · simp only [if_neg h]
        exact (congrArg (Visitor.add · 1) hself).trans (Visitor.add_right_comm _ _ _)
  case branch | select | loop | iteration => exact hlevel
  case logical | jump | call | functionLiteral | branchCase | selectCase | other => rfl

/-- **A run on a deeper level** counts the levels more at the visits that count them,
and is the same otherwise. -/
theorem run_deepen (v : Visitor) (ws : List Work) :
    v.run identity (ws.map (Work.deepen d)) =
      (v.run identity ws).add (d * (visits ws).countP Work.countsLevel) := by
  rw [run_eq_foldl_visits, visits_deepen, List.foldl_map, run_eq_foldl_visits]
  exact foldl_step_more identity (fun v w => step_deepen d identity v w) (visits ws) v

end Visitor

/-! ### Nodes around a tree -/

namespace Node

/-- The number of visits to a tree that count their level. -/
def slope (n : Node) : Nat := (visits [⟨n, 0, false⟩]).countP Work.countsLevel

theorem deepen_start (n : Node) (d : Nat) :
    [(⟨n, d, false⟩ : Work)] = [(⟨n, 0, false⟩ : Work)].map (Work.deepen d) :=
  congrArg (fun k => [Work.mk n k false]) (Nat.zero_add d).symm

theorem visits_level (n : Node) (d : Nat) :
    visits [⟨n, d, false⟩] = (visits [⟨n, 0, false⟩]).map (Work.deepen d) := by
  rw [deepen_start, visits_deepen]

/-- A run on a tree counts its slope for each level on which it starts. -/
theorem run_level (n : Node) (identity : Option String) (d : Nat) (v : Visitor) :
    v.run identity [⟨n, d, false⟩] = (v.run identity [⟨n, 0, false⟩]).add (d * n.slope) := by
  rw [deepen_start, run_deepen]
  rfl

/-- A node with a tree as its only child, which is its body. -/
def within (f : Facts) (n : Node) : Node := .node f [n] [n] none

variable {f : Facts} (n : Node)

theorem header_within : (n.within f).header = [] :=
  List.filter_eq_nil_iff.mpr fun c hc => by
    rw [List.mem_singleton.mp hc]
    simp [nestedIndexes, within, body]

/-- A visit of a node around a tree leaves the visit of the tree, a level deeper. -/
theorem leaves_within (hf : f.kind.nests = true) (nesting : Nat) (isElse : Bool) :
    Work.leaves ⟨n.within f, nesting, isElse⟩ = [⟨n, nesting + 1, false⟩] := by
  have hnested : nestedWorks (n.within f) nesting = [⟨n, nesting + 1, false⟩] := by
    rw [nestedWorks, header_within]
    rfl
  have helse : Work.elseWork ⟨n.within f, nesting, isElse⟩ = [] := rfl
  have hkind : (n.within f).kind = f.kind := rfl
  unfold Work.leaves
  dsimp only
  rw [hkind]
  cases hk : f.kind <;> simp only
  case conditional => rw [hnested, helse, List.append_nil]
  case branch | select | loop | iteration | functionLiteral => exact hnested
  case branchCase | selectCase | jump | logical | call | other =>
    rw [hk] at hf
    exact absurd hf (by decide)

variable (identity : Option String) (v : Visitor)

/-- A run on function literals around a tree is one on the tree, as many levels deeper. -/
theorem run_foldr_within : ∀ (fs : List Facts) (nesting : Nat),
    (∀ f ∈ fs, f.kind = .functionLiteral) →
    v.run identity [⟨fs.foldr within n, nesting, false⟩] =
      v.run identity [⟨n, nesting + fs.length, false⟩]
  | [], _, _ => rfl
  | f :: fs, nesting, h => by
    have hf : f.kind = .functionLiteral := h f List.mem_cons_self
    have hkind : (within f (fs.foldr within n)).kind = .functionLiteral := hf
    have hself : (v.step identity ⟨within f (fs.foldr within n), nesting, false⟩).1 = v := by
      unfold step
      dsimp only
      rw [hkind]
    rw [List.foldr_cons, run_singleton, hself, leaves_within _ (by rw [hf]; rfl),
      run_foldr_within fs (nesting + 1) fun g hg => h g (List.mem_cons_of_mem _ hg),
      List.length_cons, Nat.add_right_comm, Nat.add_assoc]

/-- A run on another node around a tree counts that node and then the tree, a level deeper. -/
theorem run_within (hf : f.kind.nests = true) (hne : f.kind ≠ .functionLiteral) (nesting : Nat) :
    v.run identity [⟨n.within f, nesting, false⟩] =
      (v.add (nesting + 1)).run identity [⟨n, nesting + 1, false⟩] := by
  have hkind : (n.within f).kind = f.kind := rfl
  have hself : (v.step identity ⟨n.within f, nesting, false⟩).1 = v.add (nesting + 1) := by
    unfold step
    dsimp only
    rw [hkind]
    cases hk : f.kind <;> simp only
    case conditional => rfl
    case functionLiteral => exact absurd hk hne
    case branchCase | selectCase | jump | logical | call | other =>
      rw [hk] at hf
      exact absurd hf (by decide)
  rw [run_singleton, hself, leaves_within n hf]

end Node

/-- **The score of a tree grows in step with its level.** The slope is a number of visits
of the traversal of the tree.  Each function literal around the tree adds the slope; a loop,
a branch, a select or a conditional without an else adds one more.  On a deeper level a
traversal makes the same visits, deeper; each counts the levels more if it counts its level,
and no more than before if not; and all in all it marks the same and counts the slope more
for each level. -/
theorem cognitive_within (identity : Option String) (n : Node) :
    (∀ v : Visitor, v.visit identity n =
      (visits [⟨n, 0, false⟩]).foldl (fun v w => (v.step identity w).1) v) ∧
    (∀ fs : List Facts, (∀ f ∈ fs, f.kind = .functionLiteral) →
      cognitive identity (some (fs.foldr Node.within n)) =
        cognitive identity (some n) + fs.length * n.slope) ∧
    (∀ f : Facts, f.kind ∈ [.loop, .iteration, .branch, .select, .conditional] →
      cognitive identity (some (n.within f)) = 1 + cognitive identity (some n) + n.slope) ∧
    ∀ d : Nat,
      visits [⟨n, d, false⟩] = (visits [⟨n, 0, false⟩]).map (Work.deepen d) ∧
      (∀ v w, (Visitor.step identity v (w.deepen d)).1 =
        (v.step identity w).1.add (if w.countsLevel then d else 0)) ∧
      ∀ v : Visitor, v.run identity [⟨n, d, false⟩] =
        (v.run identity [⟨n, 0, false⟩]).add (d * n.slope) := by
  refine ⟨fun v => run_eq_foldl_visits identity v _, fun fs hfs => ?_, fun f hf => ?_,
    fun d => ⟨n.visits_level d, step_deepen d identity, n.run_level identity d⟩⟩
  · have hall := Node.run_foldr_within n identity {} fs 0 hfs
    rw [Nat.zero_add, n.run_level identity fs.length] at hall
    exact congrArg Visitor.total hall
  · have hnests : f.kind.nests = true ∧ f.kind ≠ .functionLiteral := by
      revert hf
      cases f.kind <;> decide
    have hself := Node.run_within n identity {} hnests.1 hnests.2 0
    rw [n.run_level identity (0 + 1), Nat.one_mul, Visitor.run_add] at hself
    have htotal : cognitive identity (some (n.within f)) =
        cognitive identity (some n) + (0 + 1) + n.slope := congrArg Visitor.total hself
    rw [htotal, Nat.zero_add, Nat.add_comm 1]

/-- The tree of `if a {} else if b { for {} }`. -/
def elseIfLoop : Node :=
  let thenBlock := .node { index := 2 } [] [] none
  let loopBlock := .node { index := 5 } [.node { kind := .loop, index := 6 } [] [] none] [] none
  let elseIf := .node { kind := .conditional, index := 3 }
    [.node { index := 4 } [] [] none, loopBlock] [loopBlock] none
  .node { kind := .conditional } [.node { index := 1 } [] [] none, thenBlock, elseIf] [thenBlock]
    (some elseIf)

/-- Two function literals add two each for the `if` and for the loop, and nothing for the
`else if`; a loop around all adds one more than either of them. -/
theorem cognitive_within_elseIfLoop :
    (∀ f ∈ [({ kind := .functionLiteral } : Facts), { kind := .functionLiteral, index := 3 }],
      f.kind = .functionLiteral) ∧
    cognitive none (some ([{ kind := .functionLiteral },
      { kind := .functionLiteral, index := 3 }].foldr Node.within elseIfLoop)) = 8 ∧
    NodeKind.loop ∈ [NodeKind.loop, .iteration, .branch, .select, .conditional] ∧
    cognitive none (some (elseIfLoop.within { kind := .loop })) = 7 := by
  obtain ⟨-, hliterals, haround, -⟩ := cognitive_within none elseIfLoop
  have hcognitive : cognitive none (some elseIfLoop) = 4 := by decide +kernel
  have hslope : elseIfLoop.slope = 2 := by decide +kernel
  have hkinds : ∀ f ∈ [({ kind := .functionLiteral } : Facts),
      { kind := .functionLiteral, index := 3 }], f.kind = .functionLiteral := by decide
  have hkind : NodeKind.loop ∈ [NodeKind.loop, .iteration, .branch, .select, .conditional] := by
    decide
  refine ⟨hkinds, ?_, hkind, ?_⟩
  · rw [hliterals _ hkinds, hcognitive, hslope]
    rfl
  · rw [haround { kind := .loop } hkind, hcognitive, hslope]

end GoComplexity
